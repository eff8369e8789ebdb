import BibEdit.Proofs.Session.Replace

set_option autoImplicit false

/-! What sessions print. Changes that were worked out for a record can always be shown. -/

namespace BibEdit

section Desks

variable [Console.Styling]

def Desk.printed (desk : Desk) (texts : List (List Char)) : Desk :=
  { desk with terminal := texts.foldl Console.Terminal.print desk.terminal }

namespace Desk

variable (desk : Desk) (texts : List (List Char))

theorem printed_append (more : List (List Char)) :
    desk.printed (texts ++ more) = (desk.printed texts).printed more := by
  simp [printed]

@[simp] theorem typed_printed : (desk.printed texts).terminal.typed = desk.terminal.typed := by
  induction texts generalizing desk with
  | nil => rfl
  | cons text rest ih => exact ih (desk.printed [text])

@[simp] theorem output_printed : (desk.printed texts).terminal.output =
    desk.terminal.output ++ texts.flatMap desk.terminal.shown := by
  induction texts generalizing desk with
  | nil => simp [printed]
  | cons text rest ih =>
    have later := ih (desk.printed [text])
    rw [← printed_append] at later
    rw [List.flatMap_cons, ← List.append_assoc, ← Console.Terminal.output_print]
    exact later

theorem output_prefix_printed : desk.terminal.output <+: (desk.printed texts).terminal.output :=
  ⟨_, (desk.output_printed texts).symm⟩

end Desk

end Desks

namespace Session

theorem shownValue_snapshot (field : String) (part : NamePart)
    (parsed : Field.parse field = .creator part) (creators : List Creator) :
    ∃ text, shownValue field (Snapshot.write creators) = .ok text := by
  rw [shownValue, parsed, Snapshot.read_write]
  exact ⟨_, rfl⟩

theorem shownValue_scalar (field name : String) (parsed : Field.parse field = .scalar name)
    (value : String) : ∃ text, shownValue field value = .ok text := by
  rw [shownValue, parsed]
  exact ⟨_, rfl⟩

theorem plans_eq_ok (revision : Revision) (fields : List String)
    (found : List (Search.Found Record)) (planned : List Plan)
    (made : plans revision fields found = .ok planned) (plan : Plan) (member : plan ∈ planned) :
    plan.changes ≠ [] /\
      revision.preview plan.record.readable fields = .ok plan.changes := by
  obtain ⟨all, each, rfl⟩ := map_eq_ok.1 made
  obtain ⟨among, changed⟩ := List.mem_filter.1 member
  obtain ⟨one, _, done⟩ := forall₂_mem_right _ _ (mapM_eq_ok.1 each) plan among
  obtain ⟨changes, previewed, rfl⟩ := map_eq_ok.1 done
  exact ⟨by simpa using changed, previewed⟩

variable [Console.Prompting]

/-- The session prints these texts, and does nothing else. -/
def Prints (session : Session Unit) (texts : List (List Char)) : Prop :=
  ∀ desk, session.work desk = (.ok (), desk.printed texts)

theorem prints_pure : Prints (pure ()) [] := fun _ => rfl

theorem prints_print (text : List Char) : Prints (print text) [text] := fun _ => rfl

theorem prints_styledLine (style : Console.Style) (text : List Char) :
    Prints (styledLine style text) [style.paint text ++ ['\n']] := prints_print _

theorem Prints.bind {first second : Session Unit} {texts more : List (List Char)}
    (here : Prints first texts) (later : Prints second more) :
    Prints (first >>= fun _ => second) (texts ++ more) := by
  intro desk
  rw [work_bind, here desk, Desk.printed_append]
  exact later _

theorem prints_forM {α : Type} (each : α -> Session Unit) (texts : α -> List (List Char))
    (items : List α) (one : ∀ item ∈ items, Prints (each item) (texts item)) :
    Prints (items.forM each) (items.flatMap texts) := by
  induction items with
  | nil => exact prints_pure
  | cons item rest ih =>
    rw [List.flatMap_cons]
    exact (one item (by simp)).bind (ih fun other member => one other (by simp [member]))

theorem Prints.ite (condition : Prop) [Decidable condition] {first second : Session Unit}
    {texts others : List (List Char)} (thenTexts : Prints first texts)
    (elseTexts : Prints second others) :
    Prints (if condition then first else second) (if condition then texts else others) := by
  split
  next => exact thenTexts
  next => exact elseTexts

theorem exists_prints_report (records : List Record) (result : Revision.BatchResult) :
    ∃ texts, Prints (report records result) texts := by
  have failures := Prints.ite ((!result.errors.isEmpty) = true)
    ((prints_styledLine { color := some .red } (chars "Failed to modify " ++
      numberText result.errors.length ++ chars " records:")).bind
        (prints_forM _ _ result.errors fun error _ =>
          prints_styledLine { color := some .red } (errorLine records error))) prints_pure
  exact ⟨_, (prints_print _).bind ((prints_print _).bind
    (.ite _ ((prints_styledLine _ _).bind failures) failures))⟩

def valueText (field snapshot : String) : List Char :=
  (shownValue field snapshot).toOption.getD []

def changeTexts (change : Change) : List (List Char) := [
  fieldLabel change.field,
  Console.Style.paint { color := some .red } (valueText change.field change.before),
  chars " -> ",
  Console.Style.paint { color := some .green, bold := true }
    (valueText change.field change.after) ++ ['\n']]

def planTexts (plan : Plan) : List (List Char) :=
  [Console.Style.paint { underline := true } (chars plan.record.key) ++ ['\n']] ++
    plan.changes.flatMap changeTexts

theorem prints_showChange (change : Change) (before after : List Char)
    (old : shownValue change.field change.before = .ok before)
    (new : shownValue change.field change.after = .ok after) :
    Prints (showChange change) (changeTexts change) := by
  unfold showChange changeTexts valueText ofFault
  rw [old, new]
  exact fun _ => rfl

theorem prints_change (revision : Revision) (source : Readable) (field : String) (change : Change)
    (previewed : revision.previewField source field = .ok (some change)) :
    Prints (showChange change) (changeTexts change) := by
  have named := Revision.previewField_field revision source field change previewed
  unfold Revision.previewField at previewed
  split at previewed
  next part parsed =>
    rw [← named] at parsed
    obtain ⟨revised, _, made⟩ := bind_eq_ok.1 previewed
    dsimp only at made
    split at made
    next => cases made
    next =>
      cases made
      obtain ⟨before, old⟩ := shownValue_snapshot _ part parsed source.record.creators
      obtain ⟨after, new⟩ := shownValue_snapshot _ part parsed (revised.map Prod.fst)
      exact prints_showChange _ before after old new
  next name parsed =>
    rw [← named] at parsed
    obtain ⟨before, old⟩ := shownValue_scalar _ name parsed change.before
    obtain ⟨after, new⟩ := shownValue_scalar _ name parsed change.after
    exact prints_showChange change before after old new
  next => cases previewed

theorem prints_plans (revision : Revision) (fields : List String)
    (found : List (Search.Found Record)) (planned : List Plan)
    (made : plans revision fields found = .ok planned) :
    Prints (planned.forM showPlan) (planned.flatMap planTexts) := by
  apply prints_forM
  intro plan member
  obtain ⟨_, previewed⟩ := plans_eq_ok revision fields found planned made plan member
  apply (prints_styledLine _ _).bind
  apply prints_forM
  intro change listed
  obtain ⟨sublist, outcomes⟩ := Revision.preview_eq_ok _ _ _ _ previewed
  obtain ⟨outcome, here, is⟩ :=
    outcomes change.field (sublist.subset (List.mem_map_of_mem listed))
  rw [(is change).2 ⟨listed, rfl⟩] at here
  exact prints_change revision plan.record.readable change.field change here

end Session

end BibEdit
