import BibEdit.Proofs.Pattern.Test
import BibEdit.Search

set_option autoImplicit false

/-! Conditions with valid patterns can be evaluated on every record. -/

namespace BibEdit

namespace Readable

/-- Reading fails for fields that are not there, and for no other reason. -/
def Legible (source : Readable) : Prop :=
  ∀ name fault, source.read name = .error fault -> ∃ key field, fault = .noField key field

theorem Legible.present?_read {source : Readable} (legible : source.Legible) (name : String) :
    ∃ value, Condition.present? (source.read name) = .ok value := by
  cases read : source.read name with
  | ok value => exact ⟨_, rfl⟩
  | error fault =>
    obtain ⟨key, field, rfl⟩ := legible name fault read
    exact ⟨_, rfl⟩

theorem Legible.itemTypeText_total {source : Readable} (legible : source.Legible) :
    ∃ text, Condition.itemTypeText source = .ok text := by
  obtain ⟨value, present⟩ := legible.present?_read "itemType"
  unfold Condition.itemTypeText
  split
  next => exact ⟨_, rfl⟩
  next =>
    rw [present]
    exact ⟨_, rfl⟩

end Readable

namespace Record

theorem legible (record : Record) : record.readable.Legible := by
  intro name fault failed
  unfold readable read at failed
  dsimp only at failed
  split at failed
  next => cases failed
  next =>
    cases failed
    exact ⟨_, _, rfl⟩

theorem itemTypeText_readable (record : Record) :
    Condition.itemTypeText record.readable = .ok (record.itemType.getD "") := by
  unfold Condition.itemTypeText
  split
  next name found =>
    obtain ⟨number, numbered, named⟩ := Option.bind_eq_some_iff.1 found
    -- Only a known name has a number, and the number leads back to it.
    unfold itemTypeNumber at numbered
    split at numbered
    next stored isStored =>
      split at numbered
      next => cases numbered
      next =>
        have storedIs : record.itemType = some stored := isStored
        rw [ItemType.name?_number? stored number numbered] at named
        rw [storedIs, ← Option.some.inj named]
        rfl
    next => cases numbered
  next => rfl

end Record

namespace Condition

variable {condition : Condition}

/-- Whether there is something in a record that satisfies the condition. -/
def Meets (condition : Condition) (source : Readable) : Prop :=
  ∃ detail, condition.matchRecord source = .ok (some detail)

section Unmatched

variable (asks : condition.matchesEmpty = false)

include asks

theorem matchText_of_unmatched (value : String) (unmatched : condition.test value = .ok none) :
    condition.matchText value = .ok none := by
  unfold matchText
  rw [asks, unmatched]
  split <;> rfl

theorem matchCreators_of_unmatched (part : NamePart) (creators : List Creator)
    (unmatched : ∀ creator ∈ creators, condition.test (creator.get part) = .ok none) :
    condition.matchCreators part creators = .ok none := by
  induction creators with
  | nil => rfl
  | cons creator rest ih =>
    rw [matchCreators, matchText_of_unmatched asks _ (unmatched creator (by simp)), ok_bind]
    exact ih fun other member => unmatched other (List.mem_cons_of_mem _ member)

end Unmatched

theorem matchTags_of_unmatched (tags : List String)
    (unmatched : ∀ tag ∈ tags, condition.test tag = .ok none) :
    condition.matchTags tags = .ok none := by
  induction tags with
  | nil => rfl
  | cons tag rest ih =>
    rw [matchTags, unmatched tag (by simp), ok_bind]
    exact ih fun other member => unmatched other (List.mem_cons_of_mem _ member)

section Valid

variable (valid : Pattern.validate condition.pattern condition.kind = .ok ())

include valid

theorem test_total (value : String) : ∃ hit, condition.test value = .ok hit := by
  obtain ⟨hit, tested⟩ := Pattern.test_of_valid valid condition.caseSensitive value
  exact ⟨hit, mapError_eq_ok.2 tested⟩

theorem matchText_total (value : String) : ∃ detail, condition.matchText value = .ok detail := by
  obtain ⟨hit, tested⟩ := test_total valid value
  unfold matchText
  rw [tested]
  split <;> exact ⟨_, rfl⟩

theorem matchCreators_total (part : NamePart) (creators : List Creator) :
    ∃ detail, condition.matchCreators part creators = .ok detail := by
  induction creators with
  | nil => exact ⟨none, rfl⟩
  | cons creator rest ih =>
    obtain ⟨detail, matched⟩ := matchText_total valid (creator.get part)
    rw [matchCreators, matched, ok_bind]
    cases detail with
    | some detail => exact ⟨some detail, rfl⟩
    | none => exact ih

theorem matchTags_total (tags : List String) : ∃ detail, condition.matchTags tags = .ok detail := by
  induction tags with
  | nil => exact ⟨none, rfl⟩
  | cons tag rest ih =>
    obtain ⟨hit, tested⟩ := test_total valid tag
    rw [matchTags, tested, ok_bind]
    cases hit with
    | some hit => exact ⟨_, rfl⟩
    | none => exact ih

theorem matchRecord_total {source : Readable} (legible : source.Legible) :
    ∃ detail, condition.matchRecord source = .ok detail := by
  unfold matchRecord
  split
  next name _ =>
    obtain ⟨value, read⟩ := legible.present?_read name
    rw [read, ok_bind]
    cases value with
    | some value => exact matchText_total valid value
    | none => exact ⟨none, rfl⟩
  next part _ => exact matchCreators_total valid part _
  next => exact matchTags_total valid _
  next =>
    obtain ⟨text, read⟩ := legible.itemTypeText_total
    rw [read]
    exact matchText_total valid text
  next => exact ⟨_, rfl⟩
  next => exact ⟨_, rfl⟩

end Valid

end Condition

namespace Evaluation

theorem outcomes_total {source : Readable} (legible : source.Legible) {conditions : List Condition}
    (valid : ∀ condition ∈ conditions, Pattern.validate condition.pattern condition.kind = .ok ()) :
    ∃ found, outcomes source conditions = .ok found := by
  induction conditions with
  | nil => exact ⟨[], rfl⟩
  | cons condition rest ih =>
    obtain ⟨detail, matched⟩ := Condition.matchRecord_total (valid condition (by simp)) legible
    obtain ⟨found, later⟩ := ih fun other member => valid other (List.mem_cons_of_mem _ member)
    refine ⟨(condition, detail) :: found, ?_⟩
    rw [outcomes, matched, ok_bind, later]
    rfl

theorem mem_outcomes (source : Readable) (conditions : List Condition) (found : Outcomes)
    (evaluated : outcomes source conditions = .ok found) (condition : Condition)
    (member : condition ∈ conditions) :
    ∃ detail?, condition.matchRecord source = .ok detail? /\ (condition, detail?) ∈ found := by
  induction conditions generalizing found with
  | nil => cases member
  | cons first rest ih =>
    obtain ⟨detail?, matched, others⟩ := bind_eq_ok.1 evaluated
    obtain ⟨later, evaluatedLater, same⟩ := bind_eq_ok.1 others
    cases same
    rcases List.mem_cons.1 member with rfl | member
    next => exact ⟨detail?, matched, by simp⟩
    next =>
      obtain ⟨detail?, matched, among⟩ := ih later evaluatedLater member
      exact ⟨detail?, matched, List.mem_cons_of_mem _ among⟩

theorem satisfied_of_verdict_and {found : Outcomes} (holds : verdict .and found = true)
    (outcome : Condition × Option Detail) (member : outcome ∈ found)
    (positive : outcome.1.isNegative = false) : satisfied outcome = true := by
  have allSatisfied := (Bool.and_eq_true_iff.1 holds).1
  exact List.all_eq_true.1 allSatisfied outcome (List.mem_filter.2 ⟨member, by simp [positive]⟩)

end Evaluation

theorem evaluate_of_legible {source : Readable} (legible : source.Legible)
    {conditions : List Condition}
    (valid : ∀ condition ∈ conditions, Pattern.validate condition.pattern condition.kind = .ok ()) :
    ∃ evaluation, evaluate source conditions = .ok evaluation := by
  match conditions with
  | [] => exact ⟨_, rfl⟩
  | [only] =>
    obtain ⟨detail, matched⟩ := Condition.matchRecord_total (valid only (by simp)) legible
    refine ⟨⟨detail.isSome, detail.toList⟩, ?_⟩
    rw [evaluate, matched]
    rfl
  | first :: second :: rest =>
    obtain ⟨found, outcomesAre⟩ := Evaluation.outcomes_total legible valid
    refine ⟨⟨Evaluation.verdict first.operator found, found.filterMap Prod.snd⟩, ?_⟩
    rw [evaluate, outcomesAre]
    next => rfl
    next => nofun

theorem evaluate_total (record : Record) {conditions : List Condition}
    (valid : ∀ condition ∈ conditions, Pattern.validate condition.pattern condition.kind = .ok ()) :
    ∃ evaluation, evaluate record.readable conditions = .ok evaluation :=
  evaluate_of_legible record.legible valid

end BibEdit
