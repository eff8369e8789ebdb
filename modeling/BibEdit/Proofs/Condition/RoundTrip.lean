import BibEdit.Proofs.Condition.Grammar

set_option autoImplicit false

namespace BibEdit.Condition

/-- AND goes without saying. -/
def writtenOperator (operator : Operator) : List Char :=
  if operator == .and then [] else operatorText operator

theorem renderChars?_eq (condition : Condition) (flags : List Char)
    (written : flagsText? condition = some flags) :
    renderChars? condition = some (writtenOperator condition.operator ++
      Parts.text ⟨condition.field.toList, condition.pattern.toList, flags⟩) := by
  simp [renderChars?, written, writtenOperator, Parts.text, Parts.flagSection]

theorem kind_known (parts : Parts) : parts.kind.isKnown = true := by
  unfold Parts.kind
  cases found : parts.flags.findSome? kindOfFlag? with
  | none => rfl
  | some kind =>
    obtain ⟨flag, _, names⟩ := List.exists_of_findSome?_eq_some found
    unfold kindOfFlag? at names
    split at names <;> cases names <;> rfl

theorem flagOfKind?_known (kind : PatternKind) (known : kind.isKnown = true) :
    ∃ flag, flagOfKind? kind = some flag /\ kindOfFlag? flag = some kind := by
  cases kind with
  | other name => simp [PatternKind.isKnown, PatternKind.known] at known
  | _ => exact ⟨_, rfl, rfl⟩

theorem flagsText?_known (condition : Condition) (known : condition.kind.isKnown = true) :
    ∃ flags, flagsText? condition = some flags /\
      (∀ flag ∈ flags, flag = 'c' \/ flag ∈ kindFlags) /\
      flags.countP kindFlags.contains <= 1 /\
      (flags.findSome? kindOfFlag?).getD .regex = condition.kind /\
      flags.contains 'c' = condition.caseSensitive := by
  have noKind : kindOfFlag? 'c' = none := rfl
  have notListed : 'c' ∉ kindFlags := by decide
  by_cases regex : condition.kind = .regex
  next =>
    refine ⟨if condition.caseSensitive then ['c'] else [], by simp [flagsText?, regex], ?_⟩
    rw [regex]
    cases condition.caseSensitive <;> simp [noKind, notListed]
  next =>
    obtain ⟨flag, names, named⟩ := flagOfKind?_known condition.kind known
    have listed : flag ∈ kindFlags := by simpa [named] using (kindOfFlag?_isSome flag).symm
    have other : ¬ 'c' = flag := fun same => notListed (same ▸ listed)
    refine ⟨(if condition.caseSensitive then ['c'] else []) ++ [flag],
      by simp [flagsText?, regex, names], ?_⟩
    cases condition.caseSensitive <;> simp [noKind, notListed, listed, named, other]

theorem written_of_parse (raw : String) (condition : Condition)
    (parsed : parse raw = .ok condition) :
    ∃ parts : Parts, parts.Proper /\ parts.meaning condition.operator = condition /\
      renderChars? condition = some (writtenOperator condition.operator ++ parts.text) := by
  obtain ⟨operator, parts, ⟨_, proper⟩, rfl⟩ := (parse_eq_ok raw condition).1 parsed
  obtain ⟨flags, written, known, one, kind, sensitive⟩ :=
    flagsText?_known (parts.meaning operator) (kind_known parts)
  refine ⟨⟨parts.field, parts.pattern, flags⟩, ⟨proper.fieldGiven, proper.fieldPlain,
    proper.patternGiven, known, one⟩, ?_, ?_⟩
  next => simp only [Parts.meaning, Parts.kind, kind, sensitive]
  next => simpa [Parts.meaning] using renderChars?_eq _ flags written

theorem colon_notMem_operatorText (operator : Operator) : ':' ∉ operatorText operator := by
  cases operator <;> decide

theorem operator_begins_field (operator : Operator) (parts : Parts)
    (begins : operatorText operator <+: parts.text) : operatorText operator <+: parts.field := by
  unfold Parts.text at begins
  rcases List.prefix_or_prefix_of_prefix begins (List.prefix_append parts.field _) with
    within | ⟨after, whole⟩
  next => exact within
  next =>
    obtain ⟨rest, same⟩ := begins
    rw [← whole, List.append_assoc, List.append_cancel_left_eq] at same
    cases after with
    | nil => exact ⟨[], by rw [← whole]; simp⟩
    | cons c after =>
      -- Otherwise the operator would go on into the colon behind the field.
      have colon : c = ':' := (List.cons.inj same).1
      have member : ':' ∈ operatorText operator := by rw [← whole, colon]; simp
      exact absurd member (colon_notMem_operatorText operator)

theorem opens_written (operator : Operator) (parts : Parts)
    (apart : operator = .and -> ∀ other, ¬ operatorText other <+: parts.field) :
    Opens (writtenOperator operator ++ parts.text) operator parts.text := by
  by_cases unwritten : operator = .and
  next =>
    rw [unwritten]
    exact .unwritten _ fun other begins =>
      apart unwritten other (operator_begins_field other parts begins)
  next =>
    have said : writtenOperator operator = operatorText operator := by
      simp [writtenOperator, unwritten]
    rw [said]
    exact .written operator parts.text

theorem field_ne_of_begins (other operator : Operator) (parts read : Parts)
    (proper : parts.Proper) (readProper : read.Proper)
    (begins : operatorText other <+: parts.field)
    (opens : Opens parts.text operator read.text) : read.field ≠ parts.field := by
  obtain ⟨after, whole⟩ := begins
  have again : Opens parts.text other
      (after ++ ':' :: (escape parts.pattern ++ Parts.flagSection parts.flags)) := by
    have written := Opens.written other
      (after ++ ':' :: (escape parts.pattern ++ Parts.flagSection parts.flags))
    rwa [← List.append_assoc, whole] at written
  -- A text opens in one way only, so that what was read is what stands behind the operator.
  obtain ⟨_, texts⟩ := opens_unique _ _ _ _ _ opens again
  have afterPlain : ':' ∉ after := by
    have plain := proper.fieldPlain
    rw [← whole] at plain
    exact fun member => plain (List.mem_append_right _ member)
  have fields := congrArg (List.takeWhile (· != ':')) texts
  rw [Parts.text, takeWhile_field _ _ readProper.fieldPlain,
    takeWhile_field _ _ afterPlain] at fields
  intro same
  have lengths := congrArg List.length whole
  rw [List.length_append, ← same, fields] at lengths
  have someText : 0 < (operatorText other).length := by cases other <;> decide
  omega

/-- A condition that was read is written, and reads back as itself just when no operator that is
left out is taken up by the field. -/
theorem render_reads_back_iff (raw : String) (condition : Condition)
    (parsed : parse raw = .ok condition) :
    ∃ text, render? condition = some text /\
      (parse text = .ok condition <-> (condition.operator = .and ->
        ∀ operator, ¬ operatorText operator <+: condition.field.toList)) := by
  obtain ⟨parts, proper, means, written⟩ := written_of_parse raw condition parsed
  have fieldIs : condition.field.toList = parts.field := by rw [← means]; simp [Parts.meaning]
  refine ⟨_, by rw [render?, written]; rfl, ?_⟩
  rw [parse_eq_ok, String.toList_ofList, fieldIs]
  constructor
  next =>
    rintro ⟨operator, read, ⟨opens, readProper⟩, same⟩ unwritten other begins
    have noOperator : writtenOperator condition.operator = [] := by
      simp [writtenOperator, unwritten]
    rw [noOperator, List.nil_append] at opens
    refine field_ne_of_begins other operator parts read proper readProper begins opens ?_
    rw [← fieldIs, ← same]
    simp [Parts.meaning]
  next =>
    intro apart
    exact ⟨condition.operator, parts, ⟨opens_written _ parts apart, proper⟩, means⟩

def colonsAround : Condition where
  field := "and/url"
  pattern := ":a:"
  kind := .like
  caseSensitive := true
  operator := .or

theorem render_reads_back_colons :
    parse "or/and/url:::a:::lc" = .ok colonsAround /\
      ∃ text, render? colonsAround = some text /\ parse text = .ok colonsAround := by
  have parsed : parse "or/and/url:::a:::lc" = .ok colonsAround :=
    eq_ok_of_toOption (by decide +kernel)
  obtain ⟨text, written, readsBack⟩ := render_reads_back_iff _ _ parsed
  exact ⟨parsed, text, written, readsBack.2 (by simp [colonsAround])⟩

def fieldLikeOperator : Condition where
  field := "or/title"
  pattern := "x"

theorem render_loses_field :
    parse "and/or/title:x" = .ok fieldLikeOperator /\
      ∃ text, render? fieldLikeOperator = some text /\ parse text ≠ .ok fieldLikeOperator := by
  refine ⟨eq_ok_of_toOption (by decide +kernel), "or/title:x", by decide +kernel, fun same => ?_⟩
  have read := congrArg Except.toOption same
  exact absurd read (by decide +kernel)

end BibEdit.Condition
