import BibEdit.Proofs.Pattern.Wildcard
import BibEdit.Proofs.Probe.Widths

set_option autoImplicit false

/-! Planning fails for one reason: a brace in a regex with more digits behind it than a number may
have. -/

namespace BibEdit

namespace Literal

/-- A brace has more digits behind it than can be read as a number. -/
def Overlong (pattern : List Char) : Prop :=
  ∃ digits, '\x7b' :: digits <:+: pattern /\ (∀ c ∈ digits, Text.isDecimalDigit c = true) /\
    Text.numeralLimit < digits.length

/-- A count in braces has a first number with more digits than can be read. -/
def LongCount (pattern : List Char) : Prop :=
  ∃ text low high comma, CountText text low high comma /\ '\x7b' :: text <:+: pattern /\
    Text.numeralLimit < low.length

theorem LongCount.mono {part pattern : List Char} (long : LongCount part)
    (within : part <:+: pattern) : LongCount pattern := by
  obtain ⟨text, low, high, comma, count, found, exceeds⟩ := long
  exact ⟨text, low, high, comma, count, found.trans within, exceeds⟩

theorem LongCount.overlong {pattern : List Char} (long : LongCount pattern) : Overlong pattern := by
  obtain ⟨text, low, high, comma, count, found, exceeds⟩ := long
  have first : low <+: text := by
    rw [count.is, List.append_assoc, List.append_assoc]
    exact List.prefix_append _ _
  exact ⟨low, ((List.prefix_cons_inj _).2 first).isInfix.trans found, count.lowDigits, exceeds⟩

variable {numeral : Text.LongNumeral}

theorem length_of_runValue {digits : List Char} (failed : Text.runValue digits = .error numeral) :
    Text.numeralLimit < digits.length := by
  unfold Text.runValue at failed
  split at failed
  next => cases failed
  next long => omega

theorem longCount_of_braces? {after : List Char} (failed : braces? after = .error numeral) :
    LongCount ('\x7b' :: after) := by
  rcases braces?_cases after with opensNone | ⟨text, low, high, comma, count, starts, read⟩
  next =>
    rw [opensNone] at failed
    cases failed
  next =>
    rw [failed] at read
    have within : '\x7b' :: text <:+: '\x7b' :: after := ((List.prefix_cons_inj _).2 starts).isInfix
    split at read
    next => cases read
    next =>
      cases value : Text.runValue low with
      | error long => exact ⟨text, low, high, comma, count, within, length_of_runValue value⟩
      | ok least =>
        rw [value] at read
        cases read

theorem longCount_of_quantifier? {c : Char} {after : List Char}
    (opens : "?*+\x7b".toList.contains c) (failed : quantifier? c after = .error numeral) :
    LongCount (c :: after) := by
  unfold quantifier? at failed
  split at failed
  next => cases failed
  next notOpen =>
    split at failed
    next => cases failed
    next notPlus =>
      have brace : c = '\x7b' := by
        simp at opens notOpen notPlus
        tauto
      rw [brace]
      exact longCount_of_braces? failed

theorem longCount_of_step {walk : Walk} {c : Char} {after : List Char}
    (failed : step walk c after = .error numeral) : LongCount (c :: after) := by
  unfold step at failed
  split at failed
  next => cases failed
  next =>
    split at failed
    next => cases failed
    next =>
      split at failed
      next opens =>
        rcases bind_eq_error.1 failed with blamed | ⟨found, _, read⟩
        next => exact longCount_of_quantifier? (by simpa [or_assoc] using opens) blamed
        next => cases found <;> cases read
      next =>
        -- Nothing but a quantifier has a number.
        repeat' split at failed
        all_goals cases failed

theorem longCount_of_walkFrom {walk : Walk} {skip : Nat} {pattern : List Char}
    (failed : walkFrom walk skip pattern = .error numeral) : LongCount pattern := by
  induction pattern generalizing walk skip with
  | nil => cases skip <;> cases failed
  | cons c rest ih =>
    have later (long : LongCount rest) : LongCount (c :: rest) :=
      long.mono (List.suffix_cons c rest).isInfix
    cases skip with
    | succ skip => exact later (ih failed)
    | zero =>
      rcases bind_eq_error.1 failed with blamed | ⟨found, _, walked⟩
      next => exact longCount_of_step blamed
      next =>
        cases found with
        | none => cases walked
        | some found => exact later (ih walked)

theorem longCount_of_extract {pattern : List Char} (failed : extract pattern = .error numeral) :
    LongCount pattern := by
  rcases bind_eq_error.1 failed with blamed | ⟨found, _, read⟩
  next => exact longCount_of_walkFrom blamed
  next => cases found <;> cases read

end Literal

namespace Condition

/-- A regex in which a brace has more digits behind it than can be read. -/
def Overlong (condition : Condition) : Prop :=
  condition.kind = .regex /\ Literal.Overlong condition.pattern.toList

end Condition

namespace Probe

variable {condition : Condition} {fault : Fault}

theorem overlong_of_term? (failed : term? condition = .error fault) : condition.Overlong := by
  unfold term? at failed
  split at failed
  next => cases failed
  next => cases failed
  next isRegex =>
    split at failed
    next => cases failed
    next blamed => exact ⟨isRegex, (Literal.longCount_of_extract blamed).overlong⟩
  next => cases failed

theorem overlong_of_creatorTerm? (failed : creatorTerm? condition = .error fault) :
    condition.Overlong := by
  unfold creatorTerm? at failed
  split at failed
  next => cases failed
  next => cases failed
  next => exact overlong_of_term? failed

theorem overlong_of_containing {field : String} {read : Except Fault (Option String)}
    (blame : read = .error fault -> condition.Overlong)
    (failed : (do return containing field (<- read)) = .error fault) : condition.Overlong := by
  rcases bind_eq_error.1 failed with blamed | ⟨term, _, done⟩
  next => exact blame blamed
  next => cases done

theorem overlong_of_wholeOrPart {field : String}
    (failed : wholeOrPart field condition = .error fault) :
    condition.Overlong := by
  unfold wholeOrPart at failed
  split at failed
  next => cases failed
  next => exact overlong_of_containing overlong_of_term? failed

theorem overlong_of_ofCondition? (failed : ofCondition? condition = .error fault) :
    condition.Overlong := by
  unfold ofCondition? at failed
  split at failed
  next => cases failed
  next =>
    split at failed
    next => exact overlong_of_containing overlong_of_creatorTerm? failed
    next => exact overlong_of_containing overlong_of_term? failed
    next => cases failed
    next => exact overlong_of_wholeOrPart failed
    next =>
      split at failed
      next => exact overlong_of_wholeOrPart failed
      next =>
        split at failed
        next => exact overlong_of_containing overlong_of_term? failed
        next => cases failed
    next => cases failed

theorem overlong_of_firstOf {conditions : List Condition}
    (failed : firstOf conditions = .error fault) : ∃ condition ∈ conditions, condition.Overlong := by
  induction conditions with
  | nil => cases failed
  | cons first rest ih =>
    have later (failed : firstOf rest = .error fault) :
        ∃ condition ∈ first :: rest, condition.Overlong := by
      obtain ⟨condition, member, overlong⟩ := ih failed
      exact ⟨condition, List.mem_cons_of_mem _ member, overlong⟩
    unfold firstOf at failed
    split at failed
    next => exact later failed
    next =>
      rcases bind_eq_error.1 failed with blamed | ⟨probe?, _, chosen⟩
      next => exact ⟨first, by simp, overlong_of_ofCondition? blamed⟩
      next =>
        cases probe? with
        | some probe => cases chosen
        | none => exact later chosen

theorem overlong_of_plan {conditions : List Condition} {threshold : Int}
    (failed : plan conditions threshold = .error fault) :
    ∃ condition ∈ conditions, condition.Overlong := by
  unfold plan choose at failed
  split at failed
  next => cases failed
  next =>
    cases found : firstOf conditions with
    | error blamed => exact overlong_of_firstOf found
    | ok chosen =>
      rw [found] at failed
      cases failed

end Probe

section Zeros

open Regex Reader Wildcard

def zeros (count : Nat) : List Char := '\x7b' :: List.replicate count '\u0660' ++ ['\x7d']

theorem tokenize_zeros (count : Nat) :
    tokenize (zeros count) =
      ([.plain '\x7b'] ++ ((List.replicate count (Part.letter '\u0660')).flatMap Part.tokens ++
        [.plain '\x7d']), false) := by
  have letters : (List.replicate count (Part.letter '\u0660')).flatMap Part.regex =
      List.replicate count '\u0660' := by
    induction count with
    | zero => rfl
    | succ count ih =>
      rw [List.replicate_succ, List.flatMap_cons, ih]
      rfl
  unfold zeros
  rw [List.cons_append, tokenize_plain _ _ (by decide), ← letters, tokenize_parts]
  rfl

theorem braceCount_foreign {reading : Reading} {rest : List Token}
    (tokensAre : reading.tokens = .plain '\u0660' :: rest) :
    braceCount reading = .ok (none, reading) := by
  cases reading
  cases tokensAre
  rfl

theorem compile_zeros (count : Nat) : ∃ regex, compile (zeros (count + 1)) false = .ok regex := by
  let brace (c : Char) : Piece := .of (.literal false c.toNat (casingOf false))
  have opens (rest : List Token) :
      Adds { ignoreCase := false } [] [.plain '\x7b'] (.plain '\u0660' :: rest) [brace '\x7b'] :=
    adds_plain (by decide) fun _ _ tokensAre => bind_run (braceCount_foreign tokensAre)
  have inner : Adds { ignoreCase := false } [brace '\x7b']
      ((List.replicate (count + 1) (Part.letter '\u0660')).flatMap Part.tokens) [.plain '\x7d'] _ :=
    adds_parts _ ⟨by decide, by decide⟩
  have closes (soFar : List Piece) :
      Adds { ignoreCase := false } soFar [.plain '\x7d'] [] (brace '\x7d' :: soFar) :=
    adds_plain (by decide) fun _ _ _ => rfl
  have read := compile_run false (tokenize_zeros (count + 1))
    ((opens _).trans (inner.trans (closes _)))
  obtain ⟨regex, compiled, _⟩ := read fun node member => by
    simp only [brace, Piece.of, Part.piece, Part.node, List.map_replicate, List.reverse_cons,
      List.reverse_append, List.reverse_replicate, List.reverse_nil, List.nil_append,
      List.flatMap_append, List.flatMap_singleton, List.mem_append, List.mem_flatMap,
      List.mem_replicate, Piece.toList, List.mem_singleton] at member
    rcases member with (rfl | ⟨piece, ⟨_, rfl⟩, is⟩) | rfl
    next => rfl
    next =>
      rw [List.mem_singleton.1 is]
      rfl
    next => rfl
  exact ⟨regex, compiled⟩

end Zeros

section Unplanned

variable (count : Nat)

def zeroTimes : Condition where
  field := "title"
  pattern := String.ofList (zeros count)

theorem zeroTimes_pattern : (zeroTimes count).pattern.toList = zeros count := String.toList_ofList

theorem validate_zeroTimes : Pattern.validate (zeroTimes (count + 1)).pattern .regex = .ok () := by
  obtain ⟨regex, compiled⟩ := compile_zeros count
  have source : Pattern.compile (zeroTimes (count + 1)).pattern .regex true = .ok regex := by
    show (Regex.compile (zeroTimes (count + 1)).pattern.toList false).mapError _ = _
    rw [zeroTimes_pattern, compiled]
    rfl
  show (Pattern.compile (zeroTimes (count + 1)).pattern .regex true).map _ = _
  rw [source]
  rfl

variable {count} (long : Text.numeralLimit < count)

include long

theorem braces?_zeros : Literal.braces? (List.replicate count '\u0660' ++ ['\x7d']) =
    .error ⟨some count⟩ := by
  have low : (List.replicate count '\u0660' ++ ['\x7d']).takeWhile Text.isDecimalDigit =
      List.replicate count '\u0660' := by
    refine Literal.takeWhile_of_all _ _ _ [] (fun c member => ?_) (by decide)
    rw [List.eq_of_mem_replicate member]
    decide
  have read : Text.runValue (List.replicate count '\u0660') = .error ⟨some count⟩ := by
    unfold Text.runValue
    rw [List.length_replicate, if_neg (by omega)]
  have someLow : (List.replicate count '\u0660').isEmpty = false := by
    rw [List.isEmpty_replicate]
    exact decide_eq_false (by omega)
  unfold Literal.braces?
  simp only [low, read, someLow, List.drop_left]
  rfl

theorem extract_zeros : Literal.extract (zeros count) = .error ⟨some count⟩ := by
  unfold Literal.extract zeros
  rw [List.cons_append, Literal.walkFrom]
  show ((Literal.braces? _ >>= _) >>= _) >>= _ = _
  rw [braces?_zeros long]
  rfl

theorem ofCondition?_zeroTimes :
    Probe.ofCondition? (zeroTimes count) = .error (.longNumeral ⟨some count⟩) := by
  have differs (other : String) (starts : other.toList.head? ≠ some '\x7b') :
      (zeroTimes count).pattern ≠ other := by
    intro same
    rw [← same, zeroTimes_pattern] at starts
    exact starts rfl
  have asks : (zeroTimes count).matchesEmpty = false := by
    unfold Condition.matchesEmpty Pattern.isEmptyCheck Pattern.emptyChecks
    simp [differs "^$" (by decide), differs "^\\s*$" (by decide)]
  have given : ((zeroTimes count).pattern == "") = false := by
    simpa using differs "" (by decide)
  have term : Probe.term? (zeroTimes count) = .error (.longNumeral ⟨some count⟩) := by
    have isRegex : (zeroTimes count).kind = .regex := rfl
    unfold Probe.term?
    rw [isRegex, zeroTimes_pattern, extract_zeros long]
  have names : (zeroTimes count).ref = .scalar "title" := rfl
  unfold Probe.ofCondition?
  rw [given, asks, names]
  show (do return Probe.containing "title" (<- Probe.term? (zeroTimes count))) = _
  rw [term]
  rfl

theorem plan_zeroTimes : Probe.plan [zeroTimes count] 5 = .error (.longNumeral ⟨some count⟩) := by
  have noBar : (zeroTimes count).pattern.toList.contains '|' = false := by
    rw [zeroTimes_pattern]
    simp [zeros]
  have first : Probe.firstOf [zeroTimes count] = .error (.longNumeral ⟨some count⟩) := by
    rw [Probe.firstOf, noBar, ofCondition?_zeroTimes long]
    rfl
  unfold Probe.plan Probe.choose
  rw [first]
  rfl

end Unplanned

end BibEdit
