import BibEdit.Proofs.Condition.Colons
import BibEdit.Proofs.Success
import Mathlib.Data.List.TakeWhile

set_option autoImplicit false

namespace BibEdit.Condition

/-- What a text begins with and what follows: an operator, or AND if it begins with none. -/
inductive Opens : List Char -> Operator -> List Char -> Prop where
  | written (operator : Operator) (rest : List Char) :
      Opens (operatorText operator ++ rest) operator rest
  | unwritten (raw : List Char) (noneBegins : ∀ operator, ¬ operatorText operator <+: raw) :
      Opens raw .and raw

structure Parts where
  field : List Char
  pattern : List Char
  flags : List Char
  deriving DecidableEq

def kindFlags : List Char := ['r', 'e', 's', 'l', 'g']

namespace Parts

structure Proper (parts : Parts) : Prop where
  fieldGiven : parts.field ≠ []
  fieldPlain : ':' ∉ parts.field
  patternGiven : parts.pattern ≠ []
  flagsKnown : ∀ flag ∈ parts.flags, flag = 'c' \/ flag ∈ kindFlags
  oneKind : parts.flags.countP kindFlags.contains <= 1

def flagSection (flags : List Char) : List Char := if flags.isEmpty then [] else ':' :: flags

def text (parts : Parts) : List Char :=
  parts.field ++ ':' :: (escape parts.pattern ++ flagSection parts.flags)

def kind (parts : Parts) : PatternKind := (parts.flags.findSome? kindOfFlag?).getD .regex

def meaning (parts : Parts) (operator : Operator) : Condition where
  field := String.ofList parts.field
  pattern := String.ofList parts.pattern
  kind := parts.kind
  caseSensitive := parts.flags.contains 'c'
  operator := operator

end Parts

/-- The ways to read a written condition. -/
def Reads (raw : List Char) (operator : Operator) (parts : Parts) : Prop :=
  Opens raw operator parts.text /\ parts.Proper

@[simp] theorem operatorText_and : operatorText .and = ['a', 'n', 'd', '/'] := rfl

@[simp] theorem operatorText_or : operatorText .or = ['o', 'r', '/'] := rfl

@[simp] theorem operatorText_andNot :
    operatorText .andNot = ['a', 'n', 'd', '-', 'n', 'o', 't', '/'] := rfl

@[simp] theorem operatorText_orNot : operatorText .orNot = ['o', 'r', '-', 'n', 'o', 't', '/'] := rfl

theorem operatorText_apart (first second : Operator) (rest other : List Char)
    (same : operatorText first ++ rest = operatorText second ++ other) :
    first = second /\ rest = other := by
  cases first <;> cases second <;> simp_all

theorem operator?_written (operator : Operator) (rest : List Char) :
    operator? (operatorText operator ++ rest) = some (operator, rest) := by
  cases operator <;> rfl

theorem operator?_eq_some (raw rest : List Char) (operator : Operator)
    (found : operator? raw = some (operator, rest)) : raw = operatorText operator ++ rest := by
  obtain ⟨chosen, _, begins⟩ := List.exists_of_findSome?_eq_some found
  obtain ⟨after, isAfter, same⟩ := Option.map_eq_some_iff.1 begins
  cases same
  exact (List.isPrefixOf?_eq_some_iff_append_eq.1 isAfter).symm

theorem operator?_eq_none (raw : List Char) :
    operator? raw = none <-> ∀ operator, ¬ operatorText operator <+: raw := by
  constructor
  next =>
    rintro nothingFound operator ⟨rest, rfl⟩
    rw [operator?_written] at nothingFound
    cases nothingFound
  next =>
    intro noneBegins
    cases found : operator? raw with
    | none => rfl
    | some begun => exact absurd ⟨_, (operator?_eq_some _ _ _ found).symm⟩ (noneBegins begun.1)

def operatorWidth (raw rest : List Char) : Nat := raw.length - rest.length

theorem readAfterOperator_of_opens (raw rest : List Char) (operator : Operator)
    (opens : Opens raw operator rest) :
    readAfterOperator raw = readBody operator (operatorWidth raw rest) rest := by
  unfold readAfterOperator operatorWidth
  cases opens with
  | written operator rest =>
    rw [operator?_written]
    simp
  | unwritten raw noneBegins =>
    rw [(operator?_eq_none raw).2 noneBegins]
    simp

theorem opens_total (raw : List Char) : ∃ operator rest, Opens raw operator rest := by
  by_cases begins : ∃ operator, operatorText operator <+: raw
  next =>
    obtain ⟨operator, rest, rfl⟩ := begins
    exact ⟨operator, rest, .written operator rest⟩
  next => exact ⟨.and, raw, .unwritten raw (not_exists.1 begins)⟩

theorem opens_unique (raw rest other : List Char) (first second : Operator)
    (opens : Opens raw first rest) (again : Opens raw second other) :
    first = second /\ rest = other := by
  cases opens with
  | written first rest =>
    generalize whole : operatorText first ++ rest = raw at again
    cases again with
    | written second other => exact operatorText_apart first second rest other whole
    | unwritten raw noneBegins => exact absurd ⟨rest, whole⟩ (noneBegins first)
  | unwritten raw noneBegins =>
    cases again with
    | written second other => exact absurd ⟨other, rfl⟩ (noneBegins second)
    | unwritten => exact ⟨rfl, rfl⟩

theorem opens_length (raw rest : List Char) (operator : Operator)
    (opens : Opens raw operator rest) : operatorWidth raw rest + rest.length = raw.length := by
  cases opens <;> simp [operatorWidth]

theorem kindOfFlag?_isSome (flag : Char) :
    (kindOfFlag? flag).isSome = kindFlags.contains flag := by
  unfold kindOfFlag?
  split <;> simp_all [kindFlags]

theorem readFlags_kind (index : Nat) (flags : FlagSet) (flag : Char) (rest : List Char)
    (kind : PatternKind) (names : kindOfFlag? flag = some kind) :
    readFlags index flags (flag :: rest) =
      if flags.kind.isSome then .error (index, .secondKind)
      else readFlags (index + 1) { flags with kind := some kind } rest := by
  have other : flag ≠ 'c' := by
    rintro rfl
    cases names
  simp [readFlags, other, names]

theorem readFlags_eq_ok (index : Nat) (flags result : FlagSet) (text : List Char) :
    readFlags index flags text = .ok result <->
      (∀ flag ∈ text, flag = 'c' \/ flag ∈ kindFlags) /\
      text.countP kindFlags.contains + flags.kind.toList.length <= 1 /\
      result = ⟨flags.kind.or (text.findSome? kindOfFlag?),
        flags.caseSensitive || text.contains 'c'⟩ := by
  induction text generalizing index flags with
  | nil =>
    have kept : flags.kind.toList.length <= 1 := by cases flags.kind <;> simp
    simp [readFlags, kept, eq_comm]
  | cons flag rest ih =>
    by_cases cased : flag = 'c'
    next =>
      have step : readFlags index flags (flag :: rest) =
          readFlags (index + 1) { flags with caseSensitive := true } rest := by
        simp [readFlags, cased]
      have noKind : kindOfFlag? 'c' = none := rfl
      have uncounted : (flag :: rest).countP kindFlags.contains = rest.countP kindFlags.contains :=
        List.countP_cons_of_neg (by simp [cased, kindFlags])
      rw [step, ih, uncounted]
      simp [cased, noKind]
    next =>
      have listed := kindOfFlag?_isSome flag
      have still : ¬ 'c' = flag := fun same => cased same.symm
      cases names : kindOfFlag? flag with
      | none =>
        rw [names] at listed
        have unknown : flag ∉ kindFlags := by simpa using listed.symm
        have refused : readFlags index flags (flag :: rest) = .error (index, .unknownFlag) := by
          simp [readFlags, cased, names]
        simp [refused, cased, unknown]
      | some kind =>
        rw [names] at listed
        have known : flag ∈ kindFlags := by simpa using listed.symm
        have counted :
            (flag :: rest).countP kindFlags.contains = rest.countP kindFlags.contains + 1 :=
          List.countP_cons_of_pos (by simpa using known)
        rw [readFlags_kind index flags flag rest kind names, counted]
        -- A kind that was read before counts like one in the text.
        cases before : flags.kind with
        | some earlier => simp
        | none =>
          simp only [Option.isSome_none, Bool.false_eq_true, if_false, ih]
          simp [known, still, names]

theorem readFlags_error (index : Nat) (flags : FlagSet) (text : List Char) (atIndex : Nat)
    (flaw : Flaw) (refused : readFlags index flags text = .error (atIndex, flaw)) :
    atIndex < index + text.length := by
  induction text generalizing index flags with
  | nil => cases refused
  | cons flag rest ih =>
    unfold readFlags at refused
    rw [List.length_cons]
    split at refused
    next => have later := ih _ _ refused; omega
    next =>
      split at refused
      next => cases refused; omega
      next =>
        split at refused
        next => cases refused; omega
        next => have later := ih _ _ refused; omega

theorem flag_ne_colon (flag : Char) (known : flag = 'c' \/ flag ∈ kindFlags) : flag ≠ ':' := by
  rintro rfl
  simp [kindFlags] at known

theorem readFlagSection_escape (index : Nat) (flags : List Char) (given : flags ≠ []) :
    readFlagSection index (escape flags) =
      readFlags index {} flags >>= fun read =>
        if ((escape flags).drop flags.length).isEmpty then .ok read
        else .error (index + flags.length, .extraInput) := by
  have someGiven : flags.isEmpty = false := by simpa using given
  simp [readFlagSection, take_escape, someGiven]

theorem readFlagSection_escape_colon (index : Nat) (flags rest : List Char) (given : flags ≠ [])
    (single : rest.head? ≠ some ':') :
    readFlagSection index (escape flags ++ ':' :: rest) =
      readFlags index {} flags >>= fun _ => .error (index + flags.length, .extraInput) := by
  have someGiven : flags.isEmpty = false := by simpa using given
  have within := length_le_escape flags
  have remains : ((escape flags ++ ':' :: rest).drop flags.length).isEmpty = false := by
    rw [List.isEmpty_eq_false_iff, ← List.length_pos_iff, List.length_drop]
    simp
    omega
  simp [readFlagSection, take_escape_colon _ _ single, someGiven, remains]

theorem readFlagSection_nil (index : Nat) : readFlagSection index [] = .error (index, .noFlags) := rfl

theorem readFlagSection_colon (index : Nat) (rest : List Char) (single : rest.head? ≠ some ':') :
    readFlagSection index (':' :: rest) = .error (index, .noFlags) := by
  simp [readFlagSection, take_colon rest single]

theorem readFlagSection_eq_ok (index : Nat) (text : List Char) (flags : FlagSet) :
    readFlagSection index text = .ok flags <->
      text ≠ [] /\ (∀ flag ∈ text, flag = 'c' \/ flag ∈ kindFlags) /\
      text.countP kindFlags.contains <= 1 /\
      flags = ⟨text.findSome? kindOfFlag?, text.contains 'c'⟩ := by
  -- Known flags are no colons, so a section of them is read as it stands.
  have plain (known : ∀ flag ∈ text, flag = 'c' \/ flag ∈ kindFlags) : ':' ∉ text :=
    fun member => flag_ne_colon ':' (known _ member) rfl
  rcases escaped_or_colon text with ⟨read, rfl⟩ | ⟨read, rest, rfl, single⟩
  next =>
    by_cases given : read = []
    next => simp [given, readFlagSection_nil]
    next =>
      rw [readFlagSection_escape index read given, bind_eq_ok]
      constructor
      next =>
        rintro ⟨found, done, ends⟩
        obtain ⟨known, one, same⟩ := (readFlags_eq_ok index {} found read).1 done
        have unescaped : escape read = read := by
          refine escape_of_plain read fun member => ?_
          exact flag_ne_colon ':' (known _ member) rfl
        rw [unescaped] at ends ⊢
        simp only [List.drop_length, List.isEmpty_nil, if_true, Except.ok.injEq] at ends
        rw [← ends]
        exact ⟨given, known, by simpa using one, by simpa using same⟩
      next =>
        rintro ⟨_, known, one, same⟩
        have unescaped : escape read = read :=
          escape_of_plain read (mt (mem_escape ':' read).2 (plain known))
        rw [unescaped] at known one same ⊢
        refine ⟨flags, ?_, by simp⟩
        rw [readFlags_eq_ok]
        exact ⟨known, by simpa using one, by simpa using same⟩
  next =>
    constructor
    next =>
      intro done
      by_cases given : read = []
      next =>
        rw [given, escape_nil, List.nil_append, readFlagSection_colon index rest single] at done
        cases done
      next =>
        rw [readFlagSection_escape_colon index read rest given single, bind_eq_ok] at done
        obtain ⟨_, _, refused⟩ := done
        cases refused
    next =>
      rintro ⟨_, known, _⟩
      exact absurd (by simp) (plain known)

theorem readFlagSection_error (index : Nat) (text : List Char) (atIndex : Nat) (flaw : Flaw)
    (refused : readFlagSection index text = .error (atIndex, flaw)) :
    atIndex <= index + text.length := by
  -- The flags are counted as read, the text with its colons doubled, so the place lies within it.
  have bounded (read : List Char) (after : FlagSet -> Except (Nat × Flaw) FlagSet)
      (ends : ∀ flags, after flags = .error (atIndex, flaw) -> atIndex = index + read.length)
      (stopped : (readFlags index {} read >>= after) = .error (atIndex, flaw)) :
      atIndex <= index + read.length := by
    cases done : readFlags index {} read with
    | error error =>
      rw [done] at stopped
      cases stopped
      have within := readFlags_error index {} read atIndex flaw done
      omega
    | ok flags =>
      rw [done] at stopped
      have last := ends flags stopped
      omega
  rcases escaped_or_colon text with ⟨read, rfl⟩ | ⟨read, rest, rfl, single⟩
  next =>
    by_cases given : read = []
    next =>
      rw [given, escape_nil, readFlagSection_nil] at refused
      cases refused
      simp
    next =>
      rw [readFlagSection_escape index read given] at refused
      have within := length_le_escape read
      have inside := bounded read _ (fun flags stopped => by split at stopped <;> cases stopped; rfl)
        refused
      omega
  next =>
    by_cases given : read = []
    next =>
      rw [given, escape_nil, List.nil_append, readFlagSection_colon index rest single] at refused
      cases refused
      omega
    next =>
      rw [readFlagSection_escape_colon index read rest given single] at refused
      have within := length_le_escape read
      have inside := bounded read _ (fun flags stopped => by cases stopped; rfl) refused
      rw [List.length_append]
      omega

theorem not_colon_of_plain (text : List Char) (plain : ':' ∉ text) :
    ∀ c ∈ text, (c != ':') = true := by
  intro c member
  simpa using fun same : c = ':' => plain (same ▸ member)

theorem takeWhile_field (field rest : List Char) (plain : ':' ∉ field) :
    (field ++ ':' :: rest).takeWhile (· != ':') = field := by
  simp [List.takeWhile_append_of_pos (not_colon_of_plain field plain)]

theorem dropWhile_field (field rest : List Char) (plain : ':' ∉ field) :
    (field ++ ':' :: rest).dropWhile (· != ':') = ':' :: rest := by
  simp [List.dropWhile_append_of_pos (not_colon_of_plain field plain)]

theorem plain_or_colon (text : List Char) :
    ':' ∉ text \/ ∃ field rest, text = field ++ ':' :: rest /\ ':' ∉ field := by
  by_cases colon : ':' ∈ text
  next =>
    obtain ⟨field, rest, same, plain⟩ := List.eq_append_cons_of_mem colon
    exact .inr ⟨field, rest, same, plain⟩
  next => exact .inl colon

section Body

variable (operator : Operator) (index : Nat)

theorem readBody_plain (text : List Char) (plain : ':' ∉ text) :
    readBody operator index text = .error (index + text.length, .noColon) := by
  have allDropped : text.dropWhile (· != ':') = [] :=
    List.dropWhile_eq_nil_iff.2 (not_colon_of_plain text plain)
  simp [readBody, allDropped]

theorem readBody_unnamed (rest : List Char) :
    readBody operator index (':' :: rest) = .error (index, .noField) := by
  simp [readBody]

variable (field : List Char) (plain : ':' ∉ field)

include plain

theorem readBody_escape (named : field ≠ []) (pattern : List Char) :
    readBody operator index (field ++ ':' :: escape pattern) =
      if pattern = [] then .error (index + field.length + 1, .noPattern)
      else .ok (Parts.meaning ⟨field, pattern, []⟩ operator) := by
  by_cases given : pattern = []
  next => simp [readBody, takeWhile_field, dropWhile_field, plain, named, given, take_nil]
  next =>
    simp [readBody, takeWhile_field, dropWhile_field, plain, named, given, take_escape,
      Parts.meaning, Parts.kind, bind, Except.bind]

theorem readBody_flagged (named : field ≠ []) (pattern rest : List Char)
    (single : rest.head? ≠ some ':') :
    readBody operator index (field ++ ':' :: (escape pattern ++ ':' :: rest)) =
      if pattern = [] then .error (index + field.length + 1, .noPattern)
      else (readFlagSection (index + field.length + 1 + ((escape pattern).length + 1)) rest).map
        fun flags => {
          field := String.ofList field
          pattern := String.ofList pattern
          kind := flags.kind.getD .regex
          caseSensitive := flags.caseSensitive
          operator := operator } := by
  by_cases given : pattern = []
  next =>
    simp [readBody, takeWhile_field, dropWhile_field, plain, named, given, take_colon _ single]
  next =>
    have after : (escape pattern ++ ':' :: rest).drop ((escape pattern).length + 1) = rest := by
      simp
    simp [readBody, takeWhile_field, dropWhile_field, plain, named, given,
      take_escape_colon _ _ single, after]
    cases readFlagSection (index + field.length + 1 + ((escape pattern).length + 1)) rest <;> rfl

end Body

theorem Parts.flagSection_of_ne (flags : List Char) (given : flags ≠ []) :
    flagSection flags = ':' :: flags := by
  simp [flagSection, given]

theorem Parts.Proper.single_colon {parts : Parts} (proper : parts.Proper) :
    parts.flags.head? ≠ some ':' := by
  intro first
  exact flag_ne_colon ':' (proper.flagsKnown _ (List.mem_of_head? first)) rfl

theorem readBody_eq_ok (operator : Operator) (index : Nat) (text : List Char)
    (condition : Condition) :
    readBody operator index text = .ok condition <->
      ∃ parts : Parts, parts.Proper /\ parts.text = text /\ parts.meaning operator = condition := by
  constructor
  next =>
    intro done
    rcases plain_or_colon text with plain | ⟨field, rest, rfl, plain⟩
    next =>
      rw [readBody_plain operator index text plain] at done
      cases done
    next =>
      by_cases named : field = []
      next =>
        rw [named, List.nil_append, readBody_unnamed] at done
        cases done
      next =>
        -- Either the pattern goes on to the end, or a single colon starts the flags.
        rcases escaped_or_colon rest with ⟨pattern, rfl⟩ | ⟨pattern, after, rfl, single⟩
        next =>
          rw [readBody_escape operator index field plain named] at done
          split at done
          next => cases done
          next given =>
            refine ⟨⟨field, pattern, []⟩, ⟨named, plain, given, by simp, by simp⟩, ?_,
              Except.ok.inj done⟩
            simp [Parts.text, Parts.flagSection]
        next =>
          rw [readBody_flagged operator index field plain named pattern after single] at done
          split at done
          next => cases done
          next given =>
            obtain ⟨flags, read, same⟩ := map_eq_ok.1 done
            obtain ⟨someFlags, known, one, rfl⟩ := (readFlagSection_eq_ok _ _ _).1 read
            refine ⟨⟨field, pattern, after⟩, ⟨named, plain, given, known, one⟩, ?_, same⟩
            simp [Parts.text, Parts.flagSection_of_ne after someFlags]
  next =>
    rintro ⟨parts, proper, rfl, rfl⟩
    unfold Parts.text
    by_cases someFlags : parts.flags = []
    next =>
      have noSection : Parts.flagSection parts.flags = [] := by simp [Parts.flagSection, someFlags]
      rw [noSection, List.append_nil,
        readBody_escape operator index _ proper.fieldPlain proper.fieldGiven,
        if_neg proper.patternGiven, ← someFlags]
    next =>
      have read := (readFlagSection_eq_ok
        (index + parts.field.length + 1 + ((escape parts.pattern).length + 1)) parts.flags _).2
        ⟨someFlags, proper.flagsKnown, proper.oneKind, rfl⟩
      rw [Parts.flagSection_of_ne _ someFlags,
        readBody_flagged operator index _ proper.fieldPlain proper.fieldGiven _ _
          proper.single_colon,
        if_neg proper.patternGiven, read]
      rfl

theorem readBody_error (operator : Operator) (index : Nat) (text : List Char) (atIndex : Nat)
    (flaw : Flaw) (refused : readBody operator index text = .error (atIndex, flaw)) :
    atIndex <= index + text.length := by
  rcases plain_or_colon text with plain | ⟨field, rest, rfl, plain⟩
  next =>
    rw [readBody_plain operator index text plain] at refused
    cases refused
    omega
  next =>
    by_cases named : field = []
    next =>
      rw [named, List.nil_append, readBody_unnamed] at refused
      cases refused
      omega
    next =>
      rw [List.length_append, List.length_cons]
      rcases escaped_or_colon rest with ⟨pattern, rfl⟩ | ⟨pattern, after, rfl, single⟩
      next =>
        rw [readBody_escape operator index field plain named] at refused
        split at refused
        next => cases refused; omega
        next => cases refused
      next =>
        rw [readBody_flagged operator index field plain named pattern after single] at refused
        rw [List.length_append, List.length_cons]
        split at refused
        next => cases refused; omega
        next =>
          cases read : readFlagSection
              (index + field.length + 1 + ((escape pattern).length + 1)) after with
          | ok flags =>
            rw [read] at refused
            cases refused
          | error error =>
            rw [read] at refused
            cases refused
            have within := readFlagSection_error _ after atIndex flaw read
            omega

theorem Parts.text_injective {first second : Parts} (proper : first.Proper) (other : second.Proper)
    (same : first.text = second.text) : first = second := by
  -- Reading both texts gives their fields and patterns; what is left over are the flags.
  have fields := congrArg (List.takeWhile (· != ':')) same
  have rests := congrArg (List.dropWhile (· != ':')) same
  unfold text at fields rests
  rw [takeWhile_field _ _ proper.fieldPlain, takeWhile_field _ _ other.fieldPlain] at fields
  rw [dropWhile_field _ _ proper.fieldPlain, dropWhile_field _ _ other.fieldPlain] at rests
  have read (parts : Parts) (proper : parts.Proper) :
      (take (escape parts.pattern ++ flagSection parts.flags)).text = parts.pattern := by
    by_cases someFlags : parts.flags = []
    next => simp [flagSection, someFlags, take_escape]
    next => rw [flagSection_of_ne _ someFlags, take_escape_colon _ _ proper.single_colon]
  have patterns := congrArg (fun text => (take text).text) (List.cons.inj rests).2
  simp only [read first proper, read second other] at patterns
  have sections := (List.cons.inj rests).2
  rw [patterns, List.append_cancel_left_eq] at sections
  have flags : first.flags = second.flags := by
    unfold flagSection at sections
    by_cases noneFirst : first.flags = [] <;> by_cases noneSecond : second.flags = [] <;>
      simp_all
  obtain ⟨_, _, _⟩ := first
  obtain ⟨_, _, _⟩ := second
  simp_all

theorem parse_eq_ok (raw : String) (condition : Condition) :
    parse raw = .ok condition <->
      ∃ operator parts, Reads raw.toList operator parts /\ parts.meaning operator = condition := by
  obtain ⟨operator, rest, opens⟩ := opens_total raw.toList
  unfold parse
  rw [mapError_eq_ok, readAfterOperator_of_opens _ _ _ opens, readBody_eq_ok]
  constructor
  next =>
    rintro ⟨parts, proper, rfl, means⟩
    exact ⟨operator, parts, ⟨opens, proper⟩, means⟩
  next =>
    rintro ⟨other, parts, ⟨again, proper⟩, means⟩
    obtain ⟨rfl, same⟩ := opens_unique _ _ _ _ _ opens again
    exact ⟨parts, proper, same.symm, means⟩

theorem reads_unique (raw : List Char) (first second : Operator) (parts other : Parts)
    (reads : Reads raw first parts) (again : Reads raw second other) :
    first = second /\ parts = other := by
  obtain ⟨same, texts⟩ := opens_unique raw _ _ first second reads.1 again.1
  exact ⟨same, Parts.text_injective reads.2 again.2 texts⟩

theorem parse_error (raw : String) (error : SyntaxError) (refused : parse raw = .error error) :
    error.condition = raw.toList /\ error.index <= raw.length := by
  obtain ⟨operator, rest, opens⟩ := opens_total raw.toList
  have whole := opens_length _ _ _ opens
  unfold parse at refused
  rw [readAfterOperator_of_opens _ _ _ opens] at refused
  cases done : readBody operator (operatorWidth raw.toList rest) rest with
  | ok condition =>
    rw [done] at refused
    cases refused
  | error stopped =>
    obtain ⟨index, flaw⟩ := stopped
    rw [done] at refused
    cases refused
    have within := readBody_error operator _ rest index flaw done
    refine ⟨rfl, ?_⟩
    rw [← String.length_toList, ← whole]
    exact within

/-- A text is read as a condition just when the grammar has a reading of it, which is then the only
one and says what the condition is; any other text is refused, at a place within it. -/
theorem parse_accepts_grammar (raw : String) :
    (∀ condition, parse raw = .ok condition <->
      ∃ operator parts, Reads raw.toList operator parts /\ parts.meaning operator = condition) /\
    (∀ first second parts other, Reads raw.toList first parts -> Reads raw.toList second other ->
      first = second /\ parts = other) /\
    ((¬ ∃ operator parts, Reads raw.toList operator parts) ->
      ∃ error, parse raw = .error error /\ error.condition = raw.toList /\
        error.index <= raw.length) := by
  refine ⟨parse_eq_ok raw, reads_unique raw.toList, fun unread => ?_⟩
  cases done : parse raw with
  | ok condition =>
    obtain ⟨operator, parts, reads, _⟩ := (parse_eq_ok raw condition).1 done
    exact absurd ⟨operator, parts, reads⟩ unread
  | error error => exact ⟨error, rfl, parse_error raw error done⟩

end BibEdit.Condition
