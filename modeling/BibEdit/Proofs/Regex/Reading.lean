import BibEdit.Proofs.Success
import BibEdit.Regex.Reader
import Mathlib.Data.List.TakeWhile

set_option autoImplicit false

/-! What the steps of the reader pass over when they succeed. -/

namespace BibEdit.Regex

namespace Reader

variable {α β : Type} {reading after : Reading}

theorem bind_ok {x : Reader α} {f : α -> Reader β} {result : β} :
    (x >>= f) reading = .ok (result, after) <->
      ∃ value middle, x reading = .ok (value, middle) /\ f value middle = .ok (result, after) := by
  show (x reading >>= fun pair => f pair.1 pair.2) = _ <-> _
  rw [bind_eq_ok]
  constructor
  next =>
    rintro ⟨⟨value, middle⟩, first, second⟩
    exact ⟨value, middle, first, second⟩
  next =>
    rintro ⟨value, middle, first, second⟩
    exact ⟨(value, middle), first, second⟩

theorem pure_ok {value result : α} :
    (pure value : Reader α) reading = .ok (result, after) <-> value = result /\ reading = after := by
  show Except.ok (value, reading) = _ <-> _
  simp

theorem get_ok {result : Reading} :
    (get : Reader Reading) reading = .ok (result, after) <-> reading = result /\ reading = after := by
  show Except.ok (reading, reading) = _ <-> _
  simp

theorem set_ok {value : Reading} {result : PUnit} :
    (set value : Reader PUnit) reading = .ok (result, after) <-> value = after := by
  show Except.ok (PUnit.unit, value) = _ <-> _
  simp

theorem modify_ok {change : Reading -> Reading} {result : PUnit} :
    (modify change : Reader PUnit) reading = .ok (result, after) <-> change reading = after := by
  show Except.ok (PUnit.unit, change reading) = _ <-> _
  simp

theorem throw_ok {error : Error} {result : α} :
    ¬ (throw error : Reader α) reading = .ok (result, after) := by
  show ¬ Except.error error = _
  simp

theorem fail_ok {flaw : Flaw} {back : Nat} {result : α} :
    ¬ (fail flaw back : Reader α) reading = .ok (result, after) := by
  unfold fail
  rw [bind_ok]
  rintro ⟨_, _, _, thrown⟩
  exact throw_ok thrown

theorem failAt_ok {flaw : Flaw} {position : Nat} {result : α} :
    ¬ (failAt flaw position : Reader α) reading = .ok (result, after) := throw_ok

end Reader

/-- From one reading to a later one these tokens are passed over, and the flags stay. -/
structure Reading.Passes (passed : List Token) (before after : Reading) : Prop where
  tokens : before.tokens = passed ++ after.tokens
  dangling : after.dangling = before.dangling
  flags : after.flags = before.flags

theorem tokensText_append (first second : List Token) :
    tokensText (first ++ second) = tokensText first ++ tokensText second := by
  simp [tokensText]

namespace Reading

theorem Passes.refl (reading : Reading) : Passes [] reading reading := ⟨rfl, rfl, rfl⟩

theorem Passes.trans {first second : List Token} {before middle after : Reading}
    (here : Passes first before middle) (there : Passes second middle after) :
    Passes (first ++ second) before after where
  tokens := by rw [here.tokens, there.tokens, List.append_assoc]
  dangling := there.dangling.trans here.dangling
  flags := there.flags.trans here.flags

end Reading

namespace Reader

open Reading

variable {reading after : Reading}

theorem peek_ok {token : Option Token} :
    peek reading = .ok (token, after) <-> reading.tokens.head? = token /\ reading = after := by
  unfold peek
  simp only [bind_ok, get_ok, pure_ok]
  constructor
  next =>
    rintro ⟨_, _, ⟨rfl, rfl⟩, rfl, rfl⟩
    exact ⟨rfl, rfl⟩
  next =>
    rintro ⟨rfl, rfl⟩
    exact ⟨_, _, ⟨rfl, rfl⟩, rfl, rfl⟩

theorem skip_ok {count : Nat} {passed : List Token} (ran : skip count reading = .ok (passed, after)) :
    passed = reading.tokens.take count /\ Passes passed reading after := by
  unfold skip at ran
  obtain ⟨_, _, got, ran⟩ := bind_ok.1 ran
  obtain ⟨rfl, rfl⟩ := get_ok.1 got
  split at ran
  next => exact absurd ran failAt_ok
  next =>
    obtain ⟨_, _, stored, ran⟩ := bind_ok.1 ran
    have is := set_ok.1 stored
    obtain ⟨rfl, rfl⟩ := pure_ok.1 ran
    rw [← is]
    exact ⟨rfl, (List.take_append_drop _ _).symm, rfl, rfl⟩

theorem next_ok {token : Option Token} (ran : next reading = .ok (token, after)) :
    (token = none /\ reading.tokens = []) \/ ∃ passed, token = some passed /\
      Passes [passed] reading after := by
  unfold next at ran
  obtain ⟨passed, _, skipped, ran⟩ := bind_ok.1 ran
  obtain ⟨rfl, rfl⟩ := pure_ok.1 ran
  obtain ⟨is, passes⟩ := skip_ok skipped
  cases someLeft : reading.tokens with
  | nil =>
    rw [is, someLeft]
    exact .inl ⟨rfl, rfl⟩
  | cons head tail =>
    rw [someLeft] at is
    have one : passed = [head] := by simpa using is
    rw [one] at passes ⊢
    exact .inr ⟨head, rfl, passes⟩

theorem accept_ok {c : Char} {accepted : Bool}
    (ran : accept c reading = .ok (accepted, after)) :
    (accepted = true /\ Passes [.plain c] reading after) \/
      (accepted = false /\ reading = after /\ reading.tokens.head? ≠ some (.plain c)) := by
  unfold accept at ran
  obtain ⟨head, _, peeked, ran⟩ := bind_ok.1 ran
  obtain ⟨rfl, rfl⟩ := peek_ok.1 peeked
  split at ran
  next here =>
    obtain ⟨passed, _, skipped, ran⟩ := bind_ok.1 ran
    obtain ⟨rfl, rfl⟩ := pure_ok.1 ran
    obtain ⟨is, passes⟩ := skip_ok skipped
    cases someLeft : reading.tokens with
    | nil =>
      rw [someLeft] at here
      cases here
    | cons head tail =>
      rw [someLeft] at here is
      have same : head = .plain c := by simpa using here
      rw [same] at is
      have one : passed = [.plain c] := by simpa using is
      rw [one] at passes
      exact .inl ⟨rfl, passes⟩
  next other =>
    obtain ⟨rfl, rfl⟩ := pure_ok.1 ran
    exact .inr ⟨rfl, rfl, by simpa using other⟩

theorem plain_of_all (test : Char -> Bool) (tokens : List Token)
    (all : ∀ token ∈ tokens, isPlain test token = true) :
    tokens = (tokensText tokens).map .plain /\ ∀ c ∈ tokensText tokens, test c = true := by
  induction tokens with
  | nil => simp [tokensText]
  | cons token rest ih =>
    obtain ⟨same, each⟩ := ih fun other member => all other (List.mem_cons_of_mem _ member)
    have here := all token (by simp)
    cases token with
    | escaped c => cases here
    | plain c =>
      have split : tokensText (.plain c :: rest) = c :: tokensText rest := rfl
      rw [split, List.map_cons, ← same]
      refine ⟨rfl, fun d member => ?_⟩
      rcases List.mem_cons.1 member with rfl | later
      next => exact here
      next => exact each d later

theorem tokensText_plain (text : List Char) : tokensText (text.map .plain) = text := by
  induction text with
  | nil => rfl
  | cons c rest ih =>
    show c :: tokensText (rest.map .plain) = c :: rest
    rw [ih]

theorem runOf_ok {most : Nat} {test : Char -> Bool} {text : List Char}
    (ran : runOf most test reading = .ok (text, after)) :
    Passes (text.map .plain) reading after /\ (∀ c ∈ text, test c = true) /\
      text.map .plain = (reading.tokens.take most).takeWhile (isPlain test) := by
  unfold runOf at ran
  obtain ⟨_, _, got, ran⟩ := bind_ok.1 ran
  obtain ⟨rfl, rfl⟩ := get_ok.1 got
  obtain ⟨passed, _, skipped, ran⟩ := bind_ok.1 ran
  obtain ⟨rfl, rfl⟩ := pure_ok.1 ran
  obtain ⟨is, passes⟩ := skip_ok skipped
  have within : (reading.tokens.take most).takeWhile (isPlain test) <+: reading.tokens :=
    (List.takeWhile_prefix _).trans (List.take_prefix _ _)
  rw [← List.prefix_iff_eq_take.1 within] at is
  obtain ⟨plain, all⟩ := plain_of_all test passed (by
    rw [is]
    exact fun token member => List.mem_takeWhile_imp member)
  rw [← plain]
  exact ⟨passes, all, is⟩

theorem takeWhile_stops {α : Type} (test : α -> Bool) (items : List α)
    (more : (items.takeWhile test).length < items.length) :
    ∃ item rest, items = items.takeWhile test ++ item :: rest /\ test item = false := by
  induction items with
  | nil => cases more
  | cons head tail ih =>
    by_cases passes : test head = true
    next =>
      rw [List.takeWhile_cons_of_pos passes] at more ⊢
      obtain ⟨item, rest, split, stops⟩ := ih (by simpa using more)
      exact ⟨item, rest, congrArg (head :: ·) split, stops⟩
    next =>
      rw [List.takeWhile_cons_of_neg passes]
      exact ⟨head, tail, rfl, by simpa using passes⟩

theorem skipThrough_ok {terminator : Char} {inner passed : List Token}
    (innerIs : reading.tokens.takeWhile (· != .plain terminator) = inner)
    (more : inner.length < reading.tokens.length)
    (ran : skip (inner.length + 1) reading = .ok (passed, after)) :
    Passes (inner ++ [.plain terminator]) reading after /\ .plain terminator ∉ inner := by
  obtain ⟨is, passes⟩ := skip_ok ran
  subst innerIs
  obtain ⟨item, rest, split, stop⟩ := takeWhile_stops (· != .plain terminator) reading.tokens more
  have last : item = .plain terminator := by simpa using stop
  generalize innerIs : reading.tokens.takeWhile (· != .plain terminator) = inner at is split
  have ends : passed = inner ++ [.plain terminator] := by
    rw [is, split, last, List.take_append, List.take_of_length_le (Nat.le_succ _),
      Nat.add_sub_cancel_left]
    rfl
  refine ⟨by rwa [ends] at passes, fun member => ?_⟩
  rw [← innerIs] at member
  simpa using List.mem_takeWhile_imp member

theorem upTo_ok {terminator : Char} {what : String} {text : List Char}
    (ran : upTo terminator what reading = .ok (text, after)) :
    ∃ inner, Passes (inner ++ [.plain terminator]) reading after /\ text = tokensText inner /\
      .plain terminator ∉ inner := by
  unfold upTo at ran
  obtain ⟨_, _, got, ran⟩ := bind_ok.1 ran
  obtain ⟨rfl, rfl⟩ := get_ok.1 got
  generalize innerIs : reading.tokens.takeWhile (· != .plain terminator) = inner at ran
  split at ran
  next more =>
    obtain ⟨passed, _, skipped, ran⟩ := bind_ok.1 ran
    obtain ⟨passes, absent⟩ := skipThrough_ok innerIs more skipped
    split at ran
    next => exact absurd ran fail_ok
    next =>
      obtain ⟨rfl, rfl⟩ := pure_ok.1 ran
      exact ⟨inner, passes, rfl, absent⟩
  next =>
    obtain ⟨_, _, _, ran⟩ := bind_ok.1 ran
    split at ran
    next => exact absurd ran fail_ok
    next => exact absurd ran fail_ok

end Reader

open Reader Reading

variable {reading after : Reading}

theorem hexEscape_ok {c : Char} {count code : Nat}
    (ran : hexEscape c count reading = .ok (code, after)) :
    ∃ digits : List Char, Passes (digits.map .plain) reading after /\ digits.length = count /\
      ∀ d ∈ digits, Text.isHexDigit d = true := by
  unfold hexEscape at ran
  obtain ⟨digits, _, run, ran⟩ := bind_ok.1 ran
  obtain ⟨passes, all, _⟩ := runOf_ok run
  split at ran
  next enough =>
    dsimp only at ran
    split at ran
    next =>
      obtain ⟨rfl, rfl⟩ := pure_ok.1 ran
      exact ⟨digits, passes, enough, all⟩
    next => exact absurd ran fail_ok
  next => exact absurd ran fail_ok

theorem namedEscape_ok {code : Nat} (ran : namedEscape reading = .ok (code, after)) :
    ∃ inner, Passes (.plain '\x7b' :: inner ++ [.plain '\x7d']) reading after /\
      Unicode.named? (tokensText inner) = some code := by
  unfold namedEscape at ran
  obtain ⟨accepted, middle, opened, ran⟩ := bind_ok.1 ran
  rcases accept_ok opened with ⟨rfl, brace⟩ | ⟨rfl, _, _⟩
  next =>
    obtain ⟨name, _, read, ran⟩ := bind_ok.1 ran
    obtain ⟨inner, passes, rfl, _⟩ := upTo_ok read
    cases found : Unicode.named? (tokensText inner) with
    | none =>
      rw [found] at ran
      exact absurd ran fail_ok
    | some known =>
      rw [found] at ran
      obtain ⟨rfl, rfl⟩ := pure_ok.1 ran
      exact ⟨inner, brace.trans passes, found⟩
  next => exact absurd ran fail_ok

theorem octalEscape_ok {digits : List Char} {code : Nat}
    (ran : octalEscape digits reading = .ok (code, after)) : reading = after := by
  unfold octalEscape at ran
  split at ran
  next => exact absurd ran fail_ok
  next => exact (pure_ok.1 ran).2

theorem otherEscape_ok {c : Char} {code : Nat} (ran : otherEscape c reading = .ok (code, after)) :
    isAsciiAlpha c = false /\ reading = after := by
  unfold otherEscape at ran
  split at ran
  next => exact absurd ran fail_ok
  next other => exact ⟨by simpa using other, (pure_ok.1 ran).2⟩

theorem checkLookBehind_ok {group : Nat} {done : Unit}
    (ran : checkLookBehind group reading = .ok (done, after)) : reading = after := by
  unfold checkLookBehind at ran
  obtain ⟨_, _, got, ran⟩ := bind_ok.1 ran
  obtain ⟨rfl, rfl⟩ := get_ok.1 got
  cases outer : reading.lookBehindGroups with
  | none =>
    rw [outer] at ran
    exact (pure_ok.1 ran).2
  | some limit =>
    rw [outer] at ran
    dsimp only at ran
    split at ran
    next => exact absurd ran fail_ok
    next =>
      split at ran
      next => exact absurd ran fail_ok
      next => exact (pure_ok.1 ran).2

theorem numberedReference_ok {flags : Flags} {group width : Nat} {node : Node}
    (ran : numberedReference flags group width reading = .ok (node, after)) : reading = after := by
  unfold numberedReference at ran
  obtain ⟨_, _, got, ran⟩ := bind_ok.1 ran
  obtain ⟨rfl, rfl⟩ := get_ok.1 got
  split at ran
  next => exact absurd ran fail_ok
  next =>
    split at ran
    next => exact absurd ran fail_ok
    next =>
      obtain ⟨_, _, checked, ran⟩ := bind_ok.1 ran
      rw [checkLookBehind_ok checked]
      exact (pure_ok.1 ran).2

theorem isAsciiDigit_of_octal (c : Char) (octal : Text.isOctalDigit c = true) :
    Text.isAsciiDigit c = true := by
  simp only [Text.isOctalDigit, Text.isAsciiDigit, Bool.and_eq_true, decide_eq_true_eq] at octal ⊢
  exact ⟨octal.1, Char.le_trans octal.2 (by decide)⟩

theorem digitEscape_ok {flags : Flags} {c : Char} {node : Node}
    (ran : digitEscape flags c reading = .ok (node, after)) :
    ∃ digits : List Char, Passes (digits.map .plain) reading after /\
      ∀ d ∈ digits, Text.isAsciiDigit d = true := by
  unfold digitEscape at ran
  obtain ⟨second, middle, run, ran⟩ := bind_ok.1 ran
  obtain ⟨passes, all, _⟩ := runOf_ok run
  cases second with
  | nil =>
    rw [← numberedReference_ok ran]
    exact ⟨[], passes, by simp⟩
  | cons head tail =>
    dsimp only at ran
    generalize head :: tail = second at passes all ran
    by_cases more : (Text.isOctalDigit c && second.all Text.isOctalDigit) = true
    next =>
      rw [if_pos more] at ran
      obtain ⟨third, last, runThird, ran⟩ := bind_ok.1 ran
      obtain ⟨passesThird, octal, _⟩ := runOf_ok runThird
      have both : Passes ((second ++ third).map .plain) reading last := by
        rw [List.map_append]
        exact passes.trans passesThird
      refine ⟨second ++ third, ?_, fun d member => (List.mem_append.1 member).elim (all d)
        fun later => isAsciiDigit_of_octal d (octal d later)⟩
      split at ran
      next =>
        rw [← numberedReference_ok ran]
        exact both
      next =>
        obtain ⟨_, _, read, ran⟩ := bind_ok.1 ran
        rw [← (pure_ok.1 ran).2, ← octalEscape_ok read]
        exact both
    next =>
      rw [if_neg more] at ran
      obtain ⟨third, last, noneRead, ran⟩ := bind_ok.1 ran
      obtain ⟨rfl, rfl⟩ := pure_ok.1 noneRead
      refine ⟨second, ?_, all⟩
      split at ran
      next =>
        rw [← numberedReference_ok ran]
        exact passes
      next =>
        obtain ⟨_, _, read, ran⟩ := bind_ok.1 ran
        rw [← (pure_ok.1 ran).2, ← octalEscape_ok read]
        exact passes

inductive EscapeRest : Char -> List Token -> Prop where
  | hex (c : Char) (digits : List Char)
      (count : (c, digits.length) ∈ [('x', 2), ('u', 4), ('U', 8)])
      (all : ∀ d ∈ digits, Text.isHexDigit d = true) : EscapeRest c (digits.map .plain)
  | named (inner : List Token) (code : Nat) (found : Unicode.named? (tokensText inner) = some code) :
      EscapeRest 'N' (.plain '\x7b' :: inner ++ [.plain '\x7d'])
  | digits (c : Char) (digits : List Char) (first : Text.isAsciiDigit c = true)
      (all : ∀ d ∈ digits, Text.isAsciiDigit d = true) : EscapeRest c (digits.map .plain)
  | none (c : Char) (plain : c ∉ ['x', 'u', 'U', 'N']) (notDigit : Text.isAsciiDigit c = false) :
      EscapeRest c []

theorem escapeRest_classEscape (c : Char) (member : Member) (found : classEscape? c = some member) :
    EscapeRest c [] := by
  unfold classEscape? at found
  split at found
  all_goals first
    | exact .none _ (by decide) (by decide)
    | cases found

theorem escapeRest_controlEscape (c : Char) (code : Nat) (found : controlEscape? c = some code) :
    EscapeRest c [] := by
  unfold controlEscape? at found
  split at found
  all_goals first
    | exact .none _ (by decide) (by decide)
    | cases found

theorem escapeRest_anchorEscape (ascii : Bool) (c : Char) (kind : Anchor)
    (found : anchorEscape? ascii c = some kind) : EscapeRest c [] := by
  unfold anchorEscape? at found
  split at found
  all_goals first
    | exact .none _ (by decide) (by decide)
    | cases found

theorem escapeRest_other (c : Char) (notAlpha : isAsciiAlpha c = false)
    (notDigit : Text.isAsciiDigit c = false) : EscapeRest c [] := by
  refine .none c ?_ notDigit
  intro member
  simp only [List.mem_cons, List.not_mem_nil, or_false] at member
  rcases member with rfl | rfl | rfl | rfl
  all_goals exact absurd notAlpha (by decide)

section Escapes

variable {α : Type} {wrap : Nat -> α} {c : Char} {result : α}

theorem hexEscape_rest {count : Nat} (listed : (c, count) ∈ [('x', 2), ('u', 4), ('U', 8)])
    (ran : (hexEscape c count >>= fun code => pure (wrap code)) reading = .ok (result, after)) :
    ∃ more, Passes more reading after /\ EscapeRest c more := by
  obtain ⟨_, _, read, ran⟩ := bind_ok.1 ran
  obtain ⟨_, rfl⟩ := pure_ok.1 ran
  obtain ⟨digits, passes, length, all⟩ := hexEscape_ok read
  exact ⟨_, passes, .hex c digits (by rwa [length]) all⟩

theorem namedEscape_rest
    (ran : (namedEscape >>= fun code => pure (wrap code)) reading = .ok (result, after)) :
    ∃ more, Passes more reading after /\ EscapeRest 'N' more := by
  obtain ⟨code, _, read, ran⟩ := bind_ok.1 ran
  obtain ⟨_, rfl⟩ := pure_ok.1 ran
  obtain ⟨inner, passes, found⟩ := namedEscape_ok read
  exact ⟨_, passes, .named inner code found⟩

theorem otherEscape_rest (notDigit : ¬ Text.isAsciiDigit c = true)
    (ran : (otherEscape c >>= fun code => pure (wrap code)) reading = .ok (result, after)) :
    ∃ more, Passes more reading after /\ EscapeRest c more := by
  obtain ⟨_, _, read, ran⟩ := bind_ok.1 ran
  obtain ⟨_, rfl⟩ := pure_ok.1 ran
  obtain ⟨notAlpha, rfl⟩ := otherEscape_ok read
  exact ⟨[], Passes.refl _, escapeRest_other c notAlpha (by simpa using notDigit)⟩

end Escapes

theorem nodeEscape_ok {flags : Flags} {c : Char} {node : Node}
    (ran : nodeEscape flags c reading = .ok (node, after)) :
    ∃ more, Passes more reading after /\ EscapeRest c more := by
  unfold nodeEscape at ran
  cases cls : classEscape? c with
  | some member =>
    rw [cls] at ran
    obtain ⟨_, rfl⟩ := pure_ok.1 ran
    exact ⟨[], Passes.refl _, escapeRest_classEscape c member cls⟩
  | none =>
    cases control : controlEscape? c with
    | some code =>
      rw [cls, control] at ran
      obtain ⟨_, rfl⟩ := pure_ok.1 ran
      exact ⟨[], Passes.refl _, escapeRest_controlEscape c code control⟩
    | none =>
      rw [cls, control] at ran
      dsimp only at ran
      split_ifs at ran with two four eight named zero digit
      next => exact hexEscape_rest (by simp [eq_of_beq two]) ran
      next => exact hexEscape_rest (by simp [eq_of_beq four]) ran
      next => exact hexEscape_rest (by simp [eq_of_beq eight]) ran
      next =>
        rw [eq_of_beq named]
        exact namedEscape_rest ran
      next =>
        obtain ⟨digits, _, run, ran⟩ := bind_ok.1 ran
        obtain ⟨_, rfl⟩ := pure_ok.1 ran
        obtain ⟨passes, octal, _⟩ := runOf_ok run
        rw [eq_of_beq zero]
        exact ⟨_, passes, .digits '0' digits (by decide)
          fun d member => isAsciiDigit_of_octal d (octal d member)⟩
      next =>
        obtain ⟨digits, passes, all⟩ := digitEscape_ok ran
        exact ⟨_, passes, .digits c digits digit all⟩
      next => exact otherEscape_rest digit ran

theorem escapedPiece_ok {flags : Flags} {c : Char} {piece : Piece}
    (ran : escapedPiece flags c reading = .ok (piece, after)) :
    ∃ more, Passes more reading after /\ EscapeRest c more := by
  unfold escapedPiece at ran
  cases anchor : anchorEscape? flags.ascii c with
  | some kind =>
    rw [anchor] at ran
    obtain ⟨_, rfl⟩ := pure_ok.1 ran
    exact ⟨[], Passes.refl _, escapeRest_anchorEscape _ c kind anchor⟩
  | none =>
    rw [anchor] at ran
    obtain ⟨_, _, read, ran⟩ := bind_ok.1 ran
    obtain ⟨_, rfl⟩ := pure_ok.1 ran
    exact nodeEscape_ok read

theorem memberEscape_ok {c : Char} {member : Member}
    (ran : memberEscape c reading = .ok (member, after)) :
    ∃ more, Passes more reading after /\ EscapeRest c more := by
  unfold memberEscape at ran
  cases control : controlEscape? c with
  | some code =>
    rw [control] at ran
    obtain ⟨_, rfl⟩ := pure_ok.1 ran
    exact ⟨[], Passes.refl _, escapeRest_controlEscape c code control⟩
  | none =>
    cases cls : classEscape? c with
    | some found =>
      rw [control, cls] at ran
      obtain ⟨_, rfl⟩ := pure_ok.1 ran
      exact ⟨[], Passes.refl _, escapeRest_classEscape c found cls⟩
    | none =>
      rw [control, cls] at ran
      dsimp only at ran
      split_ifs at ran with two four eight named first digit
      next => exact hexEscape_rest (by simp [eq_of_beq two]) ran
      next => exact hexEscape_rest (by simp [eq_of_beq four]) ran
      next => exact hexEscape_rest (by simp [eq_of_beq eight]) ran
      next =>
        rw [eq_of_beq named]
        exact namedEscape_rest ran
      next =>
        obtain ⟨digits, _, run, ran⟩ := bind_ok.1 ran
        obtain ⟨_, _, read, ran⟩ := bind_ok.1 ran
        obtain ⟨_, rfl⟩ := pure_ok.1 ran
        obtain ⟨passes, octal, _⟩ := runOf_ok run
        rw [← octalEscape_ok read]
        exact ⟨_, passes, .digits c digits (isAsciiDigit_of_octal c first)
          fun d member => isAsciiDigit_of_octal d (octal d member)⟩
      next => exact absurd ran fail_ok
      next => exact otherEscape_rest digit ran

theorem mem_tokensText (c : Char) (tokens : List Token) (member : Token.plain c ∈ tokens) :
    c ∈ tokensText tokens := by
  rw [tokensText, List.mem_flatMap]
  exact ⟨_, member, by simp [Token.text]⟩

theorem plain_of_mem_map (c : Char) (text : List Char)
    (member : Token.plain c ∈ text.map Token.plain) : c ∈ text := by
  obtain ⟨d, among, same⟩ := List.mem_map.1 member
  cases same
  exact among

theorem EscapeRest.no_bracket (c : Char) (more : List Token) (rest : EscapeRest c more) :
    Token.plain ']' ∉ more := by
  intro member
  cases rest with
  | hex c digits count all => exact absurd (all ']' (plain_of_mem_map _ _ member)) (by decide)
  | named inner code found =>
    have within : Token.plain ']' ∈ inner := by simpa using member
    have named := Unicode.named?_nameChar _ _ found ']' (mem_tokensText _ _ within)
    exact absurd named (by decide)
  | digits c digits first all => exact absurd (all ']' (plain_of_mem_map _ _ member)) (by decide)
  | none => cases member

theorem memberOf_ok {token : Token} {member : Member}
    (ran : memberOf token reading = .ok (member, after)) :
    ∃ more, Passes more reading after /\ Token.plain ']' ∉ more := by
  cases token with
  | plain c =>
    obtain ⟨_, rfl⟩ := pure_ok.1 ran
    exact ⟨[], Passes.refl _, List.not_mem_nil⟩
  | escaped c =>
    obtain ⟨more, passes, rest⟩ := memberEscape_ok ran
    exact ⟨more, passes, rest.no_bracket⟩

theorem rangeOf_ok {low high : Token} {first last result : Member}
    (ran : rangeOf low high first last reading = .ok (result, after)) : reading = after := by
  unfold rangeOf at ran
  cases first with
  | single a =>
    cases last with
    | single b =>
      dsimp only at ran
      split at ran
      next => exact absurd ran fail_ok
      next => exact (pure_ok.1 ran).2
    | _ => exact absurd ran fail_ok
  | _ => exact absurd ran fail_ok

theorem other_bound {α : Type} {missing closing : α} {bound : Token -> α} (c : Char)
    (other : c ≠ ']') :
    (match some (Token.plain c) with
      | none => missing
      | some (.plain ']') => closing
      | some token => bound token) = bound (.plain c) := by
  split
  next absent => cases absent
  next same =>
    cases same
    exact absurd rfl other
  next token _ same =>
    cases same
    rfl

theorem members_ok {here fuel : Nat} {soFar found : List Member}
    (ran : members here fuel soFar reading = .ok (found, after)) :
    ∃ inner, Passes (inner ++ [.plain ']']) reading after /\
      if soFar.isEmpty then ∃ first rest, inner = first :: rest /\ Token.plain ']' ∉ rest
      else Token.plain ']' ∉ inner := by
  induction fuel generalizing soFar reading with
  | zero => exact absurd ran failAt_ok
  | succ fuel ih =>
    unfold members at ran
    obtain ⟨token?, second, read, ran⟩ := bind_ok.1 ran
    rcases next_ok read with ⟨rfl, _⟩ | ⟨token, rfl, one⟩
    next => exact absurd ran failAt_ok
    next =>
      dsimp only at ran
      split at ran
      next ends =>
        obtain ⟨_, rfl⟩ := pure_ok.1 ran
        simp only [Bool.and_eq_true, beq_iff_eq, Bool.not_eq_true'] at ends
        obtain ⟨closing, given⟩ := ends
        rw [closing] at one
        rw [given]
        exact ⟨[], one, List.not_mem_nil⟩
      next goesOn =>
        have apart (rest : List Token) (clear : Token.plain ']' ∉ rest) :
            if soFar.isEmpty then ∃ first after, token :: rest = first :: after /\
                Token.plain ']' ∉ after
            else Token.plain ']' ∉ token :: rest := by
          split
          next => exact ⟨token, rest, rfl, clear⟩
          next given =>
            have other : token ≠ .plain ']' := by
              intro closing
              exact goesOn (by simp [closing, given])
            simp [clear, other.symm]
        obtain ⟨first, third, readFirst, ran⟩ := bind_ok.1 ran
        obtain ⟨more, passesFirst, clearFirst⟩ := memberOf_ok readFirst
        obtain ⟨accepted, fourth, dash, ran⟩ := bind_ok.1 ran
        rcases accept_ok dash with ⟨rfl, passesDash⟩ | ⟨rfl, rfl, _⟩
        next =>
          obtain ⟨bound?, fifth, readBound, ran⟩ := bind_ok.1 ran
          rcases next_ok readBound with ⟨rfl, _⟩ | ⟨bound, rfl, passesBound⟩
          next => exact absurd ran failAt_ok
          next =>
            have passesDashed := one.trans (passesFirst.trans passesDash)
            by_cases ends : bound = .plain ']'
            next =>
              rw [ends] at ran passesBound
              obtain ⟨_, rfl⟩ := pure_ok.1 ran
              refine ⟨token :: (more ++ [.plain '-']), ?_, apart _ ?_⟩
              next => simpa using passesDashed.trans passesBound
              next => simpa using clearFirst
            next =>
              have ran : (memberOf bound >>= fun last =>
                  rangeOf token bound first last >>= fun range =>
                    members here fuel (range :: soFar)) fifth = .ok (found, after) := by
                cases bound with
                | escaped c => exact ran
                | plain c => exact (congrFun (other_bound c fun same => ends (by rw [same]))
                    fifth).symm.trans ran
              obtain ⟨last, sixth, readLast, ran⟩ := bind_ok.1 ran
              obtain ⟨moreLast, passesLast, clearLast⟩ := memberOf_ok readLast
              obtain ⟨range, seventh, ranged, ran⟩ := bind_ok.1 ran
              rw [rangeOf_ok ranged] at passesLast
              obtain ⟨inner, passes, clear⟩ := ih ran
              have clear : Token.plain ']' ∉ inner := clear
              refine ⟨token :: (more ++ .plain '-' :: bound :: (moreLast ++ inner)), ?_, apart _ ?_⟩
              next => simpa using passesDashed.trans (passesBound.trans (passesLast.trans passes))
              next => simp [clearFirst, clearLast, clear, Ne.symm ends]
        next =>
          obtain ⟨inner, passes, clear⟩ := ih ran
          have clear : Token.plain ']' ∉ inner := clear
          refine ⟨token :: (more ++ inner), ?_, apart _ ?_⟩
          next => simpa using one.trans (passesFirst.trans passes)
          next => simp [clearFirst, clear]

theorem bracketed_ok {flags : Flags} {node : Node}
    (ran : bracketed flags reading = .ok (node, after)) :
    ∃ caret first rest, Passes (caret ++ first :: rest ++ [.plain ']']) reading after /\
      Token.plain ']' ∉ rest /\
      (caret = [.plain '^'] \/ caret = [] /\ first ≠ .plain '^') := by
  unfold bracketed at ran
  obtain ⟨_, _, got, ran⟩ := bind_ok.1 ran
  obtain ⟨rfl, rfl⟩ := get_ok.1 got
  obtain ⟨negated, second, caret, ran⟩ := bind_ok.1 ran
  obtain ⟨_, _, got, ran⟩ := bind_ok.1 ran
  obtain ⟨rfl, rfl⟩ := get_ok.1 got
  obtain ⟨found, third, read, ran⟩ := bind_ok.1 ran
  obtain ⟨inner, passes, first, rest, rfl, clear⟩ := members_ok read
  rw [(pure_ok.1 ran).2] at passes
  rcases accept_ok caret with ⟨_, passesCaret⟩ | ⟨_, rfl, other⟩
  next => exact ⟨_, first, rest, passesCaret.trans passes, clear, .inl rfl⟩
  next =>
    refine ⟨[], first, rest, passes, clear, .inr ⟨rfl, fun same => other ?_⟩⟩
    rw [passes.tokens, same]
    rfl

theorem countOf_ok {digits : List Char} {value : Nat}
    (ran : countOf digits reading = .ok (value, after)) :
    Text.runValue digits = .ok value /\ reading = after := by
  unfold countOf at ran
  cases read : Text.runValue digits with
  | error numeral =>
    rw [read] at ran
    exact absurd ran throw_ok
  | ok number =>
    rw [read] at ran
    dsimp only at ran
    split at ran
    next => exact absurd ran throw_ok
    next =>
      obtain ⟨rfl, rfl⟩ := pure_ok.1 ran
      exact ⟨rfl, rfl⟩

theorem bounds_ok {here : Nat} {low high : List Char} {count : Count}
    (ran : bounds here low high reading = .ok (count, after)) :
    reading = after /\
      if low.isEmpty then count.least = 0 else Text.runValue low = .ok count.least := by
  unfold bounds at ran
  have closed (least : Nat) (second : Reading)
      (ran : (if high.isEmpty then pure ⟨least, none⟩
        else do
          let most <- countOf high
          if most < least then failAt .leastAboveMost here else return ⟨least, some most⟩ :
        Reader Count) second = .ok (count, after)) : count.least = least /\ second = after := by
    split at ran
    next =>
      obtain ⟨rfl, rfl⟩ := pure_ok.1 ran
      exact ⟨rfl, rfl⟩
    next =>
      obtain ⟨most, third, read, ran⟩ := bind_ok.1 ran
      obtain ⟨_, rfl⟩ := countOf_ok read
      split at ran
      next => exact absurd ran failAt_ok
      next =>
        obtain ⟨rfl, rfl⟩ := pure_ok.1 ran
        exact ⟨rfl, rfl⟩
  dsimp only at ran
  by_cases empty : low.isEmpty = true
  next =>
    rw [if_pos empty] at ran ⊢
    obtain ⟨least, second, zero, ran⟩ := bind_ok.1 ran
    obtain ⟨rfl, rfl⟩ := pure_ok.1 zero
    obtain ⟨same, ends⟩ := closed 0 reading ran
    exact ⟨ends, same⟩
  next =>
    rw [if_neg empty] at ran ⊢
    obtain ⟨least, second, read, ran⟩ := bind_ok.1 ran
    obtain ⟨value, rfl⟩ := countOf_ok read
    obtain ⟨same, ends⟩ := closed least reading ran
    rw [same]
    exact ⟨ends, value⟩

theorem highDigits_ok {comma : Bool} {low high : List Char}
    (ran : highDigits comma low reading = .ok (high, after)) :
    ∃ more : List Char, Passes (more.map .plain) reading after /\
      (∀ d ∈ more, Text.isAsciiDigit d = true) /\
      (comma = true -> high = more /\
        more.map .plain = reading.tokens.takeWhile (isPlain Text.isAsciiDigit)) /\
      (comma = false -> more = [] /\ high = low) := by
  unfold highDigits at ran
  cases comma with
  | true =>
    rw [if_pos rfl] at ran
    obtain ⟨_, _, got, ran⟩ := bind_ok.1 ran
    obtain ⟨rfl, rfl⟩ := get_ok.1 got
    obtain ⟨passes, digits, is⟩ := runOf_ok ran
    rw [List.take_length] at is
    exact ⟨high, passes, digits, fun _ => ⟨rfl, is⟩, nofun⟩
  | false =>
    obtain ⟨rfl, rfl⟩ := pure_ok.1 ran
    exact ⟨[], Passes.refl _, by simp, nofun, fun _ => ⟨rfl, rfl⟩⟩

/-- A count between braces: its digits before the comma, if there is one, and after it. -/
structure BraceText (text low high : List Char) (comma : Bool) : Prop where
  is : text = low ++ (if comma then [','] else []) ++ high ++ ['\x7d']
  lowDigits : ∀ d ∈ low, Text.isAsciiDigit d = true
  highDigits : ∀ d ∈ high, Text.isAsciiDigit d = true
  given : comma = false -> low ≠ [] /\ high = []

theorem braceCount_some {count : Count}
    (ran : braceCount reading = .ok (some count, after)) :
    ∃ text low high comma, Passes (text.map .plain) reading after /\ BraceText text low high comma /\
      if low.isEmpty then count.least = 0 else Text.runValue low = .ok count.least := by
  unfold braceCount at ran
  obtain ⟨head, _, peeked, ran⟩ := bind_ok.1 ran
  obtain ⟨rfl, rfl⟩ := peek_ok.1 peeked
  split at ran
  next => cases (pure_ok.1 ran).1
  next notClosed =>
    obtain ⟨_, _, got, ran⟩ := bind_ok.1 ran
    obtain ⟨rfl, rfl⟩ := get_ok.1 got
    obtain ⟨low, second, runLow, ran⟩ := bind_ok.1 ran
    obtain ⟨passesLow, digitsLow, _⟩ := runOf_ok runLow
    obtain ⟨comma, third, accepted, ran⟩ := bind_ok.1 ran
    obtain ⟨high, fourth, runHigh, ran⟩ := bind_ok.1 ran
    obtain ⟨more, passesHigh, digitsHigh, _, alone⟩ := highDigits_ok runHigh
    obtain ⟨closed, fifth, closing, ran⟩ := bind_ok.1 ran
    rcases accept_ok closing with ⟨rfl, passesClosing⟩ | ⟨rfl, rfl, _⟩
    next =>
      obtain ⟨found, _, bounded, ran⟩ := bind_ok.1 ran
      obtain ⟨same, rfl⟩ := pure_ok.1 ran
      cases same
      obtain ⟨rfl, least⟩ := bounds_ok bounded
      have ends := passesHigh.trans passesClosing
      rcases accept_ok accepted with ⟨rfl, passesComma⟩ | ⟨rfl, rfl, _⟩
      next =>
        refine ⟨low ++ [','] ++ more ++ ['\x7d'], low, more, true, ?_,
          ⟨rfl, digitsLow, digitsHigh, nofun⟩, least⟩
        simpa using passesLow.trans (passesComma.trans ends)
      next =>
        obtain ⟨rfl, _⟩ := alone rfl
        have passes := passesLow.trans ends
        have someLow : low ≠ [] := by
          rintro rfl
          apply notClosed
          rw [passes.tokens]
          rfl
        exact ⟨low ++ ['\x7d'], low, [], false, by simpa using passes,
          ⟨by simp, digitsLow, by simp, fun _ => ⟨someLow, rfl⟩⟩, least⟩
    next =>
      obtain ⟨_, _, _, ran⟩ := bind_ok.1 ran
      cases (pure_ok.1 ran).1

theorem takeWhile_digits (digits : List Char) (c : Char) (rest : List Token)
    (all : ∀ d ∈ digits, Text.isAsciiDigit d = true) (other : Text.isAsciiDigit c = false) :
    (digits.map Token.plain ++ .plain c :: rest).takeWhile (isPlain Text.isAsciiDigit) =
      digits.map Token.plain := by
  rw [List.takeWhile_append_of_pos, List.takeWhile_cons_of_neg, List.append_nil]
  next => simp [isPlain, other]
  next =>
    intro token member
    obtain ⟨d, among, rfl⟩ := List.mem_map.1 member
    exact all d among

theorem BraceText.low_run {text low high : List Char} {comma : Bool}
    (brace : BraceText text low high comma) (rest : List Token) :
    ∃ behind, text.map .plain ++ rest = low.map .plain ++ behind /\
      (low.map .plain ++ behind).takeWhile (isPlain Text.isAsciiDigit) = low.map .plain /\
      behind = if comma then .plain ',' :: (high.map .plain ++ .plain '\x7d' :: rest)
        else .plain '\x7d' :: rest := by
  cases comma with
  | true =>
    refine ⟨_, ?_, takeWhile_digits low ',' _ brace.lowDigits (by decide), rfl⟩
    rw [brace.is]
    simp
  | false =>
    obtain ⟨_, rfl⟩ := brace.given rfl
    refine ⟨_, ?_, takeWhile_digits low '\x7d' _ brace.lowDigits (by decide), rfl⟩
    rw [brace.is]
    simp

theorem BraceText.not_closed {text low high : List Char} {comma : Bool}
    (brace : BraceText text low high comma) (rest : List Token) :
    (text.map Token.plain ++ rest).head? ≠ some (.plain '\x7d') := by
  intro closed
  rw [brace.is] at closed
  cases low with
  | cons d low =>
    have digit := brace.lowDigits d (by simp)
    have is : d = '\x7d' := by simpa using closed
    rw [is] at digit
    exact absurd digit (by decide)
  | nil =>
    cases comma with
    | true => exact absurd closed (by simp)
    | false => exact absurd rfl (brace.given rfl).1

theorem braceCount_none (ran : braceCount reading = .ok (none, after)) :
    reading = after /\ ∀ text low high comma, BraceText text low high comma ->
      ∀ rest, reading.tokens ≠ text.map .plain ++ rest := by
  unfold braceCount at ran
  obtain ⟨head, _, peeked, ran⟩ := bind_ok.1 ran
  obtain ⟨rfl, rfl⟩ := peek_ok.1 peeked
  split at ran
  next closed =>
    refine ⟨(pure_ok.1 ran).2, fun text low high comma brace rest tokens => ?_⟩
    rw [tokens] at closed
    exact brace.not_closed rest (eq_of_beq closed)
  next =>
    obtain ⟨_, _, got, ran⟩ := bind_ok.1 ran
    obtain ⟨rfl, rfl⟩ := get_ok.1 got
    obtain ⟨foundLow, second, runLow, ran⟩ := bind_ok.1 ran
    obtain ⟨passesLow, _, isLow⟩ := runOf_ok runLow
    rw [List.take_length] at isLow
    obtain ⟨foundComma, third, accepted, ran⟩ := bind_ok.1 ran
    obtain ⟨foundHigh, fourth, runHigh, ran⟩ := bind_ok.1 ran
    obtain ⟨more, passesHigh, _, withComma, withoutComma⟩ := highDigits_ok runHigh
    obtain ⟨closed, fifth, closing, ran⟩ := bind_ok.1 ran
    rcases accept_ok closing with ⟨rfl, _⟩ | ⟨rfl, rfl, notClosed⟩
    next =>
      obtain ⟨_, _, _, ran⟩ := bind_ok.1 ran
      cases (pure_ok.1 ran).1
    next =>
      obtain ⟨_, _, stored, ran⟩ := bind_ok.1 ran
      refine ⟨(set_ok.1 stored).trans (pure_ok.1 ran).2, ?_⟩
      intro text low high comma brace rest tokens
      -- The reader stopped at the same places: behind the digits, and at the comma if there is one.
      obtain ⟨behind, split, run, behindIs⟩ := brace.low_run rest
      rw [tokens, split, run] at isLow
      have secondIs : second.tokens = behind := by
        have both := passesLow.tokens
        rw [tokens, split, isLow] at both
        exact (List.append_cancel_left both).symm
      rw [behindIs] at secondIs
      cases comma with
      | true =>
        rcases accept_ok accepted with ⟨rfl, passesComma⟩ | ⟨rfl, rfl, noComma⟩
        next =>
          rw [passesComma.tokens] at secondIs
          have thirdIs : third.tokens = high.map .plain ++ .plain '\x7d' :: rest :=
            (List.cons.inj secondIs).2
          obtain ⟨_, isHigh⟩ := withComma rfl
          rw [thirdIs, takeWhile_digits high '\x7d' _ brace.highDigits (by decide)] at isHigh
          rw [passesHigh.tokens, isHigh] at thirdIs
          apply notClosed
          rw [List.append_cancel_left thirdIs]
          rfl
        next =>
          apply noComma
          rw [secondIs]
          rfl
      | false =>
        rcases accept_ok accepted with ⟨rfl, passesComma⟩ | ⟨rfl, rfl, _⟩
        next =>
          rw [passesComma.tokens] at secondIs
          cases secondIs
        next =>
          obtain ⟨rfl, _⟩ := withoutComma rfl
          apply notClosed
          have same : second.tokens = fourth.tokens := passesHigh.tokens
          rw [← same, secondIs]
          rfl

end BibEdit.Regex
