import BibEdit.Probe.Literal
import BibEdit.Proofs.Regex.Opening

set_option autoImplicit false

/-! The walk over a pattern passes over as much as the reader does. -/

namespace BibEdit.Literal

open Regex Regex.Reader Reading

theorem isAsciiDigit_iff (c : Char) :
    Text.isAsciiDigit c = true <-> 0x30 <= c.toNat /\ c.toNat <= 0x39 := by
  simp only [Text.isAsciiDigit, Bool.and_eq_true, decide_eq_true_eq, Char.le_def]
  exact Iff.rfl

theorem isDecimal_of_asciiDigit (c : Char) (digit : Text.isAsciiDigit c = true) :
    Text.isDecimalDigit c = true := by
  obtain ⟨above, below⟩ := (isAsciiDigit_iff c).1 digit
  have ascii : c.toNat < 0x80 := by omega
  simp [Text.isDecimalDigit, Unicode.isDecimal, Unicode.decimal?, ascii, above, below]

theorem isDigit_of_decimal (c : Char) (decimal : Text.isDecimalDigit c = true) :
    isDigit c = true := by
  have is : Unicode.isDecimal c.toNat = true := decimal
  simp [isDigit, Unicode.isDigit, is]

def DigitsFirst (count : Nat) (text : List Char) : Prop :=
  ∃ digits rest, text = digits ++ rest /\ digits.length = count /\
    ∀ d ∈ digits, isDigit d = true

theorem digitsFirst_zero (text : List Char) : DigitsFirst 0 text := ⟨[], text, rfl, rfl, by simp⟩

theorem digitsFirst_run (text : List Char) :
    DigitsFirst (text.takeWhile isDigit).length text :=
  ⟨text.takeWhile isDigit, text.dropWhile isDigit, List.takeWhile_append_dropWhile.symm, rfl,
    fun _ member => List.mem_takeWhile_imp member⟩

theorem takeWhile_of_all {α : Type} (test : α -> Bool) (first : List α) (item : α) (rest : List α)
    (all : ∀ other ∈ first, test other = true) (stops : test item = false) :
    (first ++ item :: rest).takeWhile test = first := by
  rw [List.takeWhile_append_of_pos all, List.takeWhile_cons_of_neg (by simp [stops]),
    List.append_nil]

/-- A pattern with nothing in it that the walk reads differently: no alternatives, no digits but
the ASCII ones, no count without digits, no comments and no flag t. -/
structure Tame (pattern : List Char) : Prop where
  noBar : '|' ∉ pattern
  digits : ∀ c ∈ pattern, Unicode.isDigit c.toNat = true -> Text.isAsciiDigit c = true
  counts : ¬ ['\x7b', ',', '\x7d'] <:+: pattern
  comments : ¬ ['(', '?', '#'] <:+: pattern
  templates : ∀ flags, (∀ c ∈ flags, isFlagChar c = true) ->
    ¬ '(' :: '?' :: flags ++ ['t'] <:+: pattern

/-- Tokens among which the walk and the reader see the same: no alternatives, no count but with
digits and with ASCII ones, no comment between a part and what makes the part optional, and no
flag x behind a flag t. -/
structure Aligned (tokens : List Token) : Prop where
  noBar : Token.plain '|' ∉ tokens
  counts : ¬ ['\x7b', ',', '\x7d'].map .plain <:+: tokens
  digits : ∀ run, (∀ c ∈ run, c = ',' \/ Text.isDecimalDigit c = true) ->
    ('\x7b' :: run ++ ['\x7d']).map .plain <:+: tokens ->
    ∀ c ∈ run, c = ',' \/ Text.isAsciiDigit c = true
  comments : ∀ inner c, Token.plain ')' ∉ inner -> c ∈ ['?', '*', '\x7b'] ->
    ¬ ['(', '?', '#'].map .plain ++ inner ++ [')', c].map .plain <:+: tokens
  templates : ∀ before between, (∀ c ∈ before ++ between, c ∈ flagLetters) ->
    ¬ ('(' :: '?' :: before ++ 't' :: between ++ ['x']).map .plain <:+: tokens

theorem Aligned.part {tokens part : List Token} (aligned : Aligned tokens)
    (within : part <:+: tokens) :
    Aligned part where
  noBar := fun member => aligned.noBar (within.subset member)
  counts := fun here => aligned.counts (here.trans within)
  digits := fun run all here => aligned.digits run all (here.trans within)
  comments := fun inner c clear known here => aligned.comments inner c clear known (here.trans within)
  templates := fun before between all here => aligned.templates before between all (here.trans within)

theorem Aligned.suffix {tokens rest : List Token} (aligned : Aligned tokens)
    (later : rest <:+ tokens) :
    Aligned rest :=
  aligned.part later.isInfix

theorem tokensText_within {part tokens : List Token} (within : part <:+: tokens) :
    tokensText part <:+: tokensText tokens := by
  obtain ⟨before, after, rfl⟩ := within
  exact ⟨tokensText before, tokensText after, by simp only [tokensText_append]⟩

theorem isFlagChar_iff (c : Char) :
    isFlagChar c = true <-> c ∈ ['a', 'i', 'L', 'm', 's', 'u', 'x', '-'] := by
  simp [isFlagChar]

theorem isFlagChar_of_letter (c : Char) (known : c = '-' \/ c ∈ flagLetters) (other : c ≠ 't') :
    isFlagChar c = true := by
  rw [isFlagChar_iff]
  simp only [flagLetters, List.mem_cons, List.not_mem_nil, or_false] at known ⊢
  rcases known with is | is | is | is | is | is | is | is | is
  case inr.inr.inr.inr.inr.inr.inr.inl => exact absurd is other
  all_goals simp [is]

theorem Tame.aligned {pattern : List Char} (tame : Tame pattern) :
    Aligned (tokenize pattern).1 := by
  have text (part : List Token) (within : part <:+: (tokenize pattern).1) :
      tokensText part <:+: pattern := by
    rw [← tokenize_text pattern]
    exact (tokensText_within within).trans (List.prefix_append _ _).isInfix
  have plain (part : List Char) (within : part.map .plain <:+: (tokenize pattern).1) :
      part <:+: pattern := by
    rw [← tokensText_plain part]
    exact text _ within
  constructor
  case noBar =>
    intro member
    have here : ['|'].map Token.plain <:+: (tokenize pattern).1 := by
      obtain ⟨before, after, split⟩ := List.mem_iff_append.1 member
      exact ⟨before, after, by simp [split]⟩
    exact tame.noBar ((plain ['|'] here).subset (by simp))
  case counts => exact fun within => tame.counts (plain _ within)
  case digits =>
    intro run all within c member
    have among : c ∈ pattern := (plain _ within).subset (by simp [member])
    exact (all c member).imp_right fun decimal => tame.digits c among (isDigit_of_decimal c decimal)
  case comments =>
    intro inner c _ _ within
    have start : ['(', '?', '#'].map Token.plain <:+:
        ['(', '?', '#'].map .plain ++ inner ++ [')', c].map .plain := by
      rw [List.append_assoc]
      exact (List.prefix_append _ _).isInfix
    exact tame.comments (plain _ (start.trans within))
  case templates =>
    intro before between all within
    have template : 't' ∈ before ++ 't' :: between := by simp
    obtain ⟨first, last, split, absent⟩ := List.eq_append_cons_of_mem template
    have known : ∀ d ∈ first, isFlagChar d = true := by
      intro d among
      have letter : d ∈ before ++ 't' :: between := by simp [split, among]
      have other : d ≠ 't' := fun is => absent (is ▸ among)
      refine isFlagChar_of_letter d (.inr (all d ?_)) other
      simpa [other] using letter
    have start : '(' :: '?' :: first ++ ['t'] <+:
        '(' :: '?' :: before ++ 't' :: between ++ ['x'] := by
      have later := congrArg (· ++ ['x']) split
      exact ⟨last ++ ['x'], by simpa using later.symm⟩
    exact tame.templates first known (start.isInfix.trans (plain _ within))

theorem throughFrom_eq (c : Char) (first rest : List Char) (absent : c ∉ first) :
    throughFrom c (first ++ c :: rest) = first.length + 1 := by
  have before : (first ++ c :: rest).takeWhile (· != c) = first := by
    refine takeWhile_of_all _ first c rest (fun d member => ?_) (by simp)
    have differs : d ≠ c := fun same => absent (same ▸ member)
    simpa using differs
  unfold throughFrom
  rw [before]
  simp

theorem throughClosing_cons (closing c : Char) (rest : List Char) (plain : c ≠ '\\') :
    throughClosing closing (c :: rest) =
      if c == closing then 1 else 1 + throughClosing closing rest := by
  exact throughClosing.eq_3 closing c rest fun _ _ same _ => plain same

theorem throughClosing_eq (closing : Char) (inner : List Token) (rest : List Char)
    (plain : closing ≠ '\\') (clear : Token.plain closing ∉ inner)
    (proper : Token.plain '\\' ∉ inner) :
    throughClosing closing (tokensText inner ++ closing :: rest) = (tokensText inner).length + 1 := by
  induction inner with
  | nil =>
    show throughClosing closing (closing :: rest) = _
    rw [throughClosing_cons _ _ _ plain]
    simp [tokensText]
  | cons token inner ih =>
    have later := ih (fun member => clear (List.mem_cons_of_mem _ member))
      (fun member => proper (List.mem_cons_of_mem _ member))
    cases token with
    | escaped c =>
      show throughClosing closing ('\\' :: c :: (tokensText inner ++ closing :: rest)) =
        ('\\' :: c :: tokensText inner).length + 1
      simp only [throughClosing, later, List.length_cons]
      omega
    | plain c =>
      have differs : c ≠ closing := fun same => clear (by simp [same])
      have notSlash : c ≠ '\\' := fun same => proper (by simp [same])
      show throughClosing closing (c :: (tokensText inner ++ closing :: rest)) =
        (c :: tokensText inner).length + 1
      rw [throughClosing_cons _ _ _ notSlash, later]
      simp only [beq_iff_eq, differs, if_false, List.length_cons]
      omega

theorem tokensText_cons (token : Token) (rest : List Token) :
    tokensText (token :: rest) = token.text ++ tokensText rest := by
  simp [tokensText]

theorem escapeWidth_named (inner : List Token) (rest : List Char)
    (chars : ∀ d ∈ tokensText inner, Unicode.isNameChar d.toUpper = true) :
    escapeWidth ('N' :: tokensText (.plain '\x7b' :: inner ++ [.plain '\x7d']) ++ rest) =
      2 + (tokensText (.plain '\x7b' :: inner ++ [.plain '\x7d'])).length := by
  have absent : '\x7d' ∉ 'N' :: '\x7b' :: tokensText inner := by
    intro member
    simp only [List.mem_cons] at member
    rcases member with same | same | within
    next => exact absurd same (by decide)
    next => exact absurd same (by decide)
    next => exact absurd (chars _ within) (by decide)
  have text : 'N' :: tokensText (.plain '\x7b' :: inner ++ [.plain '\x7d']) ++ rest =
      ('N' :: '\x7b' :: tokensText inner) ++ '\x7d' :: rest := by
    simp [tokensText, Token.text]
  show 1 + throughFrom '\x7d' ('N' :: tokensText (.plain '\x7b' :: inner ++ [.plain '\x7d']) ++
    rest) = _
  rw [text, throughFrom_eq _ _ _ absent]
  simp [tokensText, Token.text]
  omega

theorem escapeWidth_digit (c : Char) (digits rest : List Char) (digit : isDigit c = true)
    (others : c ≠ 'x' /\ c ≠ 'u' /\ c ≠ 'U' /\ c ≠ 'N') (all : ∀ d ∈ digits, isDigit d = true) :
    escapeWidth (c :: digits ++ rest) = 2 + digits.length + (rest.takeWhile isDigit).length := by
  have run : (c :: digits ++ rest).takeWhile isDigit = c :: digits ++ rest.takeWhile isDigit := by
    refine List.takeWhile_append_of_pos fun d member => ?_
    rcases List.mem_cons.1 member with rfl | later
    next => exact digit
    next => exact all d later
  rw [List.cons_append] at run ⊢
  simp only [escapeWidth, beq_iff_eq, others, if_false, digit, if_true, run]
  simp only [List.cons_append, List.length_cons, List.length_append]
  omega

theorem escapeWidth_eq (c : Char) (more : List Token) (rest : List Char)
    (escape : EscapeRest c more) :
    ∃ ahead, escapeWidth (c :: tokensText more ++ rest) = 2 + (tokensText more).length + ahead /\
      DigitsFirst ahead rest := by
  cases escape with
  | hex c digits count all =>
    refine ⟨0, ?_, digitsFirst_zero rest⟩
    rw [tokensText_plain]
    simp only [List.mem_cons, Prod.mk.injEq, List.not_mem_nil, or_false] at count
    rcases count with ⟨rfl, length⟩ | ⟨rfl, length⟩ | ⟨rfl, length⟩
    all_goals rw [length]; rfl
  | named inner code found =>
    exact ⟨0, escapeWidth_named inner rest (Unicode.named?_nameChar _ _ found), digitsFirst_zero rest⟩
  | digits c digits first all =>
    have others : c ≠ 'x' /\ c ≠ 'u' /\ c ≠ 'U' /\ c ≠ 'N' := by
      refine ⟨?_, ?_, ?_, ?_⟩ <;> rintro rfl <;> exact absurd first (by decide)
    have digit (d : Char) (is : Text.isAsciiDigit d = true) : isDigit d = true :=
      isDigit_of_decimal d (isDecimal_of_asciiDigit d is)
    refine ⟨_, ?_, digitsFirst_run rest⟩
    rw [tokensText_plain]
    exact escapeWidth_digit c digits rest (digit c first) others fun d member => digit d (all d member)
  | none c plain notDigit =>
    simp only [List.mem_cons, List.not_mem_nil, or_false, not_or] at plain
    cases digit : isDigit c with
    | true =>
      -- A digit but an ASCII one stands for itself, and so do those after it.
      refine ⟨_, ?_, digitsFirst_run rest⟩
      exact escapeWidth_digit c [] rest digit ⟨plain.1, plain.2.1, plain.2.2.1, plain.2.2.2⟩ (by simp)
    | false =>
      refine ⟨0, ?_, digitsFirst_zero rest⟩
      simp [escapeWidth, plain, digit, tokensText]

theorem setWidth_caret_bracket (rest : List Char) :
    setWidth ('^' :: ']' :: rest) = 3 + throughClosing ']' rest := rfl

theorem setWidth_bracket (rest : List Char) :
    setWidth (']' :: rest) = 2 + throughClosing ']' rest := rfl

theorem setWidth_caret (c : Char) (rest : List Char) (notBracket : c ≠ ']') :
    setWidth ('^' :: c :: rest) = 2 + throughClosing ']' (c :: rest) :=
  setWidth.eq_2 (c :: rest) fun _ same => notBracket (List.cons.inj same).1

theorem setWidth_other (c : Char) (rest : List Char) (notCaret : c ≠ '^') (notBracket : c ≠ ']') :
    setWidth (c :: rest) = 1 + throughClosing ']' (c :: rest) :=
  setWidth.eq_4 (c :: rest) (fun _ same => notCaret (List.cons.inj same).1)
    (fun _ same => notCaret (List.cons.inj same).1)
    fun _ same => notBracket (List.cons.inj same).1

section Sets

variable {first : Token} {inner : List Token} (rest : List Char)
  (clear : Token.plain ']' ∉ inner) (proper : Token.plain '\\' ∉ first :: inner)

include clear proper

theorem throughClosing_first :
    throughClosing ']' (tokensText inner ++ ']' :: rest) = (tokensText inner).length + 1 :=
  throughClosing_eq ']' inner rest (by decide) clear fun member =>
    proper (List.mem_cons_of_mem _ member)

theorem throughClosing_members (notBracket : first ≠ .plain ']') :
    throughClosing ']' (first.text ++ (tokensText inner ++ ']' :: rest)) =
      first.text.length + (tokensText inner).length + 1 := by
  have clearFirst : Token.plain ']' ∉ first :: inner := by
    simp [clear, notBracket.symm]
  have all := throughClosing_eq ']' (first :: inner) rest (by decide) clearFirst proper
  rw [tokensText_cons, List.append_assoc, List.length_append] at all
  exact all

theorem setWidth_without (notCaret : first ≠ .plain '^') :
    setWidth (first.text ++ (tokensText inner ++ ']' :: rest)) =
      1 + (first.text.length + (tokensText inner).length + 1) := by
  -- Only a bracket that comes first may stand in the way of the one that closes the set.
  by_cases bracket : first = .plain ']'
  next =>
    subst bracket
    simp only [Token.text, List.cons_append, List.nil_append, setWidth_bracket,
      throughClosing_first rest clear proper, List.length_cons, List.length_nil]
    omega
  next =>
    rw [← throughClosing_members rest clear proper bracket]
    cases first with
    | escaped c => exact setWidth_other _ _ (by decide) (by decide)
    | plain c =>
      exact setWidth_other c _ (fun same => notCaret (by rw [same])) fun same => bracket (by rw [same])

theorem setWidth_negated :
    setWidth ('^' :: (first.text ++ (tokensText inner ++ ']' :: rest))) =
      2 + (first.text.length + (tokensText inner).length + 1) := by
  by_cases bracket : first = .plain ']'
  next =>
    subst bracket
    simp only [Token.text, List.cons_append, List.nil_append, setWidth_caret_bracket,
      throughClosing_first rest clear proper, List.length_cons, List.length_nil]
    omega
  next =>
    rw [← throughClosing_members rest clear proper bracket]
    cases first with
    | escaped c => exact setWidth_caret _ _ (by decide)
    | plain c => exact setWidth_caret c _ fun same => bracket (by rw [same])

theorem setWidth_eq (caret : List Token)
    (caretIs : caret = [.plain '^'] \/ caret = [] /\ first ≠ .plain '^') :
    setWidth (tokensText (caret ++ first :: inner ++ [.plain ']']) ++ rest) =
      1 + (tokensText (caret ++ first :: inner ++ [.plain ']'])).length := by
  have text : tokensText (caret ++ first :: inner ++ [.plain ']']) =
      tokensText caret ++ (first.text ++ (tokensText inner ++ [']'])) := by
    simp [tokensText, Token.text]
  rw [text]
  simp only [List.append_assoc, List.cons_append, List.nil_append, List.length_append,
    List.length_cons, List.length_nil]
  rcases caretIs with rfl | ⟨rfl, notCaret⟩
  next =>
    show setWidth ('^' :: (first.text ++ (tokensText inner ++ ']' :: rest))) = 1 + (1 + _)
    rw [setWidth_negated rest clear proper]
    omega
  next =>
    show setWidth (first.text ++ (tokensText inner ++ ']' :: rest)) = 1 + (0 + _)
    rw [setWidth_without rest clear proper notCaret]
    omega

end Sets

theorem takeWhile_decimal (digits : List Char) (c : Char) (rest : List Char)
    (all : ∀ d ∈ digits, Text.isAsciiDigit d = true) (stops : Text.isDecimalDigit c = false) :
    (digits ++ c :: rest).takeWhile Text.isDecimalDigit = digits :=
  takeWhile_of_all _ digits c rest (fun d member => isDecimal_of_asciiDigit d (all d member)) stops

theorem braces?_some (text low high : List Char) (comma : Bool) (least : Nat) (rest : List Char)
    (brace : BraceText text low high comma) (digits : low ≠ [] \/ high ≠ [])
    (value : if low.isEmpty then least = 0 else Text.runValue low = .ok least) :
    braces? (text ++ rest) = .ok (some ⟨text.length + 1, least == 0⟩) := by
  have notBoth : (low.isEmpty && high.isEmpty) = false := by
    rcases digits with given | given <;> simp [given]
  have finish (width : Nat) :
      (if low.isEmpty then .ok (some ⟨width, true⟩)
        else do return some ⟨width, (<- Text.runValue low) == 0⟩ :
          Except Text.LongNumeral (Option Quantifier)) = .ok (some ⟨width, least == 0⟩) := by
    by_cases empty : low.isEmpty = true
    next =>
      rw [if_pos empty] at value ⊢
      simp [value]
    next =>
      rw [if_neg empty] at value ⊢
      rw [value]
      rfl
  cases comma with
  | true =>
    have split : text ++ rest = low ++ ',' :: (high ++ '\x7d' :: rest) := by
      simp [brace.is]
    have length : text.length + 1 = low.length + 1 + high.length + 2 := by
      simp [brace.is]
      omega
    rw [split]
    unfold braces?
    dsimp only
    rw [takeWhile_decimal low ',' _ brace.lowDigits (by decide), List.drop_left]
    simp only [List.head?_cons, beq_self_eq_true, if_true, List.tail_cons]
    rw [takeWhile_decimal high '\x7d' rest brace.highDigits (by decide), List.drop_left]
    simp only [List.head?_cons, bne_self_eq_false, notBoth, Bool.or_false, Bool.false_eq_true,
      if_false]
    rw [length]
    exact finish _
  | false =>
    obtain ⟨_, rfl⟩ := brace.given rfl
    have split : text ++ rest = low ++ '\x7d' :: rest := by
      simp [brace.is]
    have length : text.length + 1 = low.length + 0 + 0 + 2 := by
      simp [brace.is]
    have noComma : ((some '\x7d' : Option Char) == some ',') = false := by decide
    rw [split]
    unfold braces?
    dsimp only
    rw [takeWhile_decimal low '\x7d' _ brace.lowDigits (by decide), List.drop_left]
    simp only [List.head?_cons, noComma, Bool.false_eq_true, if_false, List.length_nil,
      List.drop_zero, bne_self_eq_false, Bool.false_or, notBoth]
    rw [length]
    exact finish _

theorem ascii_of_run {d : Char} (decimal : Text.isDecimalDigit d = true)
    (known : d = ',' \/ Text.isAsciiDigit d = true) : Text.isAsciiDigit d = true :=
  known.resolve_left fun is => absurd (is ▸ decimal) (by decide)

theorem eq_takeWhile_append {α : Type} (test : α -> Bool) (text : List α) :
    text = text.takeWhile test ++ text.drop (text.takeWhile test).length :=
  List.prefix_iff_eq_append.1 (List.takeWhile_prefix test) |>.symm

/-- A count in braces, in digits of any script; the text follows the opening brace. -/
structure CountText (text low high : List Char) (comma : Bool) : Prop where
  is : text = low ++ (if comma then [','] else []) ++ high ++ ['\x7d']
  lowDigits : ∀ d ∈ low, Text.isDecimalDigit d = true
  highDigits : ∀ d ∈ high, Text.isDecimalDigit d = true
  single : comma = false -> high = []
  given : low ≠ [] \/ high ≠ []

theorem braces?_cases (after : List Char) :
    braces? after = .ok none \/ ∃ text low high comma, CountText text low high comma /\
      text <+: after /\ braces? after = if low.isEmpty then .ok (some ⟨text.length + 1, true⟩)
        else (Text.runValue low).map fun least => some ⟨text.length + 1, least == 0⟩ := by
  unfold braces?
  dsimp only
  have lowSplit := eq_takeWhile_append Text.isDecimalDigit after
  have lowDigits : ∀ d ∈ after.takeWhile Text.isDecimalDigit, Text.isDecimalDigit d = true :=
    fun d => List.mem_takeWhile_imp
  generalize after.takeWhile Text.isDecimalDigit = low at lowSplit lowDigits ⊢
  generalize after.drop low.length = rest at lowSplit ⊢
  obtain ⟨comma, behind, commaIs, restIs, behindIs⟩ : ∃ comma behind,
      (rest.head? == some ',') = comma /\ rest = (if comma then [','] else []) ++ behind /\
        (if comma then rest.tail else rest) = behind := by
    cases rest with
    | nil => exact ⟨false, [], rfl, rfl, rfl⟩
    | cons c tail =>
      by_cases is : c = ','
      next => exact ⟨true, tail, by simp [is], by simp [is], rfl⟩
      next => exact ⟨false, c :: tail, by simpa using is, rfl, rfl⟩
  rw [commaIs, behindIs]
  obtain ⟨high, highIs, behindSplit, highDigits, single⟩ : ∃ high,
      (if comma then behind.takeWhile Text.isDecimalDigit else []) = high /\
        behind = high ++ behind.drop high.length /\
        (∀ d ∈ high, Text.isDecimalDigit d = true) /\ (comma = false -> high = []) := by
    cases comma with
    | true => exact ⟨_, rfl, eq_takeWhile_append _ _, fun d => List.mem_takeWhile_imp, nofun⟩
    | false => exact ⟨[], rfl, rfl, by simp, fun _ => rfl⟩
  rw [highIs]
  split
  next => exact .inl rfl
  next closes =>
    simp only [Bool.or_eq_true, bne_iff_ne, ne_eq, Bool.and_eq_true, List.isEmpty_iff, not_or, not_not,
      not_and_or] at closes
    obtain ⟨closed, given⟩ := closes
    obtain ⟨more, last⟩ := List.head?_eq_some_iff.1 closed
    let text := low ++ (if comma then [','] else []) ++ high ++ ['\x7d']
    have starts : text <+: after := by
      refine ⟨more, ?_⟩
      rw [lowSplit, restIs, behindSplit, last]
      simp [text]
    have width : low.length + (if comma then 1 else 0) + high.length + 2 = text.length + 1 := by
      cases comma <;> simp [text] <;> omega
    rw [width]
    refine .inr ⟨text, low, high, comma, ⟨rfl, lowDigits, highDigits, single, given⟩, starts, ?_⟩
    split
    next => rfl
    next => cases Text.runValue low <;> rfl

theorem braces?_none (after : List Char)
    (ascii : ∀ run, (∀ c ∈ run, c = ',' \/ Text.isDecimalDigit c = true) ->
      run ++ ['\x7d'] <+: after -> ∀ c ∈ run, c = ',' \/ Text.isAsciiDigit c = true)
    (noneOpens : ∀ text low high comma, BraceText text low high comma -> ¬ text <+: after) :
    braces? after = .ok none := by
  rcases braces?_cases after with opensNone | ⟨text, low, high, comma, count, starts, _⟩
  next => exact opensNone
  next =>
    have written : ∀ c ∈ low ++ (if comma then [','] else []) ++ high,
        c = ',' \/ Text.isDecimalDigit c = true := by
      intro c member
      rw [List.mem_append, List.mem_append] at member
      rcases member with (lowOne | commaIs) | highOne
      next => exact .inr (count.lowDigits c lowOne)
      next =>
        split at commaIs
        next => exact .inl (List.mem_singleton.1 commaIs)
        next => cases commaIs
      next => exact .inr (count.highDigits c highOne)
    have known := ascii _ written (count.is ▸ starts)
    refine absurd starts (noneOpens text low high comma ⟨count.is, fun d member => ?_,
      fun d member => ?_, fun without => ?_⟩)
    next => exact ascii_of_run (count.lowDigits d member) (known d (by simp [member]))
    next => exact ascii_of_run (count.highDigits d member) (known d (by simp [member]))
    next =>
      have alone := count.single without
      exact ⟨count.given.resolve_right (not_not.2 alone), alone⟩

end BibEdit.Literal
