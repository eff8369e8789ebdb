import BibEdit.Proofs.Probe.Follows
import BibEdit.Proofs.Probe.Headers
import BibEdit.Proofs.Regex.Grammar

set_option autoImplicit false

/-! The walk over a pattern goes along with the grammar that the reader follows. -/

namespace BibEdit.Literal

open Regex

theorem walkFrom_skip (walk : Walk) (passed rest : List Char) (ahead : Nat) :
    walkFrom walk (passed.length + ahead) (passed ++ rest) = walkFrom walk ahead rest := by
  rw [walkFrom_drop, ← List.drop_drop, List.drop_left, ← walkFrom_drop]

theorem walkFrom_step {walk next : Walk} {c : Char} (passed rest : List Char) (ahead width : Nat)
    (stepped : step walk c (passed ++ rest) = .ok (some (next, width)))
    (is : width = 1 + passed.length + ahead) :
    walkFrom walk 0 (c :: passed ++ rest) = walkFrom next ahead rest := by
  have moved : walkFrom walk 0 (c :: (passed ++ rest)) =
      walkFrom next (width - 1) (passed ++ rest) := by
    simp only [walkFrom, stepped]
    rfl
  have enough : width - 1 = passed.length + ahead := by omega
  rw [List.cons_append, moved, enough, walkFrom_skip]

theorem walkFrom_stop {walk : Walk} {c : Char} (rest : List Char)
    (stepped : step walk c rest = .ok none) : walkFrom walk 0 (c :: rest) = .ok none := by
  simp only [walkFrom, stepped]
  rfl

theorem digitsFirst_other {count : Nat} {c : Char} {rest : List Char}
    (digits : DigitsFirst count (c :: rest)) (other : isDigit c = false) : count = 0 := by
  obtain ⟨first, last, split, length, all⟩ := digits
  cases first with
  | nil => exact length.symm
  | cons d first =>
    have same : c = d := (List.cons.inj split).1
    have digit := all d (by simp)
    rw [← same, other] at digit
    cases digit

theorem digitsFirst_next {count : Nat} {c : Char} {rest : List Char}
    (digits : DigitsFirst (count + 1) (c :: rest)) : DigitsFirst count rest := by
  obtain ⟨first, last, split, length, all⟩ := digits
  cases first with
  | nil => cases length
  | cons d first =>
    exact ⟨first, last, (List.cons.inj split).2, Nat.succ.inj length,
      fun other member => all other (List.mem_cons_of_mem _ member)⟩

variable (tail : List Char)

def spell (tokens : List Token) : List Char := tokensText tokens ++ tail

theorem spell_append (first rest : List Token) :
    spell tail (first ++ rest) = tokensText first ++ spell tail rest := by
  rw [spell, spell, tokensText_append, List.append_assoc]

theorem spell_cons (token : Token) (rest : List Token) :
    spell tail (token :: rest) = token.text ++ spell tail rest := by
  rw [spell, spell, tokensText_cons, List.append_assoc]

variable {tail} (tailIs : tail = [] \/ tail = ['\\'])
include tailIs

theorem head_of_spell (c : Char) (tokens : List Token) (notSlash : c ≠ '\\')
    (head : (spell tail tokens).head? = some c) : tokens.head? = some (.plain c) := by
  cases tokens with
  | nil =>
    rcases tailIs with rfl | rfl
    next => cases head
    next => exact absurd (Option.some.inj head).symm notSlash
  | cons token rest =>
    cases token with
    | escaped d => exact absurd (Option.some.inj head).symm notSlash
    | plain d =>
      have same : d = c := Option.some.inj head
      rw [same]
      rfl

theorem plain_of_spell (first : List Char) (tokens : List Token) (notSlash : '\\' ∉ first)
    (starts : first <+: spell tail tokens) : ∃ rest, tokens = first.map .plain ++ rest := by
  induction first generalizing tokens with
  | nil => exact ⟨tokens, rfl⟩
  | cons c first ih =>
    obtain ⟨more, split⟩ := starts
    have head : (spell tail tokens).head? = some c := by
      rw [← split]
      rfl
    have differs : c ≠ '\\' := fun is => notSlash (by simp [is])
    have is := head_of_spell tailIs c tokens differs head
    cases tokens with
    | nil => cases is
    | cons token rest =>
      cases Option.some.inj is
      have within : first <+: spell tail rest := by
        refine ⟨more, ?_⟩
        exact (List.cons.inj split).2
      obtain ⟨last, rfl⟩ := ih rest (fun member => notSlash (List.mem_cons_of_mem _ member)) within
      exact ⟨last, rfl⟩

theorem braces_none (rest : List Token) (aligned : Aligned (.plain '\x7b' :: rest))
    (noneOpens : ∀ text low high comma, BraceText text low high comma ->
      ∀ others, rest ≠ text.map .plain ++ others) :
    braces? (spell tail rest) = .ok none := by
  refine braces?_none _ (fun run all starts => ?_) fun text low high comma brace starts => ?_
  next =>
    have noSlash : '\\' ∉ run ++ ['\x7d'] := by
      intro member
      have slash : '\\' ∈ run := by simpa using member
      rcases all _ slash with comma | decimal
      next => exact absurd comma (by decide)
      next => exact absurd decimal (by decide)
    obtain ⟨others, rfl⟩ := plain_of_spell tailIs _ rest noSlash starts
    exact aligned.digits run all ⟨[], others, by simp⟩
  have noSlash : '\\' ∉ text := by
    rw [brace.is]
    intro member
    simp only [List.mem_append, List.mem_singleton] at member
    rcases member with ((digit | commaIs) | digit) | close
    next => exact absurd (brace.lowDigits _ digit) (by decide)
    next =>
      split at commaIs
      next => exact absurd (List.mem_singleton.1 commaIs) (by decide)
      next => cases commaIs
    next => exact absurd (brace.highDigits _ digit) (by decide)
    next => exact absurd close (by decide)
  obtain ⟨others, is⟩ := plain_of_spell tailIs text rest noSlash starts
  exact noneOpens text low high comma brace others is

theorem markWidth_eq (mark rest : List Token) (marks : Marks mark rest) :
    markWidth (tokensText mark ++ spell tail rest) = (tokensText mark).length := by
  rcases marks with rfl | rfl | ⟨rfl, noQuestion, noPlus⟩
  next => rfl
  next => rfl
  next =>
    have absent (c : Char) (notSlash : c ≠ '\\') (other : rest.head? ≠ some (.plain c)) :
        ((spell tail rest).head? == some c) = false := by
      rw [beq_eq_false_iff_ne]
      exact fun head => other (head_of_spell tailIs c rest notSlash head)
    show (if (spell tail rest).head? == some '?' || (spell tail rest).head? == some '+'
      then 1 else 0) = 0
    rw [absent '?' (by decide) noQuestion, absent '+' (by decide) noPlus]
    rfl

omit tailIs

variable (text : Array Char) (allowed : Casing -> Bool) (tail)

-- Whether a quantifier comes next that may leave out the last part.
def cuts : List Token -> Bool
  | .plain c :: _ => c == '?' || c == '*' || c == '\x7b'
  | _ => false

/-- The walk over a branch leaves what the branch asks for, unless groups are closed on the way
that were opened before. -/
def Goes (soFar : List Piece) (tokens : List Token) (nodes : List Node) (after : List Token)
    (walk : Walk) (skip : Nat) : Prop :=
  ∃ last, walkFrom last 0 (spell tail after) = walkFrom walk skip (spell tail tokens) /\
    last.groups.length <= walk.groups.length /\
    (last.groups.length = walk.groups.length -> ∀ groups base stream,
      Follows text allowed groups base stream soFar (cuts tokens) skip walk ->
      Leaves text allowed groups base nodes last)

/-- However the walk comes to these tokens, unless it gives up later, it goes over the branch. -/
def WalksOver (soFar : List Piece) (tokens : List Token) (nodes : List Node) (after : List Token) :
    Prop :=
  ∀ walk skip, DigitsFirst skip (spell tail tokens) ->
    walkFrom walk skip (spell tail tokens) ≠ .ok none ->
    Goes tail text allowed soFar tokens nodes after walk skip

variable {text allowed tail} {soFar pieces : List Piece} {tokens rest after : List Token}
  {nodes : List Node} {walk next : Walk} {skip ahead : Nat}

theorem goes_step
    (moved : walkFrom walk skip (spell tail tokens) = walkFrom next ahead (spell tail rest))
    (grows : next.groups.length <= walk.groups.length)
    (keeps : next.groups.length = walk.groups.length -> ∀ groups base stream,
      Follows text allowed groups base stream soFar (cuts tokens) skip walk ->
      ∃ stream', Follows text allowed groups base stream' pieces (cuts rest) ahead next)
    (later : Goes tail text allowed pieces rest nodes after next ahead) :
    Goes tail text allowed soFar tokens nodes after walk skip := by
  obtain ⟨last, same, shorter, leaves⟩ := later
  refine ⟨last, same.trans moved.symm, shorter.trans grows, fun all groups base stream follows => ?_⟩
  have sameLength : next.groups.length = walk.groups.length := by omega
  obtain ⟨stream', follows'⟩ := keeps sameLength groups base stream follows
  exact leaves (by omega) groups base stream' follows'

theorem stop_walks (tailIs : tail = [] \/ tail = ['\\']) (ends : endsBranch tokens.head? = true) :
    WalksOver tail text allowed soFar tokens (soFar.reverse.flatMap Piece.toList) tokens := by
  intro walk skip digits _
  have atEnd : skip = 0 := by
    cases tokens with
    | nil =>
      rcases tailIs with rfl | rfl
      next =>
        obtain ⟨first, last, split, length, _⟩ := digits
        rw [(List.nil_eq_append_iff.1 split).1] at length
        exact length.symm
      next => exact digitsFirst_other digits (by decide)
    | cons token rest =>
      cases token with
      | escaped c => cases ends
      | plain c =>
        have known : c = '|' \/ c = ')' := by simpa [endsBranch] using ends
        refine digitsFirst_other digits ?_
        rcases known with rfl | rfl <;> decide
  subst atEnd
  exact ⟨walk, rfl, Nat.le_refl _, fun _ _ _ _ follows => follows.leaves⟩

theorem gap_walks {c : Char} {passed : List Char} (piece : Piece)
    (split : spell tail tokens = c :: passed ++ spell tail rest)
    (other : isDigit c = false)
    (stepped : ∀ walk, step walk c (passed ++ spell tail rest) =
      .ok (some (walk.breakHere none, 1 + passed.length + ahead)))
    (digitsAhead : DigitsFirst ahead (spell tail rest))
    (later : WalksOver tail text allowed (piece :: soFar) rest nodes after) :
    WalksOver tail text allowed soFar tokens nodes after := by
  intro walk skip digits goesOn
  rw [split] at digits
  obtain rfl := digitsFirst_other digits other
  have moved : walkFrom walk 0 (spell tail tokens) =
      walkFrom (walk.breakHere none) ahead (spell tail rest) := by
    rw [split]
    exact walkFrom_step passed _ ahead _ (stepped walk) rfl
  rw [moved] at goesOn
  have grows : (walk.breakHere none).groups.length <= walk.groups.length := Nat.le_refl _
  exact goes_step moved grows
    (fun _ groups base stream follows => ⟨_, follows.gap_after piece _ ahead⟩)
    (later _ _ digitsAhead goesOn)

theorem letter_walks {c : Char} (casing : Casing)
    (other : c ∉ ['[', '?', '*', '+', '\x7b', '.', '^', '$', '(', '|', ')']) (notSlash : c ≠ '\\')
    (later : WalksOver tail text allowed (.of (.literal false c.toNat casing) :: soFar) rest nodes
      after) : WalksOver tail text allowed soFar (.plain c :: rest) nodes after := by
  intro walk skip digits goesOn
  cases skip with
  | zero =>
    have stepped : step walk c ([] ++ spell tail rest) = .ok (some ({ walk with
        stream := walk.stream ++ [some c], lastAtom := some walk.stream.length }, 1)) := by
      simp only [List.mem_cons, List.not_mem_nil, or_false, not_or] at other
      simp only [step, beq_iff_eq, Bool.or_eq_true, notSlash, other, or_self, if_false]
      rfl
    have moved := walkFrom_step [] (spell tail rest) 0 1 stepped rfl
    refine goes_step moved (Nat.le_refl _)
      (fun _ groups base stream follows => ⟨_, follows.letter c casing _⟩) ?_
    refine later _ _ (digitsFirst_zero _) fun givenUp => goesOn ?_
    exact moved.trans givenUp
  | succ skip =>
    have moved : walkFrom walk (skip + 1) (spell tail (.plain c :: rest)) =
        walkFrom walk skip (spell tail rest) := rfl
    rw [moved] at goesOn
    exact goes_step moved (Nat.le_refl _)
      (fun _ groups base stream follows => ⟨_, follows.digit _ _⟩)
      (later _ _ (digitsFirst_next digits) goesOn)

theorem escape_walks {c : Char} {more : List Token} (piece : Piece) (escape : EscapeRest c more)
    (later : WalksOver tail text allowed (piece :: soFar) rest nodes after) :
    WalksOver tail text allowed soFar (.escaped c :: more ++ rest) nodes after := by
  have split : spell tail (.escaped c :: more ++ rest) =
      '\\' :: (c :: tokensText more) ++ spell tail rest := by
    rw [List.cons_append, spell_cons, spell_append]
    rfl
  obtain ⟨ahead, width, digits⟩ := escapeWidth_eq c more (spell tail rest) escape
  refine gap_walks piece split (by decide) (fun walk => ?_) digits later
  have same : 1 + (c :: tokensText more).length + ahead =
      escapeWidth (c :: tokensText more ++ spell tail rest) := by
    rw [width, List.length_cons]
    omega
  rw [same]
  rfl

theorem set_walks {caret inner : List Token} {first : Token} (piece : Piece)
    (clear : Token.plain ']' ∉ inner) (proper : Token.plain '\\' ∉ first :: inner)
    (caretIs : caret = [.plain '^'] \/ caret = [] /\ first ≠ .plain '^')
    (later : WalksOver tail text allowed (piece :: soFar) rest nodes after) :
    WalksOver tail text allowed soFar
      (.plain '[' :: (caret ++ first :: inner ++ [.plain ']']) ++ rest) nodes after := by
  have split : spell tail (.plain '[' :: (caret ++ first :: inner ++ [.plain ']']) ++ rest) =
      '[' :: tokensText (caret ++ first :: inner ++ [.plain ']']) ++ spell tail rest := by
    rw [List.cons_append, spell_cons, spell_append]
    rfl
  refine gap_walks piece split (by decide) (fun walk => ?_) (digitsFirst_zero _) later
  rw [Nat.add_zero, ← setWidth_eq (spell tail rest) clear proper caret caretIs]
  rfl

theorem wild_walks {c : Char} (piece : Piece) (known : c = '.' \/ c = '^' \/ c = '$')
    (later : WalksOver tail text allowed (piece :: soFar) rest nodes after) :
    WalksOver tail text allowed soFar (.plain c :: rest) nodes after := by
  refine gap_walks piece (spell_cons tail _ _) ?_ (fun walk => ?_) (digitsFirst_zero _) later
  next => rcases known with rfl | rfl | rfl <;> decide
  next => rcases known with rfl | rfl | rfl <;> rfl

theorem brace_walks (tailIs : tail = [] \/ tail = ['\\']) (piece : Piece)
    (aligned : Aligned (.plain '\x7b' :: rest))
    (noneOpens : ∀ text low high comma, BraceText text low high comma ->
      ∀ others, rest ≠ text.map .plain ++ others)
    (later : WalksOver tail text allowed (piece :: soFar) rest nodes after) :
    WalksOver tail text allowed soFar (.plain '\x7b' :: rest) nodes after := by
  refine gap_walks piece (spell_cons tail _ _) (by decide) (fun walk => ?_) (digitsFirst_zero _) later
  have noCount : quantifier? '\x7b' (spell tail rest) = .ok none :=
    braces_none tailIs rest aligned noneOpens
  show (quantifier? '\x7b' (spell tail rest) >>= _) = _
  rw [noCount]
  rfl

theorem counted_quantifier {c : Char} {text : List Char} {least : Nat} (rest : List Char)
    (counted : Counted c text least) (aligned : Aligned ((c :: text).map .plain)) :
    (c = '?' \/ c = '*' \/ c = '+' \/ c = '\x7b') /\
      quantifier? c (text ++ rest) = .ok (some ⟨1 + text.length, least == 0⟩) := by
  cases counted with
  | optional c known => exact ⟨known.imp_right .inl, by rcases known with rfl | rfl <;> rfl⟩
  | repeated => exact ⟨.inr (.inr (.inl rfl)), rfl⟩
  | braces text low high comma least brace value =>
    refine ⟨.inr (.inr (.inr rfl)), ?_⟩
    have digits : low ≠ [] \/ high ≠ [] := by
      by_contra none
      rw [not_or, not_not, not_not] at none
      obtain ⟨rfl, rfl⟩ := none
      cases comma with
      | false => exact (brace.given rfl).1 rfl
      | true =>
        refine aligned.counts ⟨[], [], ?_⟩
        rw [brace.is]
        rfl
    rw [Nat.add_comm]
    exact braces?_some text low high comma least rest brace digits value

theorem count_walks (tailIs : tail = [] \/ tail = ['\\']) {c : Char} {written : List Char}
    {least : Nat} {most : Option Nat} {greed : Greed} {mark : List Token} {last : Piece}
    (counted : Counted c written least) (kind : last.kind ≠ .repetition) (marks : Marks mark rest)
    (aligned : Aligned (.plain c :: written.map .plain ++ mark ++ rest))
    (later : WalksOver tail text allowed (⟨.repetition, .rep greed least most last.node⟩ :: soFar) rest
      nodes after) :
    WalksOver tail text allowed (last :: soFar) (.plain c :: written.map .plain ++ mark ++ rest)
      nodes after := by
  intro walk skip digits goesOn
  have split : spell tail (.plain c :: written.map .plain ++ mark ++ rest) =
      c :: (written ++ tokensText mark) ++ spell tail rest := by
    rw [spell_append, List.cons_append, tokensText_cons, tokensText_append, Reader.tokensText_plain]
    rfl
  rw [split] at digits
  have alignedCount : Aligned ((c :: written).map .plain) :=
    aligned.part ⟨[], mark ++ rest, by simp⟩
  obtain ⟨known, quantified⟩ :=
    counted_quantifier (tokensText mark ++ spell tail rest) counted alignedCount
  have notDigit : isDigit c = false := by
    rcases known with rfl | rfl | rfl | rfl <;> decide
  obtain rfl := digitsFirst_other digits notDigit
  have stepped : step walk c (written ++ tokensText mark ++ spell tail rest) =
      .ok (some (walk.quantify (least == 0), 1 + (written ++ tokensText mark).length + 0)) := by
    have dropped : (written ++ (tokensText mark ++ spell tail rest)).drop (1 + written.length - 1) =
        tokensText mark ++ spell tail rest := by
      rw [Nat.add_sub_cancel_left, List.drop_left]
    have chosen : (c == '?' || c == '*' || c == '+' || c == '\x7b') = true := by
      simpa [or_assoc] using known
    have notOthers : (c == '\\') = false /\ (c == '[') = false := by
      rcases known with rfl | rfl | rfl | rfl <;> decide
    rw [List.append_assoc]
    unfold step
    simp only [notOthers, Bool.false_eq_true, if_false, chosen, if_true, quantified, ok_bind, dropped,
      markWidth_eq tailIs mark rest marks]
    rw [List.length_append, Nat.add_zero, Nat.add_assoc]
    rfl
  have moved : walkFrom walk 0 (spell tail (.plain c :: written.map .plain ++ mark ++ rest)) =
      walkFrom (walk.quantify (least == 0)) 0 (spell tail rest) := by
    rw [split]
    exact walkFrom_step _ _ 0 _ stepped rfl
  have sameGroups : (walk.quantify (least == 0)).groups = walk.groups := by
    unfold Walk.quantify
    split
    next => split <;> rfl
    next => rfl
  rw [moved] at goesOn
  refine goes_step moved (by rw [sameGroups]) (fun _ groups base stream follows => ?_)
    (later _ _ (digitsFirst_zero _) goesOn)
  refine follows.count greed least most kind (fun none => ?_) _
  cases counted with
  | repeated => cases none
  | optional c known => rcases known with rfl | rfl <;> rfl
  | braces => rfl

def Walk.enter (walk : Walk) (opened : Opening) : Walk :=
  match headerOf 0 opened with
  | .group _ discarded => { walk with
      stream := walk.stream ++ [none], groups := (walk.stream.length, discarded) :: walk.groups }
  | _ => walk.breakHere none

theorem step_open (walk : Walk) (after : List Char) :
    step walk '(' after =
      match header after with
      | .verbose => .ok none
      | .none => .ok (some (walk.breakHere none, 1 + throughClosing ')' after))
      | .group width discarded => .ok (some ({ walk with
          stream := walk.stream ++ [none]
          groups := (walk.stream.length, discarded) :: walk.groups }, width)) := by
  unfold step
  cases header after <;> rfl

theorem walkFrom_open (opened : Opening) (passed rest : List Char)
    (agrees : Agrees opened passed rest) :
    (∀ walk, walkFrom walk 0 ('(' :: passed ++ rest) = .ok none) \/
      opened.layout = false /\ ∀ walk,
        walkFrom walk 0 ('(' :: passed ++ rest) = walkFrom (walk.enter opened) 0 rest := by
  rcases agrees with givenUp | ⟨layout, is, through⟩
  next =>
    refine .inl fun walk => walkFrom_stop _ ?_
    show step walk '(' (passed ++ rest) = _
    rw [step_open, givenUp]
  next =>
    refine .inr ⟨layout, fun walk => walkFrom_step passed rest 0 (1 + passed.length) ?_ rfl⟩
    rw [step_open, is]
    cases opened
    all_goals first
      | rfl
      | (have closing := through rfl
         simp only [headerOf, closing]
         rfl)

theorem walkFrom_close (walk : Walk) (place : Nat) (discarded : Bool) (groups : List (Nat × Bool))
    (rest : List Char) (opened : walk.groups = (place, discarded) :: groups) :
    walkFrom walk 0 (')' :: rest) = walkFrom (walk.close place discarded groups) 0 rest := by
  have stepped : step walk ')' ([] ++ rest) = .ok (some (walk.close place discarded groups, 1)) := by
    simp only [step, opened]
    rfl
  exact walkFrom_step [] rest 0 1 stepped rfl

theorem walkFrom_closes (walk : Walk) (rest : List Char)
    (goesOn : walkFrom walk 0 (')' :: rest) ≠ .ok none) :
    ∃ place discarded groups, walk.groups = (place, discarded) :: groups := by
  cases opened : walk.groups with
  | nil =>
    refine absurd (walkFrom_stop rest ?_) goesOn
    simp only [step, opened]
    rfl
  | cons last groups => exact ⟨last.1, last.2, groups, rfl⟩

theorem parenthesis_text (passed : List Token) :
    spell tail (.plain '(' :: passed ++ rest) = '(' :: tokensText passed ++ spell tail rest := by
  rw [List.cons_append, spell_cons, spell_append]
  rfl

theorem parenthesis_agrees (tailIs : tail = [] \/ tail = ['\\']) {opened : Opening}
    {passed : List Token} (opens : Opens (passed ++ rest).head? opened passed)
    (proper : Token.plain '\\' ∉ .plain '(' :: passed ++ rest)
    (aligned : Aligned (.plain '(' :: passed ++ rest)) :
    Agrees opened (tokensText passed) (spell tail rest) := by
  have clear : Token.plain '\\' ∉ passed := fun member => proper (by simp [member])
  have alignedPassed : Aligned (.plain '(' :: passed) :=
    aligned.part (List.prefix_append _ _).isInfix
  refine header_agrees _ opened passed _ opens (fun none head => ?_) clear alignedPassed
  rw [none]
  exact head_of_spell tailIs '?' rest (by decide) head

theorem comment_cuts {opened : Opening} {passed : List Token}
    (opens : Opens (passed ++ rest).head? opened passed) (comment : opened = .comment)
    (aligned : Aligned (.plain '(' :: passed ++ rest)) : ¬ cuts rest = true := by
  subst comment
  cases opens with
  | comment inner clear =>
    intro cut
    cases rest with
    | nil => cases cut
    | cons token rest =>
      cases token with
      | escaped c => cases cut
      | plain c =>
        have known : c ∈ ['?', '*', '\x7b'] := by simpa [cuts, or_assoc] using cut
        exact aligned.comments inner c clear known ⟨[], rest, by simp⟩

theorem alone_walks (tailIs : tail = [] \/ tail = ['\\']) {flags : Flags} {opened : Opening}
    {passed : List Token} (opens : Opens (passed ++ rest).head? opened passed)
    (kind : opened.isAlone = true)
    (proper : Token.plain '\\' ∉ .plain '(' :: passed ++ rest)
    (aligned : Aligned (.plain '(' :: passed ++ rest))
    (adds : (pieces = soFar /\ (opened = .comment \/ soFar = [])) \/
      ∃ piece, piece.Under flags /\ pieces = piece :: soFar)
    (later : opened.layout = false -> WalksOver tail text allowed pieces rest nodes after) :
    WalksOver tail text allowed soFar (.plain '(' :: passed ++ rest) nodes after := by
  intro walk skip digits goesOn
  have agrees := parenthesis_agrees tailIs opens proper aligned
  rw [parenthesis_text] at digits
  obtain rfl := digitsFirst_other digits (by decide)
  rcases walkFrom_open opened _ _ agrees with givenUp | ⟨layout, moved⟩
  next =>
    rw [parenthesis_text] at goesOn
    exact absurd (givenUp walk) goesOn
  next =>
    have entered : walk.enter opened = walk.breakHere none := by
      cases opened with
      | comment => rfl
      | reference => rfl
      | globalFlags => rfl
      | _ => cases kind
    have moved := moved walk
    rw [entered, ← parenthesis_text] at moved
    rw [moved] at goesOn
    have grows : (walk.breakHere none).groups.length <= walk.groups.length := Nat.le_refl _
    refine goes_step moved grows (fun _ groups base stream follows => ?_)
      (later layout _ _ (digitsFirst_zero _) goesOn)
    rcases adds with ⟨rfl, comment | rfl⟩ | ⟨piece, _, rfl⟩
    next =>
      have uncut := comment_cuts opens comment aligned
      exact ⟨_, follows.gap_before _ 0 fun cut => absurd cut uncut⟩
    next => exact ⟨_, follows.gap_before _ 0 fun _ => rfl⟩
    next => exact ⟨_, follows.gap_after piece _ 0⟩

theorem cond_walks (tailIs : tail = [] \/ tail = ['\\']) {number : Nat} {passed inside : List Token}
    {branch : List Node} {piece : Piece}
    (opens : Opens (passed ++ inside).head? (.cond number) passed)
    (proper : Token.plain '\\' ∉ .plain '(' :: passed ++ inside)
    (aligned : Aligned (.plain '(' :: passed ++ inside))
    (content : WalksOver tail text allowed [] inside branch (.plain ')' :: rest))
    (later : WalksOver tail text allowed (piece :: soFar) rest nodes after) :
    WalksOver tail text allowed soFar (.plain '(' :: passed ++ inside) nodes after := by
  intro walk skip digits goesOn
  have agrees := parenthesis_agrees tailIs opens proper aligned
  rw [parenthesis_text] at digits
  obtain rfl := digitsFirst_other digits (by decide)
  rcases walkFrom_open (.cond number) _ _ agrees with givenUp | ⟨_, moved⟩
  next =>
    rw [parenthesis_text] at goesOn
    exact absurd (givenUp walk) goesOn
  next =>
    have moved := moved walk
    rw [← parenthesis_text] at moved
    rw [moved] at goesOn
    obtain ⟨middle, read, shorter, _⟩ := content _ _ (digitsFirst_zero _) goesOn
    rw [← read] at goesOn
    obtain ⟨place, discarded, groups, opened⟩ := walkFrom_closes middle _ goesOn
    have closed := walkFrom_close middle place discarded groups (spell tail rest) opened
    have goesOnAfter : walkFrom (middle.close place discarded groups) 0 (spell tail rest) ≠
        .ok none := fun givenUp => goesOn (closed.trans givenUp)
    obtain ⟨last, readRest, shorterRest, _⟩ := later _ _ (digitsFirst_zero _) goesOnAfter
    have fewer : groups.length < walk.groups.length := by
      have all : middle.groups.length <= walk.groups.length := shorter
      rw [opened, List.length_cons] at all
      exact all
    have fewerLast : last.groups.length <= groups.length := shorterRest
    refine ⟨last, ?_, by omega, fun same => by omega⟩
    rw [readRest, moved, ← read]
    exact closed.symm

theorem wraps_enter {opened : Opening} {body : List Node} {piece : Piece}
    (wraps : Wraps opened (Node.ofList body) piece) :
    ∃ discarded, (∀ walk : Walk, walk.enter opened = { walk with
        stream := walk.stream ++ [none]
        groups := (walk.stream.length, discarded) :: walk.groups }) /\
      (discarded = false -> piece.node.cased allowed = true ->
        body.all (Node.cased allowed) = true) /\
      (discarded = false -> ∀ start stop, piece.node.Spans text start stop ->
        SpansAll text body start stop) := by
  rw [← cased_ofList]
  have spans (start stop : Nat) := (spans_ofList text body start stop).1
  cases wraps with
  | capture name index => exact ⟨false, fun _ => rfl, fun _ cased => cased, fun _ => spans⟩
  | plain => exact ⟨false, fun _ => rfl, fun _ cased => cased, fun _ => spans⟩
  | flagged on off => exact ⟨false, fun _ => rfl, fun _ cased => cased, fun _ => spans⟩
  | atomic => exact ⟨true, fun _ => rfl, nofun, nofun⟩
  | ahead negated => exact ⟨true, fun _ => rfl, nofun, nofun⟩
  | behind negated width => exact ⟨true, fun _ => rfl, nofun, nofun⟩

theorem group_walks (tailIs : tail = [] \/ tail = ['\\']) {opened : Opening}
    {passed inside : List Token} {body : List Node} {piece : Piece}
    (opens : Opens (passed ++ inside).head? opened passed)
    (wraps : Wraps opened (Node.ofList body) piece)
    (proper : Token.plain '\\' ∉ .plain '(' :: passed ++ inside)
    (aligned : Aligned (.plain '(' :: passed ++ inside))
    (content : opened.layout = false ->
      WalksOver tail text allowed [] inside body (.plain ')' :: rest))
    (later : WalksOver tail text allowed (piece :: soFar) rest nodes after) :
    WalksOver tail text allowed soFar (.plain '(' :: passed ++ inside) nodes after := by
  intro walk skip digits goesOn
  have agrees := parenthesis_agrees tailIs opens proper aligned
  rw [parenthesis_text] at digits
  obtain rfl := digitsFirst_other digits (by decide)
  rcases walkFrom_open opened _ _ agrees with givenUp | ⟨layout, moved⟩
  next =>
    rw [parenthesis_text] at goesOn
    exact absurd (givenUp walk) goesOn
  next =>
    obtain ⟨discarded, entered, cased, spans⟩ := wraps_enter wraps
    have moved := moved walk
    rw [entered, ← parenthesis_text] at moved
    rw [moved] at goesOn
    obtain ⟨middle, read, shorter, leaves⟩ := content layout _ _ (digitsFirst_zero _) goesOn
    rw [← read] at goesOn
    obtain ⟨place, givesUp, groups, isOpen⟩ := walkFrom_closes middle _ goesOn
    have closed := walkFrom_close middle place givesUp groups (spell tail rest) isOpen
    have movedOn : walkFrom walk 0 (spell tail (.plain '(' :: passed ++ inside)) =
        walkFrom (middle.close place givesUp groups) 0 (spell tail rest) := by
      rw [moved, ← read]
      exact closed
    have grows : (middle.close place givesUp groups).groups.length <= walk.groups.length := by
      rw [isOpen] at shorter
      exact Nat.le_of_succ_le_succ shorter
    refine goes_step movedOn grows (fun same outer base stream follows => ?_)
      (later _ _ (digitsFirst_zero _) fun givenUp => goesOn (closed.trans givenUp))
    -- No more groups were closed than were opened, so the one closed here is this one.
    have sameMiddle : middle.groups.length = walk.groups.length + 1 := by
      rw [isOpen, List.length_cons]
      exact congrArg (· + 1) same
    obtain ⟨groupsEq, inner, streamEq, fits⟩ := leaves sameMiddle _ _ _
      (follows_start ((walk.stream.length, discarded) :: walk.groups) _ _ rfl)
    rw [isOpen] at groupsEq
    obtain ⟨head, rfl⟩ := List.cons.inj groupsEq
    cases head
    rw [follows.groupsEq]
    refine follows.close discarded piece inner middle _ streamEq
      fun kept casedPiece start stop spanned => ?_
    exact fits (cased kept casedPiece) start stop (spans kept start stop spanned)

theorem parsed_walks (tailIs : tail = [] \/ tail = ['\\']) {flags : Flags}
    (parsed : Parsed flags soFar tokens nodes after) (plain : flags.verbose = false)
    (proper : Token.plain '\\' ∉ tokens) (aligned : Aligned tokens) :
    WalksOver tail text allowed soFar tokens nodes after := by
  -- What holds of the tokens of a branch holds of those that are left of it behind each part.
  induction parsed with
  | stop ends => exact stop_walks tailIs ends
  | blank skipped layout later ih =>
    rw [layout] at plain
    cases plain
  | escape c more piece under escape later ih =>
    exact escape_walks piece escape (ih plain (fun member => proper (List.mem_append_right _ member))
      (aligned.suffix (List.suffix_append _ _)))
  | set caret first inner piece under clear caretIs later ih =>
    have properSet : Token.plain '\\' ∉ first :: inner := fun member => proper (by
      simp only [List.cons_append, List.append_assoc, List.mem_cons, List.mem_append]
      simp only [List.mem_cons] at member
      tauto)
    exact set_walks piece clear properSet caretIs
      (ih plain (fun member => proper (List.mem_append_right _ member))
        (aligned.suffix (List.suffix_append _ _)))
  | brace piece under noneOpens later ih =>
    exact brace_walks tailIs piece aligned noneOpens
      (ih plain (fun member => proper (List.mem_cons_of_mem _ member))
        (aligned.suffix (List.suffix_cons _ _)))
  | count c text least most greed mark last counted repeats marks later ih =>
    exact count_walks tailIs counted repeats.2 marks aligned
      (ih plain (fun member => proper (List.mem_append_right _ member))
        (aligned.suffix (List.suffix_append _ _)))
  | wild c piece under known later ih =>
    exact wild_walks piece known (ih plain (fun member => proper (List.mem_cons_of_mem _ member))
      (aligned.suffix (List.suffix_cons _ _)))
  | @letter flags soFar rest after nodes c other later ih =>
    exact letter_walks flags.casing other (fun is => proper (by simp [is]))
      (ih plain (fun member => proper (List.mem_cons_of_mem _ member))
        (aligned.suffix (List.suffix_cons _ _)))
  | alone opened passed opens kind inherits adds later ih =>
    exact alone_walks tailIs opens kind proper aligned adds fun noLayout =>
      ih (inherits.keeps_plain plain noLayout)
        (fun member => proper (List.mem_append_right _ member))
        (aligned.suffix (List.suffix_append _ _))
  | @cond flags soFar inside ending rest after branch nodes number passed piece under opens content
      ended later ihContent ih =>
    have within : inside <:+ .plain '(' :: passed ++ inside := List.suffix_append _ _
    obtain ⟨_, rfl⟩ := ended.last aligned.noBar (content.suffix.trans within)
    have withinRest : rest <:+ inside := (List.suffix_cons _ _).trans content.suffix
    exact cond_walks tailIs opens proper aligned
      (ihContent plain (fun member => proper (within.subset member)) (aligned.suffix within))
      (ih plain (fun member => proper (within.subset (withinRest.subset member)))
        (aligned.suffix (withinRest.trans within)))
  | @group flags inner soFar inside ending rest after branch body nodes opened passed piece opens wraps
      inherits content ended later ihContent ih =>
    have within : inside <:+ .plain '(' :: passed ++ inside := List.suffix_append _ _
    obtain ⟨rfl, rfl⟩ := ended.last aligned.noBar (content.suffix.trans within)
    have withinRest : rest <:+ inside := (List.suffix_cons _ _).trans content.suffix
    exact group_walks tailIs opens wraps proper aligned
      (fun noLayout => ihContent (inherits.keeps_plain plain noLayout)
        (fun member => proper (within.subset member)) (aligned.suffix within))
      (ih plain (fun member => proper (within.subset (withinRest.subset member)))
        (aligned.suffix (withinRest.trans within)))

theorem tokenize_proper (pattern : List Char) : Token.plain '\\' ∉ (tokenize pattern).1 := by
  fun_induction tokenize pattern with
  | case1 => simp
  | case2 => simp
  | case3 c rest ih => simpa using ih
  | case4 c rest notAlone notEscape ih =>
    have differs : c ≠ '\\' := by
      rintro rfl
      cases rest with
      | nil => exact notAlone rfl rfl
      | cons d others => exact notEscape d others rfl rfl
    simpa [differs.symm] using ih

/-- The walk over a pattern that can be compiled gives up, or comes to a stream that fits wherever
the pattern matches. -/
theorem walkFrom_fits {pattern : List Char} {ignoreCase : Bool} {regex : Regex}
    (compiled : compile pattern ignoreCase = .ok regex) (aligned : Aligned (tokenize pattern).1) :
    walkFrom .start 0 pattern = .ok none \/
      ∃ stream, walkFrom .start 0 pattern = .ok (some stream) /\
        (regex.root.cased allowed = true -> ∀ start stop, regex.root.Spans text start stop ->
          ∃ other, Fits text (Like allowed) stream start other) := by
  obtain ⟨branch, ending, nodes, parsed, ended, rootIs⟩ := compile_parsed compiled
  obtain ⟨tail, tailIs, textIs⟩ : ∃ tail, (tail = [] \/ tail = ['\\']) /\
      spell tail (tokenize pattern).1 = pattern := by
    refine ⟨_, ?_, tokenize_text pattern⟩
    split <;> simp
  obtain ⟨rfl, rfl⟩ := ended.last aligned.noBar parsed.suffix
  have walks : WalksOver tail text allowed [] (tokenize pattern).1 nodes [] :=
    parsed_walks tailIs parsed rfl (tokenize_proper pattern) aligned
  by_cases givenUp : walkFrom .start 0 pattern = .ok none
  next => exact .inl givenUp
  next =>
    rw [← textIs] at givenUp
    obtain ⟨last, read, shorter, leaves⟩ := walks .start 0 (digitsFirst_zero _) givenUp
    rw [textIs] at read
    obtain ⟨_, stream, streamEq, fits⟩ :=
      leaves (Nat.le_antisymm shorter (Nat.zero_le _)) [] [] [] (follows_start [] _ .start rfl)
    have fits (cased : regex.root.cased allowed = true) (start stop : Nat)
        (spans : regex.root.Spans text start stop) : Fits text (Like allowed) stream start stop := by
      rw [rootIs] at cased spans
      rw [cased_ofList] at cased
      exact fits cased start stop ((spans_ofList text nodes start stop).1 spans)
    have streamIs : last.stream = stream := streamEq
    rcases tailIs with rfl | rfl
    next =>
      refine .inr ⟨stream, ?_, fun cased start stop spans => ⟨stop, fits cased start stop spans⟩⟩
      rw [← read, ← streamIs]
      rfl
    next =>
      refine .inr ⟨stream ++ [none], ?_, fun cased start stop spans =>
        ⟨stop, fits_snoc_gap stop (fits cased start stop spans)⟩⟩
      rw [← read, ← streamIs]
      rfl

/-- A literal taken from a pattern fits wherever the pattern is found. -/
theorem extract_fits {pattern : List Char} {ignoreCase : Bool} {regex : Regex}
    (compiled : compile pattern ignoreCase = .ok regex) (aligned : Aligned (tokenize pattern).1)
    (cased : regex.root.cased allowed = true) :
    ∃ literal?, extract pattern = .ok literal? /\ ∀ literal, literal? = some literal ->
      ∀ (value : List Char) (found : Match), regex.search value = some found ->
        ∃ start stop, Fits value.toArray (Like allowed) (literal.map some) start stop := by
  have walked (value : List Char) : walkFrom .start 0 pattern = .ok none \/
      ∃ stream, walkFrom .start 0 pattern = .ok (some stream) /\
        (regex.root.cased allowed = true -> ∀ start stop,
          regex.root.Spans value.toArray start stop ->
          ∃ other, Fits value.toArray (Like allowed) stream start other) :=
    walkFrom_fits compiled aligned
  unfold extract
  rcases walked [] with givenUp | ⟨stream, walk, _⟩
  next =>
    rw [givenUp]
    exact ⟨none, rfl, nofun⟩
  next =>
    rw [walk] at walked ⊢
    refine ⟨longestRun? stream, rfl, fun literal is value found search => ?_⟩
    obtain ⟨start, stop, spans⟩ := search_spans regex value found search
    rcases walked value with none | ⟨_, same, fits⟩
    next => cases none
    next =>
      cases same
      obtain ⟨other, fits⟩ := fits cased start stop spans
      exact fits_within _ _ _ _ (longestRun?_within stream literal is).1 start other fits

end BibEdit.Literal
