import BibEdit.Proofs.Regex.Opening
import BibEdit.Proofs.Regex.Spans
import BibEdit.Proofs.Regex.Tree

set_option autoImplicit false

/-! The grammar that the reader follows: how the tokens of a branch come to be its parts, without
fuel, positions and what is known of groups. -/

namespace BibEdit.Regex

open Reader Reading

variable {reading after : Reading}

/-- A quantifier, what is written after its first character, and its least count. -/
inductive Counted : Char -> List Char -> Nat -> Prop where
  | optional (c : Char) (known : c = '?' \/ c = '*') : Counted c [] 0
  | repeated : Counted '+' [] 1
  | braces (text low high : List Char) (comma : Bool) (least : Nat)
      (brace : BraceText text low high comma)
      (value : if low.isEmpty then least = 0 else Text.runValue low = .ok least) :
      Counted '\x7b' text least

theorem quantifier_some {c : Char} {count : Count}
    (known : c = '?' \/ c = '*' \/ c = '+' \/ c = '\x7b')
    (ran : quantifier c reading = .ok (some count, after)) :
    ∃ text : List Char, Counted c text count.least /\ Passes (text.map .plain) reading after := by
  rcases known with rfl | rfl | rfl | rfl
  next =>
    obtain ⟨is, rfl⟩ := pure_ok.1 ran
    rw [← Option.some.inj is]
    exact ⟨[], .optional _ (.inl rfl), Passes.refl _⟩
  next =>
    obtain ⟨is, rfl⟩ := pure_ok.1 ran
    rw [← Option.some.inj is]
    exact ⟨[], .optional _ (.inr rfl), Passes.refl _⟩
  next =>
    obtain ⟨is, rfl⟩ := pure_ok.1 ran
    rw [← Option.some.inj is]
    exact ⟨[], .repeated, Passes.refl _⟩
  next =>
    obtain ⟨text, low, high, comma, passes, brace, value⟩ := braceCount_some ran
    exact ⟨text, .braces text low high comma _ brace value, passes⟩

theorem quantifier_none {c : Char} (known : c = '?' \/ c = '*' \/ c = '+' \/ c = '\x7b')
    (ran : quantifier c reading = .ok (none, after)) :
    c = '\x7b' /\ reading = after /\ ∀ text low high comma, BraceText text low high comma ->
      ∀ rest, reading.tokens ≠ text.map .plain ++ rest := by
  rcases known with rfl | rfl | rfl | rfl
  next => cases (pure_ok.1 ran).1
  next => cases (pure_ok.1 ran).1
  next => cases (pure_ok.1 ran).1
  next =>
    obtain ⟨same, noneOpens⟩ := braceCount_none ran
    exact ⟨rfl, same, noneOpens⟩

def Marks (mark rest : List Token) : Prop :=
  mark = [.plain '?'] \/ mark = [.plain '+'] \/
    mark = [] /\ rest.head? ≠ some (.plain '?') /\ rest.head? ≠ some (.plain '+')

theorem greedMark_ok {greed : Greed} (ran : greedMark reading = .ok (greed, after)) :
    ∃ mark, Passes mark reading after /\ Marks mark after.tokens := by
  unfold greedMark at ran
  obtain ⟨question, second, accepted, ran⟩ := bind_ok.1 ran
  rcases accept_ok accepted with ⟨rfl, one⟩ | ⟨rfl, rfl, noQuestion⟩
  next =>
    obtain ⟨_, rfl⟩ := pure_ok.1 ran
    exact ⟨_, one, .inl rfl⟩
  next =>
    obtain ⟨plus, third, accepted, ran⟩ := bind_ok.1 ran
    rcases accept_ok accepted with ⟨rfl, one⟩ | ⟨rfl, rfl, noPlus⟩
    next =>
      obtain ⟨_, rfl⟩ := pure_ok.1 ran
      exact ⟨_, one, .inr (.inl rfl)⟩
    next =>
      obtain ⟨_, rfl⟩ := pure_ok.1 ran
      exact ⟨[], Passes.refl _, .inr (.inr ⟨rfl, noQuestion, noPlus⟩)⟩

theorem repeated_ok {here : Nat} {count : Count} {soFar pieces : List Piece}
    (ran : repeated here count soFar reading = .ok (pieces, after)) :
    ∃ mark last earlier greed, soFar = last :: earlier /\
      pieces = ⟨.repetition, .rep greed count.least count.most last.node⟩ :: earlier /\
      (last.kind ≠ .anchor /\ last.kind ≠ .repetition) /\
      Passes mark reading after /\ Marks mark after.tokens := by
  unfold repeated at ran
  cases soFar with
  | nil => exact absurd ran failAt_ok
  | cons last earlier =>
    dsimp only at ran
    cases kind : last.kind with
    | anchor =>
      rw [kind] at ran
      exact absurd ran failAt_ok
    | repetition =>
      rw [kind] at ran
      exact absurd ran failAt_ok
    | _ =>
      rw [kind] at ran
      obtain ⟨greed, second, marked, ran⟩ := bind_ok.1 ran
      obtain ⟨rfl, rfl⟩ := pure_ok.1 ran
      obtain ⟨mark, passes, marks⟩ := greedMark_ok marked
      exact ⟨mark, last, earlier, greed, rfl, rfl, by simp [kind], passes, marks⟩

-- A part is compared in no way but that of the flags.
def Piece.Under (flags : Flags) (piece : Piece) : Prop :=
  piece.node.cased (· == flags.casing) = true

theorem Piece.cased_toList (allowed : Casing -> Bool) (piece : Piece) :
    piece.toList.all (Node.cased allowed) = piece.node.cased allowed := by
  unfold Piece.toList
  split
  next => exact Regex.cased_toList allowed piece.node
  next => simp

theorem cased_pieces (allowed : Casing -> Bool) (pieces : List Piece) :
    (pieces.flatMap Piece.toList).all (Node.cased allowed) = true <->
      ∀ piece ∈ pieces, piece.node.cased allowed = true := by
  rw [List.all_flatMap, List.all_eq_true]
  simp only [Piece.cased_toList]

theorem under_literal (flags : Flags) (negated : Bool) (code : Nat) :
    (Piece.of (.literal negated code flags.casing)).Under flags := by
  cases negated
  next => exact beq_self_eq_true flags.casing
  next => rfl

def Uses (flags : Flags) (reader : Reader Node) : Prop :=
  ∀ reading node after, reader reading = .ok (node, after) -> (Piece.of node).Under flags

theorem uses_pure {flags : Flags} {node : Node} (under : (Piece.of node).Under flags) :
    Uses flags (pure node) := by
  intro reading other after ran
  rw [← (pure_ok.1 ran).1]
  exact under

theorem uses_bind {α : Type} {flags : Flags} (first : Reader α) {next : α -> Reader Node}
    (later : ∀ value, Uses flags (next value)) : Uses flags (first >>= next) := by
  intro reading node after ran
  obtain ⟨value, middle, _, ran⟩ := bind_ok.1 ran
  exact later value middle node after ran

theorem uses_fail (flags : Flags) (flaw : Flaw) (back : Nat) : Uses flags (fail flaw back) :=
  fun _ _ _ ran => absurd ran fail_ok

theorem uses_letter {flags : Flags} (code : Reader Nat) :
    Uses flags (code >>= fun code => pure (.literal false code flags.casing)) :=
  uses_bind code fun code => uses_pure (under_literal flags false code)

theorem uses_numberedReference (flags : Flags) (group width : Nat) :
    Uses flags (numberedReference flags group width) := by
  unfold numberedReference
  refine uses_bind _ fun reading => ?_
  split
  next => exact uses_fail flags _ _
  next =>
    split
    next => exact uses_fail flags _ _
    next => exact uses_bind _ fun _ => uses_pure rfl

theorem uses_digitEscape (flags : Flags) (c : Char) : Uses flags (digitEscape flags c) := by
  unfold digitEscape
  refine uses_bind _ fun second => ?_
  split
  next => exact uses_numberedReference flags _ 2
  next =>
    have either (third : List Char) : Uses flags (if third.isEmpty
        then numberedReference flags (Text.radixValue 10 (c :: second)) 3
        else do return .literal false (<- octalEscape (c :: second ++ third)) flags.casing) := by
      split
      next => exact uses_numberedReference flags _ 3
      next => exact uses_letter _
    dsimp only
    split
    next => exact uses_bind _ either
    next => exact uses_bind _ either

theorem uses_nodeEscape (flags : Flags) (c : Char) : Uses flags (nodeEscape flags c) := by
  unfold nodeEscape
  split
  next => exact uses_pure rfl
  next => exact uses_pure (under_literal flags false _)
  next =>
    iterate 4
      split
      next => exact uses_letter _
    split
    next => exact uses_bind _ fun _ => uses_pure (under_literal flags false _)
    next =>
      split
      next => exact uses_digitEscape flags c
      next => exact uses_letter _

theorem uses_bracketed (flags : Flags) : Uses flags (bracketed flags) := by
  unfold bracketed
  refine uses_bind _ fun _ => uses_bind _ fun negated => uses_bind _ fun _ =>
    uses_bind _ fun found => uses_pure ?_
  unfold setNode
  split
  next => exact under_literal flags negated _
  next => rfl

theorem escapedPiece_under {flags : Flags} {c : Char} {piece : Piece}
    (ran : escapedPiece flags c reading = .ok (piece, after)) : piece.Under flags := by
  unfold escapedPiece at ran
  cases anchor : anchorEscape? flags.ascii c with
  | some kind =>
    rw [anchor] at ran
    rw [← (pure_ok.1 ran).1]
    rfl
  | none =>
    rw [anchor] at ran
    obtain ⟨node, _, read, ran⟩ := bind_ok.1 ran
    rw [← (pure_ok.1 ran).1]
    exact uses_nodeEscape flags c _ _ _ read

-- Openings with no content of their own.
def Opening.isAlone : Opening -> Bool
  | .comment | .reference _ | .globalFlags _ => true
  | _ => false

/-- The part that a group with this content is. -/
inductive Wraps : Opening -> Node -> Piece -> Prop where
  | capture (name : Option (List Char)) (index : Nat) (body : Node) :
      Wraps (.capture name) body (.of (.group index body))
  | plain (body : Node) : Wraps .plain body ⟨.plainGroup, body⟩
  | atomic (body : Node) : Wraps .atomic body (.of (.atomic body))
  | flagged (on off : Flags) (body : Node) : Wraps (.flagged on off) body (.of (.scope body))
  | ahead (negated : Bool) (body : Node) :
      Wraps (.lookAhead negated) body (.of (.lookAhead negated body))
  | behind (negated : Bool) (width : Width) (body : Node) :
      Wraps (.lookBehind negated) body (.of (.lookBehind negated width body))

/-- Where one branch has ended, so have all of them, or a bar follows and they end later. -/
def Ended (branch : List Node) (ending : List Token) (nodes : List Node) (after : List Token) :
    Prop :=
  nodes = branch /\ after = ending \/ ending.head? = some (.plain '|') /\ after <:+ ending

structure Inherits (outer : Flags) (opened : Opening) (inner : Flags) : Prop where
  verbose : inner.verbose = true -> outer.verbose = true \/ opened.layout = true
  ignoreCase : inner.ignoreCase = true -> outer.ignoreCase = true \/ opened.ignoresCase = true

section Inherits

variable {flags inner : Flags} {opened : Opening}

theorem inherits_same (flags : Flags) (opened : Opening) : Inherits flags opened flags :=
  ⟨.inl, .inl⟩

theorem inherits_join (flags on : Flags) : Inherits flags (.globalFlags on) (flags.join on) where
  verbose := fun verbose => by simpa [Flags.join, Opening.layout] using verbose
  ignoreCase := fun ignores => by simpa [Flags.join, Opening.ignoresCase] using ignores

theorem inherits_adjust (flags on off : Flags) :
    Inherits flags (.flagged on off) (flags.adjust on off) where
  verbose := fun verbose => Bool.or_eq_true_iff.1 (Bool.and_eq_true_iff.1 verbose).1
  ignoreCase := fun ignores => Bool.or_eq_true_iff.1 (Bool.and_eq_true_iff.1 ignores).1

theorem Inherits.keeps_plain (inherits : Inherits flags opened inner)
    (plain : flags.verbose = false) (noLayout : opened.layout = false) : inner.verbose = false := by
  rw [← Bool.not_eq_true]
  intro verbose
  rcases inherits.verbose verbose with before | here
  next => exact Bool.false_ne_true (plain.symm.trans before)
  next => exact Bool.false_ne_true (noLayout.symm.trans here)

theorem Inherits.keeps_case (inherits : Inherits flags opened inner)
    (plain : flags.ignoreCase = false) (keeps : opened.ignoresCase = false) :
    inner.ignoreCase = false := by
  rw [← Bool.not_eq_true]
  intro ignores
  rcases inherits.ignoreCase ignores with before | here
  next => exact Bool.false_ne_true (plain.symm.trans before)
  next => exact Bool.false_ne_true (keeps.symm.trans here)

end Inherits

/-- How a branch is read: under these flags, with these parts so far and latest first, the tokens
are read up to the later ones, and all its parts are the nodes. Of parts that match no sure text
only the tokens are told, and how they compare. -/
inductive Parsed : Flags -> List Piece -> List Token -> List Node -> List Token -> Prop where
  | stop {flags : Flags} {soFar : List Piece} {tokens : List Token}
      (ends : endsBranch tokens.head? = true) :
      Parsed flags soFar tokens (soFar.reverse.flatMap Piece.toList) tokens
  | blank {flags : Flags} {soFar : List Piece} {rest after : List Token} {nodes : List Node}
      (skipped : List Token) (layout : flags.verbose = true)
      (later : Parsed flags soFar rest nodes after) :
      Parsed flags soFar (skipped ++ rest) nodes after
  | escape {flags : Flags} {soFar : List Piece} {rest after : List Token} {nodes : List Node}
      (c : Char) (more : List Token) (piece : Piece) (under : piece.Under flags)
      (escape : EscapeRest c more)
      (later : Parsed flags (piece :: soFar) rest nodes after) :
      Parsed flags soFar (.escaped c :: more ++ rest) nodes after
  | set {flags : Flags} {soFar : List Piece} {rest after : List Token} {nodes : List Node}
      (caret : List Token) (first : Token) (inner : List Token) (piece : Piece)
      (under : piece.Under flags) (clear : Token.plain ']' ∉ inner)
      (caretIs : caret = [.plain '^'] \/ caret = [] /\ first ≠ .plain '^')
      (later : Parsed flags (piece :: soFar) rest nodes after) :
      Parsed flags soFar (.plain '[' :: (caret ++ first :: inner ++ [.plain ']']) ++ rest) nodes after
  | brace {flags : Flags} {soFar : List Piece} {rest after : List Token} {nodes : List Node}
      (piece : Piece) (under : piece.Under flags)
      (noneOpens : ∀ text low high comma, BraceText text low high comma ->
        ∀ others, rest ≠ text.map .plain ++ others)
      (later : Parsed flags (piece :: soFar) rest nodes after) :
      Parsed flags soFar (.plain '\x7b' :: rest) nodes after
  | count {flags : Flags} {soFar : List Piece} {rest after : List Token} {nodes : List Node}
      (c : Char) (text : List Char) (least : Nat) (most : Option Nat) (greed : Greed)
      (mark : List Token) (last : Piece) (counted : Counted c text least)
      (repeats : last.kind ≠ .anchor /\ last.kind ≠ .repetition) (marks : Marks mark rest)
      (later : Parsed flags (⟨.repetition, .rep greed least most last.node⟩ :: soFar) rest nodes
        after) :
      Parsed flags (last :: soFar) (.plain c :: text.map .plain ++ mark ++ rest) nodes after
  | wild {flags : Flags} {soFar : List Piece} {rest after : List Token} {nodes : List Node}
      (c : Char) (piece : Piece) (under : piece.Under flags) (known : c = '.' \/ c = '^' \/ c = '$')
      (later : Parsed flags (piece :: soFar) rest nodes after) :
      Parsed flags soFar (.plain c :: rest) nodes after
  | letter {flags : Flags} {soFar : List Piece} {rest after : List Token} {nodes : List Node}
      (c : Char) (other : c ∉ ['[', '?', '*', '+', '\x7b', '.', '^', '$', '(', '|', ')'])
      (later : Parsed flags (.of (.literal false c.toNat flags.casing) :: soFar) rest nodes after) :
      Parsed flags soFar (.plain c :: rest) nodes after
  | alone {flags next : Flags} {soFar pieces : List Piece} {rest after : List Token}
      {nodes : List Node} (opened : Opening) (passed : List Token)
      (opens : Opens (passed ++ rest).head? opened passed) (kind : opened.isAlone = true)
      (inherits : Inherits flags opened next)
      (adds : (pieces = soFar /\ (opened = .comment \/ soFar = [])) \/
        ∃ piece, piece.Under flags /\ pieces = piece :: soFar)
      (later : Parsed next pieces rest nodes after) :
      Parsed flags soFar (.plain '(' :: passed ++ rest) nodes after
  | cond {flags : Flags} {soFar : List Piece} {inside ending rest after : List Token}
      {branch nodes : List Node} (number : Nat) (passed : List Token) (piece : Piece)
      (under : piece.Under flags) (opens : Opens (passed ++ inside).head? (.cond number) passed)
      (content : Parsed flags [] inside branch ending)
      (ended : Ended branch ending branch (.plain ')' :: rest))
      (later : Parsed flags (piece :: soFar) rest nodes after) :
      Parsed flags soFar (.plain '(' :: passed ++ inside) nodes after
  | group {flags inner : Flags} {soFar : List Piece} {inside ending rest after : List Token}
      {branch body nodes : List Node} (opened : Opening) (passed : List Token) (piece : Piece)
      (opens : Opens (passed ++ inside).head? opened passed)
      (wraps : Wraps opened (Node.ofList body) piece)
      (inherits : Inherits flags opened inner)
      (content : Parsed inner [] inside branch ending)
      (ended : Ended branch ending body (.plain ')' :: rest))
      (later : Parsed flags (piece :: soFar) rest nodes after) :
      Parsed flags soFar (.plain '(' :: passed ++ inside) nodes after

theorem Ended.suffix {branch nodes : List Node} {ending after : List Token}
    (ended : Ended branch ending nodes after) : after <:+ ending := by
  rcases ended with ⟨_, same⟩ | ⟨_, within⟩
  next => exact same ▸ List.suffix_refl _
  next => exact within

theorem Ended.last {branch nodes : List Node} {tokens ending after : List Token}
    (ended : Ended branch ending nodes after) (noBar : Token.plain '|' ∉ tokens)
    (within : ending <:+ tokens) : nodes = branch /\ after = ending := by
  rcases ended with same | ⟨bar, _⟩
  next => exact same
  next => exact absurd (within.subset (List.mem_of_mem_head? bar)) noBar

theorem Parsed.suffix {flags : Flags} {soFar : List Piece} {tokens after : List Token}
    {nodes : List Node} (parsed : Parsed flags soFar tokens nodes after) : after <:+ tokens := by
  induction parsed with
  | stop ends => exact List.suffix_refl _
  | blank skipped layout later ih => exact ih.trans (List.suffix_append _ _)
  | escape c more piece under escape later ih => exact ih.trans (List.suffix_append _ _)
  | set caret first inner piece under clear caretIs later ih => exact ih.trans (List.suffix_append _ _)
  | brace piece under noneOpens later ih => exact ih.trans (List.suffix_cons _ _)
  | count c text least most greed mark last counted repeats marks later ih =>
    exact ih.trans (List.suffix_append _ _)
  | wild c piece under known later ih => exact ih.trans (List.suffix_cons _ _)
  | letter c other later ih => exact ih.trans (List.suffix_cons _ _)
  | alone opened passed opens kind inherits adds later ih => exact ih.trans (List.suffix_append _ _)
  | cond number passed piece under opens content ended later ihContent ih =>
    have closed := (ih.trans (List.suffix_cons _ _)).trans (ended.suffix.trans ihContent)
    exact closed.trans (List.suffix_append _ _)
  | group opened passed piece opens wraps inherits content ended later ihContent ih =>
    have closed := (ih.trans (List.suffix_cons _ _)).trans (ended.suffix.trans ihContent)
    exact closed.trans (List.suffix_append _ _)

theorem skipLine_ok {done : Unit} (ran : skipLine reading = .ok (done, after)) :
    ∃ passed, Passes passed reading after := by
  unfold skipLine at ran
  obtain ⟨_, _, got, ran⟩ := bind_ok.1 ran
  obtain ⟨rfl, rfl⟩ := get_ok.1 got
  obtain ⟨passed, second, skipped, ran⟩ := bind_ok.1 ran
  obtain ⟨_, rfl⟩ := pure_ok.1 ran
  exact ⟨passed, (skip_ok skipped).2⟩

-- How the parts grow is told by what then follows of the branch.
def Grows (flags : Flags) (soFar : List Piece) (tokens : List Token) (next : Flags)
    (pieces : List Piece) (rest : List Token) : Prop :=
  ∀ nodes after, Parsed next pieces rest nodes after -> Parsed flags soFar tokens nodes after

section Parts

variable {flags : Flags} {here : Nat} {c : Char} {soFar pieces : List Piece}

/-- A character was read with what belongs to it: no part is lost, and the branch grows. -/
structure Appends (flags : Flags) (c : Char) (soFar : List Piece) (reading : Reading)
    (pieces : List Piece) (after : Reading) : Prop where
  passed : ∃ passed, Passes passed reading after
  keeps : pieces = [] -> soFar = []
  grows : Grows flags soFar (.plain c :: reading.tokens) flags pieces after.tokens

theorem Appends.single (piece : Piece)
    (grows : Grows flags soFar (.plain c :: reading.tokens) flags (piece :: soFar) reading.tokens) :
    Appends flags c soFar reading (piece :: soFar) reading :=
  ⟨⟨[], Passes.refl _⟩, nofun, grows⟩

theorem Appends.blank {passed : List Token} (verbose : flags.verbose = true)
    (passes : Passes passed reading after) : Appends flags c soFar reading soFar after := by
  refine ⟨⟨passed, passes⟩, id, fun nodes last later => ?_⟩
  rw [passes.tokens]
  exact .blank (.plain c :: passed) verbose later

theorem Appends.set {node : Node} (read : bracketed flags reading = .ok (node, after)) :
    Appends flags '[' soFar reading (.of node :: soFar) after := by
  obtain ⟨caret, first, inner, passes, clear, caretIs⟩ := bracketed_ok read
  refine ⟨⟨_, passes⟩, nofun, fun nodes last later => ?_⟩
  rw [passes.tokens]
  exact .set caret first inner _ (uses_bracketed flags _ _ _ read) clear caretIs later

theorem Appends.brace (known : c = '?' \/ c = '*' \/ c = '+' \/ c = '\x7b')
    (read : quantifier c reading = .ok (none, after)) :
    Appends flags c soFar reading (.of (.literal false c.toNat flags.casing) :: soFar) after := by
  obtain ⟨rfl, rfl, noneOpens⟩ := quantifier_none known read
  exact .single _ fun _ _ later => .brace _ (under_literal flags false _) noneOpens later

theorem Appends.count {count : Count} {middle : Reading}
    (known : c = '?' \/ c = '*' \/ c = '+' \/ c = '\x7b')
    (read : quantifier c reading = .ok (some count, middle))
    (ran : repeated here count soFar middle = .ok (pieces, after)) :
    Appends flags c soFar reading pieces after := by
  obtain ⟨text, counted, passes⟩ := quantifier_some known read
  obtain ⟨mark, last, earlier, greed, rfl, rfl, kind, passesMark, marks⟩ := repeated_ok ran
  refine ⟨⟨_, passes.trans passesMark⟩, nofun, fun nodes final later => ?_⟩
  rw [(passes.trans passesMark).tokens]
  exact .count c text _ _ greed mark last counted kind marks later

theorem ungrouped_appends (other : c ∉ ['(', '|', ')'])
    (ran : ungrouped flags here c soFar reading = .ok (pieces, after)) :
    Appends flags c soFar reading pieces after := by
  unfold ungrouped at ran
  split_ifs at ran with blank comment set counts wild caret dollar
  next =>
    obtain ⟨rfl, rfl⟩ := pure_ok.1 ran
    exact .blank (Bool.and_eq_true_iff.1 blank).1 (Passes.refl _)
  next =>
    obtain ⟨_, second, skipped, ran⟩ := bind_ok.1 ran
    obtain ⟨rfl, rfl⟩ := pure_ok.1 ran
    exact .blank (Bool.and_eq_true_iff.1 comment).1 (skipLine_ok skipped).choose_spec
  next =>
    obtain ⟨node, second, read, ran⟩ := bind_ok.1 ran
    obtain ⟨rfl, rfl⟩ := pure_ok.1 ran
    exact eq_of_beq set ▸ .set read
  next =>
    have known : c = '?' \/ c = '*' \/ c = '+' \/ c = '\x7b' := by
      simpa [or_assoc] using counts
    obtain ⟨count?, second, read, ran⟩ := bind_ok.1 ran
    cases count? with
    | none =>
      obtain ⟨rfl, rfl⟩ := pure_ok.1 ran
      exact .brace known read
    | some count => exact .count known read ran
  next =>
    obtain ⟨rfl, rfl⟩ := pure_ok.1 ran
    exact .single _ fun _ _ later => .wild c _ (by rfl) (.inl (eq_of_beq wild)) later
  next =>
    obtain ⟨rfl, rfl⟩ := pure_ok.1 ran
    exact .single _ fun _ _ later => .wild c _ (by rfl) (.inr (.inl (eq_of_beq caret))) later
  next =>
    obtain ⟨rfl, rfl⟩ := pure_ok.1 ran
    exact .single _ fun _ _ later => .wild c _ (by rfl) (.inr (.inr (eq_of_beq dollar))) later
  next =>
    obtain ⟨rfl, rfl⟩ := pure_ok.1 ran
    refine .single _ fun _ _ later => .letter c ?_ later
    simp only [beq_iff_eq, Bool.or_eq_true, not_or] at set counts wild caret dollar
    simp only [List.mem_cons, List.not_mem_nil, or_false, not_or] at other ⊢
    exact ⟨set, counts.1.1.1, counts.1.1.2, counts.1.2, counts.2, wild, caret, dollar, other⟩

end Parts

section Groups

variable (body branch : Flags -> Reader (List Node))
  (bodies : ∀ flags reading nodes after, body flags reading = .ok (nodes, after) ->
    ∃ branch ending, Parsed flags [] reading.tokens branch ending /\
      Ended branch ending nodes after.tokens)
  (branches : ∀ flags reading nodes after, branch flags reading = .ok (nodes, after) ->
    Parsed flags [] reading.tokens nodes after.tokens)

include branches in
theorem otherBranch_ok {flags : Flags} {no : List Node} (nodes : List Node)
    (ran : otherBranch (branch flags) reading = .ok (no, after)) :
    Ended nodes reading.tokens nodes after.tokens := by
  unfold otherBranch at ran
  obtain ⟨bar, second, accepted, ran⟩ := bind_ok.1 ran
  rcases accept_ok accepted with ⟨rfl, one⟩ | ⟨rfl, rfl, _⟩
  next =>
    obtain ⟨found, third, read, ran⟩ := bind_ok.1 ran
    obtain ⟨head, _, peeked, ran⟩ := bind_ok.1 ran
    obtain ⟨rfl, rfl⟩ := peek_ok.1 peeked
    split at ran
    next => exact absurd ran fail_ok
    next =>
      obtain ⟨_, rfl⟩ := pure_ok.1 ran
      have within := (branches _ _ _ _ read).suffix
      refine .inr ⟨by rw [one.tokens]; rfl, ?_⟩
      rw [one.tokens]
      exact within.trans (List.suffix_append _ _)
  next =>
    obtain ⟨_, rfl⟩ := pure_ok.1 ran
    exact .inl ⟨rfl, rfl⟩

theorem closed_of_ended {flags : Flags} {tokens : List Token} {nodes : List Node}
    {middle : Reading} (one : Passes [.plain ')'] middle after)
    (content : ∃ branch ending, Parsed flags [] tokens branch ending /\
      Ended branch ending nodes middle.tokens) :
    ∃ branch ending, Parsed flags [] tokens branch ending /\
      Ended branch ending nodes (.plain ')' :: after.tokens) := by
  have same : middle.tokens = .plain ')' :: after.tokens := one.tokens
  rwa [same] at content

include bodies in
theorem enclosed_ok {flags : Flags} {here : Nat} {node : Node}
    (ran : enclosed here (body flags) reading = .ok (node, after)) :
    ∃ nodes branch ending, node = Node.ofList nodes /\
      Parsed flags [] reading.tokens branch ending /\
      Ended branch ending nodes (.plain ')' :: after.tokens) := by
  unfold enclosed at ran
  obtain ⟨nodes, second, read, ran⟩ := bind_ok.1 ran
  obtain ⟨_, third, closed, ran⟩ := bind_ok.1 ran
  obtain ⟨rfl, rfl⟩ := pure_ok.1 ran
  obtain ⟨branch, ending, parsed, ended⟩ :=
    closed_of_ended (expectClose_ok closed) (bodies _ _ _ _ read)
  exact ⟨nodes, branch, ending, rfl, parsed, ended⟩

include bodies in
theorem behind_ok {flags : Flags} {node : Node}
    (ran : behind (body flags) reading = .ok (node, after)) :
    ∃ nodes branch ending, node = Node.ofList nodes /\
      Parsed flags [] reading.tokens branch ending /\ Ended branch ending nodes after.tokens := by
  unfold behind at ran
  obtain ⟨_, _, got, ran⟩ := bind_ok.1 ran
  obtain ⟨rfl, rfl⟩ := get_ok.1 got
  split at ran
  next =>
    obtain ⟨_, second, changed, ran⟩ := bind_ok.1 ran
    obtain ⟨nodes, third, read, ran⟩ := bind_ok.1 ran
    obtain ⟨_, fourth, restored, ran⟩ := bind_ok.1 ran
    obtain ⟨rfl, rfl⟩ := pure_ok.1 ran
    obtain ⟨branch, ending, parsed, ended⟩ := bodies _ _ _ _ read
    rw [← modify_ok.1 changed] at parsed
    rw [← modify_ok.1 restored]
    exact ⟨nodes, branch, ending, rfl, parsed, ended⟩
  next =>
    obtain ⟨nodes, second, read, ran⟩ := bind_ok.1 ran
    obtain ⟨rfl, rfl⟩ := pure_ok.1 ran
    obtain ⟨branch, ending, parsed, ended⟩ := bodies _ _ _ _ read
    exact ⟨nodes, branch, ending, rfl, parsed, ended⟩

include bodies in
theorem wrapped_parsed {flags inner : Flags} {here : Nat} {soFar : List Piece} {opened : Opening}
    {passed : List Token} {node : Node} (piece : Node -> Piece)
    (opens : Opens (passed ++ reading.tokens).head? opened passed)
    (wraps : Wraps opened node (piece node))
    (inherits : Inherits flags opened inner)
    (ran : enclosed here (body inner) reading = .ok (node, after)) :
    Grows flags soFar (.plain '(' :: passed ++ reading.tokens) flags (piece node :: soFar)
      after.tokens := by
  obtain ⟨nodes, branch, ending, rfl, parsed, ended⟩ := enclosed_ok body bodies ran
  exact fun _ _ later => .group opened passed _ opens wraps inherits parsed ended later

include bodies branches in
theorem grouped_parsed {flags next : Flags} {first : Bool} {here : Nat}
    {soFar pieces : List Piece} {opened : Opening} {passed : List Token}
    (opens : Opens (passed ++ reading.tokens).head? opened passed)
    (kept : first = true -> soFar = [] -> reading.flags = flags)
    (ran : grouped body branch flags first here soFar opened reading =
      .ok ((next, pieces), after)) :
    (first = true -> pieces = [] -> after.flags = next) /\
      Grows flags soFar (.plain '(' :: passed ++ reading.tokens) next pieces after.tokens := by
  cases opened with
  | comment =>
    obtain ⟨same, rfl⟩ := pure_ok.1 ran
    cases same
    exact ⟨kept, fun _ _ later =>
      .alone _ passed opens rfl (inherits_same _ _) (.inl ⟨rfl, .inl rfl⟩) later⟩
  | reference number =>
    obtain ⟨same, rfl⟩ := pure_ok.1 ran
    cases same
    exact ⟨nofun, fun _ _ later => .alone _ passed opens rfl (inherits_same _ _)
      (.inr ⟨_, by rfl, rfl⟩) later⟩
  | globalFlags on =>
    obtain ⟨_, second, changed, ran⟩ := bind_ok.1 ran
    have is := modify_ok.1 changed
    split at ran
    next atStart =>
      obtain ⟨isFirst, empty⟩ := Bool.and_eq_true_iff.1 atStart
      obtain ⟨_, _, got, ran⟩ := bind_ok.1 ran
      obtain ⟨rfl, rfl⟩ := get_ok.1 got
      obtain ⟨same, rfl⟩ := pure_ok.1 ran
      cases same
      refine ⟨fun _ _ => rfl, fun nodes last later => ?_⟩
      rw [← is] at later
      have none := List.isEmpty_iff.1 empty
      refine .alone _ passed opens rfl ?_ (.inl ⟨rfl, .inr none⟩) later
      rw [kept isFirst none]
      exact inherits_join flags on
    next => exact absurd ran failAt_ok
  | cond number =>
    obtain ⟨yes, second, read, ran⟩ := bind_ok.1 ran
    obtain ⟨no, third, readNo, ran⟩ := bind_ok.1 ran
    obtain ⟨_, fourth, closed, ran⟩ := bind_ok.1 ran
    obtain ⟨same, rfl⟩ := pure_ok.1 ran
    cases same
    have ended := otherBranch_ok branch branches yes readNo
    have one : third.tokens = .plain ')' :: fourth.tokens := (expectClose_ok closed).tokens
    rw [one] at ended
    exact ⟨nofun, fun _ _ later =>
      .cond number passed _ (by rfl) opens (branches _ _ _ _ read) ended later⟩
  | lookAhead negated =>
    obtain ⟨node, second, read, ran⟩ := bind_ok.1 ran
    obtain ⟨same, rfl⟩ := pure_ok.1 ran
    cases same
    exact ⟨nofun, wrapped_parsed body bodies (fun node => .of (.lookAhead negated node)) opens
      (.ahead negated node) (inherits_same _ _) read⟩
  | lookBehind negated =>
    obtain ⟨node, second, read, ran⟩ := bind_ok.1 ran
    obtain ⟨_, third, closed, ran⟩ := bind_ok.1 ran
    obtain ⟨_, _, got, ran⟩ := bind_ok.1 ran
    obtain ⟨rfl, rfl⟩ := get_ok.1 got
    obtain ⟨same, rfl⟩ := pure_ok.1 ran
    cases same
    obtain ⟨nodes, branch, ending, rfl, parsed, ended⟩ := behind_ok body bodies read
    have one : second.tokens = .plain ')' :: third.tokens := (expectClose_ok closed).tokens
    rw [one] at ended
    exact ⟨nofun, fun _ _ later =>
      .group _ passed _ opens (.behind negated _ _) (inherits_same _ _) parsed ended later⟩
  | capture name =>
    obtain ⟨number, second, numbered, ran⟩ := bind_ok.1 ran
    obtain ⟨node, third, read, ran⟩ := bind_ok.1 ran
    obtain ⟨_, fourth, closed, ran⟩ := bind_ok.1 ran
    obtain ⟨same, rfl⟩ := pure_ok.1 ran
    cases same
    have before : reading.tokens = second.tokens := (openGroup_ok numbered).tokens
    have laterOn : third.tokens = fourth.tokens := (closeGroup_ok closed).tokens
    rw [before] at opens ⊢
    rw [← laterOn]
    exact ⟨nofun, wrapped_parsed body bodies (fun node => .of (.group number node)) opens
      (.capture name number node) (inherits_same _ _) read⟩
  | plain =>
    obtain ⟨node, second, read, ran⟩ := bind_ok.1 ran
    obtain ⟨same, rfl⟩ := pure_ok.1 ran
    cases same
    exact ⟨nofun, wrapped_parsed body bodies (fun node => ⟨.plainGroup, node⟩) opens
      (.plain node) (inherits_same _ _) read⟩
  | atomic =>
    obtain ⟨node, second, read, ran⟩ := bind_ok.1 ran
    obtain ⟨same, rfl⟩ := pure_ok.1 ran
    cases same
    exact ⟨nofun, wrapped_parsed body bodies (fun node => .of (.atomic node)) opens
      (.atomic node) (inherits_same _ _) read⟩
  | flagged on off =>
    obtain ⟨node, second, read, ran⟩ := bind_ok.1 ran
    obtain ⟨same, rfl⟩ := pure_ok.1 ran
    cases same
    exact ⟨nofun, wrapped_parsed body bodies (fun node => .of (.scope node)) opens
      (.flagged on off node) (inherits_adjust flags on off) read⟩

end Groups

theorem endsBranch_plain (c : Char) (goesOn : endsBranch (some (.plain c)) = false) :
    c ≠ '|' /\ c ≠ ')' := by
  constructor <;> rintro rfl <;> cases goesOn

theorem flagsFor_ok {flags found : Flags} {top : Bool}
    (ran : flagsFor flags top reading = .ok (found, after)) :
    reading = after /\ found = if top then reading.flags else flags := by
  unfold flagsFor at ran
  cases top with
  | true =>
    obtain ⟨_, _, got, ran⟩ := bind_ok.1 ran
    obtain ⟨rfl, rfl⟩ := get_ok.1 got
    obtain ⟨rfl, rfl⟩ := pure_ok.1 ran
    exact ⟨rfl, rfl⟩
  | false =>
    obtain ⟨rfl, rfl⟩ := pure_ok.1 ran
    exact ⟨rfl, rfl⟩

-- What is to be shown of the reader with so much fuel.
def SequenceParses (fuel : Nat) : Prop :=
  ∀ (flags : Flags) (first : Bool) (soFar : List Piece) (reading after : Reading)
    (nodes : List Node), (first = true -> soFar = [] -> reading.flags = flags) ->
    sequence fuel flags first soFar reading = .ok (nodes, after) ->
    Parsed flags soFar reading.tokens nodes after.tokens

theorem branches_parsed (fuel : Nat) (known : ∀ less, less < fuel -> SequenceParses less)
    {flags : Flags} {top : Bool} {soFar : List (List Node)} {nodes : List Node}
    (ran : branches fuel flags top soFar reading = .ok (nodes, after)) :
    ∃ branch ending, Parsed (if top then reading.flags else flags) [] reading.tokens branch ending /\
      ((soFar = [] -> nodes = branch) /\ after.tokens = ending \/
        ending.head? = some (.plain '|') /\ after.tokens <:+ ending) := by
  induction fuel generalizing flags soFar reading with
  | zero =>
    unfold branches at ran
    exact absurd ran fail_ok
  | succ fuel ih =>
    unfold branches at ran
    obtain ⟨chosen, _, flagged, ran⟩ := bind_ok.1 ran
    obtain ⟨rfl, rfl⟩ := flagsFor_ok flagged
    obtain ⟨branch, second, read, ran⟩ := bind_ok.1 ran
    have parsed := known fuel (Nat.lt_succ_self _) _ _ _ _ _ _
      (fun isFirst _ => by simp [(Bool.and_eq_true_iff.1 isFirst).1]) read
    obtain ⟨bar, third, accepted, ran⟩ := bind_ok.1 ran
    rcases accept_ok accepted with ⟨rfl, one⟩ | ⟨rfl, rfl, _⟩
    next =>
      obtain ⟨_, _, later, final⟩ := ih (fun less below => known less (by omega)) ran
      have within : after.tokens <:+ third.tokens := by
        rcases final with ⟨_, same⟩ | ⟨_, within⟩
        next =>
          rw [same]
          exact later.suffix
        next => exact within.trans later.suffix
      refine ⟨branch, second.tokens, parsed, .inr ⟨by rw [one.tokens]; rfl, ?_⟩⟩
      rw [one.tokens]
      exact within.trans (List.suffix_append _ _)
    next =>
      obtain ⟨last, _, flagged, ran⟩ := bind_ok.1 ran
      have same := (flagsFor_ok flagged).1
      obtain ⟨rfl, rfl⟩ := pure_ok.1 ran
      rw [← same]
      refine ⟨branch, second.tokens, parsed, .inl ⟨fun none => ?_, rfl⟩⟩
      rw [none]
      rfl

theorem alternatives_parsed (fuel : Nat) (known : ∀ less, less < fuel -> SequenceParses less)
    {flags : Flags} {top : Bool} {nodes : List Node}
    (ran : alternatives fuel flags top reading = .ok (nodes, after)) :
    ∃ branch ending, Parsed (if top then reading.flags else flags) [] reading.tokens branch ending /\
      Ended branch ending nodes after.tokens := by
  cases fuel with
  | zero =>
    unfold alternatives at ran
    exact absurd ran fail_ok
  | succ fuel =>
    unfold alternatives at ran
    obtain ⟨branch, ending, parsed, final⟩ :=
      branches_parsed fuel (fun less below => known less (by omega)) ran
    exact ⟨branch, ending, parsed, final.imp_left fun one => ⟨one.1 rfl, one.2⟩⟩

theorem sequence_parsed (fuel : Nat) : SequenceParses fuel := by
  induction fuel using Nat.strong_induction_on with
  | _ fuel ih =>
    intro flags first soFar reading after nodes kept ran
    cases fuel with
    | zero =>
      unfold sequence at ran
      exact absurd ran fail_ok
    | succ fuel =>
      unfold sequence at ran
      obtain ⟨head, _, peeked, ran⟩ := bind_ok.1 ran
      obtain ⟨rfl, rfl⟩ := peek_ok.1 peeked
      split at ran
      next ends =>
        obtain ⟨rfl, rfl⟩ := pure_ok.1 ran
        exact .stop ends
      next goesOn =>
        have goesOn : endsBranch reading.tokens.head? = false := by simpa using goesOn
        obtain ⟨_, _, got, ran⟩ := bind_ok.1 ran
        obtain ⟨rfl, rfl⟩ := get_ok.1 got
        obtain ⟨token?, second, read, ran⟩ := bind_ok.1 ran
        rcases next_ok read with ⟨rfl, _⟩ | ⟨token, rfl, one⟩
        next => exact absurd ran fail_ok
        next =>
          have tokens : reading.tokens = token :: second.tokens := one.tokens
          rw [← one.flags] at kept
          rw [tokens] at goesOn ⊢
          clear read one tokens
          cases token with
          | escaped c =>
            obtain ⟨piece, third, escape, ran⟩ := bind_ok.1 ran
            obtain ⟨more, passes, escapeRest⟩ := escapedPiece_ok escape
            rw [passes.tokens]
            refine .escape c more piece (escapedPiece_under escape) escapeRest ?_
            exact ih fuel (Nat.lt_succ_self _) flags first _ third after nodes nofun ran
          | plain c =>
            obtain ⟨noBar, noClose⟩ := endsBranch_plain c goesOn
            dsimp only at ran
            split at ran
            next is =>
              rw [eq_of_beq is]
              obtain ⟨opened, third, opening, ran⟩ := bind_ok.1 ran
              obtain ⟨passed, opens, passes⟩ := opening_ok opening
              obtain ⟨⟨flags', pieces⟩, fourth, group, ran⟩ := bind_ok.1 ran
              rw [passes.tokens] at opens ⊢
              rw [← passes.flags] at kept
              obtain ⟨keptOn, grows⟩ := grouped_parsed _ _
                (fun flags reading nodes after ran => by
                  simpa using alternatives_parsed fuel
                    (fun less below => ih less (Nat.lt_succ_of_lt below)) ran)
                (fun flags reading nodes after ran =>
                  ih fuel (Nat.lt_succ_self _) flags false [] reading after nodes nofun ran)
                opens kept group
              exact grows _ _ (ih fuel (Nat.lt_succ_self _) _ _ _ _ _ _ keptOn ran)
            next notGroup =>
              obtain ⟨pieces, third, part, ran⟩ := bind_ok.1 ran
              have other : c ∉ ['(', '|', ')'] := by
                simp only [beq_iff_eq] at notGroup
                simp [notGroup, noBar, noClose]
              have appended := ungrouped_appends other part
              obtain ⟨passed, passes⟩ := appended.passed
              refine appended.grows _ _
                (ih fuel (Nat.lt_succ_self _) _ _ _ _ _ _ (fun isFirst none => ?_) ran)
              rw [passes.flags, kept isFirst (appended.keeps none)]

theorem wholePattern_parsed {root : Node} (ran : wholePattern reading = .ok (root, after)) :
    ∃ branch ending nodes, Parsed reading.flags [] reading.tokens branch ending /\
      Ended branch ending nodes [] /\ root = Node.ofList nodes := by
  unfold wholePattern at ran
  obtain ⟨_, _, got, ran⟩ := bind_ok.1 ran
  obtain ⟨rfl, rfl⟩ := get_ok.1 got
  obtain ⟨_, _, got, ran⟩ := bind_ok.1 ran
  obtain ⟨rfl, rfl⟩ := get_ok.1 got
  obtain ⟨nodes, second, read, ran⟩ := bind_ok.1 ran
  obtain ⟨_, _, got, ran⟩ := bind_ok.1 ran
  obtain ⟨rfl, rfl⟩ := get_ok.1 got
  obtain ⟨branch, ending, parsed, ended⟩ :=
    alternatives_parsed _ (fun less _ => sequence_parsed less) read
  split at ran
  next => exact absurd ran throw_ok
  next =>
    split at ran
    next => exact absurd ran fail_ok
    next allRead =>
      have empty : second.tokens = [] := by simpa using allRead
      rw [empty] at ended
      refine ⟨branch, ending, nodes, parsed, ended, ?_⟩
      cases late : second.conditions.find? fun entry => second.groupCount < entry.1 with
      | some entry =>
        rw [late] at ran
        exact absurd ran failAt_ok
      | none =>
        rw [late] at ran
        obtain ⟨_, _, _, ran⟩ := bind_ok.1 ran
        exact (pure_ok.1 ran).1.symm

/-- A pattern that can be compiled follows the grammar, and its tree is what the grammar tells. -/
theorem compile_parsed {pattern : List Char} {ignoreCase : Bool} {regex : Regex}
    (ran : compile pattern ignoreCase = .ok regex) :
    ∃ branch ending nodes, Parsed { ignoreCase := ignoreCase } [] (tokenize pattern).1 branch ending /\
      Ended branch ending nodes [] /\ regex.root = Node.ofList nodes := by
  unfold compile at ran
  dsimp only at ran
  split at ran
  next => cases ran
  next =>
    obtain ⟨⟨root, after⟩, read, ran⟩ := bind_eq_ok.1 ran
    cases ran
    exact wholePattern_parsed read

end BibEdit.Regex
