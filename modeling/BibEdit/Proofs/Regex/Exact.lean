import BibEdit.Proofs.Regex.Grammar

set_option autoImplicit false

/-! Without the flag i a pattern compares the characters that it is sure of exactly. -/

namespace BibEdit.Regex

open Reader

/-- No parenthesis turns the flag i on. -/
def KeepsCase (tokens : List Token) : Prop :=
  ∀ letters, (∀ c ∈ letters, c ∈ flagLetters) ->
    ¬ ('(' :: '?' :: letters ++ ['i']).map .plain <:+: tokens

theorem KeepsCase.part {tokens part : List Token} (keeps : KeepsCase tokens)
    (within : part <:+: tokens) : KeepsCase part :=
  fun letters all here => keeps letters all (here.trans within)

theorem keeps_letters {first : Char} {letters text : List Char} {on : Flags}
    (turned : TurnedOn (first :: letters) {} on) (all : ∀ d ∈ first :: letters, d ∈ flagLetters)
    (keeps : KeepsCase (('(' :: '?' :: first :: (letters ++ text)).map .plain)) :
    on.ignoreCase = false := by
  rw [← Bool.not_eq_true, turned.ignoreCase]
  rintro (before | member)
  next => cases before
  next =>
    obtain ⟨early, late, split⟩ := List.append_of_mem member
    refine keeps early (fun d among => all d (by simp [split, among]))
      ⟨[], (late ++ text).map .plain, ?_⟩
    rw [← List.cons_append, split]
    simp

theorem Opens.keeps_case {head : Option Token} {opened : Opening} {passed : List Token}
    (opens : Opens head opened passed) (keeps : KeepsCase (.plain '(' :: passed)) :
    opened.ignoresCase = false := by
  cases opens with
  | global on first text written =>
    obtain ⟨_, _, letters, all, turned⟩ := written
    exact keeps_letters turned all keeps
  | flagged on off first text written =>
    cases written with
    | within on first letters all turned _ => exact keeps_letters turned all keeps
    | without on off first letters later all _ turned _ _ =>
      rw [List.append_assoc] at keeps
      exact keeps_letters turned all keeps
    | onlyWithout => rfl
  | _ => rfl

-- Whether the sure characters of a part are compared exactly.
def Node.exact (node : Node) : Bool := node.cased (· == .exact)

theorem Piece.Under.exact {flags : Flags} {piece : Piece} (under : piece.Under flags)
    (plain : flags.ignoreCase = false) : piece.node.exact = true := by
  have casing : flags.casing = .exact := by simp [Flags.casing, plain]
  unfold Piece.Under at under
  rwa [casing] at under

theorem Wraps.exact {opened : Opening} {body : List Node} {piece : Piece}
    (wraps : Wraps opened (Node.ofList body) piece) (content : body.all Node.exact = true) :
    piece.node.exact = true := by
  have whole : (Node.ofList body).exact = true := by
    unfold Node.exact
    rwa [cased_ofList]
  cases wraps with
  | ahead => rfl
  | behind => rfl
  | _ => exact whole

theorem Parsed.exact {whole : List Token} (keeps : KeepsCase whole)
    (noBar : Token.plain '|' ∉ whole) {flags : Flags} {soFar : List Piece}
    {tokens after : List Token} {nodes : List Node} (parsed : Parsed flags soFar tokens nodes after)
    (within : tokens <:+ whole) (plain : flags.ignoreCase = false)
    (soFarExact : ∀ piece ∈ soFar, piece.node.exact = true) : nodes.all Node.exact = true := by
  have grown {flags : Flags} {soFar : List Piece} {piece : Piece} (under : piece.Under flags)
      (plain : flags.ignoreCase = false) (soFarExact : ∀ piece ∈ soFar, piece.node.exact = true) :
      ∀ other ∈ piece :: soFar, other.node.exact = true :=
    List.forall_mem_cons.2 ⟨under.exact plain, soFarExact⟩
  have opening {head : Option Token} {opened : Opening} {passed rest : List Token}
      (opens : Opens head opened passed) (within : .plain '(' :: passed ++ rest <:+ whole) :
      opened.ignoresCase = false :=
    opens.keeps_case (keeps.part ((List.prefix_append _ _).isInfix.trans within.isInfix))
  induction parsed with
  | stop ends =>
    exact (cased_pieces _ _).2 fun piece among => soFarExact piece (by simpa using among)
  | blank skipped layout later ih =>
    exact ih ((List.suffix_append _ _).trans within) plain soFarExact
  | escape c more piece under escape later ih =>
    exact ih ((List.suffix_append _ _).trans within) plain (grown under plain soFarExact)
  | set caret first inner piece under clear caretIs later ih =>
    exact ih ((List.suffix_append _ _).trans within) plain (grown under plain soFarExact)
  | brace piece under noneOpens later ih =>
    exact ih ((List.suffix_cons _ _).trans within) plain (grown under plain soFarExact)
  | count c text least most greed mark last counted repeats marks later ih =>
    obtain ⟨exactLast, earlier⟩ := List.forall_mem_cons.1 soFarExact
    refine ih ((List.suffix_append _ _).trans within) plain (List.forall_mem_cons.2 ⟨?_, earlier⟩)
    exact exactLast
  | wild c piece under known later ih =>
    exact ih ((List.suffix_cons _ _).trans within) plain (grown under plain soFarExact)
  | @letter flags soFar rest after nodes c other later ih =>
    exact ih ((List.suffix_cons _ _).trans within) plain
      (grown (under_literal flags false c.toNat) plain soFarExact)
  | alone opened passed opens kind inherits adds later ih =>
    refine ih ((List.suffix_append _ _).trans within)
      (inherits.keeps_case plain (opening opens within)) ?_
    rcases adds with ⟨rfl, _⟩ | ⟨piece, under, rfl⟩
    next => exact soFarExact
    next => exact grown under plain soFarExact
  | cond number passed piece under opens content ended later ihContent ih =>
    have inside := (List.suffix_append _ _).trans within
    have closed := (ended.suffix.trans content.suffix).trans inside
    exact ih ((List.suffix_cons _ _).trans closed) plain (grown under plain soFarExact)
  | group opened passed piece opens wraps inherits content ended later ihContent ih =>
    have inside := (List.suffix_append _ _).trans within
    have closed := (ended.suffix.trans content.suffix).trans inside
    obtain ⟨rfl, _⟩ := ended.last noBar (content.suffix.trans inside)
    have contentExact := ihContent inside (inherits.keeps_case plain (opening opens within)) nofun
    refine ih ((List.suffix_cons _ _).trans closed) plain (List.forall_mem_cons.2 ⟨?_, soFarExact⟩)
    exact wraps.exact contentExact

/-- Without the flag i, and with no alternatives, a pattern is exact. -/
theorem compile_exact {pattern : List Char} {regex : Regex}
    (compiled : compile pattern false = .ok regex) (keeps : KeepsCase (tokenize pattern).1)
    (noBar : Token.plain '|' ∉ (tokenize pattern).1) : regex.root.exact = true := by
  obtain ⟨branch, ending, nodes, parsed, ended, rootIs⟩ := compile_parsed compiled
  obtain ⟨rfl, _⟩ := ended.last noBar parsed.suffix
  have parts := parsed.exact keeps noBar (List.suffix_refl _) rfl nofun
  rw [rootIs, Node.exact, cased_ofList]
  exact parts

end BibEdit.Regex
