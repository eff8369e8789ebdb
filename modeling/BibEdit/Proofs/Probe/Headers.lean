import BibEdit.Proofs.Probe.Widths

set_option autoImplicit false

/-! What the walk makes of an opening parenthesis. -/

namespace BibEdit.Literal

open Regex Regex.Reader Reading

def headerOf (width : Nat) : Opening -> Header
  | .capture _ | .plain | .flagged _ _ => .group (1 + width) false
  | .lookAhead _ | .lookBehind _ | .atomic => .group (1 + width) true
  | .cond _ | .comment | .reference _ | .globalFlags _ => .none

/-- The walk gives up, or reads what a parenthesis opens as the reader does. -/
def Agrees (opened : Opening) (text rest : List Char) : Prop :=
  header (text ++ rest) = .verbose \/
    opened.layout = false /\ header (text ++ rest) = headerOf text.length opened /\
      (headerOf text.length opened = .none -> throughClosing ')' (text ++ rest) = text.length)

theorem agrees_of_entered {opened : Opening} {text rest : List Char} (flat : opened.layout = false)
    (reads : header (text ++ rest) = headerOf text.length opened)
    (enters : headerOf text.length opened ≠ .none) : Agrees opened text rest :=
  .inr ⟨flat, reads, fun skips => absurd skips enters⟩

theorem flagChars_of_letters (letters : List Char) (noTemplate : 't' ∉ letters)
    (all : ∀ d ∈ letters, d = '-' \/ d ∈ flagLetters) : ∀ d ∈ letters, isFlagChar d = true :=
  fun d member => isFlagChar_of_letter d (all d member) fun is => noTemplate (is ▸ member)

theorem header_flags (first : Char) (letters : List Char) (ending : Char) (rest : List Char)
    (all : ∀ d ∈ first :: letters, isFlagChar d = true) (ends : isFlagChar ending = false) :
    header ('?' :: first :: letters ++ ending :: rest) =
      if ((first :: letters).takeWhile (· != '-')).contains 'x' then .verbose
      else if some ending == some ':' then .group (3 + (first :: letters).length) false
      else .none := by
  have run : (first :: letters ++ ending :: rest).takeWhile isFlagChar = first :: letters :=
    takeWhile_of_all isFlagChar (first :: letters) ending rest all ends
  have unfolded : header ('?' :: (first :: letters ++ ending :: rest)) =
      if (((first :: letters ++ ending :: rest).takeWhile isFlagChar).takeWhile
        (· != '-')).contains 'x' then .verbose
      else if ((first :: letters ++ ending :: rest).drop
        ((first :: letters ++ ending :: rest).takeWhile isFlagChar).length).head? == some ':'
      then .group (3 + ((first :: letters ++ ending :: rest).takeWhile isFlagChar).length) false
      else .none := by
    have known := (isFlagChar_iff first).1 (all first (by simp))
    simp only [List.mem_cons, List.not_mem_nil, or_false] at known
    rcases known with rfl | rfl | rfl | rfl | rfl | rfl | rfl | rfl
    all_goals rfl
  have after : ((first :: letters ++ ending :: rest).drop (first :: letters).length).head? =
      some ending := by
    rw [List.drop_left, List.head?_cons]
  rw [List.cons_append, unfolded, run, after]

theorem verbose_or_not (on : Flags) (first : Char) (letters others : List Char)
    (noHyphen : '-' ∉ first :: letters) (layout : on.verbose = true -> 'x' ∈ first :: letters)
    (othersAre : others = [] \/ ∃ later, others = '-' :: later) :
    ((first :: letters ++ others).takeWhile (· != '-')).contains 'x' = true \/ on.verbose = false := by
  have run : (first :: letters ++ others).takeWhile (· != '-') = first :: letters := by
    have all : ∀ d ∈ first :: letters, (d != '-') = true := by
      intro d member
      have differs : d ≠ '-' := fun is => noHyphen (is ▸ member)
      simpa using differs
    rw [List.takeWhile_append_of_pos all]
    rcases othersAre with rfl | ⟨later, rfl⟩ <;> simp
  cases verbose : on.verbose with
  | false => exact .inr rfl
  | true =>
    rw [run]
    exact .inl (by simpa using layout verbose)

theorem hyphen_not_letter (letters : List Char) (all : ∀ d ∈ letters, d ∈ flagLetters) :
    '-' ∉ letters := fun member => absurd (all '-' member) (by decide)

theorem header_stops (known : List Char) (ending : Char) (rest : List Char)
    (chars : ∀ d ∈ known, isFlagChar d = true) (noHyphen : '-' ∉ known)
    (ends : ending = ')' \/ ending = 't') :
    header ('?' :: known ++ ending :: rest) = if 'x' ∈ known then .verbose else .none := by
  cases known with
  | nil => rcases ends with rfl | rfl <;> rfl
  | cons first letters =>
    have all : (first :: letters).takeWhile (· != '-') = first :: letters := by
      rw [List.takeWhile_eq_self_iff]
      intro d member
      have differs : d ≠ '-' := fun is => noHyphen (is ▸ member)
      simpa using differs
    have stops : isFlagChar ending = false := by rcases ends with rfl | rfl <;> decide
    have noColon : (some ending == some ':') = false := by rcases ends with rfl | rfl <;> decide
    rw [header_flags first letters ending rest chars stops, all, noColon]
    simp

theorem flags_seen (letters rest : List Char) (all : ∀ d ∈ letters, d ∈ flagLetters)
    (aligned : Aligned (('(' :: '?' :: letters).map .plain)) :
    ∃ known ending more, letters ++ ')' :: rest = known ++ ending :: more /\ known <+: letters /\
      't' ∉ known /\ (ending = ')' \/ ending = 't') /\ ('x' ∈ letters -> 'x' ∈ known) := by
  by_cases template : 't' ∈ letters
  next =>
    obtain ⟨known, behind, rfl, absent⟩ := List.eq_append_cons_of_mem template
    refine ⟨known, 't', behind ++ ')' :: rest, by simp, List.prefix_append _ _, absent, .inr rfl, ?_⟩
    intro verbose
    by_contra unseen
    have later : 'x' ∈ behind := by simpa [unseen] using verbose
    obtain ⟨between, last, rfl⟩ := List.append_of_mem later
    refine aligned.templates known between (fun d member => all d ?_) ⟨[], last.map .plain, by simp⟩
    rcases List.mem_append.1 member with early | late
    next => simp [early]
    next => simp [late]
  next => exact ⟨letters, ')', rest, rfl, List.prefix_refl _, template, .inl rfl, id⟩

theorem global_agrees (on : Flags) (first : Char) (text rest : List Char)
    (written : Scoped (.global on) first text)
    (aligned : Aligned (('(' :: '?' :: first :: text).map .plain)) :
    Agrees (.globalFlags on) ('?' :: first :: text) rest := by
  obtain ⟨_, _, letters, all, turned⟩ := written
  have alignedLetters : Aligned (('(' :: '?' :: first :: letters).map .plain) :=
    aligned.part ⟨[], [.plain ')'], by simp⟩
  obtain ⟨known, ending, more, split, within, noTemplate, ends, seen⟩ :=
    flags_seen (first :: letters) rest all alignedLetters
  have letter (d : Char) (member : d ∈ known) : d ∈ flagLetters := all d (within.subset member)
  have chars := flagChars_of_letters known noTemplate fun d member => .inr (letter d member)
  have text :
      '?' :: first :: (letters ++ [')']) ++ rest = '?' :: (first :: letters ++ ')' :: rest) := by
    simp
  have is := header_stops known ending more chars (hyphen_not_letter known letter) ends
  unfold Agrees
  rw [text]
  rw [List.cons_append, ← split] at is
  rw [is]
  by_cases verbose : 'x' ∈ known
  next => exact .inl (if_pos verbose)
  next =>
    have flat : on.verbose = false := by
      rw [← Bool.not_eq_true, turned.verbose]
      exact not_or.2 ⟨Bool.false_ne_true, fun member => verbose (seen member)⟩
    refine .inr ⟨flat, if_neg verbose, fun _ => ?_⟩
    have absent (c : Char) (other : c ≠ '?') (noFlag : c ∉ flagLetters) :
        Token.plain c ∉ ('?' :: first :: letters).map Token.plain := by
      intro member
      rcases List.mem_cons.1 (plain_of_mem_map _ _ member) with same | flag
      next => exact other same
      next => exact noFlag (all c flag)
    have closed := throughClosing_eq ')' _ rest (by decide)
      (absent ')' (by decide) (by decide)) (absent '\\' (by decide) (by decide))
    rw [tokensText_plain] at closed
    rw [← List.cons_append, closed]
    simp

theorem flagged_agrees (on off : Flags) (first : Char) (text rest : List Char)
    (written : Scoped (.within on off) first text) :
    Agrees (.flagged on off) ('?' :: first :: text) rest := by
  -- However they are written, the flags stand in one run that a colon ends.
  have colon (letters : List Char) (is : text = letters ++ [':'])
      (known : ∀ d ∈ first :: letters, d = '-' \/ d ∈ flagLetters)
      (noTemplate : 't' ∉ first :: letters)
      (layout : ((first :: letters).takeWhile (· != '-')).contains 'x' = true \/
        on.verbose = false) : Agrees (.flagged on off) ('?' :: first :: text) rest := by
    subst is
    have chars := flagChars_of_letters (first :: letters) noTemplate known
    have is := header_flags first letters ':' rest chars (by decide)
    have text : '?' :: first :: (letters ++ [':']) ++ rest =
        '?' :: first :: letters ++ ':' :: rest := by simp
    unfold Agrees
    rw [text, is]
    rcases layout with givenUp | plain
    next =>
      rw [if_pos givenUp]
      exact .inl rfl
    next =>
      split
      next => exact .inl rfl
      next =>
        have width : 3 + (first :: letters).length =
            1 + ('?' :: first :: (letters ++ [':'])).length := by
          simp only [List.length_cons, List.length_append, List.length_nil]
          omega
        rw [width]
        exact .inr ⟨plain, rfl, nofun⟩
  have layout {on : Flags} {letters : List Char} (turned : TurnedOn letters {} on)
      (verbose : on.verbose = true) : 'x' ∈ letters :=
    (turned.verbose.1 verbose).resolve_left Bool.false_ne_true
  cases written with
  | within on first letters all turned noTemplate =>
    refine colon letters rfl (fun d member => .inr (all d member)) noTemplate ?_
    have choice :=
      verbose_or_not on first letters [] (hyphen_not_letter _ all) (layout turned) (.inl rfl)
    rwa [List.append_nil] at choice
  | without on off first letters later all allLater turned noTemplate noTemplateLater =>
    refine colon (letters ++ '-' :: later) (by simp) (fun d member => ?_) (fun template => ?_) ?_
    next =>
      rcases List.mem_append.1 (show d ∈ (first :: letters) ++ '-' :: later from member)
        with before | laterOn
      next => exact .inr (all d before)
      next => exact (List.mem_cons.1 laterOn).imp_right (allLater d)
    next =>
      rcases List.mem_append.1 (show 't' ∈ (first :: letters) ++ '-' :: later from template)
        with before | laterOn
      next => exact noTemplate before
      next => exact noTemplateLater (List.mem_of_ne_of_mem (by decide) laterOn)
    next =>
      exact verbose_or_not on first letters ('-' :: later) (hyphen_not_letter _ all) (layout turned)
        (.inr ⟨later, rfl⟩)
  | onlyWithout off letters all noTemplate =>
    refine colon letters rfl (fun d member => ?_) (fun template => ?_) (.inr rfl)
    next => exact (List.mem_cons.1 member).imp_right (all d)
    next => exact noTemplate (List.mem_of_ne_of_mem (by decide) template)

theorem named_agrees (inner : List Token) (rest : List Char)
    (name : Unicode.isName (tokensText inner) = true) :
    Agrees (.capture (some (tokensText inner)))
      (tokensText (['?', 'P', '<'].map .plain ++ inner ++ [.plain '>'])) rest := by
  have inside : '>' ∉ tokensText inner := by
    intro member
    cases chars : tokensText inner with
    | nil =>
      rw [chars] at member
      cases member
    | cons c others =>
      rw [chars] at name member
      have parts : Unicode.startsName c.toNat = true /\
          ∀ d ∈ others, Unicode.continuesName d.toNat = true := by
        simpa [Unicode.isName] using name
      rcases List.mem_cons.1 member with rfl | later
      next => exact absurd parts.1 (by decide)
      next => exact absurd (parts.2 _ later) (by decide +kernel)
  have absent : '>' ∉ '?' :: 'P' :: '<' :: tokensText inner := by
    simp [inside]
  have text : tokensText (['?', 'P', '<'].map .plain ++ inner ++ [.plain '>']) ++ rest =
      ('?' :: 'P' :: '<' :: tokensText inner) ++ '>' :: rest := by
    simp [tokensText, Token.text]
  have width := throughFrom_eq '>' _ rest absent
  have closes : (('?' :: 'P' :: '<' :: tokensText inner) ++ '>' :: rest).contains '>' = true := by
    simp
  have length : (tokensText (['?', 'P', '<'].map .plain ++ inner ++ [.plain '>'])).length =
      ('?' :: 'P' :: '<' :: tokensText inner).length + 1 := by
    simp [tokensText, Token.text]
  have is : header (('?' :: 'P' :: '<' :: tokensText inner) ++ '>' :: rest) =
      nameHeader (('?' :: 'P' :: '<' :: tokensText inner) ++ '>' :: rest) := rfl
  unfold Agrees
  rw [text, is, length, nameHeader, if_pos closes, width]
  exact .inr ⟨rfl, rfl, by simp [headerOf]⟩

theorem closed_width (start : List Char) (inner : List Token) (rest : List Char)
    (plain : ')' ∉ start /\ '\\' ∉ start) (clear : Token.plain ')' ∉ inner)
    (proper : Token.plain '\\' ∉ inner) :
    throughClosing ')' (tokensText (start.map .plain ++ inner ++ [.plain ')']) ++ rest) =
      (tokensText (start.map .plain ++ inner ++ [.plain ')'])).length := by
  have absent (c : Char) (notStart : c ∉ start) (notInner : Token.plain c ∉ inner) :
      Token.plain c ∉ start.map .plain ++ inner := by
    intro member
    rcases List.mem_append.1 member with before | after
    next => exact notStart (plain_of_mem_map _ _ before)
    next => exact notInner after
  have closed := throughClosing_eq ')' _ rest (by decide) (absent ')' plain.1 clear)
    (absent '\\' plain.2 proper)
  have text : tokensText (start.map .plain ++ inner ++ [.plain ')']) =
      tokensText (start.map .plain ++ inner) ++ [')'] := by
    rw [tokensText_append]
    rfl
  rw [text, List.append_assoc, List.singleton_append, closed, List.length_append,
    List.length_singleton]

theorem header_agrees (head : Option Token) (opened : Opening) (passed : List Token)
    (rest : List Char) (opens : Opens head opened passed)
    (sameHead : passed = [] -> rest.head? = some '?' -> head = some (.plain '?'))
    (proper : Token.plain '\\' ∉ passed) (aligned : Aligned (.plain '(' :: passed)) :
    Agrees opened (tokensText passed) rest := by
  have fixed (start : List Char) : tokensText (start.map .plain) = start := tokensText_plain start
  cases opens with
  | capture other =>
    refine agrees_of_entered rfl ?_ (by simp [headerOf])
    have notQuestion : rest.head? ≠ some '?' := fun is => other (sameHead rfl is)
    show header rest = .group 1 false
    cases rest with
    | nil => rfl
    | cons c others =>
      have differs : c ≠ '?' := fun is => notQuestion (by rw [is]; rfl)
      unfold header
      split
      all_goals first
        | (rename_i same
           exact absurd (List.cons.inj same).1 differs)
        | rfl
  | named inner name => exact named_agrees inner rest name
  | reference group inner clear =>
    have innerProper : Token.plain '\\' ∉ inner := fun member => proper (by simp [member])
    exact .inr ⟨rfl, rfl, fun _ => closed_width _ inner rest (by decide) clear innerProper⟩
  | plain => exact agrees_of_entered rfl rfl (by simp [headerOf])
  | comment inner clear =>
    have innerProper : Token.plain '\\' ∉ inner := fun member => proper (by simp [member])
    exact .inr ⟨rfl, rfl, fun _ => closed_width _ inner rest (by decide) clear innerProper⟩
  | lookAhead negated =>
    refine agrees_of_entered rfl ?_ (by simp [headerOf])
    cases negated <;> rfl
  | lookBehind negated =>
    refine agrees_of_entered rfl ?_ (by simp [headerOf])
    cases negated <;> rfl
  | cond group inner clear =>
    have innerProper : Token.plain '\\' ∉ inner := fun member => proper (by simp [member])
    exact .inr ⟨rfl, rfl, fun _ => closed_width _ inner rest (by decide) clear innerProper⟩
  | atomic => exact agrees_of_entered rfl rfl (by simp [headerOf])
  | global on first text written =>
    rw [fixed]
    exact global_agrees on first text rest written aligned
  | flagged on off first text written =>
    rw [fixed]
    exact flagged_agrees on off first text rest written

end BibEdit.Literal
