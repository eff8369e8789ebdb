import BibEdit.Proofs.Regex.Opening

set_option autoImplicit false

/-! What can stop the reader that is no flaw of a pattern: a count that is too large or written with too
many digits, and two alphabets at once. Each stands in the pattern. -/

namespace BibEdit.Regex

inductive PastLimit (digits : List Char) : Error -> Prop where
  | large (value : Nat) (read : Text.runValue digits = .ok value) (past : countLimit <= value) :
      PastLimit digits .largeCount
  | long (numeral : Text.LongNumeral) (read : Text.runValue digits = .error numeral) :
      PastLimit digits (.longNumeral numeral)

def Headed (stands : List Char -> Prop) (letter : Char) : Prop :=
  ∃ letters : List Char, letter ∈ letters /\ (∀ c ∈ letters, c ∈ flagLetters) /\
    stands ('(' :: '?' :: letters ++ [')'])

/-- What stands in a pattern can pass a limit of the reader: a count in braces, or headers that turn
both alphabets on. -/
inductive PassesLimit (stands : List Char -> Prop) : Error -> Prop where
  | count (text low high : List Char) (comma : Bool) (error : Error)
      (written : stands ('\x7b' :: text)) (brace : BraceText text low high comma)
      (past : PastLimit low error \/ PastLimit high error) : PassesLimit stands error
  | alphabets (ascii : Headed stands 'a') (unicode : Headed stands 'u') :
      PassesLimit stands .mixedAlphabets

theorem PassesLimit.imp {stands others : List Char -> Prop} {error : Error}
    (passes : PassesLimit stands error) (wider : ∀ part, stands part -> others part) :
    PassesLimit others error := by
  have headed (letter : Char) (here : Headed stands letter) : Headed others letter := by
    obtain ⟨letters, member, flags, written⟩ := here
    exact ⟨letters, member, flags, wider _ written⟩
  cases passes with
  | count text low high comma _ written brace past =>
    exact .count text low high comma error (wider _ written) brace past
  | alphabets ascii unicode => exact .alphabets (headed _ ascii) (headed _ unicode)

def Stands (tokens : List Token) (part : List Char) : Prop := part.map Token.plain <:+: tokens

def Blamed (tokens : List Token) (error : Error) : Prop :=
  (∃ flaw position, error = .malformed flaw position) \/ PassesLimit (Stands tokens) error

/-- The reader is somewhere in these tokens, and what they turn on accounts for its alphabet. -/
structure Inside (tokens : List Token) (reading : Reading) : Prop where
  rest : reading.tokens <:+ tokens
  ascii : reading.flags.ascii = true -> Headed (Stands tokens) 'a'
  unicode : reading.flags.unicode = true -> Headed (Stands tokens) 'u'

namespace Reader

open Reading

variable {α β : Type} {text : List Token} {reading after : Reading}

inductive Ends (text : List Token) : Except Error (α × Reading) -> Prop where
  | ok (value : α) (after : Reading) (inside : Inside text after) : Ends text (.ok (value, after))
  | error (error : Error) (blamed : Blamed text error) : Ends text (.error error)

/-- From any place in the tokens the reader gets to another one, or is stopped as it may be. -/
def Stays (text : List Token) (reader : Reader α) : Prop :=
  ∀ reading, Inside text reading -> Ends text (reader reading)

theorem Ends.bind {x : Reader α} {f : α -> Reader β} (first : Ends text (x reading))
    (next : ∀ value middle, x reading = .ok (value, middle) -> Inside text middle ->
      Ends text (f value middle)) : Ends text ((x >>= f) reading) := by
  show Ends text (x reading >>= fun pair => f pair.1 pair.2)
  generalize x reading = result at first next
  cases first with
  | ok value middle inside => exact next value middle rfl inside
  | error error blamed => exact .error error blamed

theorem Stays.bind {x : Reader α} {f : α -> Reader β} (first : Stays text x)
    (next : ∀ value, Stays text (f value)) : Stays text (x >>= f) :=
  fun reading inside => (first reading inside).bind fun value middle _ => next value middle

theorem stays_pure (value : α) : Stays text (pure value : Reader α) :=
  fun reading inside => .ok value reading inside

theorem stays_fail (flaw : Flaw) (back : Nat) : Stays text (fail flaw back : Reader α) :=
  fun _ _ => .error _ (.inl ⟨flaw, _, rfl⟩)

theorem stays_failAt (flaw : Flaw) (position : Nat) : Stays text (failAt flaw position : Reader α) :=
  fun _ _ => .error _ (.inl ⟨flaw, _, rfl⟩)

theorem stays_ite {holds : Prop} [Decidable holds] {x y : Reader α} (yes : Stays text x)
    (no : Stays text y) : Stays text (if holds then x else y) := by
  split
  next => exact yes
  next => exact no

theorem stays_get : Stays text (get : Reader Reading) :=
  fun reading inside => .ok reading reading inside

theorem stays_modify {change : Reading -> Reading}
    (keeps : ∀ reading, Inside text reading -> Inside text (change reading)) :
    Stays text (modify change : Reader PUnit) :=
  fun reading inside => .ok _ _ (keeps reading inside)

theorem stays_peek : Stays text peek := stays_get.bind fun _ => stays_pure _

theorem stays_skip (count : Nat) : Stays text (skip count) := by
  intro reading inside
  refine Ends.bind (stays_get reading inside) fun before _ got inside => ?_
  obtain ⟨rfl, rfl⟩ := get_ok.1 got
  split
  next => exact stays_failAt _ _ _ inside
  next =>
    refine Ends.bind (.ok _ _ ?_) fun _ _ _ => stays_pure _ _
    exact ⟨(List.drop_suffix _ _).trans inside.rest, inside.ascii, inside.unicode⟩

theorem stays_next : Stays text next := (stays_skip 1).bind fun _ => stays_pure _

theorem stays_accept (c : Char) : Stays text (accept c) :=
  stays_peek.bind fun _ => stays_ite ((stays_skip 1).bind fun _ => stays_pure _) (stays_pure _)

theorem stays_runOf (most : Nat) (test : Char -> Bool) : Stays text (runOf most test) :=
  stays_get.bind fun _ => (stays_skip _).bind fun _ => stays_pure _

theorem stays_upTo (terminator : Char) (what : String) : Stays text (upTo terminator what) :=
  stays_get.bind fun _ => stays_ite
    ((stays_skip _).bind fun _ => stays_ite (stays_fail _ _) (stays_pure _))
    ((stays_skip _).bind fun _ => stays_ite (stays_fail _ _) (stays_fail _ _))

theorem stays_hexEscape (c : Char) (count : Nat) : Stays text (hexEscape c count) :=
  (stays_runOf _ _).bind fun _ =>
    stays_ite (stays_ite (stays_pure _) (stays_fail _ _)) (stays_fail _ _)

theorem stays_namedEscape : Stays text namedEscape := by
  refine (stays_accept _).bind fun _ => stays_ite ?_ (stays_fail _ _)
  refine (stays_upTo _ _).bind fun name => ?_
  cases Unicode.named? name with
  | none => exact stays_fail _ _
  | some code => exact stays_pure _

theorem stays_octalEscape (digits : List Char) : Stays text (octalEscape digits) :=
  stays_ite (stays_fail _ _) (stays_pure _)

theorem stays_otherEscape (c : Char) : Stays text (otherEscape c) :=
  stays_ite (stays_fail _ _) (stays_pure _)

theorem stays_memberEscape (c : Char) : Stays text (memberEscape c) := by
  unfold memberEscape
  split
  next => exact stays_pure _
  next => exact stays_pure _
  next =>
    exact stays_ite ((stays_hexEscape _ _).bind fun _ => stays_pure _)
      (stays_ite ((stays_hexEscape _ _).bind fun _ => stays_pure _)
      (stays_ite ((stays_hexEscape _ _).bind fun _ => stays_pure _)
      (stays_ite (stays_namedEscape.bind fun _ => stays_pure _)
      (stays_ite ((stays_runOf _ _).bind fun _ => (stays_octalEscape _).bind fun _ => stays_pure _)
      (stays_ite (stays_fail _ _) ((stays_otherEscape _).bind fun _ => stays_pure _))))))

theorem stays_checkLookBehind (group : Nat) : Stays text (checkLookBehind group) := by
  refine stays_get.bind fun reading => ?_
  cases reading.lookBehindGroups with
  | none => exact stays_pure _
  | some limit => exact stays_ite (stays_fail _ _) (stays_ite (stays_fail _ _) (stays_pure _))

theorem stays_numberedReference (flags : Flags) (group width : Nat) :
    Stays text (numberedReference flags group width) :=
  stays_get.bind fun _ => stays_ite (stays_fail _ _)
    (stays_ite (stays_fail _ _) ((stays_checkLookBehind _).bind fun _ => stays_pure _))

theorem stays_digitEscape (flags : Flags) (c : Char) : Stays text (digitEscape flags c) := by
  refine (stays_runOf _ _).bind fun second => ?_
  cases second with
  | nil => exact stays_numberedReference _ _ _
  | cons head tail =>
    dsimp only
    split
    next =>
      exact (stays_runOf _ _).bind fun _ => stays_ite (stays_numberedReference _ _ _)
        ((stays_octalEscape _).bind fun _ => stays_pure _)
    next =>
      exact (stays_pure _).bind fun _ => stays_ite (stays_numberedReference _ _ _)
        ((stays_octalEscape _).bind fun _ => stays_pure _)

theorem stays_nodeEscape (flags : Flags) (c : Char) : Stays text (nodeEscape flags c) := by
  unfold nodeEscape
  split
  next => exact stays_pure _
  next => exact stays_pure _
  next =>
    exact stays_ite ((stays_hexEscape _ _).bind fun _ => stays_pure _)
      (stays_ite ((stays_hexEscape _ _).bind fun _ => stays_pure _)
      (stays_ite ((stays_hexEscape _ _).bind fun _ => stays_pure _)
      (stays_ite (stays_namedEscape.bind fun _ => stays_pure _)
      (stays_ite ((stays_runOf _ _).bind fun _ => stays_pure _)
      (stays_ite (stays_digitEscape _ _) ((stays_otherEscape _).bind fun _ => stays_pure _))))))

theorem stays_memberOf (token : Token) : Stays text (memberOf token) := by
  cases token with
  | plain c => exact stays_pure _
  | escaped c => exact stays_memberEscape c

theorem stays_rangeOf (low high : Token) (first last : Member) :
    Stays text (rangeOf low high first last) := by
  unfold rangeOf
  split
  next => exact stays_ite (stays_fail _ _) (stays_pure _)
  next => exact stays_fail _ _

theorem stays_members (here fuel : Nat) (soFar : List Member) :
    Stays text (members here fuel soFar) := by
  induction fuel generalizing soFar with
  | zero => exact stays_failAt _ _
  | succ fuel ih =>
    refine stays_next.bind fun token? => ?_
    cases token? with
    | none => exact stays_failAt _ _
    | some token =>
      refine stays_ite (stays_pure _) ((stays_memberOf token).bind fun first => ?_)
      refine (stays_accept _).bind fun _ => stays_ite (stays_next.bind fun bound? => ?_) (ih _)
      split
      next => exact stays_failAt _ _
      next => exact stays_pure _
      next bound _ =>
        exact (stays_memberOf bound).bind fun _ => (stays_rangeOf _ _ _ _).bind fun _ => ih _

theorem stays_bracketed (flags : Flags) : Stays text (bracketed flags) :=
  stays_get.bind fun _ => (stays_accept _).bind fun _ => stays_get.bind fun _ =>
    (stays_members _ _ _).bind fun _ => stays_pure _

theorem stays_escapedPiece (flags : Flags) (c : Char) : Stays text (escapedPiece flags c) := by
  unfold escapedPiece
  split
  next => exact stays_pure _
  next => exact (stays_nodeEscape _ _).bind fun _ => stays_pure _

theorem stays_badFlag (token : Token) (expected : Flaw) :
    Stays text (badFlag token expected : Reader α) := by
  cases token <;> exact stays_fail _ _

theorem stays_flagsOn (fuel : Nat) (token : Token) (on : Flags) :
    Stays text (flagsOn fuel token on) := by
  induction fuel generalizing token on with
  | zero => exact stays_pure _
  | succ fuel ih =>
    cases token with
    | escaped c => exact stays_pure _
    | plain c =>
      refine stays_ite (stays_fail _ _) (stays_ite (stays_fail _ _) (stays_next.bind fun token? => ?_))
      cases token? with
      | none => exact stays_fail _ _
      | some following =>
        exact stays_ite (stays_pure _) (stays_ite (ih _ _) (stays_badFlag _ _))

theorem stays_flagsOff (fuel : Nat) (token : Token) (off : Flags) :
    Stays text (flagsOff fuel token off) := by
  induction fuel generalizing token off with
  | zero => exact stays_pure _
  | succ fuel ih =>
    cases token with
    | escaped c => exact stays_pure _
    | plain c =>
      refine stays_ite (stays_fail _ _) (stays_next.bind fun token? => ?_)
      cases token? with
      | none => exact stays_fail _ _
      | some following =>
        exact stays_ite (stays_pure _) (stays_ite (ih _ _) (stays_badFlag _ _))

theorem stays_scopeOff (on : Flags) : Stays text (scopeOff on) := by
  refine stays_next.bind fun token? => ?_
  have ended (off : Flags) : Stays text (if off.template then fail .globalOff 1
      else if on.overlap off then fail .contradiction 1 else return .within on off : Reader Scope) :=
    stays_ite (stays_fail _ _) (stays_ite (stays_fail _ _) (stays_pure _))
  cases token? with
  | none => exact (stays_fail _ _).bind ended
  | some token =>
    dsimp only
    split
    next => exact stays_get.bind fun _ => (stays_flagsOff _ _ _).bind ended
    next => exact (stays_badFlag _ _).bind ended

theorem stays_scope (token : Token) : Stays text (scope token) :=
  stays_ite (stays_scopeOff _) (stays_get.bind fun _ => (stays_flagsOn _ _ _).bind fun _ =>
    stays_ite (stays_pure _) (stays_ite (stays_fail _ _)
      (stays_ite (stays_scopeOff _) (stays_pure _))))

theorem stays_checkName (name : List Char) : Stays text (checkName name) :=
  stays_ite (stays_pure _) (stays_fail _ _)

theorem stays_namedGroup (name : List Char) : Stays text (namedGroup name) := by
  refine stays_get.bind fun reading => ?_
  cases reading.names.lookup name with
  | none => exact stays_fail _ _
  | some group => exact stays_pure _

theorem stays_numberedGroup (name : List Char) (group : Nat) :
    Stays text (numberedGroup name group) := by
  refine stays_ite (stays_fail _ _) (stays_ite (stays_fail _ _) ?_)
  refine (stays_modify fun reading inside => ?_).bind fun _ => stays_pure _
  split
  next => exact inside
  next => exact ⟨inside.rest, inside.ascii, inside.unicode⟩

theorem stays_groupOf (name : List Char) : Stays text (groupOf name) := by
  refine stays_ite (stays_namedGroup _) ?_
  split
  next => exact stays_numberedGroup _ _
  next => exact stays_fail _ _

theorem stays_condition : Stays text condition :=
  (stays_upTo _ _).bind fun _ => (stays_groupOf _).bind fun _ =>
    (stays_checkLookBehind _).bind fun _ => stays_pure _

theorem stays_namedOpening : Stays text namedOpening := by
  refine (stays_accept _).bind fun _ => stays_ite
    ((stays_upTo _ _).bind fun _ => (stays_checkName _).bind fun _ => stays_pure _) ?_
  refine (stays_accept _).bind fun _ => stays_ite ?_ (stays_next.bind fun token? => ?_)
  next =>
    exact (stays_upTo _ _).bind fun _ => (stays_checkName _).bind fun _ =>
      (stays_namedGroup _).bind fun _ => stays_get.bind fun _ =>
        stays_ite (stays_fail _ _) ((stays_checkLookBehind _).bind fun _ => stays_pure _)
  next =>
    cases token? with
    | none => exact stays_fail _ _
    | some token => exact stays_fail _ _

theorem stays_comment (start : Nat) : Stays text (comment start) :=
  stays_get.bind fun _ => (stays_skip _).bind fun _ => stays_ite (stays_pure _) (stays_failAt _ _)

theorem stays_lookBehindOpening : Stays text lookBehindOpening := by
  refine stays_next.bind fun token? => ?_
  cases token? with
  | none => exact stays_fail _ _
  | some token =>
    exact stays_ite (stays_pure _) (stays_ite (stays_pure _) (stays_fail _ _))

theorem stays_flagOpening (c : Char) : Stays text (flagOpening c) := by
  refine (stays_scope _).bind fun scope => ?_
  cases scope <;> exact stays_pure _

theorem stays_specialOpening (start : Nat) (c : Char) : Stays text (specialOpening start c) :=
  stays_ite stays_namedOpening (stays_ite (stays_pure _) (stays_ite (stays_comment _)
    (stays_ite (stays_pure _) (stays_ite (stays_pure _) (stays_ite stays_lookBehindOpening
      (stays_ite (stays_condition.bind fun _ => stays_pure _) (stays_ite (stays_pure _)
        (stays_ite (stays_flagOpening _) (stays_fail _ _)))))))))

theorem stays_opening (start : Nat) : Stays text (opening start) := by
  refine (stays_accept _).bind fun _ => stays_ite (stays_pure _) (stays_next.bind fun token? => ?_)
  match token? with
  | none => exact stays_fail _ _
  | some (.escaped c) => exact stays_fail _ _
  | some (.plain c) => exact stays_specialOpening _ _

theorem stays_openGroup (name : Option (List Char)) : Stays text (openGroup name) := by
  intro reading inside
  refine Ends.bind (stays_get reading inside) fun before _ got inside => ?_
  obtain ⟨rfl, rfl⟩ := get_ok.1 got
  have counted (next : Reading) (tokens : next.tokens = reading.tokens)
    (flags : next.flags = reading.flags)
      (group : Nat) : Ends text ((set next >>= fun _ => pure group : Reader Nat) reading) := by
    refine Ends.bind (.ok _ next ⟨?_, ?_, ?_⟩) fun _ _ _ => stays_pure _ _
    next => exact tokens ▸ inside.rest
    next => exact flags ▸ inside.ascii
    next => exact flags ▸ inside.unicode
  cases name with
  | none => exact counted { reading with groupCount := reading.groupCount + 1 } rfl rfl _
  | some name =>
    dsimp only
    cases reading.names.lookup name with
    | some earlier => exact stays_fail _ _ _ inside
    | none =>
      exact counted { reading with
        groupCount := reading.groupCount + 1
        names := reading.names ++ [(name, reading.groupCount + 1)] } rfl rfl _

theorem stays_closeGroup (group : Nat) (body : Node) : Stays text (closeGroup group body) :=
  stays_modify fun _ inside => ⟨inside.rest, inside.ascii, inside.unicode⟩

theorem stays_expectClose (start : Nat) : Stays text (expectClose start) :=
  (stays_accept _).bind fun _ => stays_ite (stays_pure _) (stays_failAt _ _)

theorem stays_skipLine : Stays text skipLine :=
  stays_get.bind fun _ => (stays_skip _).bind fun _ => stays_pure _

theorem stays_flagsFor (flags : Flags) (top : Bool) : Stays text (flagsFor flags top) :=
  stays_ite (stays_get.bind fun _ => stays_pure _) (stays_pure _)

theorem stays_countOf (digits : List Char)
    (blamed : ∀ error, PastLimit digits error -> Blamed text error) : Stays text (countOf digits) := by
  intro reading inside
  unfold countOf
  cases read : Text.runValue digits with
  | error numeral => exact .error _ (blamed _ (.long numeral read))
  | ok value =>
    dsimp only
    split
    next past => exact .error _ (blamed _ (.large value read past))
    next => exact stays_pure _ _ inside

theorem stays_bounds (here : Nat) (low high : List Char)
    (blamed : ∀ error, PastLimit low error \/ PastLimit high error -> Blamed text error) :
    Stays text (bounds here low high) := by
  have most (least : Nat) : Stays text (if high.isEmpty then pure ⟨least, none⟩
      else do
        let most <- countOf high
        if most < least then failAt .leastAboveMost here else return ⟨least, some most⟩ :
      Reader Count) :=
    stays_ite (stays_pure _) ((stays_countOf high fun error past => blamed error (.inr past)).bind
      fun _ => stays_ite (stays_failAt _ _) (stays_pure _))
  unfold bounds
  dsimp only
  split
  next => exact (stays_pure _).bind most
  next => exact (stays_countOf low fun error past => blamed error (.inl past)).bind most

theorem stays_highDigits (comma : Bool) (low : List Char) : Stays text (highDigits comma low) :=
  stays_ite (stays_get.bind fun _ => stays_runOf _ _) (stays_pure _)

theorem ends_braceCount (brace : .plain '\x7b' :: reading.tokens <:+ text)
    (inside : Inside text reading) : Ends text (braceCount reading) := by
  refine (stays_peek reading inside).bind fun head _ peeked inside => ?_
  obtain ⟨rfl, rfl⟩ := peek_ok.1 peeked
  split
  next => exact stays_pure _ _ inside
  next notClosed =>
    refine (stays_get _ inside).bind fun before _ got inside => ?_
    obtain ⟨rfl, rfl⟩ := get_ok.1 got
    refine (stays_runOf _ _ _ inside).bind fun low second runLow insideLow => ?_
    obtain ⟨passesLow, digitsLow, _⟩ := runOf_ok runLow
    refine (stays_accept _ _ insideLow).bind fun comma third accepted insideComma => ?_
    refine (stays_highDigits _ _ _ insideComma).bind fun high fourth runHigh insideHigh => ?_
    obtain ⟨more, passesHigh, digitsHigh, withComma, withoutComma⟩ := highDigits_ok runHigh
    refine (stays_accept _ _ insideHigh).bind fun closed fifth closing insideClosed => ?_
    rcases accept_ok closing with ⟨rfl, passesClosing⟩ | ⟨rfl, rfl, _⟩
    next =>
      have ends := passesHigh.trans passesClosing
      have written (count : List Char) (passes : Passes (count.map .plain) reading fifth) :
          Stands text ('\x7b' :: count) := by
        rw [passes.tokens, ← List.cons_append] at brace
        exact (List.prefix_append _ _).isInfix.trans brace.isInfix
      -- What is read as a count stands between the braces.
      have blamed : ∀ error, PastLimit low error \/ PastLimit high error -> Blamed text error := by
        intro error past
        rcases accept_ok accepted with ⟨rfl, passesComma⟩ | ⟨rfl, rfl, _⟩
        next =>
          obtain ⟨rfl, _⟩ := withComma rfl
          have passes : Passes ((low ++ [','] ++ high ++ ['\x7d']).map .plain) reading fifth := by
            simpa using passesLow.trans (passesComma.trans ends)
          exact .inr (.count _ low high true error (written _ passes)
            ⟨rfl, digitsLow, digitsHigh, nofun⟩ past)
        next =>
          obtain ⟨rfl, rfl⟩ := withoutComma rfl
          have passes : Passes ((high ++ ['\x7d']).map .plain) reading fifth := by
            simpa using passesLow.trans ends
          have someDigits : high ≠ [] := by
            rintro rfl
            apply notClosed
            rw [passes.tokens]
            rfl
          exact .inr (.count _ high [] false error (written _ passes)
            ⟨by simp, digitsLow, by simp, fun _ => ⟨someDigits, rfl⟩⟩ (.inl (past.elim id id)))
      exact (stays_bounds _ _ _ blamed _ insideClosed).bind fun _ _ _ inside =>
        stays_pure _ _ inside
    next =>
      refine Ends.bind (.ok _ _ inside) fun _ _ _ inside => stays_pure _ _ inside

theorem ends_quantifier {c : Char} (known : c = '?' \/ c = '*' \/ c = '+' \/ c = '\x7b')
    (follows : .plain c :: reading.tokens <:+ text) (inside : Inside text reading) :
    Ends text (quantifier c reading) := by
  rcases known with rfl | rfl | rfl | rfl
  next => exact stays_pure _ _ inside
  next => exact stays_pure _ _ inside
  next => exact stays_pure _ _ inside
  next => exact ends_braceCount follows inside

theorem stays_greedMark : Stays text greedMark :=
  (stays_accept _).bind fun _ => stays_ite (stays_pure _)
    ((stays_accept _).bind fun _ => stays_ite (stays_pure _) (stays_pure _))

theorem stays_repeated (here : Nat) (count : Count) (soFar : List Piece) :
    Stays text (repeated here count soFar) := by
  unfold repeated
  split
  next => exact stays_failAt _ _
  next =>
    split
    next => exact stays_failAt _ _
    next => exact stays_failAt _ _
    next => exact stays_greedMark.bind fun _ => stays_pure _

theorem ends_ungrouped (flags : Flags) (here : Nat) {c : Char} (soFar : List Piece)
    (follows : .plain c :: reading.tokens <:+ text) (inside : Inside text reading) :
    Ends text (ungrouped flags here c soFar reading) := by
  unfold ungrouped
  by_cases blank : (flags.verbose && isPatternBlank c) = true
  next =>
    rw [if_pos blank]
    exact stays_pure _ _ inside
  rw [if_neg blank]
  by_cases comment : (flags.verbose && c == '#') = true
  next =>
    rw [if_pos comment]
    exact (stays_skipLine.bind fun _ => stays_pure _) _ inside
  rw [if_neg comment]
  by_cases bracket : (c == '[') = true
  next =>
    rw [if_pos bracket]
    exact ((stays_bracketed _).bind fun _ => stays_pure _) _ inside
  rw [if_neg bracket]
  by_cases quantified : (c == '?' || c == '*' || c == '+' || c == '\x7b') = true
  next =>
    rw [if_pos quantified]
    have known : c = '?' \/ c = '*' \/ c = '+' \/ c = '\x7b' := by
      simpa [or_assoc] using quantified
    refine (ends_quantifier known follows inside).bind fun count? middle _ inside => ?_
    cases count? with
    | none => exact stays_pure _ _ inside
    | some count => exact stays_repeated _ _ _ _ inside
  rw [if_neg quantified]
  exact stays_ite (stays_pure _) (stays_ite (stays_pure _) (stays_ite (stays_pure _) (stays_pure _)))
    _ inside

section Groups

variable (body branch : Flags -> Reader (List Node)) (bodies : ∀ flags, Stays text (body flags))
  (branches : ∀ flags, Stays text (branch flags))

include branches in
theorem stays_otherBranch (flags : Flags) : Stays text (otherBranch (branch flags)) := by
  refine (stays_accept _).bind fun bar => stays_ite ?_ (stays_pure _)
  refine (branches flags).bind fun no => stays_peek.bind fun head => ?_
  exact stays_ite (stays_fail _ _) (stays_pure _)

include bodies in
theorem stays_enclosed (here : Nat) (flags : Flags) : Stays text (enclosed here (body flags)) :=
  (bodies flags).bind fun _ => (stays_expectClose _).bind fun _ => stays_pure _

include bodies in
theorem stays_behind (flags : Flags) : Stays text (behind (body flags)) := by
  have looking (change : Reading -> Option Nat) :
      Stays text (modify fun reading => { reading with lookBehindGroups := change reading } :
        Reader PUnit) :=
    stays_modify fun _ inside => ⟨inside.rest, inside.ascii, inside.unicode⟩
  refine stays_get.bind fun reading => ?_
  dsimp only
  split
  next =>
    exact (looking _).bind fun _ => (bodies flags).bind fun _ => (looking _).bind fun _ => stays_pure _
  next => exact (bodies flags).bind fun _ => stays_pure _

def Accounts (text : List Token) (on : Flags) : Prop :=
  (on.ascii = true -> Headed (Stands text) 'a') /\ (on.unicode = true -> Headed (Stands text) 'u')

include bodies branches in
theorem stays_grouped (flags : Flags) (first : Bool) (here : Nat) (soFar : List Piece)
    (opened : Opening) (accounts : ∀ on, opened = .globalFlags on -> Accounts text on) :
    Stays text (grouped body branch flags first here soFar opened) := by
  cases opened with
  | comment => exact stays_pure _
  | reference group => exact stays_pure _
  | globalFlags on =>
    obtain ⟨ascii, unicode⟩ := accounts on rfl
    have turned (reading : Reading) (inside : Inside text reading) :
        Inside text { reading with flags := reading.flags.join on } :=
      ⟨inside.rest, fun is => (Bool.or_eq_true_iff.1 is).elim inside.ascii ascii,
        fun is => (Bool.or_eq_true_iff.1 is).elim inside.unicode unicode⟩
    refine (stays_modify turned).bind fun _ => ?_
    exact stays_ite (stays_get.bind fun _ => stays_pure _) (stays_failAt _ _)
  | cond group =>
    exact (branches _).bind fun _ => (stays_otherBranch branch branches _).bind fun _ =>
      (stays_expectClose _).bind fun _ => stays_pure _
  | lookAhead negated => exact (stays_enclosed body bodies _ _).bind fun _ => stays_pure _
  | lookBehind negated =>
    exact (stays_behind body bodies _).bind fun _ => (stays_expectClose _).bind fun _ =>
      stays_get.bind fun _ => stays_pure _
  | capture name =>
    exact (stays_openGroup _).bind fun _ => (stays_enclosed body bodies _ _).bind fun _ =>
      (stays_closeGroup _ _).bind fun _ => stays_pure _
  | plain => exact (stays_enclosed body bodies _ _).bind fun _ => stays_pure _
  | atomic => exact (stays_enclosed body bodies _ _).bind fun _ => stays_pure _
  | flagged on off => exact (stays_enclosed body bodies _ _).bind fun _ => stays_pure _

end Groups

-- What is to be shown of the readers with so much fuel.
structure BranchesStay (text : List Token) (fuel : Nat) : Prop where
  alternatives : ∀ flags top, Stays text (alternatives fuel flags top)
  branches : ∀ flags top soFar, Stays text (branches fuel flags top soFar)
  sequence : ∀ flags first soFar, Stays text (sequence fuel flags first soFar)

theorem accounts_of_opens {head : Option Token} {on : Flags} {passed : List Token}
    (opens : Opens head (.globalFlags on) passed) (written : .plain '(' :: passed <:+: text) :
    Accounts text on := by
  cases opens with
  | global _ first letters flags =>
    cases flags with
    | global _ _ letters all turned =>
      have headed (letter : Char) (member : letter ∈ first :: letters) : Headed (Stands text) letter :=
        ⟨first :: letters, member, all, by simpa [Stands] using written⟩
      exact ⟨fun is => headed 'a' ((turned.ascii.1 is).resolve_left nofun),
        fun is => headed 'u' ((turned.unicode.1 is).resolve_left nofun)⟩

theorem branchesStay (fuel : Nat) : BranchesStay text fuel := by
  induction fuel with
  | zero =>
    constructor
    next =>
      intro flags top
      unfold alternatives
      exact stays_fail _ _
    next =>
      intro flags top soFar
      unfold branches
      exact stays_fail _ _
    next =>
      intro flags first soFar
      unfold sequence
      exact stays_fail _ _
  | succ fuel ih =>
    constructor
    next =>
      intro flags top
      unfold alternatives
      exact ih.branches _ _ _
    next =>
      intro flags top soFar
      unfold branches
      exact (stays_flagsFor _ _).bind fun _ => (ih.sequence _ _ _).bind fun _ =>
        (stays_accept _).bind fun _ => stays_ite (ih.branches _ _ _)
          ((stays_flagsFor _ _).bind fun _ => stays_pure _)
    next =>
      intro flags first soFar
      unfold sequence
      refine stays_peek.bind fun head => stays_ite (stays_pure _) (stays_get.bind fun here => ?_)
      intro reading inside
      -- The token that is passed over says what may come: a count after a brace, flags after a
      -- parenthesis.
      refine (stays_next reading inside).bind fun token? middle read insideNext => ?_
      rcases next_ok read with ⟨rfl, _⟩ | ⟨token, rfl, one⟩
      next => exact stays_fail _ _ _ insideNext
      next =>
        have follows : token :: middle.tokens <:+ text := by
          have rest := inside.rest
          rwa [one.tokens] at rest
        cases token with
        | escaped c =>
          exact ((stays_escapedPiece _ _).bind fun _ => ih.sequence _ _ _) _ insideNext
        | plain c =>
          dsimp only
          split
          next is =>
            refine (stays_opening _ _ insideNext).bind fun opened last read insideOpened => ?_
            obtain ⟨passed, opens, passes⟩ := opening_ok read
            have written : .plain '(' :: passed <:+: text := by
              rw [eq_of_beq is, passes.tokens, ← List.cons_append] at follows
              exact (List.prefix_append _ _).isInfix.trans follows.isInfix
            refine ((stays_grouped _ _ (fun _ => ih.alternatives _ _) (fun _ => ih.sequence _ _ _)
              _ _ _ _ opened ?_).bind fun grown => ih.sequence _ _ _) _ insideOpened
            rintro on rfl
            exact accounts_of_opens opens written
          next =>
            exact (ends_ungrouped _ _ _ follows insideNext).bind fun pieces last _ insidePart =>
              ih.sequence _ _ _ _ insidePart

theorem stays_lift (work : Except Error α)
    (blamed : ∀ error, work = .error error -> Blamed text error) :
    Stays text (liftM work : Reader α) := by
  intro reading inside
  cases work with
  | error error => exact .error error (blamed error rfl)
  | ok value => exact .ok value reading inside

theorem check_blamed (template : Bool) (node : Node) (error : Error)
    (failed : node.check template = .error error) : Blamed text error := by
  have both (first second : Except Error Unit)
      (one : ∀ error, first = .error error -> Blamed text error)
      (other : ∀ error, second = .error error -> Blamed text error) (error : Error)
      (failed : (do first; second) = .error error) : Blamed text error := by
    cases first with
    | error found =>
      cases failed
      exact one _ rfl
    | ok _ => exact other _ failed
  induction node generalizing error with
  | seq first rest one other => exact both _ _ one other error failed
  | alt first rest one other => exact both _ _ one other error failed
  | cond group yes no one other => exact both _ _ one other error failed
  | group index body ih => exact ih error failed
  | scope body ih => exact ih error failed
  | atomic body ih => exact ih error failed
  | lookAhead negated body ih => exact ih error failed
  | lookBehind negated width body ih =>
    unfold Node.check at failed
    split_ifs at failed
    next =>
      cases failed
      exact .inl ⟨_, _, rfl⟩
    next =>
      cases failed
      exact .inl ⟨_, _, rfl⟩
    next => exact ih error failed
  | rep greed least most body ih =>
    unfold Node.check at failed
    split_ifs at failed
    next =>
      cases failed
      exact .inl ⟨_, _, rfl⟩
    next => exact ih error failed
  | _ => cases failed

theorem stays_wholePattern : Stays text wholePattern := by
  refine stays_get.bind fun start => stays_get.bind fun begun =>
    ((branchesStay _).alternatives _ _).bind fun nodes => ?_
  intro reading inside
  refine (stays_get reading inside).bind fun after _ got inside => ?_
  obtain ⟨rfl, rfl⟩ := get_ok.1 got
  split
  next both =>
    obtain ⟨ascii, unicode⟩ := Bool.and_eq_true_iff.1 both
    exact .error _ (.inr (.alphabets (inside.ascii ascii) (inside.unicode unicode)))
  next =>
    refine stays_ite (stays_fail _ _) ?_ _ inside
    split
    next => exact stays_failAt _ _
    next => exact (stays_lift _ fun error => check_blamed _ _ error).bind fun _ => stays_pure _

end Reader

theorem infix_of_stands {part pattern : List Char} (written : Stands (tokenize pattern).1 part) :
    part <:+: pattern := by
  obtain ⟨before, after, split⟩ := written
  have text := tokenize_text pattern
  rw [← split, tokensText_append, tokensText_append, Reader.tokensText_plain,
    List.append_assoc] at text
  exact ⟨_, _, text⟩

/-- A pattern that cannot be compiled is malformed, or what stands in it passes a limit. -/
theorem compile_blamed {pattern : List Char} {ignoreCase : Bool} {error : Error}
    (failed : compile pattern ignoreCase = .error error) :
    (∃ flaw position, error = .malformed flaw position) \/
      PassesLimit (fun part => part <:+: pattern) error := by
  unfold compile at failed
  dsimp only at failed
  split at failed
  next =>
    cases failed
    exact .inl ⟨_, _, rfl⟩
  next =>
    have start : Inside (tokenize pattern).1 (Reading.start pattern { ignoreCase := ignoreCase }) :=
      ⟨List.suffix_refl _, nofun, nofun⟩
    have ends := Reader.stays_wholePattern _ start
    cases ran : wholePattern (Reading.start pattern { ignoreCase := ignoreCase }) with
    | ok pair =>
      rw [ran] at failed
      cases failed
    | error found =>
      rw [ran] at failed ends
      cases failed
      cases ends with
      | error _ blamed => exact blamed.imp_right fun limit => limit.imp fun _ => infix_of_stands

end BibEdit.Regex
