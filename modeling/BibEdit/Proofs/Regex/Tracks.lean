import BibEdit.Proofs.Regex.Reading

set_option autoImplicit false

/-! Readers for which it makes no difference whether case is ignored. -/

namespace BibEdit.Regex

def Flags.recased (flags : Flags) (ignoreCase : Bool) : Flags :=
  { flags with ignoreCase := ignoreCase }

def Reading.recased (reading : Reading) (ignoreCase : Bool) : Reading :=
  { reading with flags := reading.flags.recased ignoreCase }

namespace Reader

variable {α β γ δ : Type}

variable {base : Flags} {ignoreCase : Bool}

/-- Where the first reader succeeds, so does the second with case treated otherwise, and what they
read is related. Neither changes the flags of the whole pattern. -/
def Tracks (base : Flags) (ignoreCase : Bool) (related : α -> β -> Prop) (first : Reader α)
    (second : Reader β) : Prop :=
  ∀ reading value after, reading.flags = base -> first reading = .ok (value, after) ->
    after.flags = base /\
      ∃ other, second (reading.recased ignoreCase) = .ok (other, after.recased ignoreCase) /\
        related value other

abbrev Blind (base : Flags) (ignoreCase : Bool) (reader : Reader α) : Prop :=
  Tracks base ignoreCase Eq reader reader

variable {related : α -> β -> Prop} {result : γ -> δ -> Prop}

theorem Tracks.bind {x : Reader α} {y : Reader β} {f : α -> Reader γ} {g : β -> Reader δ}
    (first : Tracks base ignoreCase related x y)
    (next : ∀ a b, related a b -> Tracks base ignoreCase result (f a) (g b)) :
    Tracks base ignoreCase result (x >>= f) (y >>= g) := by
  intro reading value last flagsAre ran
  obtain ⟨a, middle, ranFirst, ranNext⟩ := bind_ok.1 ran
  obtain ⟨kept, b, tracked, alike⟩ := first reading a middle flagsAre ranFirst
  obtain ⟨keptNext, other, trackedNext, results⟩ := next a b alike middle value last kept ranNext
  exact ⟨keptNext, other, bind_ok.2 ⟨b, _, tracked, trackedNext⟩, results⟩

theorem Blind.andThen {x : Reader α} {f : α -> Reader γ} {g : α -> Reader δ}
    (first : Blind base ignoreCase x) (next : ∀ a, Tracks base ignoreCase result (f a) (g a)) :
    Tracks base ignoreCase result (x >>= f) (x >>= g) := by
  apply Tracks.bind first
  rintro a _ rfl
  exact next a

theorem tracks_pure {a : α} {b : β} (alike : related a b) :
    Tracks base ignoreCase related (pure a) (pure b) := by
  intro reading value last flagsAre ran
  obtain ⟨rfl, rfl⟩ := pure_ok.1 ran
  exact ⟨flagsAre, b, rfl, alike⟩

theorem blind_pure (a : α) : Blind base ignoreCase (pure a : Reader α) := tracks_pure rfl

theorem tracks_throw (error : Error) (y : Reader β) :
    Tracks base ignoreCase related (throw error : Reader α) y :=
  fun _ _ _ _ ran => absurd ran throw_ok

theorem tracks_fail (flaw : Flaw) (back : Nat) (y : Reader β) :
    Tracks base ignoreCase related (fail flaw back : Reader α) y :=
  fun _ _ _ _ ran => absurd ran fail_ok

theorem tracks_failAt (flaw : Flaw) (position : Nat) (y : Reader β) :
    Tracks base ignoreCase related (failAt flaw position : Reader α) y := tracks_throw _ y

theorem tracks_ite {holds : Prop} [Decidable holds] {x x' : Reader α} {y y' : Reader β}
    (yes : Tracks base ignoreCase related x y) (no : Tracks base ignoreCase related x' y') :
    Tracks base ignoreCase related (if holds then x else x') (if holds then y else y') := by
  split
  next => exact yes
  next => exact no

theorem tracks_get {f : Reading -> Reader γ} {g : Reading -> Reader δ}
    (next : ∀ reading, reading.flags = base ->
      Tracks base ignoreCase result (f reading) (g (reading.recased ignoreCase))) :
    Tracks base ignoreCase result (get >>= f) (get >>= g) := by
  intro reading value last flagsAre ran
  obtain ⟨_, _, got, ran⟩ := bind_ok.1 ran
  obtain ⟨rfl, rfl⟩ := get_ok.1 got
  exact next reading flagsAre reading value last flagsAre ran

theorem tracks_set (reading : Reading) (flagsAre : reading.flags = base) :
    Tracks base ignoreCase Eq (set reading : Reader PUnit) (set (reading.recased ignoreCase)) := by
  intro before value last _ ran
  rw [← set_ok.1 ran]
  exact ⟨flagsAre, value, rfl, rfl⟩

theorem tracks_modify {change other : Reading -> Reading}
    (keeps : ∀ reading, (change reading).flags = reading.flags)
    (same : ∀ reading, other (reading.recased ignoreCase) = (change reading).recased ignoreCase) :
    Tracks base ignoreCase Eq (modify change : Reader PUnit) (modify other) := by
  intro reading value last flagsAre ran
  rw [← modify_ok.1 ran]
  exact ⟨(keeps reading).trans flagsAre, value, modify_ok.2 (same reading), rfl⟩

theorem blind_get {f : Reading -> Reader α}
    (through : ∀ reading ignoreCase, f (reading.recased ignoreCase) = f reading)
    (next : ∀ reading, Blind base ignoreCase (f reading)) : Blind base ignoreCase (get >>= f) :=
  tracks_get fun reading _ => by
    rw [through]
    exact next reading

theorem blind_peek : Blind base ignoreCase peek := blind_get (fun _ _ => rfl) fun _ => blind_pure _

theorem blind_skip (count : Nat) : Blind base ignoreCase (skip count) :=
  tracks_get fun _ flagsAre =>
    tracks_ite (tracks_failAt _ _ _)
      ((tracks_set _ (by exact flagsAre)).bind fun _ _ _ => blind_pure _)

theorem blind_next : Blind base ignoreCase next := (blind_skip 1).andThen fun _ => blind_pure _

theorem blind_accept (c : Char) : Blind base ignoreCase (accept c) :=
  blind_peek.andThen fun _ =>
    tracks_ite ((blind_skip 1).andThen fun _ => blind_pure _) (blind_pure _)

theorem blind_runOf (most : Nat) (test : Char -> Bool) : Blind base ignoreCase (runOf most test) :=
  blind_get (fun _ _ => rfl) fun _ => (blind_skip _).andThen fun _ => blind_pure _

theorem blind_upTo (terminator : Char) (what : String) :
    Blind base ignoreCase (upTo terminator what) :=
  blind_get (fun _ _ => rfl) fun _ =>
    tracks_ite
      ((blind_skip _).andThen fun _ => tracks_ite (tracks_fail _ _ _) (blind_pure _))
      ((blind_skip _).andThen fun _ => tracks_ite (tracks_fail _ _ _) (tracks_fail _ _ _))

theorem blind_hexEscape (c : Char) (count : Nat) : Blind base ignoreCase (hexEscape c count) :=
  (blind_runOf _ _).andThen fun _ =>
    tracks_ite (tracks_ite (blind_pure _) (tracks_fail _ _ _)) (tracks_fail _ _ _)

theorem blind_namedEscape : Blind base ignoreCase namedEscape := by
  refine (blind_accept _).andThen fun _ => tracks_ite ?_ (tracks_fail _ _ _)
  refine (blind_upTo _ _).andThen fun name => ?_
  cases Unicode.named? name with
  | some code => exact blind_pure _
  | none => exact tracks_fail _ _ _

theorem blind_octalEscape (digits : List Char) : Blind base ignoreCase (octalEscape digits) :=
  tracks_ite (tracks_fail _ _ _) (blind_pure _)

theorem blind_otherEscape (c : Char) : Blind base ignoreCase (otherEscape c) :=
  tracks_ite (tracks_fail _ _ _) (blind_pure _)

theorem blind_memberEscape (c : Char) : Blind base ignoreCase (memberEscape c) := by
  unfold memberEscape
  split
  next => exact blind_pure _
  next => exact blind_pure _
  next =>
    exact tracks_ite ((blind_hexEscape _ _).andThen fun _ => blind_pure _) <|
      tracks_ite ((blind_hexEscape _ _).andThen fun _ => blind_pure _) <|
      tracks_ite ((blind_hexEscape _ _).andThen fun _ => blind_pure _) <|
      tracks_ite (blind_namedEscape.andThen fun _ => blind_pure _) <|
      tracks_ite
        ((blind_runOf _ _).andThen fun _ => (blind_octalEscape _).andThen fun _ => blind_pure _) <|
      tracks_ite (tracks_fail _ _ _) ((blind_otherEscape _).andThen fun _ => blind_pure _)

theorem blind_checkLookBehind (group : Nat) : Blind base ignoreCase (checkLookBehind group) := by
  refine blind_get (fun _ _ => rfl) fun reading => ?_
  split
  next => exact blind_pure _
  next => exact tracks_ite (tracks_fail _ _ _) (tracks_ite (tracks_fail _ _ _) (blind_pure _))

theorem blind_memberOf (token : Token) : Blind base ignoreCase (memberOf token) := by
  cases token with
  | plain c => exact blind_pure _
  | escaped c => exact blind_memberEscape c

theorem blind_rangeOf (low high : Token) (first last : Member) :
    Blind base ignoreCase (rangeOf low high first last) := by
  unfold rangeOf
  dsimp only
  split
  next => exact tracks_ite (tracks_fail _ _ _) (blind_pure _)
  next => exact tracks_fail _ _ _

theorem blind_members (here fuel : Nat) (soFar : List Member) :
    Blind base ignoreCase (members here fuel soFar) := by
  induction fuel generalizing soFar with
  | zero => exact tracks_failAt _ _ _
  | succ fuel ih =>
    refine blind_next.andThen fun token? => ?_
    split
    next => exact tracks_failAt _ _ _
    next =>
      refine tracks_ite (blind_pure _) ?_
      refine (blind_memberOf _).andThen fun first => (blind_accept _).andThen fun _ => ?_
      refine tracks_ite (blind_next.andThen fun bound? => ?_) (ih _)
      split
      next => exact tracks_failAt _ _ _
      next => exact blind_pure _
      next =>
        exact (blind_memberOf _).andThen fun _ => (blind_rangeOf _ _ _ _).andThen fun _ => ih _

theorem blind_countOf (digits : List Char) : Blind base ignoreCase (countOf digits) := by
  unfold countOf
  split
  next => exact tracks_throw _ _
  next => exact tracks_ite (tracks_throw _ _) (blind_pure _)

theorem blind_highDigits (comma : Bool) (low : List Char) :
    Blind base ignoreCase (highDigits comma low) :=
  tracks_ite (blind_get (fun _ _ => rfl) fun _ => blind_runOf _ _) (blind_pure _)

theorem blind_bounds (here : Nat) (low high : List Char) :
    Blind base ignoreCase (bounds here low high) := by
  have finish (least : Nat) : Blind base ignoreCase (if high.isEmpty then pure ⟨least, none⟩ else do
      let most <- countOf high
      if most < least then failAt .leastAboveMost here else return ⟨least, some most⟩ :
        Reader Count) :=
    tracks_ite (blind_pure _) <|
      (blind_countOf _).andThen fun _ => tracks_ite (tracks_failAt _ _ _) (blind_pure _)
  exact tracks_ite ((blind_pure _).andThen finish) ((blind_countOf _).andThen finish)

theorem blind_braceCount : Blind base ignoreCase braceCount := by
  refine blind_peek.andThen fun head => tracks_ite (blind_pure _) ?_
  refine tracks_get fun before flagsAre => ?_
  refine (blind_runOf _ _).andThen fun low => (blind_accept _).andThen fun comma => ?_
  refine (blind_highDigits _ _).andThen fun high => (blind_accept _).andThen fun closed => ?_
  cases closed with
  | true => exact (blind_bounds _ _ _).andThen fun _ => blind_pure _
  | false =>
    apply (tracks_set before flagsAre).bind
    exact fun _ _ _ => blind_pure _

theorem blind_quantifier (c : Char) : Blind base ignoreCase (quantifier c) := by
  unfold quantifier
  split
  next => exact blind_pure _
  next => exact blind_pure _
  next => exact blind_pure _
  next => exact blind_braceCount

theorem blind_greedMark : Blind base ignoreCase greedMark :=
  (blind_accept _).andThen fun _ => tracks_ite (blind_pure _) <|
    (blind_accept _).andThen fun _ => tracks_ite (blind_pure _) (blind_pure _)

theorem blind_badFlag (token : Token) (expected : Flaw) :
    Blind base ignoreCase (badFlag token expected : Reader α) := by
  cases token <;> exact tracks_fail _ _ _

theorem blind_flagsOn (fuel : Nat) (token : Token) (on : Flags) :
    Blind base ignoreCase (flagsOn fuel token on) := by
  induction fuel generalizing token on with
  | zero => exact blind_pure _
  | succ fuel ih =>
    cases token with
    | escaped c => exact blind_pure _
    | plain c =>
      refine tracks_ite (tracks_fail _ _ _) (tracks_ite (tracks_fail _ _ _) ?_)
      refine blind_next.andThen fun following? => ?_
      cases following? with
      | none => exact tracks_fail _ _ _
      | some following =>
        exact tracks_ite (blind_pure _) (tracks_ite (ih _ _) (blind_badFlag _ _))

theorem blind_flagsOff (fuel : Nat) (token : Token) (off : Flags) :
    Blind base ignoreCase (flagsOff fuel token off) := by
  induction fuel generalizing token off with
  | zero => exact blind_pure _
  | succ fuel ih =>
    cases token with
    | escaped c => exact blind_pure _
    | plain c =>
      refine tracks_ite (tracks_fail _ _ _) (blind_next.andThen fun following? => ?_)
      cases following? with
      | none => exact tracks_fail _ _ _
      | some following =>
        exact tracks_ite (blind_pure _) (tracks_ite (ih _ _) (blind_badFlag _ _))

theorem blind_scopeOff (on : Flags) : Blind base ignoreCase (scopeOff on) := by
  have finish (off : Flags) : Blind base ignoreCase (if off.template then fail .globalOff 1
      else if on.overlap off then fail .contradiction 1 else return .within on off : Reader Scope) :=
    tracks_ite (tracks_fail _ _ _) (tracks_ite (tracks_fail _ _ _) (blind_pure _))
  refine blind_next.andThen fun token? => ?_
  cases token? with
  | none => exact Blind.andThen (tracks_fail _ _ _) finish
  | some token =>
    refine tracks_ite (blind_get (fun _ _ => rfl) fun _ => ?_) ((blind_badFlag _ _).andThen finish)
    exact (blind_flagsOff _ _ _).andThen finish

theorem blind_scope (token : Token) : Blind base ignoreCase (scope token) := by
  refine tracks_ite (blind_scopeOff _) (blind_get (fun _ _ => rfl) fun _ => ?_)
  refine (blind_flagsOn _ _ _).andThen fun (on, ending) => ?_
  exact tracks_ite (blind_pure _) <| tracks_ite (tracks_fail _ _ _) <|
    tracks_ite (blind_scopeOff _) (blind_pure _)

theorem blind_checkName (name : List Char) : Blind base ignoreCase (checkName name) :=
  tracks_ite (blind_pure _) (tracks_fail _ _ _)

theorem blind_namedGroup (name : List Char) : Blind base ignoreCase (namedGroup name) := by
  refine blind_get (fun _ _ => rfl) fun reading => ?_
  split
  next => exact blind_pure _
  next => exact tracks_fail _ _ _

theorem blind_numberedGroup (name : List Char) (group : Nat) :
    Blind base ignoreCase (numberedGroup name group) := by
  refine tracks_ite (tracks_fail _ _ _) (tracks_ite (tracks_fail _ _ _) ?_)
  refine Blind.andThen (tracks_modify (fun reading => ?_) fun reading => ?_) fun _ => blind_pure _
  next => split <;> rfl
  next =>
    dsimp only [Reading.recased]
    split <;> rfl

theorem blind_groupOf (name : List Char) : Blind base ignoreCase (groupOf name) := by
  refine tracks_ite (blind_namedGroup _) ?_
  split
  next => exact blind_numberedGroup _ _
  next => exact tracks_fail _ _ _

theorem blind_condition : Blind base ignoreCase condition :=
  (blind_upTo _ _).andThen fun _ => (blind_groupOf _).andThen fun _ =>
    (blind_checkLookBehind _).andThen fun _ => blind_pure _

theorem blind_namedOpening : Blind base ignoreCase namedOpening := by
  refine (blind_accept _).andThen fun _ => tracks_ite ?_ ?_
  next =>
    exact (blind_upTo _ _).andThen fun _ => (blind_checkName _).andThen fun _ => blind_pure _
  next =>
    refine (blind_accept _).andThen fun _ => tracks_ite ?_ ?_
    next =>
      refine (blind_upTo _ _).andThen fun name => (blind_checkName _).andThen fun _ => ?_
      refine (blind_namedGroup _).andThen fun group => blind_get (fun _ _ => rfl) fun _ => ?_
      exact tracks_ite (tracks_fail _ _ _) ((blind_checkLookBehind _).andThen fun _ => blind_pure _)
    next =>
      refine blind_next.andThen fun token? => ?_
      cases token? <;> exact tracks_fail _ _ _

theorem blind_comment (start : Nat) : Blind base ignoreCase (comment start) :=
  blind_get (fun _ _ => rfl) fun _ => (blind_skip _).andThen fun _ =>
    tracks_ite (blind_pure _) (tracks_failAt _ _ _)

theorem blind_lookBehindOpening : Blind base ignoreCase lookBehindOpening := by
  refine blind_next.andThen fun token? => ?_
  cases token? with
  | none => exact tracks_fail _ _ _
  | some token => exact tracks_ite (blind_pure _) (tracks_ite (blind_pure _) (tracks_fail _ _ _))

theorem blind_flagOpening (c : Char) : Blind base ignoreCase (flagOpening c) := by
  refine (blind_scope _).andThen fun scope => ?_
  cases scope <;> exact blind_pure _

theorem blind_specialOpening (start : Nat) (c : Char) :
    Blind base ignoreCase (specialOpening start c) :=
  tracks_ite blind_namedOpening <| tracks_ite (blind_pure _) <| tracks_ite (blind_comment _) <|
    tracks_ite (blind_pure _) <| tracks_ite (blind_pure _) <| tracks_ite blind_lookBehindOpening <|
    tracks_ite (blind_condition.andThen fun _ => blind_pure _) <| tracks_ite (blind_pure _) <|
    tracks_ite (blind_flagOpening _) (tracks_fail _ _ _)

theorem blind_opening (start : Nat) : Blind base ignoreCase (opening start) := by
  refine (blind_accept _).andThen fun _ => tracks_ite (blind_pure _) ?_
  refine blind_next.andThen fun token? => ?_
  match token? with
  | none => exact tracks_fail _ _ _
  | some (.escaped c) => exact tracks_fail _ _ _
  | some (.plain c) => exact blind_specialOpening start c

theorem blind_openGroup (name : Option (List Char)) : Blind base ignoreCase (openGroup name) := by
  refine tracks_get fun reading flagsAre => ?_
  cases name with
  | none => exact (tracks_set _ (by exact flagsAre)).bind fun _ _ _ => blind_pure _
  | some name =>
    dsimp only [Reading.recased]
    split
    next => exact tracks_fail _ _ _
    next => exact (tracks_set _ (by exact flagsAre)).bind fun _ _ _ => blind_pure _

theorem blind_expectClose (start : Nat) : Blind base ignoreCase (expectClose start) :=
  (blind_accept _).andThen fun _ => tracks_ite (blind_pure _) (tracks_failAt _ _ _)

theorem blind_skipLine : Blind base ignoreCase skipLine :=
  blind_get (fun _ _ => rfl) fun _ => (blind_skip _).andThen fun _ => blind_pure _

end Reader

end BibEdit.Regex
