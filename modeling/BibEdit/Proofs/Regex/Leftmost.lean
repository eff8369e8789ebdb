import BibEdit.Proofs.Regex.Spans
import BibEdit.Proofs.Text.Splice

set_option autoImplicit false

/-! The matches of a pattern lie within the text, one after the other, and each is the first there
is after the one before. -/

namespace BibEdit.Regex

/-- From a position within the text only positions from there on are reached. -/
def Forward (text : Array Char) (start stop : Nat) : Prop :=
  start <= text.size -> start <= stop /\ stop <= text.size

section Forward

variable {text : Array Char} {start middle stop : Nat}

theorem forward_refl (pos : Nat) : Forward text pos pos := fun within => ⟨Nat.le_refl pos, within⟩

theorem Forward.trans (here : Forward text start middle) (later : Forward text middle stop) :
    Forward text start stop := by
  intro within
  obtain ⟨reached, inside⟩ := here within
  obtain ⟨further, ends⟩ := later inside
  exact ⟨Nat.le_trans reached further, ends⟩

theorem forward_step {code : Nat} (here : codeAt text start = some code) :
    Forward text start (start + 1) := by
  intro _
  rcases Nat.lt_or_ge start text.size with inside | outside
  next => omega
  next => simp [codeAt, Array.getElem?_eq_none outside] at here

theorem forward_sameRun {casing : Casing} {count from_ : Nat}
    (same : sameRun casing text count from_ start = true) : Forward text start (start + count) := by
  induction count generalizing from_ start with
  | zero => exact forward_refl start
  | succ count ih =>
    unfold sameRun at same
    split at same
    next here =>
      have later := ih (Bool.and_eq_true_iff.1 same).2
      rw [Nat.add_right_comm] at later
      exact (forward_step here).trans later
    next => cases same

theorem forward_of_repeated {relation : Nat -> Nat -> Prop}
    (each : ∀ start stop, relation start stop -> Forward text start stop) (count : Nat)
    (repeated : Repeated relation count start stop) : Forward text start stop := by
  induction count generalizing start with
  | zero =>
    have same : start = stop := repeated
    exact same ▸ forward_refl start
  | succ count ih =>
    obtain ⟨middle, here, later⟩ := repeated
    exact (each _ _ here).trans (ih later)

theorem forward_traced (text : Array Char) : Traced text (fun _ => Forward text) where
  empty := forward_refl
  any _ _ _ := forward_step
  literal _ _ _ _ _ here _ := forward_step here
  set _ _ _ _ _ _ := forward_step
  anchor _ := forward_refl
  backref _ _ _ _ _ := forward_sameRun
  seq _ _ _ _ _ := Forward.trans
  alt _ _ _ _ either := either.elim id id
  group _ _ _ _ := id
  scope _ _ _ := id
  atomic _ _ _ := id
  lookAhead _ _ := forward_refl
  lookBehind _ _ _ := forward_refl
  cond _ _ _ _ _ either := either.elim id id
  rep _ _ _ _ count _ _ _ := forward_of_repeated (fun _ _ => id) count

end Forward

variable {pattern : Regex} {text : Array Char} {pos : Nat} {refuseEmpty : Bool} {found : Match}

theorem matchAt_start (matched : matchAt pattern text pos refuseEmpty = some found) :
    found.start = pos := by
  obtain ⟨cursor, _, rfl⟩ := Option.map_eq_some_iff.1 matched
  rfl

theorem matchAt_within (matched : matchAt pattern text pos refuseEmpty = some found)
    (within : pos <= text.size) : pos <= found.stop /\ found.stop <= text.size := by
  obtain ⟨cursor, ran, rfl⟩ := Option.map_eq_some_iff.1 matched
  obtain ⟨next, forward, accepted⟩ := run_traced (forward_traced text) _ _ _ _ ran
  split at accepted
  next => cases accepted
  next =>
    cases accepted
    exact forward within

theorem matchAt_refused (matched : matchAt pattern text pos true = some found) :
    found.stop ≠ pos := by
  obtain ⟨cursor, ran, rfl⟩ := Option.map_eq_some_iff.1 matched
  obtain ⟨next, _, accepted⟩ := run_spans _ _ _ _ _ ran
  split at accepted
  next => cases accepted
  next other =>
    cases accepted
    simpa using other

/-- The match that is found first at a position or after it. At the position itself an empty one
may be refused. -/
structure First (pattern : Regex) (text : Array Char) (pos : Nat) (refuseEmpty : Bool)
    (found : Match) : Prop where
  reached : pos <= found.start
  matched : matchAt pattern text found.start (refuseEmpty && found.start == pos) = some found
  earliest : ∀ start, pos <= start -> start < found.start ->
    matchAt pattern text start (refuseEmpty && start == pos) = none

def NoneLeft (pattern : Regex) (text : Array Char) (pos : Nat) (refuseEmpty : Bool) : Prop :=
  ∀ start, pos <= start -> start <= text.size ->
    matchAt pattern text start (refuseEmpty && start == pos) = none

-- Past the position that was looked at, whether an empty match there is refused says nothing.
theorem matchAt_later {start : Nat} (later : pos + 1 <= start) :
    matchAt pattern text start (refuseEmpty && start == pos) =
      matchAt pattern text start (false && start == pos + 1) := by
  have apart : (start == pos) = false := by simp; omega
  rw [apart, Bool.and_false, Bool.false_and]

theorem firstMatch_eq_some {count : Nat}
    (ran : firstMatch pattern text count pos refuseEmpty = some found) :
    First pattern text pos refuseEmpty found /\ found.start < pos + count := by
  induction count generalizing pos refuseEmpty with
  | zero => cases ran
  | succ count ih =>
    unfold firstMatch at ran
    split at ran
    next here =>
      cases ran
      have start := matchAt_start here
      refine ⟨⟨Nat.le_of_eq start.symm, ?_, fun _ _ _ => by omega⟩, by omega⟩
      rwa [start, beq_self_eq_true, Bool.and_true]
    next missed =>
      obtain ⟨later, bound⟩ := ih ran
      have reached := later.reached
      refine ⟨⟨by omega, ?_, fun start from_ before => ?_⟩, by omega⟩
      next =>
        rw [matchAt_later reached]
        exact later.matched
      next =>
        rcases Nat.eq_or_lt_of_le from_ with rfl | after
        next => rwa [beq_self_eq_true, Bool.and_true]
        next =>
          rw [matchAt_later after]
          exact later.earliest start after before

theorem firstMatch_eq_none {count : Nat}
    (ran : firstMatch pattern text count pos refuseEmpty = none) (start : Nat)
    (reached : pos <= start) (within : start < pos + count) :
    matchAt pattern text start (refuseEmpty && start == pos) = none := by
  induction count generalizing pos refuseEmpty with
  | zero => omega
  | succ count ih =>
    unfold firstMatch at ran
    split at ran
    next => cases ran
    next missed =>
      rcases Nat.eq_or_lt_of_le reached with rfl | after
      next => rwa [beq_self_eq_true, Bool.and_true]
      next =>
        rw [matchAt_later after]
        exact ih ran after (by omega)

theorem matchFrom_eq_some (ran : matchFrom pattern text pos refuseEmpty = some found) :
    First pattern text pos refuseEmpty found :=
  (firstMatch_eq_some ran).1

theorem matchFrom_eq_none (ran : matchFrom pattern text pos refuseEmpty = none) :
    NoneLeft pattern text pos refuseEmpty :=
  fun start reached within => firstMatch_eq_none ran start reached (by omega)

theorem matchFrom_within (ran : matchFrom pattern text pos refuseEmpty = some found)
    (within : pos <= text.size) :
    pos <= found.start /\ found.start <= found.stop /\ found.stop <= text.size /\
      (refuseEmpty = true -> pos < found.stop) := by
  obtain ⟨first, bound⟩ := firstMatch_eq_some ran
  have reached := first.reached
  obtain ⟨ends, inside⟩ := matchAt_within first.matched (by omega)
  refine ⟨reached, ends, inside, fun refused => ?_⟩
  rcases Nat.eq_or_lt_of_le reached with same | after
  next =>
    have matched := first.matched
    rw [← same, refused, beq_self_eq_true] at matched
    have other := matchAt_refused matched
    omega
  next => omega

/-- The matches from a position on: each is the first after the one before, which must not be empty
where an empty one ended, and none is left after the last. -/
def Leftmost (pattern : Regex) (text : Array Char) : Nat -> Bool -> List Match -> Prop
  | pos, refuseEmpty, [] => NoneLeft pattern text pos refuseEmpty
  | pos, refuseEmpty, found :: rest =>
    First pattern text pos refuseEmpty found /\
      Leftmost pattern text found.stop (found.start == found.stop) rest

/-- How many matches there may be from a position on: each but an empty one leaves less text, and no
two empty ones are in one place. -/
def room (text : Array Char) (pos : Nat) (refuseEmpty : Bool) : Nat :=
  2 * (text.size - pos) + if refuseEmpty then 0 else 1

theorem room_decreases (ran : matchFrom pattern text pos refuseEmpty = some found)
    (within : pos <= text.size) :
    room text found.stop (found.start == found.stop) < room text pos refuseEmpty := by
  obtain ⟨reached, ends, inside, refused⟩ := matchFrom_within ran within
  unfold room
  cases refuseEmpty with
  | true =>
    have after := refused rfl
    simp only [if_true]
    split <;> omega
  | false =>
    simp only [Bool.false_eq_true, if_false]
    split
    next => omega
    next filled =>
      have apart : found.start ≠ found.stop := by simpa using filled
      omega

theorem matchesFrom_leftmost (fuel : Nat) (within : pos <= text.size)
    (enough : room text pos refuseEmpty < fuel) :
    Leftmost pattern text pos refuseEmpty (matchesFrom pattern text fuel pos refuseEmpty) := by
  induction fuel generalizing pos refuseEmpty with
  | zero => omega
  | succ fuel ih =>
    unfold matchesFrom
    cases ran : matchFrom pattern text pos refuseEmpty with
    | none => exact matchFrom_eq_none ran
    | some found =>
      have less := room_decreases ran within
      obtain ⟨_, _, inside, _⟩ := matchFrom_within ran within
      exact ⟨matchFrom_eq_some ran, ih inside (by omega)⟩

theorem findAll_leftmost (pattern : Regex) (text : List Char) :
    Leftmost pattern text.toArray 0 false (pattern.findAll text) := by
  refine matchesFrom_leftmost _ (Nat.zero_le _) ?_
  simp [room]

def Match.span (found : Match) : Nat × Nat := (found.start, found.stop)

theorem matchesFrom_apart (fuel : Nat) (within : pos <= text.size) :
    Text.Apart text.size pos ((matchesFrom pattern text fuel pos refuseEmpty).map Match.span) := by
  induction fuel generalizing pos refuseEmpty with
  | zero => trivial
  | succ fuel ih =>
    unfold matchesFrom
    cases ran : matchFrom pattern text pos refuseEmpty with
    | none => trivial
    | some found =>
      obtain ⟨reached, ends, inside, _⟩ := matchFrom_within ran within
      exact ⟨reached, ends, inside, ih inside⟩

theorem findAll_apart (pattern : Regex) (text : List Char) :
    Text.Apart text.length 0 ((pattern.findAll text).map Match.span) :=
  matchesFrom_apart _ (Nat.zero_le _)

/-- Substitution goes by all matches, though it looks for them itself: what is given for each is put
between the pieces around them, and the first failure is that of the whole. -/
theorem substituteFrom_eq {ε : Type} (replacer : Match -> Except ε (List Char)) (fuel : Nat) :
    substituteFrom pattern text replacer fuel pos refuseEmpty =
      ((matchesFrom pattern text fuel pos refuseEmpty).mapM replacer).map
        (Text.weave (Text.gaps text.toList pos
          ((matchesFrom pattern text fuel pos refuseEmpty).map Match.span))) := by
  induction fuel generalizing pos refuseEmpty with
  | zero => simp [substituteFrom, matchesFrom, Text.gaps, pure, Except.pure, Except.map]
  | succ fuel ih =>
    unfold substituteFrom matchesFrom
    cases ran : matchFrom pattern text pos refuseEmpty with
    | none => simp [Text.gaps, pure, Except.pure, Except.map]
    | some found =>
      dsimp only
      rw [ih, List.mapM_cons]
      cases replacer found with
      | error error => rfl
      | ok replaced =>
        cases (matchesFrom pattern text fuel found.stop (found.start == found.stop)).mapM replacer <;>
          rfl

theorem substitute_eq {ε : Type} (pattern : Regex) (text : List Char)
    (replacer : Match -> Except ε (List Char)) :
    pattern.substitute text replacer = ((pattern.findAll text).mapM replacer).map
      (Text.weave (Text.gaps text 0 ((pattern.findAll text).map Match.span))) :=
  substituteFrom_eq replacer _

end BibEdit.Regex
