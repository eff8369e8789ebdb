import BibEdit.Proofs.Success
import BibEdit.Session.Replace

set_option autoImplicit false

/-! What sessions do to the library, and what they come to. -/

namespace BibEdit.Session

def KeepsLibrary {α : Type} (session : Session α) : Prop :=
  ∀ desk, (session.work desk).2.library = desk.library

/-- However the session goes on a library, what it leaves of it is allowed. -/
def Leaves {α : Type} (start : Library) (allowed : Library -> Prop) (session : Session α) : Prop :=
  ∀ desk, desk.library = start -> allowed (session.work desk).2.library

def Gives {α : Type} (start : Library) (session : Session α) (value : α) : Prop :=
  ∃ desk after, desk.library = start /\ session.work desk = (.ok value, after)

section Sessions

variable {α β : Type} {start : Library} {allowed : Library -> Prop}

theorem work_bind (first : Session α) (next : α -> Session β) (desk : Desk) :
    (first >>= next).work desk =
      match first.work desk with
      | (.ok value, after) => (next value).work after
      | (.error stop, after) => (.error stop, after) := by
  show (ExceptT.bind first next).run.run desk = _
  simp only [ExceptT.bind, ExceptT.run, ExceptT.mk, StateT.run, bind, StateT.bind, work]
  cases first desk with
  | mk result after => cases result <;> rfl

theorem work_get (desk : Desk) : (get : Session Desk).work desk = (.ok desk, desk) := rfl

theorem work_set (desk after : Desk) : (set after : Session PUnit).work desk = (.ok (), after) := rfl

theorem keepsLibrary_pure (value : α) : KeepsLibrary (pure value) := fun _ => rfl

theorem keepsLibrary_throw (stop : Stop) : KeepsLibrary (throw stop : Session α) := fun _ => rfl

theorem keepsLibrary_bind (first : Session α) (next : α -> Session β) (keeps : KeepsLibrary first)
    (later : ∀ value, KeepsLibrary (next value)) : KeepsLibrary (first >>= next) := by
  intro desk
  have here := keeps desk
  rw [work_bind]
  cases ran : first.work desk with
  | mk result after =>
    rw [ran] at here
    cases result with
    | error stop => exact here
    | ok value => exact (later value after).trans here

theorem keepsLibrary_forM (items : List α) (each : α -> Session Unit)
    (keeps : ∀ item, KeepsLibrary (each item)) : KeepsLibrary (items.forM each) := by
  induction items with
  | nil => exact keepsLibrary_pure ()
  | cons item rest ih => exact keepsLibrary_bind _ _ (keeps item) fun _ => ih

theorem keepsLibrary_stopOn {ε : Type} (stop : ε -> Stop) (result : Except ε α) :
    KeepsLibrary (stopOn stop result) := by
  cases result with
  | ok value => exact keepsLibrary_pure value
  | error error => exact keepsLibrary_throw (stop error)

theorem keepsLibrary_print [Console.Styling] (text : List Char) : KeepsLibrary (print text) :=
  fun _ => rfl

theorem keepsLibrary_asking (ask : Console.Terminal -> Option Bool × Console.Terminal) :
    KeepsLibrary (asking ask) := by
  intro desk
  unfold asking
  rw [work_bind, work_get]
  dsimp only
  rw [work_bind, work_set]
  dsimp only
  split <;> rfl

theorem leaves_of_keeps (session : Session α) (keeps : KeepsLibrary session)
    (unchanged : allowed start) : Leaves start allowed session := by
  intro desk here
  rw [keeps desk, here]
  exact unchanged

theorem leaves_bind (first : Session α) (next : α -> Session β) (keeps : KeepsLibrary first)
    (unchanged : allowed start)
    (later : ∀ value, Gives start first value -> Leaves start allowed (next value)) :
    Leaves start allowed (first >>= next) := by
  intro desk here
  have kept := keeps desk
  rw [work_bind]
  cases ran : first.work desk with
  | mk result after =>
    rw [ran] at kept
    have stillHere : after.library = start := kept.trans here
    cases result with
    | error stop =>
      show allowed after.library
      rwa [stillHere]
    | ok value => exact later value ⟨desk, after, here, ran⟩ after stillHere

theorem leaves_then (first : Session α) (next : α -> Session β)
    (leaves : Leaves start allowed first) (later : ∀ value, KeepsLibrary (next value)) :
    Leaves start allowed (first >>= next) := by
  intro desk here
  have left := leaves desk here
  rw [work_bind]
  cases ran : first.work desk with
  | mk result after =>
    rw [ran] at left
    cases result with
    | error stop => exact left
    | ok value =>
      show allowed ((next value).work after).2.library
      rwa [later value after]

theorem work_bind_eq_ok {desk after : Desk} (first : Session α) (next : α -> Session β) (result : β) :
    (first >>= next).work desk = (.ok result, after) <->
      ∃ value between, first.work desk = (.ok value, between) /\
        (next value).work between = (.ok result, after) := by
  rw [work_bind]
  cases first.work desk with
  | mk outcome between =>
    cases outcome with
    | error stop => simp
    | ok value => simp

theorem work_pure_eq_ok {desk after : Desk} (value result : α) :
    (pure value : Session α).work desk = (.ok result, after) <-> value = result /\ desk = after := by
  show ((.ok value, desk) : Except Stop α × Desk) = _ <-> _
  simp

theorem work_stopOn_eq_ok {ε : Type} {desk after : Desk} (stop : ε -> Stop) (work : Except ε α)
    (result : α) :
    (stopOn stop work).work desk = (.ok result, after) <-> work = .ok result /\ desk = after := by
  cases work with
  | ok value =>
    rw [stopOn, work_pure_eq_ok]
    simp
  | error error =>
    show ((.error (stop error), desk) : Except Stop α × Desk) = _ <-> _
    simp

end Sessions

theorem keepsLibrary_find (settings : Settings) (conditions : List Condition)
    (libraryId : Option Int) : KeepsLibrary (find settings conditions libraryId) := by
  unfold find requireWritten
  apply keepsLibrary_bind
  next => split <;> exact fun _ => rfl
  next =>
    intro _
    apply keepsLibrary_bind _ _ fun _ => rfl
    exact fun _ => keepsLibrary_stopOn _ _

variable [Console.Prompting]

theorem keepsLibrary_styledLine (style : Console.Style) (text : List Char) :
    KeepsLibrary (styledLine style text) := keepsLibrary_print _

theorem keepsLibrary_showPlan (plan : Plan) : KeepsLibrary (showPlan plan) := by
  apply keepsLibrary_bind _ _ (keepsLibrary_styledLine _ _)
  intro _
  apply keepsLibrary_forM
  intro change
  apply keepsLibrary_bind _ _ (keepsLibrary_print _)
  intro _
  apply keepsLibrary_bind _ _ (keepsLibrary_stopOn _ _)
  intro _
  apply keepsLibrary_bind _ _ (keepsLibrary_print _)
  intro _
  apply keepsLibrary_bind _ _ (keepsLibrary_print _)
  intro _
  apply keepsLibrary_bind _ _ (keepsLibrary_stopOn _ _)
  exact fun _ => keepsLibrary_styledLine _ _

theorem keepsLibrary_consent (limit : Int) (count : Nat) : KeepsLibrary (consent limit count) :=
  keepsLibrary_asking _

theorem keepsLibrary_permitted (request : Request) (limit : Int) (count : Nat) :
    KeepsLibrary (permitted request limit count) := by
  unfold permitted
  split
  next => exact keepsLibrary_pure true
  next =>
    apply keepsLibrary_bind _ _ (keepsLibrary_print _)
    intro _
    apply keepsLibrary_bind _ _ (keepsLibrary_consent limit count)
    intro agreed
    split
    next => exact keepsLibrary_bind _ _ (keepsLibrary_print _) fun _ => keepsLibrary_pure true
    next => exact keepsLibrary_pure false

theorem keepsLibrary_report (records : List Record) (result : Revision.BatchResult) :
    KeepsLibrary (report records result) := by
  have failures : KeepsLibrary (if !result.errors.isEmpty then do
      styledLine { color := some .red }
        (chars "Failed to modify " ++ numberText result.errors.length ++ chars " records:")
      result.errors.forM fun error => styledLine { color := some .red } (errorLine records error)
    else pure ()) := by
    split
    next =>
      apply keepsLibrary_bind _ _ (keepsLibrary_styledLine _ _)
      exact fun _ => keepsLibrary_forM _ _ fun _ => keepsLibrary_styledLine _ _
    next => exact keepsLibrary_pure ()
  apply keepsLibrary_bind _ _ (keepsLibrary_print _)
  intro _
  apply keepsLibrary_bind _ _ (keepsLibrary_print _)
  intro _
  dsimp only
  split
  next => exact keepsLibrary_bind _ _ (keepsLibrary_styledLine _ _) fun _ => failures
  next => exact failures

end BibEdit.Session
