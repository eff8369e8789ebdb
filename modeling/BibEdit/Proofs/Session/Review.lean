import BibEdit.Proofs.Session.Work

set_option autoImplicit false

/-! A replacement is a review, which writes nothing, and then the writing of what was reviewed. -/

namespace BibEdit.Session

theorem work_find_eq_ok {desk after : Desk} (settings : Settings) (conditions : List Condition)
    (libraryId : Option Int) (found : List (Search.Found Record)) :
    (find settings conditions libraryId).work desk = (.ok found, after) <->
      (∀ condition ∈ conditions, condition.render?.isSome = true) /\
        (search desk.library.store Record.readable conditions libraryId
          settings.fieldThreshold).outcome = .ok found /\ desk = after := by
  unfold find requireWritten
  rw [work_bind_eq_ok, ← List.all_eq_true]
  cases conditions.all fun condition => condition.render?.isSome with
  | true =>
    simp only [if_true, true_and]
    constructor
    next =>
      rintro ⟨_, _, written, ran⟩
      obtain ⟨-, rfl⟩ := (work_pure_eq_ok _ _).1 written
      obtain ⟨_, _, got, searched⟩ := (work_bind_eq_ok _ _ _).1 ran
      cases got
      exact (work_stopOn_eq_ok _ _ _).1 searched
    next =>
      rintro ⟨searched, rfl⟩
      exact ⟨(), desk, rfl, (work_bind_eq_ok _ _ _).2
        ⟨desk, desk, rfl, (work_stopOn_eq_ok _ _ _).2 ⟨searched, rfl⟩⟩⟩
  | false =>
    simp only [Bool.false_eq_true, if_false, false_and, iff_false]
    rintro ⟨_, _, ran, -⟩
    cases ran

def Proposed (settings : Settings) (request : Request) (library : Library) (planned : List Plan) :
    Prop :=
  ∃ found, (search library.store Record.readable request.conditions request.libraryId
      settings.fieldThreshold).outcome = .ok found /\
    plans request.revision request.targets found = .ok planned

theorem Proposed.unique {settings : Settings} {request : Request} {library : Library}
    {planned others : List Plan} (first : Proposed settings request library planned)
    (second : Proposed settings request library others) : planned = others := by
  obtain ⟨found, searched, made⟩ := first
  obtain ⟨again, searchedToo, madeToo⟩ := second
  rw [searched] at searchedToo
  cases searchedToo
  rw [made] at madeToo
  exact Except.ok.inj madeToo

variable [Console.Prompting]

/-- All that comes before the writing: the search, the changes shown, the question asked. Gives the
plans that may be carried out. -/
def review (settings : Settings) (request : Request) : Session (Option (List Plan)) := do
  stopOn .pattern (Pattern.validate request.revision.search request.revision.kind)
  let found <- find settings request.conditions request.libraryId
  let plans <- ofFault (plans request.revision request.targets found)
  if plans.isEmpty then
    noneFound
    blankLine
    return none
  else
    plans.forM showPlan
    if request.dryRun then
      announceDryRun plans.length
      return none
    else if <- permitted request (request.confirmAbove.getD settings.confirmAbove) plans.length then
      return some plans
    else return none

def conclude (request : Request) : Option (List Plan) -> Session (Option Revision.BatchResult)
  | none => return none
  | some plans => do
    let records := plans.map Plan.record
    let result <- write request.revision request.targets records
    report records result
    return some result

theorem replace_eq (settings : Settings) (request : Request) :
    replace settings request = review settings request >>= conclude request := by
  simp only [replace, review, bind_assoc]
  congr 1
  funext _
  congr 1
  funext found
  congr 1
  funext plans
  split
  next => simp only [bind_assoc, pure_bind, conclude]
  next =>
    simp only [bind_assoc]
    congr 1
    funext _
    split
    next => simp only [bind_assoc, pure_bind, conclude]
    next =>
      simp only [bind_assoc]
      congr 1
      funext agreed
      cases agreed <;> simp [conclude]

theorem keepsLibrary_review (settings : Settings) (request : Request) :
    KeepsLibrary (review settings request) := by
  apply keepsLibrary_bind _ _ (keepsLibrary_stopOn _ _)
  intro _
  apply keepsLibrary_bind _ _ (keepsLibrary_find _ _ _)
  intro found
  apply keepsLibrary_bind _ _ (keepsLibrary_stopOn _ _)
  intro plans
  split
  next =>
    exact keepsLibrary_bind _ _ (keepsLibrary_styledLine _ _) fun _ =>
      keepsLibrary_bind _ _ (keepsLibrary_print _) fun _ => keepsLibrary_pure none
  next =>
    apply keepsLibrary_bind _ _ (keepsLibrary_forM _ _ keepsLibrary_showPlan)
    intro _
    split
    next =>
      exact keepsLibrary_bind _ _ (keepsLibrary_bind _ _ (keepsLibrary_print _) fun _ =>
        keepsLibrary_styledLine _ _) fun _ => keepsLibrary_pure none
    next =>
      apply keepsLibrary_bind _ _ (keepsLibrary_permitted _ _ _)
      intro agreed
      split <;> exact keepsLibrary_pure _

theorem review_eq_some (settings : Settings) (request : Request) (desk after : Desk)
    (planned : List Plan) :
    (review settings request).work desk = (.ok (some planned), after) <->
      Pattern.validate request.revision.search request.revision.kind = .ok () /\
        (∀ condition ∈ request.conditions, condition.render?.isSome = true) /\
        Proposed settings request desk.library planned /\ planned ≠ [] /\ request.dryRun = false /\
        ∃ shown, (planned.forM showPlan).work desk = (.ok (), shown) /\
          (permitted request (request.confirmAbove.getD settings.confirmAbove)
            planned.length).work shown = (.ok true, after) := by
  unfold review ofFault
  simp only [work_bind_eq_ok, work_stopOn_eq_ok, work_find_eq_ok]
  constructor
  next =>
    rintro ⟨_, _, ⟨valid, rfl⟩, found, _, ⟨written, searched, rfl⟩, plans, _, ⟨made, rfl⟩, ran⟩
    split at ran
    next => simp only [work_bind_eq_ok, work_pure_eq_ok, reduceCtorEq, false_and, and_false,
      exists_false] at ran
    next somePlanned =>
      obtain ⟨_, shown, showed, ran⟩ := (work_bind_eq_ok _ _ _).1 ran
      split at ran
      next => simp only [work_bind_eq_ok, work_pure_eq_ok, reduceCtorEq, false_and, and_false,
        exists_false] at ran
      next wet =>
        obtain ⟨agreed, between, asked, ran⟩ := (work_bind_eq_ok _ _ _).1 ran
        cases agreed with
        | false => simp [work_pure_eq_ok] at ran
        | true =>
          obtain ⟨same, rfl⟩ := (work_pure_eq_ok _ _).1 ran
          cases same
          exact ⟨valid, written, ⟨found, searched, made⟩, by simpa using somePlanned,
            by simpa using wet, shown, showed, asked⟩
  next =>
    rintro ⟨valid, written, ⟨found, searched, made⟩, somePlanned, wet, shown, showed, asked⟩
    refine ⟨(), desk, ⟨valid, rfl⟩, found, desk, ⟨written, searched, rfl⟩, planned, desk,
      ⟨made, rfl⟩, ?_⟩
    rw [if_neg (by simpa using somePlanned), work_bind_eq_ok]
    refine ⟨(), shown, showed, ?_⟩
    rw [if_neg (by simp [wet]), work_bind_eq_ok]
    exact ⟨true, after, asked, rfl⟩

end BibEdit.Session