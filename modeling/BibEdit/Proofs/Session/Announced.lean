import BibEdit.Proofs.Revision.Batch
import BibEdit.Proofs.Session.Consent

set_option autoImplicit false

namespace BibEdit

namespace Revision

section Batches

variable {σ ρ : Type} (keeping : Keeping σ ρ)

/-- Changes committed to one record after the other: what becomes of each, and of the place. -/
def commitAll (place : σ) : List (ρ × List Change) -> List (Int × Verdict) × σ
  | [] => ([], place)
  | (item, changes) :: rest =>
    let outcome := commit keeping place item changes
    let later := commitAll outcome.place rest
    (((keeping.record item).id, verdictOf outcome.result) :: later.1, later.2)

theorem ids_commitAll (place : σ) (plans : List (ρ × List Change)) :
    (commitAll keeping place plans).1.map Prod.fst =
      plans.map fun plan => (keeping.record plan.1).id := by
  induction plans generalizing place with
  | nil => rfl
  | cons plan rest ih => simp [commitAll, ih]

theorem verdictOf_commit (place : σ) (item : ρ) (changes : List Change)
    (someChanges : changes ≠ []) :
    verdictOf (commit keeping place item changes).result ≠ .skipped := by
  have given : changes.isEmpty = false := by simpa using someChanges
  unfold commit
  simp only [given, Bool.false_eq_true, if_false]
  split
  next => simp [verdictOf]
  next =>
    split
    next => simp [verdictOf]
    next => simp [verdictOf, given]

theorem commitAll_not_skipped (place : σ) (plans : List (ρ × List Change))
    (someChanges : ∀ plan ∈ plans, plan.2 ≠ []) :
    ∀ verdict ∈ (commitAll keeping place plans).1, verdict.2 ≠ .skipped := by
  induction plans generalizing place with
  | nil => exact nofun
  | cons plan rest ih =>
    obtain ⟨here, later⟩ := List.forall_mem_cons.1 someChanges
    exact List.forall_mem_cons.2 ⟨verdictOf_commit keeping place plan.1 plan.2 here, ih _ later⟩

def Batch.turn (batch : Batch σ ρ) (total current : Nat) (recordId : Int)
    (outcome : Outcome σ ρ Verdict) : Batch σ ρ where
  result := batch.result.add recordId outcome.result
  events := batch.events ++
    [.reported ⟨current + 1, total, recordId⟩, .revised recordId outcome.result]
  items := batch.items ++ [outcome.item]
  place := outcome.place

theorem verdicts_turn (batch : Batch σ ρ) (total current : Nat) (recordId : Int)
    (outcome : Outcome σ ρ Verdict) :
    (batch.turn total current recordId outcome).verdicts =
      batch.verdicts ++ [(recordId, outcome.result)] := by
  unfold Batch.verdicts Batch.turn
  rw [List.filterMap_append]
  rfl

variable (revision : Revision) (fields : List String)

theorem reviseAll_cons (total current : Nat) (batch : Batch σ ρ) (item : ρ) (rest : List ρ) :
    reviseAll keeping revision fields total current batch (item :: rest) =
      reviseAll keeping revision fields total (current + 1)
        (batch.turn total current (keeping.record item).id
          (reviseOne keeping revision fields batch.place item)) rest := rfl

/-- A batch of records whose changes have been worked out commits those changes. -/
theorem reviseAll_commitAll (total current : Nat) (batch : Batch σ ρ)
    (plans : List (ρ × List Change))
    (previewed : ∀ plan ∈ plans, revision.preview (keeping.readable plan.1) fields = .ok plan.2) :
    let after := reviseAll keeping revision fields total current batch (plans.map Prod.fst)
    let committed := commitAll keeping batch.place plans
    after.result = batch.result + BatchResult.ofVerdicts committed.1 /\
      after.verdicts = batch.verdicts ++ committed.1 /\ after.place = committed.2 := by
  induction plans generalizing current batch with
  | nil => simp [reviseAll, commitAll, BatchResult.ofVerdicts, BatchResult.add_def]
  | cons plan rest ih =>
    obtain ⟨here, later⟩ := List.forall_mem_cons.1 previewed
    rw [List.map_cons, reviseAll_cons, reviseOne, here, commitAll]
    dsimp only
    -- What is left is a batch that starts where the first commit ended, however it ended.
    generalize commit keeping batch.place plan.1 plan.2 = outcome
    obtain ⟨result, verdicts, place⟩ := ih (current + 1) (batch.turn total current
      (keeping.record plan.1).id ⟨verdictOf outcome.result, outcome.item, outcome.place⟩) later
    refine ⟨?_, ?_, place⟩
    next =>
      rw [result, BatchResult.ofVerdicts_cons, ← BatchResult.add_assoc, ← BatchResult.add_eq]
      rfl
    next =>
      rw [verdicts, verdicts_turn, List.append_assoc]
      rfl

end Batches

theorem skipped_ofVerdicts (verdicts : List (Int × Verdict))
    (changed : ∀ verdict ∈ verdicts, verdict.2 ≠ .skipped) :
    (BatchResult.ofVerdicts verdicts).skipped = 0 := by
  induction verdicts with
  | nil => rfl
  | cons verdict rest ih =>
    obtain ⟨here, later⟩ := List.forall_mem_cons.1 changed
    rw [BatchResult.ofVerdicts_cons, BatchResult.add_def]
    dsimp only
    rw [ih later]
    obtain ⟨recordId, verdict⟩ := verdict
    cases verdict with
    | skipped => exact absurd rfl here
    | modified => rfl
    | failed message => rfl

theorem errors_sublist (verdicts : List (Int × Verdict)) :
    ((BatchResult.ofVerdicts verdicts).errors.map BatchError.recordId).Sublist
      (verdicts.map Prod.fst) := by
  rw [BatchResult.errors_ofVerdicts]
  induction verdicts with
  | nil => exact .slnil
  | cons verdict rest ih =>
    obtain ⟨recordId, verdict⟩ := verdict
    cases verdict with
    | modified => exact ih.cons recordId
    | skipped => exact ih.cons recordId
    | failed message => exact ih.cons_cons recordId

end Revision

namespace Session

def announced (planned : List Plan) : List (Record × List Change) :=
  planned.map fun plan => (plan.record, plan.changes)

section Announcements

variable [Console.Prompting]

theorem conclude_work (request : Request) (planned : List Plan) (desk : Desk)
    (batch : Revision.Batch Library Record)
    (ran : Revision.batch Library.keeping request.revision request.targets desk.library
      (planned.map Plan.record) = .ok batch) :
    ∃ after, (conclude request (some planned)).work desk = (.ok (some batch.result), after) /\
      after.library = batch.place := by
  obtain ⟨texts, reported⟩ := exists_prints_report (planned.map Plan.record) batch.result
  have wrote : (write request.revision request.targets (planned.map Plan.record)).work desk =
      (.ok batch.result, { desk with library := batch.place }) := by
    rw [write, work_bind, work_get]
    dsimp only
    rw [work_bind, ran]
    rfl
  refine ⟨({ desk with library := batch.place } : Desk).printed texts, ?_, rfl⟩
  rw [conclude, work_bind, wrote]
  dsimp only
  rw [work_bind, reported]
  rfl

variable {settings : Settings} {request : Request} {desk between : Desk} {planned : List Plan}

theorem previewed_of_review
    (reviewed : (review settings request).work desk = (.ok (some planned), between)) (plan : Plan)
    (member : plan ∈ planned) : plan.changes ≠ [] /\
      request.revision.preview plan.record.readable request.targets = .ok plan.changes := by
  obtain ⟨-, -, ⟨found, _, made⟩, -⟩ := (review_eq_some _ _ _ _ _).1 reviewed
  exact plans_eq_ok _ _ found planned made plan member

theorem shown_of_review
    (reviewed : (review settings request).work desk = (.ok (some planned), between)) :
    desk.terminal.output ++ (planned.flatMap planTexts).flatMap desk.terminal.shown <+:
      between.terminal.output := by
  obtain ⟨-, -, ⟨found, _, made⟩, -, -, shown, showed, permitted⟩ :=
    (review_eq_some _ _ _ _ _).1 reviewed
  rw [prints_plans _ _ found planned made] at showed
  cases showed
  rw [← Desk.output_printed]
  exact permitted_output _ _ _ _ _ permitted

theorem batch_of_review
    (reviewed : (review settings request).work desk = (.ok (some planned), between)) :
    ∃ batch, Revision.batch Library.keeping request.revision request.targets desk.library
        (planned.map Plan.record) = .ok batch /\
      (batch.verdicts, batch.place) =
        Revision.commitAll Library.keeping desk.library (announced planned) /\
      batch.result = Revision.BatchResult.ofVerdicts batch.verdicts := by
  obtain ⟨valid, -⟩ := (review_eq_some _ _ _ _ _).1 reviewed
  have previewed : ∀ plan ∈ announced planned,
      request.revision.preview (Library.keeping.readable plan.1) request.targets = .ok plan.2 := by
    intro plan member
    obtain ⟨one, listed, rfl⟩ := List.mem_map.1 member
    exact (previewed_of_review reviewed one listed).2
  have committed := Revision.reviseAll_commitAll Library.keeping request.revision request.targets
    (planned.map Plan.record).length 0 ⟨{}, [], [], desk.library⟩ (announced planned) previewed
  have records : (announced planned).map Prod.fst = planned.map Plan.record := by
    simp [announced]
  rw [records] at committed
  obtain ⟨result, verdicts, place⟩ := committed
  refine ⟨_, ?_, Prod.ext verdicts place, ?_⟩
  next =>
    rw [Revision.batch, valid, Revision.reviseAll_prepared]
    rfl
  next =>
    rw [result, verdicts]
    simp [Revision.BatchResult.add_def, Revision.Batch.verdicts]

/-- A replacement that gets to the writing does what was announced: each record that was shown has
changes, those worked out before, and they are committed one after the other. None is skipped, each
is changed or fails, and the failures come in the order shown. -/
theorem replace_as_announced
    (reviewed : (review settings request).work desk = (.ok (some planned), between)) :
    (desk.terminal.output ++ (planned.flatMap planTexts).flatMap desk.terminal.shown <+:
        between.terminal.output) /\
      (∀ plan ∈ planned, plan.changes ≠ [] /\
        request.revision.preview plan.record.readable request.targets = .ok plan.changes /\
        request.revision.prepared.preview plan.record.readable request.targets =
          .ok plan.changes) /\
      ∃ batch after,
        Revision.batch Library.keeping request.revision request.targets desk.library
            (planned.map Plan.record) = .ok batch /\
          (replace settings request).work desk = (.ok (some batch.result), after) /\
          after.library = batch.place /\
          (batch.verdicts, batch.place) =
            Revision.commitAll Library.keeping desk.library (announced planned) /\
          batch.result.skipped = 0 /\
          batch.result.modified + batch.result.errors.length = planned.length /\
          (batch.result.errors.map Revision.BatchError.recordId).Sublist
            (planned.map fun plan => plan.record.id) := by
  refine ⟨shown_of_review reviewed, fun plan member => ?_, ?_⟩
  next =>
    obtain ⟨someChanges, previewed⟩ := previewed_of_review reviewed plan member
    exact ⟨someChanges, previewed, Revision.preview_prepared request.revision ▸ previewed⟩
  next =>
    obtain ⟨batch, ran, committed, result⟩ := batch_of_review reviewed
    have verdicts : batch.verdicts =
        (Revision.commitAll Library.keeping desk.library (announced planned)).1 :=
      congrArg Prod.fst committed
    have ids : batch.verdicts.map Prod.fst = planned.map fun plan => plan.record.id := by
      rw [verdicts, Revision.ids_commitAll, announced, List.map_map]
      rfl
    have someChanges : ∀ plan ∈ announced planned, plan.2 ≠ [] := by
      intro plan member
      obtain ⟨one, listed, rfl⟩ := List.mem_map.1 member
      exact (previewed_of_review reviewed one listed).1
    have noneSkipped : batch.result.skipped = 0 := by
      rw [result, verdicts]
      exact Revision.skipped_ofVerdicts _
        (Revision.commitAll_not_skipped Library.keeping _ _ someChanges)
    have counts := Revision.BatchResult.counts_ofVerdicts batch.verdicts
    rw [← result, noneSkipped, Nat.add_zero, ← List.length_map (f := Prod.fst), ids,
      List.length_map] at counts
    have errors := Revision.errors_sublist batch.verdicts
    rw [← result, ids] at errors
    -- The review leaves the library alone, so that the batch starts from the one that was searched.
    have kept := keepsLibrary_review settings request desk
    rw [reviewed] at kept
    obtain ⟨after, concluded, left⟩ := conclude_work request planned between batch (kept ▸ ran)
    refine ⟨batch, after, ran, ?_, left, committed, noneSkipped, counts, errors⟩
    rw [replace_eq, work_bind, reviewed]
    exact concluded

end Announcements

/-- A locked library, where a title cannot be changed but a name can. -/
def lockedDesk : Desk where
  library := {
    entries := [⟨1, "A", 1, none, [("title", "Old ways")], [], [], []⟩,
      ⟨2, "B", 1, none, [], [⟨"", "Old", "", "author"⟩], [], []⟩]
    locked := true }
  terminal := { color := false, typed := [['y']] }

def oldToGold : Request where
  conditions := [⟨"title", "Old", .contains, true, .or⟩,
    ⟨"creator.lastName", "Old", .contains, true, .or⟩]
  revision := { search := "o(ld)", replacement := .template "Go$1" }
  confirm := true

theorem replace_as_announced_locked : ∃ planned between,
    (review plainSettings oldToGold).work lockedDesk = (.ok (some planned), between) /\
      (planned.map fun plan => plan.record.id) = [1, 2] /\
      ∃ batch after,
        Revision.batch Library.keeping oldToGold.revision oldToGold.targets lockedDesk.library
            (planned.map Plan.record) = .ok batch /\
          (replace plainSettings oldToGold).work lockedDesk = (.ok (some batch.result), after) /\
          (batch.verdicts, batch.place) =
            Revision.commitAll Library.keeping lockedDesk.library (announced planned) /\
          batch.result = ⟨1, 0, [⟨1, "read only"⟩]⟩ := by
  have made : ((review plainSettings oldToGold).work lockedDesk).1.toOption.join.map
      (fun planned => planned.map fun plan => plan.record.id) = some [1, 2] := by decide +kernel
  have cameTo : ((replace plainSettings oldToGold).work lockedDesk).1.toOption.join =
      some ⟨1, 0, [⟨1, "read only"⟩]⟩ := by decide +kernel
  cases reviewed : (review plainSettings oldToGold).work lockedDesk with
  | mk result between =>
    rw [reviewed] at made
    rcases result with stop | _ | planned
    next => cases made
    next => cases made
    next =>
      obtain ⟨-, -, batch, after, ran, replaced, -, committed, -⟩ := replace_as_announced reviewed
      rw [replaced] at cameTo
      exact ⟨planned, between, rfl, Option.some.inj made, batch, after, ran, replaced, committed,
        Option.some.inj cameTo⟩

end Session

end BibEdit
