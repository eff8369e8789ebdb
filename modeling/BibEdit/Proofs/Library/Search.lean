import BibEdit.Library.Query
import BibEdit.Proofs.Library.Load

set_option autoImplicit false

/-! What a search of a library comes to, with and without a probe. -/

namespace BibEdit

namespace Search

theorem andThen_outcome {α β : Type} (run : Run α) (next : α -> Run β) :
    (run.andThen next).outcome = run.outcome >>= fun value => (next value).outcome := by
  unfold Run.andThen
  cases run.outcome <;> rfl

theorem ask_outcome {α : Type} (call : Call) (answer : Except Fault α) :
    (ask call answer).outcome = answer.mapError .fault := rfl

variable {ρ : Type}

theorem count_outcome (answer : Except Failure (List Int)) :
    (answer >>= fun ids => (count ids).outcome) = answer := by
  cases answer <;> rfl

theorem candidates_probed (store : Store ρ) (libraryId : Option Int) (probe : Probe) :
    (candidates store libraryId (some probe)).outcome =
      (store.query probe libraryId).mapError .fault := by
  simp only [candidates, andThen_outcome, ask_outcome, count_outcome]

theorem candidates_listed (store : Store ρ) (libraryId : Option Int) :
    (candidates store libraryId none).outcome = (store.list libraryId).mapError .fault := by
  simp only [candidates, andThen_outcome, ask_outcome, count_outcome, report, ok_bind]

def foundIn (readable : ρ -> Readable) (conditions : List Condition) :
    List ρ -> Except Failure (List (Found ρ))
  | [] => .ok []
  | record :: rest => do
    let evaluation <- (evaluate (readable record) conditions).mapError .fault
    let found <- foundIn readable conditions rest
    return if evaluation.isMatched then ⟨record, evaluation.details⟩ :: found else found

theorem refine_outcome (readable : ρ -> Readable) (conditions : List Condition)
    (total current : Nat) (records : List ρ) :
    (refine readable conditions total current records).outcome =
      foundIn readable conditions records := by
  induction records generalizing current with
  | nil => rfl
  | cons record rest ih =>
    simp only [refine, andThen_outcome, ih, report, ok_bind, foundIn]
    rfl

theorem refineAll_outcome (store : Store ρ) (readable : ρ -> Readable)
    (conditions : List Condition) (ids : List Int) (records : List ρ)
    (loaded : store.load ids = .ok records) (noneAsked : ids = [] -> records = []) :
    (refineAll store readable conditions ids).outcome = foundIn readable conditions records := by
  unfold refineAll
  by_cases asked : ids = []
  next =>
    rw [noneAsked asked, asked]
    rfl
  next =>
    have someAsked : ids.isEmpty = false := by simpa using asked
    rw [someAsked]
    simp only [Bool.false_eq_true, if_false, andThen_outcome, ask_outcome, loaded]
    exact refine_outcome readable conditions records.length 0 records

/-- A record that plainly does not satisfy the conditions. -/
def Misses (readable : ρ -> Readable) (conditions : List Condition) (record : ρ) : Prop :=
  ∃ evaluation, evaluate (readable record) conditions = .ok evaluation /\
    evaluation.isMatched = false

theorem foundIn_cons_of_misses (readable : ρ -> Readable) (conditions : List Condition)
    (record : ρ) (rest : List ρ) (misses : Misses readable conditions record) :
    foundIn readable conditions (record :: rest) = foundIn readable conditions rest := by
  obtain ⟨evaluation, evaluated, unmatched⟩ := misses
  simp only [foundIn, evaluated, Except.mapError, ok_bind, unmatched, Bool.false_eq_true, if_false,
    bind_pure]

theorem foundIn_filter {α : Type} (readable : ρ -> Readable) (conditions : List Condition)
    (keep : α -> Bool) (record : α -> ρ) (items : List α)
    (missing : ∀ item ∈ items, keep item = false -> Misses readable conditions (record item)) :
    foundIn readable conditions ((items.filter keep).map record) =
      foundIn readable conditions (items.map record) := by
  induction items with
  | nil => rfl
  | cons item rest ih =>
    have later := ih fun other member => missing other (List.mem_cons_of_mem _ member)
    by_cases kept : keep item = true
    next =>
      rw [List.filter_cons_of_pos kept, List.map_cons, List.map_cons]
      simp only [foundIn, later]
    next =>
      have misses := missing item (by simp) (by simpa using kept)
      rw [List.filter_cons_of_neg kept, later, List.map_cons,
        foundIn_cons_of_misses _ _ _ _ misses]

theorem search_outcome (store : Store ρ) (readable : ρ -> Readable) (conditions : List Condition)
    (given : conditions ≠ []) (valid : validate conditions = .ok ()) (libraryId : Option Int)
    (threshold : Int) :
    (search store readable conditions libraryId threshold).outcome =
      (Probe.plan conditions threshold).mapError .fault >>= fun probe =>
        (candidates store libraryId probe).outcome >>= fun ids =>
          (refineAll store readable conditions ids).outcome := by
  have someGiven : conditions.isEmpty = false := by simpa using given
  unfold search
  rw [someGiven]
  simp only [Bool.false_eq_true, if_false, andThen_outcome, valid, ok_bind]

theorem search_invalid (store : Store ρ) (readable : ρ -> Readable) (conditions : List Condition)
    (given : conditions ≠ []) (failure : Failure) (invalid : validate conditions = .error failure)
    (libraryId : Option Int) (threshold : Int) :
    (search store readable conditions libraryId threshold).outcome = .error failure := by
  have someGiven : conditions.isEmpty = false := by simpa using given
  unfold search
  rw [someGiven]
  simp only [Bool.false_eq_true, if_false, andThen_outcome, invalid]
  rfl

end Search

namespace Library

open Search

/-- What a search comes to that looks at every record in scope. -/
def fullScan (library : Library) (conditions : List Condition) (libraryId : Option Int) :
    Except Failure (List (Found Record)) := do
  (requireScope libraryId).mapError .fault
  foundIn Record.readable conditions ((library.entries.filter (inScope libraryId)).map Entry.record)

theorem refineAll_sublist (library : Library) (indexed : library.Indexed)
    (conditions : List Condition) (chosen : List Entry) (sublist : chosen.Sublist library.entries) :
    (refineAll library.store Record.readable conditions (chosen.map Entry.id)).outcome =
      foundIn Record.readable conditions (chosen.map Entry.record) := by
  refine refineAll_outcome _ _ _ _ _ (load_sublist library indexed chosen sublist) ?_
  intro empty
  rw [List.map_eq_nil_iff.1 empty]
  rfl

theorem candidates_sublist (library : Library) (libraryId : Option Int) (probe? : Option Probe)
    (ids : List Int) (answered : (candidates library.store libraryId probe?).outcome = .ok ids) :
    ∃ chosen : List Entry, chosen.Sublist (library.entries.filter (inScope libraryId)) /\
      ids = chosen.map Entry.id := by
  cases probe? with
  | none =>
    rw [candidates_listed, mapError_eq_ok] at answered
    obtain ⟨_, _, listed⟩ := bind_eq_ok.1 answered
    cases listed
    exact ⟨_, .refl _, rfl⟩
  | some probe =>
    rw [candidates_probed, mapError_eq_ok] at answered
    obtain ⟨answers?, _, queried⟩ := bind_eq_ok.1 answered
    cases answers? with
    | none =>
      cases queried
      exact ⟨[], List.nil_sublist _, rfl⟩
    | some answers =>
      obtain ⟨_, _, listed⟩ := bind_eq_ok.1 queried
      cases listed
      exact ⟨_, List.filter_sublist.filter _, rfl⟩

section Outcome

variable (library : Library) (indexed : library.Indexed) (conditions : List Condition)
  (given : conditions ≠ []) (valid : validate conditions = .ok ()) (libraryId : Option Int)
  (threshold : Int)

include indexed given valid in
theorem search_unplanned (planned : Probe.plan conditions threshold = .ok none) :
    (search library.store Record.readable conditions libraryId threshold).outcome =
      library.fullScan conditions libraryId := by
  have sublist : (library.entries.filter (inScope libraryId)).Sublist library.entries :=
    List.filter_sublist
  rw [search_outcome library.store _ conditions given valid, planned]
  simp only [Except.mapError, ok_bind, candidates_listed, store, list, fullScan]
  cases requireScope libraryId with
  | error fault => rfl
  | ok _ => exact refineAll_sublist library indexed conditions _ sublist

include indexed given valid in
theorem search_probed (probe : Probe) (answers : Entry -> Bool)
    (planned : Probe.plan conditions threshold = .ok (some probe))
    (asked : question probe = .ok (some answers)) :
    (search library.store Record.readable conditions libraryId threshold).outcome =
      (requireScope libraryId).mapError .fault >>= fun _ =>
        foundIn Record.readable conditions
          (((library.entries.filter answers).filter (inScope libraryId)).map Entry.record) := by
  have sublist : ((library.entries.filter answers).filter (inScope libraryId)).Sublist
      library.entries := List.filter_sublist.trans List.filter_sublist
  rw [search_outcome library.store _ conditions given valid, planned]
  simp only [Except.mapError, ok_bind, candidates_probed, store, query, asked]
  cases requireScope libraryId with
  | error fault => rfl
  | ok _ => exact refineAll_sublist library indexed conditions _ sublist

end Outcome

end Library

end BibEdit
