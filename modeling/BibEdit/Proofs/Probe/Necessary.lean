import BibEdit.Proofs.Probe.Search

set_option autoImplicit false

namespace BibEdit

namespace Probe

open Search Library

variable {conditions : List Condition}

theorem mem_of_firstOf (condition : Condition) (probe : Probe)
    (first : firstOf conditions = .ok (some (condition, probe))) :
    condition ∈ conditions /\ ofCondition? condition = .ok (some probe) := by
  induction conditions with
  | nil => cases first
  | cons head rest ih =>
    have later (goesOn : firstOf rest = .ok (some (condition, probe))) :
        condition ∈ head :: rest /\ ofCondition? condition = .ok (some probe) :=
      ⟨List.mem_cons_of_mem _ (ih goesOn).1, (ih goesOn).2⟩
    unfold firstOf at first
    split at first
    next => exact later first
    next =>
      obtain ⟨probe?, made, goesOn⟩ := bind_eq_ok.1 first
      cases probe? with
      | none => exact later goesOn
      | some found =>
        cases goesOn
        exact ⟨by simp, made⟩

theorem planned_condition (threshold : Int) (probe : Probe)
    (planned : plan conditions threshold = .ok (some probe)) :
    narrows conditions = true /\
      ∃ condition ∈ conditions, condition.isNegative = false /\
        ofCondition? condition = .ok (some probe) := by
  obtain unplanned | ⟨narrow, chosenIs⟩ := plan_cases conditions threshold
  next => cases unplanned.symm.trans planned
  next =>
    obtain ⟨chosen?, first, same⟩ := map_eq_ok.1 (chosenIs.symm.trans planned)
    obtain ⟨⟨condition, _⟩, rfl, rfl⟩ := Option.map_eq_some_iff.1 same
    obtain ⟨member, made⟩ := mem_of_firstOf condition _ first
    have positive := List.all_eq_true.1 (Bool.and_eq_true_iff.1 narrow).1 condition member
    exact ⟨narrow, condition, member, by simpa using positive, made⟩

theorem plan_below_zero (threshold : Int) (below : threshold < 0) :
    plan conditions threshold = .ok none := by
  have many : ¬ ((distinctFields conditions).length : Int) <= threshold := by omega
  simp [plan, choose, mayNarrow, many, Except.map]

end Probe

namespace Library

open Search

/-- The store of a library that answers to every probe with the same records. -/
def answering (library : Library) (answers : Entry -> Bool) : Store Record :=
  { library.store with
    query := fun _ libraryId => do
      requireScope libraryId
      return ((library.entries.filter answers).filter (inScope libraryId)).map Entry.id }

section Answering

variable (library : Library) (indexed : library.Indexed) (conditions : List Condition)
  (condition : Condition) (answers : Entry -> Bool) (libraryId : Option Int) (threshold : Int)

include indexed

theorem search_answering (given : conditions ≠ []) (valid : validate conditions = .ok ())
    (probe : Probe) (planned : Probe.plan conditions threshold = .ok (some probe)) :
    (search (library.answering answers) Record.readable conditions libraryId threshold).outcome =
      (requireScope libraryId).mapError .fault >>= fun _ =>
        foundIn Record.readable conditions
          (((library.entries.filter answers).filter (inScope libraryId)).map Entry.record) := by
  have sublist : ((library.entries.filter answers).filter (inScope libraryId)).Sublist
      library.entries := List.filter_sublist.trans List.filter_sublist
  rw [search_outcome _ _ conditions given valid, planned]
  simp only [Except.mapError, ok_bind, candidates_probed, answering]
  cases requireScope libraryId with
  | error fault => rfl
  | ok _ => exact refineAll_sublist library indexed conditions _ sublist

theorem search_answering_same (probe : Probe)
    (planned : Probe.plan conditions threshold = .ok (some probe))
    (required : ∀ source evaluation, evaluate source conditions = .ok evaluation ->
      evaluation.isMatched = true -> condition.Meets source)
    (superset : ∀ entry ∈ library.entries, inScope libraryId entry = true ->
      condition.Meets entry.record.readable -> answers entry = true) :
    (search (library.answering answers) Record.readable conditions libraryId threshold).outcome =
      (search library.store Record.readable conditions libraryId (-1)).outcome := by
  by_cases given : conditions = []
  next => rw [given]; rfl
  cases valid : validate conditions with
  | error failure =>
    rw [search_invalid _ _ conditions given failure valid,
      search_invalid _ _ conditions given failure valid]
  | ok _ =>
    rw [search_answering library indexed conditions answers libraryId threshold given valid probe
      planned, search_unplanned library indexed conditions given valid libraryId (-1)
      (Probe.plan_below_zero (-1) (by decide))]
    unfold fullScan
    rw [List.filter_comm, foundIn_filter Record.readable conditions answers Entry.record]
    intro entry member unanswered
    obtain ⟨listed, isInScope⟩ := List.mem_filter.1 member
    obtain ⟨evaluation, evaluated⟩ := evaluate_total entry.record (valid_of_validate conditions valid)
    refine ⟨evaluation, evaluated, Bool.eq_false_iff.2 fun matched => ?_⟩
    have met := required entry.record.readable evaluation evaluated matched
    rw [superset entry listed isInScope met] at unanswered
    cases unanswered

end Answering

end Library

namespace Probe

open Search Library

/-- A plan is for one of the conditions, a positive one that every match satisfies. So the search
comes to the same whatever records the store answers with, if those that satisfy this condition are
among them. -/
theorem planned_condition_necessary (conditions : List Condition) (threshold : Int) (probe : Probe)
    (planned : plan conditions threshold = .ok (some probe)) :
    ∃ condition ∈ conditions, condition.isNegative = false /\
      ofCondition? condition = .ok (some probe) /\
      (∀ source evaluation, evaluate source conditions = .ok evaluation ->
        evaluation.isMatched = true -> condition.Meets source) /\
      ∀ library : Library, library.Indexed -> ∀ (answers : Entry -> Bool) (libraryId : Option Int),
        (∀ entry ∈ library.entries, inScope libraryId entry = true ->
          condition.Meets entry.record.readable -> answers entry = true) ->
        (search (library.answering answers) Record.readable conditions libraryId threshold).outcome =
          (search library.store Record.readable conditions libraryId (-1)).outcome := by
  obtain ⟨narrow, condition, member, positive, made⟩ := planned_condition threshold probe planned
  have required := meets_of_matched narrow member
  refine ⟨condition, member, positive, made, required, ?_⟩
  intro library indexed answers libraryId superset
  exact search_answering_same library indexed conditions condition answers libraryId threshold probe
    planned required superset

theorem meets_learning (condition : Condition) (member : condition ∈ [aboutLearning, byIris])
    (entry : Entry) (listed : entry ∈ machineLearning.entries)
    (met : condition.Meets entry.record.readable) : (entry.id == 1) = true := by
  have missed : ∀ condition ∈ [aboutLearning, byIris], ∀ entry ∈ machineLearning.entries,
      (condition.matchRecord entry.record.readable).toOption.any Option.isSome = true ->
        (entry.id == 1) = true := by decide +kernel
  obtain ⟨detail, matched⟩ := met
  exact missed condition member entry listed (by rw [matched]; rfl)

theorem planned_condition_necessary_learning :
    plan [aboutLearning, byIris] 5 = .ok (some ⟨"title", .contains, "learning"⟩) /\
      (∃ condition ∈ [aboutLearning, byIris],
        ofCondition? condition = .ok (some ⟨"title", .contains, "learning"⟩) /\
          ∀ entry ∈ machineLearning.entries, entry.id = 1 ->
            condition.Meets entry.record.readable) /\
      (search (machineLearning.answering fun entry => entry.id == 1) Record.readable
          [aboutLearning, byIris] (some 1) 5).outcome =
        (search machineLearning.store Record.readable [aboutLearning, byIris] (some 1)
          (-1)).outcome := by
  have indexed : machineLearning.Indexed := ⟨by simp [machineLearning, Ascending], by decide⟩
  have planned : plan [aboutLearning, byIris] 5 = .ok (some ⟨"title", .contains, "learning"⟩) :=
    eq_ok_of_toOption (by decide +kernel)
  obtain ⟨condition, member, _, made, required, same⟩ :=
    planned_condition_necessary [aboutLearning, byIris] 5 _ planned
  refine ⟨planned, ⟨condition, member, made, fun entry listed first => ?_⟩, ?_⟩
  next =>
    have found : ∀ entry ∈ machineLearning.entries, entry.id = 1 ->
        (evaluate entry.record.readable [aboutLearning, byIris]).toOption.any
          Evaluation.isMatched = true := by decide +kernel
    have matched := found entry listed first
    cases evaluated : evaluate entry.record.readable [aboutLearning, byIris] with
    | error fault => simp [evaluated, Except.toOption] at matched
    | ok evaluation =>
      exact required _ evaluation evaluated (by simpa [evaluated, Except.toOption] using matched)
  next =>
    exact same machineLearning indexed _ (some 1) fun entry listed _ met =>
      meets_learning condition member entry listed met

end Probe

end BibEdit
