import BibEdit.Proofs.Library.Search

set_option autoImplicit false

/-! When probes change nothing but the work: if every record that is not plainly out of the
question answers to the probe. -/

namespace BibEdit

namespace Search

theorem validate_eq_ok (conditions : List Condition)
    (valid : ∀ condition ∈ conditions, Pattern.validate condition.pattern condition.kind = .ok ()) :
    validate conditions = .ok () := by
  induction conditions with
  | nil => rfl
  | cons condition rest ih =>
    unfold validate
    rw [valid condition (by simp)]
    exact ih fun other member => valid other (List.mem_cons_of_mem _ member)

theorem valid_of_validate (conditions : List Condition) (valid : validate conditions = .ok ()) :
    ∀ condition ∈ conditions, Pattern.validate condition.pattern condition.kind = .ok () := by
  induction conditions with
  | nil => simp
  | cons condition rest ih =>
    obtain ⟨_, here, later⟩ := bind_eq_ok.1 valid
    rw [List.forall_mem_cons]
    exact ⟨mapError_eq_ok.1 here, ih later⟩

end Search

namespace Probe

open Search Library

/-- Whether some threshold lets a probe narrow the search. -/
def narrows (conditions : List Condition) : Bool :=
  conditions.all (fun condition => !condition.isNegative) &&
    !(conditions.head?.any (·.operator == .or) && 1 < conditions.length)

theorem first_and_of_narrows {first second : Condition} {rest : List Condition}
    (narrow : narrows (first :: second :: rest) = true) : first.operator = .and := by
  obtain ⟨positive, joined⟩ := Bool.and_eq_true_iff.1 narrow
  have firstPositive := List.all_eq_true.1 positive first (by simp)
  cases operatorIs : first.operator with
  | and => rfl
  | or => simp [operatorIs] at joined
  | _ => simp [Condition.isNegative, operatorIs, Operator.isNegative] at firstPositive

theorem mayNarrow_eq (conditions : List Condition) (threshold : Int) :
    mayNarrow conditions threshold =
      (decide ((distinctFields conditions).length <= threshold) && narrows conditions) := by
  unfold mayNarrow narrows
  rw [Bool.and_assoc]

theorem plan_cases (conditions : List Condition) (threshold : Int) :
    plan conditions threshold = .ok none \/
      narrows conditions = true /\
        plan conditions threshold =
          (firstOf conditions).map fun chosen => chosen.map Prod.snd := by
  unfold plan choose
  rw [mayNarrow_eq]
  by_cases narrow : narrows conditions = true
  next =>
    split
    next => exact .inl rfl
    next => exact .inr ⟨narrow, rfl⟩
  next =>
    rw [Bool.not_eq_true] at narrow
    exact .inl (by simp [narrow, Except.map])

/-- The probe can be asked, and records that do not answer plainly miss the conditions. -/
def Keeps (library : Library) (conditions : List Condition) (probe : Probe) : Prop :=
  ∃ answers, question probe = .ok (some answers) /\
    ∀ entry ∈ library.entries, answers entry = false ->
      Misses Record.readable conditions entry.record

/-- Where a probe may narrow the search, it can be found, and it keeps what matters. -/
def Advisory (library : Library) (conditions : List Condition) : Prop :=
  narrows conditions = true -> ∃ chosen, firstOf conditions = .ok chosen /\
    ∀ condition probe, chosen = some (condition, probe) -> Keeps library conditions probe

theorem search_eq_fullScan (library : Library) (indexed : library.Indexed)
    (conditions : List Condition) (given : conditions ≠ []) (valid : validate conditions = .ok ())
    (advisory : Advisory library conditions) (libraryId : Option Int) (threshold : Int) :
    (search library.store Record.readable conditions libraryId threshold).outcome =
      library.fullScan conditions libraryId := by
  have unplanned := search_unplanned library indexed conditions given valid libraryId threshold
  rcases plan_cases conditions threshold with nonePlanned | ⟨narrow, planned⟩
  next => exact unplanned nonePlanned
  next =>
    obtain ⟨chosen, found, keeps⟩ := advisory narrow
    rw [found] at planned
    cases chosen with
    | none => exact unplanned planned
    | some pair =>
      obtain ⟨condition, probe⟩ := pair
      obtain ⟨answers, asked, kept⟩ := keeps condition probe rfl
      rw [search_probed library indexed conditions given valid libraryId threshold probe answers
        planned asked]
      unfold fullScan
      rw [List.filter_comm, foundIn_filter Record.readable conditions answers Entry.record]
      intro entry member unanswered
      exact kept entry (List.mem_of_mem_filter member) unanswered

end Probe

end BibEdit
