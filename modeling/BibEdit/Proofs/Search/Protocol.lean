import BibEdit.Proofs.Evaluation
import BibEdit.Proofs.Pattern.Validation
import BibEdit.Proofs.Probe.Plan

set_option autoImplicit false

namespace BibEdit.Search

variable {ρ : Type}

/-- The answers of a store that always has one: whatever lists it likes. -/
structure Answers (ρ : Type) where
  query : Probe -> Option Int -> List Int
  list : Option Int -> List Int
  load : List Int -> List ρ

namespace Answers

def store (answers : Answers ρ) : Store ρ where
  query probe libraryId := .ok (answers.query probe libraryId)
  list libraryId := .ok (answers.list libraryId)
  load ids := .ok (answers.load ids)

def ids (answers : Answers ρ) (libraryId : Option Int) : Option Probe -> List Int
  | some probe => answers.query probe libraryId
  | none => answers.list libraryId

def loaded (answers : Answers ρ) (ids : List Int) : List ρ := if ids = [] then [] else answers.load ids

end Answers

def filtering (libraryId : Option Int) (count : Nat) : Option Probe -> List Event
  | some probe => [.call (.query probe libraryId), .progress (.filtered (some count))]
  | none =>
    [.progress (.filtered none), .call (.list libraryId), .progress (.filtered (some count))]

def reports (total first count : Nat) : List Event :=
  (List.range' first count).map fun current => .progress (.refining current total)

def refining (ids : List Int) (total looked : Nat) : List Event :=
  if ids = [] then [] else .call (.load ids) :: reports total 1 looked

def found? (readable : ρ -> Readable) (conditions : List Condition) (record : ρ) :
    Option (Found ρ) :=
  match evaluate (readable record) conditions with
  | .ok evaluation => if evaluation.isMatched then some ⟨record, evaluation.details⟩ else none
  | .error _ => none

def Evaluable (readable : ρ -> Readable) (conditions : List Condition) (record : ρ) : Prop :=
  ∃ evaluation, evaluate (readable record) conditions = .ok evaluation

section Refine

variable {readable : ρ -> Readable} {conditions : List Condition}

theorem refine_cons {record : ρ} {evaluation : Evaluation}
    (evaluated : evaluate (readable record) conditions = .ok evaluation)
    (total current : Nat) (rest : List ρ) :
    refine readable conditions total current (record :: rest) =
      ⟨.progress (.refining (current + 1) total) ::
          (refine readable conditions total (current + 1) rest).events,
        (refine readable conditions total (current + 1) rest).outcome.map
          ((found? readable conditions record).toList ++ ·)⟩ := by
  have foundIs : (found? readable conditions record).toList =
      if evaluation.isMatched then [⟨record, evaluation.details⟩] else [] := by
    simp only [found?, evaluated]
    split <;> rfl
  rw [refine, evaluated, foundIs]
  cases (refine readable conditions total (current + 1) rest) with
  | mk events outcome =>
    cases outcome with
    | error failure => rfl
    | ok found =>
      cases matched : evaluation.isMatched <;>
        simp [Run.andThen, report, Except.mapError, Except.map, matched]

theorem refine_append (before rest : List ρ)
    (evaluable : ∀ record ∈ before, Evaluable readable conditions record) (total current : Nat) :
    refine readable conditions total current (before ++ rest) =
      ⟨reports total (current + 1) before.length ++
          (refine readable conditions total (current + before.length) rest).events,
        (refine readable conditions total (current + before.length) rest).outcome.map
          (before.filterMap (found? readable conditions) ++ ·)⟩ := by
  induction before generalizing current with
  | nil =>
    cases after : refine readable conditions total current rest with
    | mk events outcome =>
      cases outcome <;> simp [reports, after, Except.map]
  | cons record before ih =>
    obtain ⟨⟨evaluation, here⟩, later⟩ := List.forall_mem_cons.1 evaluable
    have place : current + 1 + before.length = current + (record :: before).length := by
      rw [List.length_cons]
      omega
    have reported : reports total (current + 1) (record :: before).length =
        .progress (.refining (current + 1) total) :: reports total (current + 2) before.length := rfl
    have foundIs : (record :: before).filterMap (found? readable conditions) =
        (found? readable conditions record).toList ++
          before.filterMap (found? readable conditions) := by
      cases found : found? readable conditions record <;> simp [found]
    rw [List.cons_append, refine_cons here, ih later, place, reported, foundIs]
    cases (refine readable conditions total (current + (record :: before).length) rest).outcome <;>
      simp [Except.map]

theorem refine_evaluable (records : List ρ)
    (evaluable : ∀ record ∈ records, Evaluable readable conditions record) (total : Nat) :
    refine readable conditions total 0 records =
      ⟨reports total 1 records.length, .ok (records.filterMap (found? readable conditions))⟩ := by
  have whole := refine_append records [] evaluable total 0
  simpa [refine, Except.map] using whole

theorem refine_stops (before after : List ρ) (broken : ρ) (fault : Fault)
    (evaluable : ∀ record ∈ before, Evaluable readable conditions record)
    (failed : evaluate (readable broken) conditions = .error fault) (total : Nat) :
    refine readable conditions total 0 (before ++ broken :: after) =
      ⟨reports total 1 (before.length + 1), .error (.fault fault)⟩ := by
  have stopped : refine readable conditions total before.length (broken :: after) =
      ⟨[.progress (.refining (before.length + 1) total)], .error (.fault fault)⟩ := by
    rw [refine, failed]
    rfl
  have last : reports total 1 (before.length + 1) =
      reports total 1 before.length ++ [.progress (.refining (before.length + 1) total)] := by
    simp [reports, List.range'_1_concat, Nat.add_comm]
  rw [refine_append before _ evaluable, Nat.zero_add before.length, stopped, last]
  rfl

end Refine

theorem first_refused {conditions : List Condition}
    (someRefused : ∃ condition ∈ conditions,
      Pattern.validate condition.pattern condition.kind ≠ .ok ()) :
    ∃ before refused after, conditions = before ++ refused :: after /\
      (∀ earlier ∈ before, Pattern.validate earlier.pattern earlier.kind = .ok ()) /\
      ∃ error, Pattern.validate refused.pattern refused.kind = .error error := by
  induction conditions with
  | nil => simp at someRefused
  | cons condition rest ih =>
    cases validated : Pattern.validate condition.pattern condition.kind with
    | error error => exact ⟨[], condition, rest, rfl, by simp, error, validated⟩
    | ok done =>
      have later : ∃ other ∈ rest, Pattern.validate other.pattern other.kind ≠ .ok () := by
        simpa [validated] using someRefused
      obtain ⟨before, refused, after, rfl, valid, refusal⟩ := ih later
      exact ⟨condition :: before, refused, after, rfl,
        List.forall_mem_cons.2 ⟨validated, valid⟩, refusal⟩

/-- How a search goes on with a plan: it asks for the candidates, loads them, and looks at one after
the other. -/
structure Proceeds (answers : Answers ρ) (readable : ρ -> Readable) (conditions : List Condition)
    (libraryId : Option Int) (probe? : Option Probe) (run : Run (List (Found ρ))) : Prop where
  /-- Records of which every field can be read, or is missing, can be evaluated. -/
  evaluates : ∀ record, (readable record).Legible -> Evaluable readable conditions record
  finds : ∀ ids records, ids = answers.ids libraryId probe? -> records = answers.loaded ids ->
    (∀ record ∈ records, Evaluable readable conditions record) ->
      run =
        ⟨filtering libraryId ids.length probe? ++ refining ids records.length records.length,
          .ok (records.filterMap (found? readable conditions))⟩
  /-- A record that cannot be evaluated ends the search with its fault. -/
  stops : ∀ ids before broken after fault, ids = answers.ids libraryId probe? ->
    before ++ broken :: after = answers.loaded ids ->
    (∀ record ∈ before, Evaluable readable conditions record) ->
    evaluate (readable broken) conditions = .error fault ->
      run =
        ⟨filtering libraryId ids.length probe? ++
            refining ids (before ++ broken :: after).length (before.length + 1),
          .error (.fault fault)⟩

section Store

variable (answers : Answers ρ) (readable : ρ -> Readable) (conditions : List Condition)

theorem candidates_answered (libraryId : Option Int) (probe? : Option Probe) :
    candidates answers.store libraryId probe? =
      ⟨filtering libraryId (answers.ids libraryId probe?).length probe?,
        .ok (answers.ids libraryId probe?)⟩ := by
  cases probe? <;> rfl

theorem refineAll_answered {ids : List Int} {records : List ρ} (loaded : records = answers.loaded ids)
    {looked : Nat} {outcome : Except Failure (List (Found ρ))}
    (refined : refine readable conditions records.length 0 records =
      ⟨reports records.length 1 looked, outcome⟩) :
    refineAll answers.store readable conditions ids =
      ⟨refining ids records.length looked, outcome⟩ := by
  subst loaded
  unfold refineAll refining
  cases ids with
  | nil => exact congrArg (Run.mk []) (congrArg Run.outcome refined)
  | cons id rest =>
    show Run.andThen ⟨[.call (.load (id :: rest))], .ok (answers.load (id :: rest))⟩ _ = _
    unfold Run.andThen
    dsimp only
    unfold Answers.loaded at refined
    rw [if_neg (List.cons_ne_nil _ _)] at refined
    rw [refined]
    rfl

variable (given : conditions ≠ []) (valid : validate conditions = .ok ()) (libraryId : Option Int)
  (threshold : Int)

include given valid

theorem search_of_valid (store : Store ρ) :
    search store readable conditions libraryId threshold =
      Run.andThen ⟨[], (Probe.plan conditions threshold).mapError .fault⟩ fun probe? =>
        (candidates store libraryId probe?).andThen (refineAll store readable conditions) := by
  have someGiven : conditions.isEmpty = false := by simpa using given
  unfold search
  rw [someGiven, valid]
  rfl

theorem search_planned {probe? : Option Probe}
    (planned : Probe.plan conditions threshold = .ok probe?) :
    search answers.store readable conditions libraryId threshold =
      ⟨filtering libraryId (answers.ids libraryId probe?).length probe? ++
          (refineAll answers.store readable conditions (answers.ids libraryId probe?)).events,
        (refineAll answers.store readable conditions (answers.ids libraryId probe?)).outcome⟩ := by
  rw [search_of_valid readable conditions given valid, planned]
  simp only [Except.mapError, Run.andThen, candidates_answered, List.nil_append]

theorem search_unplanned (store : Store ρ) {fault : Fault}
    (failed : Probe.plan conditions threshold = .error fault) :
    search store readable conditions libraryId threshold = ⟨[], .error (.fault fault)⟩ := by
  rw [search_of_valid readable conditions given valid, failed]
  rfl

theorem proceeds_of_plan {probe? : Option Probe}
    (planned : Probe.plan conditions threshold = .ok probe?) :
    Proceeds answers readable conditions libraryId probe?
      (search answers.store readable conditions libraryId threshold) := by
  have ran := search_planned answers readable conditions given valid libraryId threshold planned
  refine ⟨?evaluates, ?finds, ?stops⟩
  case evaluates =>
    exact fun record legible => evaluate_of_legible legible (valid_of_validate conditions valid)
  case finds =>
    rintro ids records rfl loaded evaluable
    rw [ran, refineAll_answered answers readable conditions loaded
      (refine_evaluable records evaluable records.length)]
  case stops =>
    rintro ids before broken after fault rfl loaded evaluable failed
    rw [ran, refineAll_answered answers readable conditions loaded
      (refine_stops before after broken fault evaluable failed _)]

end Store

/-- A search follows one protocol, whatever the store answers. Without conditions, or with a pattern
that is refused, the store is asked nothing. Otherwise one question brings the candidates: the probe of
the plan, or the listing if there is none. They are loaded, if there are any, and each record is
reported and evaluated in turn; what is found are those that match. But no plan can be made for a
valid regex with too long a number in it, which ends the search before the store is asked. -/
theorem search_protocol (answers : Answers ρ) (readable : ρ -> Readable)
    (conditions : List Condition) (libraryId : Option Int) (threshold : Int) :
    let run := search answers.store readable conditions libraryId threshold
    (conditions = [] -> run = ⟨[], .ok []⟩) /\
      ((∃ condition ∈ conditions, Pattern.validate condition.pattern condition.kind ≠ .ok ()) ->
        ∃ refused ∈ conditions, ∃ error,
          Pattern.validate refused.pattern refused.kind = .error error /\
            run = ⟨[], .error (failureOf error)⟩) /\
      (conditions ≠ [] ->
        (∀ condition ∈ conditions, Pattern.validate condition.pattern condition.kind = .ok ()) ->
          (∃ probe?, Probe.plan conditions threshold = .ok probe? /\
              Proceeds answers readable conditions libraryId probe? run) \/
            ∃ fault, Probe.plan conditions threshold = .error fault /\
              (∃ condition ∈ conditions, condition.Overlong) /\
                run = ⟨[], .error (.fault fault)⟩) := by
  refine ⟨?unconditional, ?refused, ?valid⟩
  case unconditional =>
    rintro rfl
    rfl
  case refused =>
    intro someRefused
    obtain ⟨before, refused, after, rfl, valid, error, refusal⟩ := first_refused someRefused
    exact ⟨refused, by simp, error, refusal, search_refused answers.store readable before after
      refused error valid refusal libraryId threshold⟩
  case valid =>
    intro given each
    have valid := validate_eq_ok conditions each
    cases planned : Probe.plan conditions threshold with
    | ok probe? =>
      exact .inl ⟨probe?, rfl, proceeds_of_plan answers readable conditions given valid libraryId
        threshold planned⟩
    | error fault =>
      exact .inr ⟨fault, rfl, Probe.overlong_of_plan planned, search_unplanned readable conditions
        given valid libraryId threshold answers.store planned⟩

def titled (title : String) : Record where
  id := 1
  key := "A"
  libraryId := 1
  itemType := none
  fields := [("title", some title)]
  creators := []
  tags := []
  collections := []
  dirtyFields := []
  dirtyCreators := false

-- The store repeats a number, and loads more records than it was asked for.
example :
    let answers : Answers Record :=
      ⟨fun _ _ => [7, 7], fun _ => [], fun _ => [titled "Emma", titled "Persuasion", titled "Emma"]⟩
    let run := search answers.store Record.readable [⟨"title", "em+a", .regex, false, .and⟩] none 5
    run.calls = [.query ⟨"title", .contains, "em"⟩ none, .load [7, 7]] /\
      run.progress = [.filtered (some 2), .refining 1 3, .refining 2 3, .refining 3 3] /\
      run.outcome.toOption.map (fun found => found.map Found.record) =
        some [titled "Emma", titled "Emma"] := by
  decide +kernel

def nothing : Answers Record := ⟨fun _ _ => [], fun _ => [], fun _ => []⟩

/-- The pattern is valid, but the store is never asked. -/
theorem search_unasked :
    Pattern.validate (zeroTimes 4301).pattern (zeroTimes 4301).kind = .ok () /\
      (search nothing.store Record.readable [zeroTimes 4301] none 5).calls = [] /\
      (search nothing.store Record.readable [zeroTimes 4301] none 5).outcome.toOption = none := by
  have valid : Pattern.validate (zeroTimes 4301).pattern (zeroTimes 4301).kind = .ok () :=
    validate_zeroTimes 4300
  have ran := search_unplanned Record.readable [zeroTimes 4301] (List.cons_ne_nil _ _)
    (validate_eq_ok _ (by simpa using valid)) none 5 nothing.store
    (plan_zeroTimes (show Text.numeralLimit < 4301 by decide))
  rw [ran]
  exact ⟨valid, rfl, rfl⟩

end BibEdit.Search
