import BibEdit.Proofs.Evaluation

set_option autoImplicit false

namespace BibEdit

namespace Condition

variable {condition : Condition} {source : Readable} {found : Option Detail}

def detail? (condition : Condition) (source : Readable) : Option Detail :=
  (condition.matchRecord source).toOption.join

def Answered (condition : Condition) (source : Readable) : Prop :=
  condition.matchRecord source = .ok (condition.detail? source)

theorem detail?_of_ok (matched : condition.matchRecord source = .ok found) :
    condition.detail? source = found := by
  rw [detail?, matched]
  rfl

theorem answered_of_ok (matched : condition.matchRecord source = .ok found) :
    condition.Answered source := by
  rw [Answered, detail?_of_ok matched, matched]

theorem meets_iff : condition.Meets source <-> (condition.detail? source).isSome = true := by
  unfold Meets detail?
  cases condition.matchRecord source with
  | error fault => simp [Except.toOption]
  | ok found => cases found <;> simp [Except.toOption]

theorem unmet_of_not_meets (answered : condition.Answered source)
    (unmet : ¬ condition.Meets source) : condition.matchRecord source = .ok none := by
  rw [meets_iff, Bool.not_eq_true, Option.isSome_eq_false_iff, Option.isNone_iff_eq_none] at unmet
  rw [answered, unmet]

end Condition

namespace Evaluation

variable {source : Readable} {first added : Condition} {rest conditions others : List Condition}
  {evaluation : Evaluation}

def told (source : Readable) (conditions : List Condition) : Outcomes :=
  conditions.map fun condition => (condition, condition.detail? source)

theorem outcomes_eq_ok {found : Outcomes} :
    outcomes source conditions = .ok found <->
      (∀ condition ∈ conditions, condition.Answered source) /\ found = told source conditions := by
  induction conditions generalizing found with
  | nil => simp [outcomes, told, eq_comm]
  | cons condition rest ih =>
    rw [outcomes, bind_eq_ok, List.forall_mem_cons, told, List.map_cons]
    constructor
    next =>
      rintro ⟨detail, matched, later⟩
      obtain ⟨others, ran, same⟩ := bind_eq_ok.1 later
      cases same
      obtain ⟨answered, rfl⟩ := ih.1 ran
      rw [Condition.detail?_of_ok matched]
      exact ⟨⟨Condition.answered_of_ok matched, answered⟩, rfl⟩
    next =>
      rintro ⟨⟨answered, later⟩, rfl⟩
      exact ⟨_, answered, bind_eq_ok.2 ⟨_, ih.2 ⟨later, rfl⟩, rfl⟩⟩

theorem details_told :
    (told source conditions).filterMap Prod.snd =
      conditions.filterMap fun condition => condition.detail? source := by
  rw [told, List.filterMap_map]
  rfl

section Told

variable (source : Readable) (conditions : List Condition)

theorem vetoed_told : vetoed (told source conditions) = false <->
    ∀ condition ∈ conditions, condition.isNegative = true -> ¬ condition.Meets source := by
  simp [vetoed, told, satisfied, Condition.meets_iff]

theorem all_told : (told source conditions).all satisfied = true <->
    ∀ condition ∈ conditions, condition.Meets source := by
  simp [told, satisfied, Condition.meets_iff]

theorem any_told : (told source conditions).any satisfied = true <->
    ∃ condition ∈ conditions, condition.Meets source := by
  simp [told, satisfied, Condition.meets_iff]

theorem all_positives_told : (positives (told source conditions)).all satisfied = true <->
    ∀ condition ∈ conditions, condition.isNegative = false -> condition.Meets source := by
  simp only [positives, told, satisfied, Condition.meets_iff, List.all_filter, List.all_map,
    List.all_eq_true]
  refine forall₂_congr fun condition _ => ?_
  cases negative : condition.isNegative <;> simp [negative]

theorem any_positives_told : (positives (told source conditions)).any satisfied = true <->
    ∃ condition ∈ conditions, condition.isNegative = false /\ condition.Meets source := by
  simp [positives, told, satisfied, Condition.meets_iff]

end Told

/-- Whether conditions are satisfied together, by what the operator of the first one asks for. A
negative one that is met forbids it. -/
def Together (source : Readable) (first : Condition) (conditions : List Condition) : Prop :=
  (∀ condition ∈ conditions, condition.isNegative = true -> ¬ condition.Meets source) /\
    match first.operator with
    | .and => ∀ condition ∈ conditions, condition.isNegative = false -> condition.Meets source
    | .or => ∃ condition ∈ conditions, condition.isNegative = false /\ condition.Meets source
    | .andNot => False
    | .orNot => (∃ condition ∈ conditions, condition.Meets source) /\ ¬ first.Meets source

theorem verdict_told : verdict first.operator (told source (first :: rest)) = true <->
    Together source first (first :: rest) := by
  have head : firstSatisfied (told source (first :: rest)) = false <-> ¬ first.Meets source := by
    rw [Condition.meets_iff, Bool.not_eq_true]
    rfl
  have metOfAll (all : ∀ condition ∈ first :: rest, condition.Meets source) :
      first.Meets source := all first (by simp)
  unfold verdict Together
  cases first.operator with
  | and =>
    rw [Bool.and_eq_true, Bool.not_eq_true', all_positives_told, vetoed_told]
    exact and_comm
  | or =>
    rw [Bool.and_eq_true, Bool.not_eq_true', any_positives_told, vetoed_told]
    exact and_comm
  | andNot =>
    -- The first condition would have to be met and not to be.
    simp only [Bool.and_eq_true, Bool.not_eq_true', all_told, head, vetoed_told]
    exact ⟨fun both => absurd (metOfAll both.1.1) both.1.2, fun both => both.2.elim⟩
  | orNot =>
    simp only [Bool.and_eq_true, Bool.or_eq_true, Bool.not_eq_true', all_told, any_told, head,
      vetoed_told]
    constructor
    next =>
      rintro ⟨⟨someOrAll, unmet⟩, allowed⟩
      exact ⟨allowed, someOrAll.resolve_right fun all => unmet (metOfAll all), unmet⟩
    next => exact fun both => ⟨⟨.inl both.2.1, both.2.2⟩, both.1⟩

/-- Whether conditions are satisfied. One alone is or is not, whatever its operator. -/
def Holds (source : Readable) : List Condition -> Prop
  | [] => False
  | [only] => only.Meets source
  | first :: second :: rest => Together source first (first :: second :: rest)

theorem evaluate_tells (evaluated : evaluate source conditions = .ok evaluation) :
    (∀ condition ∈ conditions, condition.Answered source) /\
      (evaluation.isMatched = true <-> Holds source conditions) /\
      evaluation.details = conditions.filterMap fun condition => condition.detail? source := by
  rcases conditions with _ | ⟨first, _ | ⟨second, rest⟩⟩
  next =>
    cases evaluated
    exact ⟨by simp, by simp [Holds], rfl⟩
  next =>
    obtain ⟨detail, matched, same⟩ := bind_eq_ok.1 evaluated
    cases same
    have told := Condition.detail?_of_ok matched
    refine ⟨by simpa using Condition.answered_of_ok matched, ?_, ?_⟩
    next => rw [Holds, Condition.meets_iff, told]
    next => cases detail <;> simp [told]
  next =>
    obtain ⟨found, ran, same⟩ := bind_eq_ok.1 evaluated
    cases same
    obtain ⟨answered, rfl⟩ := outcomes_eq_ok.1 ran
    exact ⟨answered, verdict_told, details_told⟩

theorem exists_evaluation (answered : ∀ condition ∈ conditions, condition.Answered source) :
    ∃ evaluation, evaluate source conditions = .ok evaluation := by
  rcases conditions with _ | ⟨first, _ | ⟨second, rest⟩⟩
  next => exact ⟨_, rfl⟩
  next => exact ⟨_, bind_eq_ok.2 ⟨_, answered first (by simp), rfl⟩⟩
  next => exact ⟨_, bind_eq_ok.2 ⟨_, outcomes_eq_ok.2 ⟨answered, rfl⟩, rfl⟩⟩

-- Under AND and OR the first condition counts by its operator alone.
theorem together_iff_of_perm {other : Condition} (same : conditions.Perm others)
    (lead : other = first \/ (other.operator = first.operator /\ first.isNegative = false)) :
    Together source first conditions <-> Together source other others := by
  unfold Together
  simp only [same.mem_iff]
  rcases lead with rfl | ⟨operatorIs, positive⟩
  next => exact Iff.rfl
  next =>
    rw [operatorIs]
    unfold Condition.isNegative at positive
    cases mode : first.operator with
    | and => rfl
    | or => rfl
    | andNot => simp [mode, Operator.isNegative] at positive
    | orNot => simp [mode, Operator.isNegative] at positive

theorem holds_iff_of_perm {other : Condition} (same : (first :: rest).Perm (other :: others))
    (lead : other = first \/ (other.operator = first.operator /\ first.isNegative = false)) :
    Holds source (first :: rest) <-> Holds source (other :: others) := by
  have number := same.length_eq
  cases rest with
  | nil =>
    obtain rfl : others = [] := List.length_eq_zero_iff.1 (by simpa using number.symm)
    rw [List.singleton_perm_singleton.1 same]
  | cons second rest =>
    cases others with
    | nil => simp at number
    | cons another others => exact together_iff_of_perm same lead

theorem together_of_more (strict : first.operator = .and \/ added.isNegative = true)
    (together : Together source first (conditions ++ [added])) :
    Together source first conditions := by
  obtain ⟨allowed, mode⟩ := together
  have unmet (negative : added.isNegative = true) : ¬ added.Meets source :=
    allowed added (by simp) negative
  have within {condition : Condition} (member : condition ∈ conditions) :
      condition ∈ conditions ++ [added] := List.mem_append_left _ member
  refine ⟨fun condition member => allowed condition (within member), ?_⟩
  -- What one of the conditions has to meet, a negative one that is added does not.
  cases operatorIs : first.operator with
  | and =>
    rw [operatorIs] at mode
    exact fun condition member => mode condition (within member)
  | or =>
    rw [operatorIs] at mode
    obtain ⟨condition, member, positive, met⟩ := mode
    have negative := strict.resolve_left (by simp [operatorIs])
    rcases List.mem_append.1 member with before | last
    next => exact ⟨condition, before, positive, met⟩
    next =>
      rw [List.mem_singleton.1 last, negative] at positive
      cases positive
  | andNot =>
    rw [operatorIs] at mode
    exact mode
  | orNot =>
    rw [operatorIs] at mode
    obtain ⟨⟨condition, member, met⟩, firstUnmet⟩ := mode
    have negative := strict.resolve_left (by simp [operatorIs])
    rcases List.mem_append.1 member with before | last
    next => exact ⟨⟨condition, before, met⟩, firstUnmet⟩
    next =>
      rw [List.mem_singleton.1 last] at met
      exact absurd met (unmet negative)

theorem together_with_more (any : first.operator = .or) (positive : added.isNegative = false)
    (together : Together source first conditions) :
    Together source first (conditions ++ [added]) := by
  obtain ⟨allowed, mode⟩ := together
  rw [any] at mode
  obtain ⟨condition, member, ofOr, met⟩ := mode
  refine ⟨fun other among negative => ?_, ?_⟩
  next =>
    rcases List.mem_append.1 among with before | last
    next => exact allowed other before negative
    next =>
      rw [List.mem_singleton.1 last, positive] at negative
      cases negative
  next =>
    rw [any]
    exact ⟨condition, List.mem_append_left _ member, ofOr, met⟩

-- A condition alone comes to the same as in a list of its own, but for a negative one that is met.
theorem holds_of_together (together : Together source first (first :: rest)) :
    Holds source (first :: rest) := by
  cases rest with
  | cons second rest => exact together
  | nil =>
    obtain ⟨_, mode⟩ := together
    show first.Meets source
    cases operatorIs : first.operator with
    | and =>
      rw [operatorIs] at mode
      exact mode first (by simp) (by simp [Condition.isNegative, Operator.isNegative, operatorIs])
    | or =>
      rw [operatorIs] at mode
      obtain ⟨condition, member, _, met⟩ := mode
      exact List.mem_singleton.1 member ▸ met
    | andNot =>
      rw [operatorIs] at mode
      exact mode.elim
    | orNot =>
      rw [operatorIs] at mode
      obtain ⟨⟨condition, member, met⟩, _⟩ := mode
      exact List.mem_singleton.1 member ▸ met

theorem together_of_holds (any : first.operator = .or) (holds : Holds source (first :: rest)) :
    Together source first (first :: rest) := by
  cases rest with
  | cons second rest => exact holds
  | nil =>
    have positive : first.isNegative = false := by
      simp [Condition.isNegative, Operator.isNegative, any]
    refine ⟨fun condition member negative => ?_, ?_⟩
    next =>
      rw [List.mem_singleton.1 member, positive] at negative
      cases negative
    next =>
      rw [any]
      exact ⟨first, by simp, positive, holds⟩

theorem holds_append_iff : Holds source (first :: rest ++ [added]) <->
    Together source first (first :: rest ++ [added]) := by
  cases rest <;> exact Iff.rfl

/-- The conditions of an evaluation may be put in another order behind the first, and under AND and
OR the first may change places with one of its own operator: it comes to the same, and what
satisfies the conditions is listed in their order. Of several conditions that are satisfied no
negative one is met, and under AND NOT they never are satisfied. A condition more, negative or under
AND, satisfies no record that was not; a positive one under OR loses none. -/
theorem evaluate_lawful (source : Readable) (first : Condition) (rest : List Condition)
    (evaluation : Evaluation) (evaluated : evaluate source (first :: rest) = .ok evaluation) :
    ((∀ condition ∈ first :: rest,
          condition.matchRecord source = .ok (condition.detail? source)) /\
        evaluation.details =
          (first :: rest).filterMap fun condition => condition.detail? source) /\
      (∀ other others, (first :: rest).Perm (other :: others) ->
        other = first \/ (other.operator = first.operator /\ first.isNegative = false) ->
        ∃ again, evaluate source (other :: others) = .ok again /\
          again.isMatched = evaluation.isMatched /\
          again.details =
            (other :: others).filterMap fun condition => condition.detail? source) /\
      (rest ≠ [] ->
        (evaluation.isMatched = true -> ∀ condition ∈ first :: rest, condition.isNegative = true ->
          condition.matchRecord source = .ok none) /\
        (first.operator = .andNot -> evaluation.isMatched = false)) /\
      ∀ added detail, added.matchRecord source = .ok detail ->
        ∃ larger, evaluate source (first :: rest ++ [added]) = .ok larger /\
          (first.operator = .and \/ added.isNegative = true ->
            evaluation.isMatched = false -> larger.isMatched = false) /\
          (first.operator = .or -> added.isNegative = false ->
            evaluation.isMatched = true -> larger.isMatched = true) := by
  obtain ⟨answered, holds, details⟩ := evaluate_tells evaluated
  refine ⟨⟨answered, details⟩, fun other others same lead => ?_, fun several => ?_,
    fun added detail told => ?_⟩
  next =>
    obtain ⟨again, ran⟩ := exists_evaluation fun condition member =>
      answered condition (same.mem_iff.2 member)
    obtain ⟨_, againHolds, againDetails⟩ := evaluate_tells ran
    refine ⟨again, ran, ?_, againDetails⟩
    rw [Bool.eq_iff_iff, againHolds, holds, holds_iff_of_perm same lead]
  next =>
    obtain ⟨second, rest, rfl⟩ := List.exists_cons_of_ne_nil several
    refine ⟨fun matched condition member negative => ?_, fun never => ?_⟩
    next =>
      have allowed := (holds.1 matched).1
      exact Condition.unmet_of_not_meets (answered condition member)
        (allowed condition member negative)
    next =>
      refine Bool.eq_false_iff.2 fun matched => ?_
      have mode := (holds.1 matched).2
      rwa [never] at mode
  next =>
    have each : ∀ condition ∈ first :: rest ++ [added], condition.Answered source :=
      List.forall_mem_append.2 ⟨answered, by simpa using Condition.answered_of_ok told⟩
    obtain ⟨larger, ran⟩ := exists_evaluation each
    obtain ⟨_, largerHolds, _⟩ := evaluate_tells ran
    refine ⟨larger, ran, fun strict unmatched => ?_, fun any positive matched => ?_⟩
    next =>
      refine Bool.eq_false_iff.2 fun gained => ?_
      have together := together_of_more strict (holds_append_iff.1 (largerHolds.1 gained))
      rw [holds.2 (holds_of_together together)] at unmatched
      cases unmatched
    next =>
      have together := together_of_holds any (holds.1 matched)
      exact largerHolds.2 (holds_append_iff.2 (together_with_more any positive together))

def odyssey : Record where
  id := 1
  key := "A"
  libraryId := 1
  itemType := none
  fields := [("title", some "Odyssey")]
  creators := []
  tags := ["epic"]
  collections := []
  dirtyFields := []
  dirtyCreators := false

def entitled (title : String) (operator : Operator) : Condition :=
  ⟨"title", title, .exact, true, operator⟩

def isEpic : Condition := ⟨"tags", "epic", .exact, true, .or⟩

theorem evaluate_lawful_odyssey :
    evaluate odyssey.readable [entitled "Iliad" .or, entitled "Aeneid" .andNot, isEpic] =
        .ok ⟨true, [⟨"tags", "epic", -1, -1⟩]⟩ /\
      (∃ again, evaluate odyssey.readable
          [isEpic, entitled "Iliad" .or, entitled "Aeneid" .andNot] = .ok again /\
        again.isMatched = true) /\
      (entitled "Aeneid" .andNot).matchRecord odyssey.readable = .ok none /\
      ∃ larger, evaluate odyssey.readable
          [entitled "Iliad" .or, entitled "Aeneid" .andNot, isEpic, entitled "Odyssey" .or] =
            .ok larger /\
        larger.isMatched = true := by
  have evaluated :
      evaluate odyssey.readable [entitled "Iliad" .or, entitled "Aeneid" .andNot, isEpic] =
        .ok ⟨true, [⟨"tags", "epic", -1, -1⟩]⟩ := eq_ok_of_toOption (by decide +kernel)
  obtain ⟨_, reordered, several, more⟩ := evaluate_lawful _ _ _ _ evaluated
  obtain ⟨again, ran, same, _⟩ := reordered isEpic [entitled "Iliad" .or, entitled "Aeneid" .andNot]
    (by decide) (.inr (by decide))
  have told : (entitled "Odyssey" .or).matchRecord odyssey.readable =
      .ok (some ⟨"title", "Odyssey", 0, 7⟩) := eq_ok_of_toOption (by decide +kernel)
  obtain ⟨larger, largerRan, _, kept⟩ := more _ _ told
  exact ⟨evaluated, ⟨again, ran, same⟩,
    (several (by simp)).1 rfl (entitled "Aeneid" .andNot) (by simp) rfl,
    larger, largerRan, kept rfl rfl rfl⟩

end Evaluation

end BibEdit
