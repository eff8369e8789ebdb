import BibEdit.Proofs.Evaluation
import BibEdit.Proofs.Probe.Advisory
import BibEdit.Proofs.Probe.Term
import BibEdit.Proofs.Text.Numeral

set_option autoImplicit false

namespace BibEdit

namespace Entry

def texts (entry : Entry) : List String :=
  entry.itemType.toList ++ entry.fields.map Prod.snd ++
    entry.creators.flatMap (fun creator => NamePart.all.map creator.get) ++ entry.tags

def letters (entry : Entry) : List Char := entry.texts.flatMap String.toList

theorem subset_letters (entry : Entry) (text : String) (member : text ∈ entry.texts) :
    text.toList ⊆ entry.letters :=
  fun _ within => List.mem_flatMap.2 ⟨text, member, within⟩

theorem lookup_record (entry : Entry) (name : String) :
    entry.record.fields.lookup name = (entry.fields.lookup name).map some := by
  unfold record
  dsimp only
  induction entry.fields with
  | nil => rfl
  | cons field rest ih =>
    rw [List.map_cons, List.lookup_cons, List.lookup_cons, ih]
    split <;> rfl

theorem read_scalar (entry : Entry) (name : String) (scalar : Field.isScalarName name = true) :
    entry.record.readable.read name = .ok (some ((entry.fields.lookup name).getD "")) := by
  have other : (name == "itemType") = false := by
    refine beq_false_of_ne fun same => ?_
    rw [same] at scalar
    exact absurd scalar (by decide)
  unfold Record.readable Record.read Record.value?
  dsimp only
  rw [other, scalar, lookup_record]
  cases entry.fields.lookup name <;> rfl

end Entry

namespace Probe

open Library Search

variable {condition : Condition} {probe : Probe} {field : String}

def Finds (probe : Probe) (condition : Condition) : Prop :=
  ∀ value : String, condition.Tells probe.term.toList value.toList ->
    passes probe.test probe.term value = false -> condition.test value = .ok none

theorem containing_eq_ok {read : Except Fault (Option String)}
    (made : (read >>= fun term? => pure (containing field term?)) = .ok (some probe)) :
    read = .ok (some probe.term) /\ probe = ⟨field, .contains, probe.term⟩ := by
  obtain ⟨term?, isTerm, same⟩ := bind_eq_ok.1 made
  obtain ⟨term, kept, rfl⟩ := Option.map_eq_some_iff.1 (Except.ok.inj same)
  exact ⟨by rw [isTerm, (Option.filter_eq_some_iff.1 kept).1], rfl⟩

section Values

variable (valid : Pattern.validate condition.pattern condition.kind = .ok ())

include valid

theorem finds_containing (term : String) (requires : condition.Requires term.toList) :
    Finds ⟨field, .contains, term⟩ condition := by
  intro value tells fails
  obtain ⟨hit?, tested⟩ := Condition.test_total valid value
  cases hit? with
  | none => exact tested
  | some hit =>
    have held := requires value hit tested tells
    rw [String.ofList_toList] at held
    exact absurd (held.symm.trans fails) (by decide)

theorem finds_is (whole : condition.kind = .exact) :
    Finds ⟨field, .is, condition.pattern⟩ condition := by
  intro value _ fails
  obtain ⟨hit?, tested⟩ := Condition.test_total valid value
  cases hit? with
  | none => exact tested
  | some hit => exact absurd ((Condition.equals_of_test whole tested).symm.trans fails) (by decide)

theorem finds_wholeOrPart
    (aligned : condition.kind = .regex -> Literal.Aligned (Regex.tokenize condition.pattern.toList).1)
    (found : wholeOrPart field condition = .ok (some probe)) :
    probe.field = field /\ Finds probe condition := by
  unfold wholeOrPart at found
  split at found
  next whole =>
    cases found
    exact ⟨rfl, finds_is valid (by simpa using whole)⟩
  next =>
    obtain ⟨isTerm, isProbe⟩ := containing_eq_ok found
    rw [isProbe]
    exact ⟨rfl, finds_containing valid _ (requires_term? aligned isTerm)⟩

end Values

/-- The probe can be asked, and records that do not answer do not satisfy the condition. -/
def Stands (probe : Probe) (condition : Condition) : Prop :=
  ∃ answers, question probe = .ok (some answers) /\
    ∀ entry : Entry, condition.Tells probe.term.toList entry.letters -> answers entry = false ->
      condition.matchRecord entry.record.readable = .ok none

section Records

variable {term : String}

theorem stands_creator (part : NamePart) (names : condition.ref = .creator part)
    (asks : condition.matchesEmpty = false) (alnum : ∀ c ∈ term.toList, Literal.isAlnum c = true)
    (finds : Finds ⟨"creator", .contains, term⟩ condition) :
    Stands ⟨"creator", .contains, term⟩ condition := by
  refine ⟨fun entry => entry.creators.any (creatorHolds term), by simp [question], ?_⟩
  intro entry tells unanswered
  rw [List.any_eq_false] at unanswered
  unfold Condition.matchRecord
  rw [names]
  -- The probe asks for the stored parts, the condition for a name as it is displayed.
  refine Condition.matchCreators_of_unmatched asks part entry.creators fun creator member => ?_
  have text : creator.get part ∈ entry.texts := by
    have among : part ∈ NamePart.all := by cases part <;> decide
    simp only [Entry.texts, List.mem_append, List.mem_flatMap, List.mem_map]
    exact .inl (.inr ⟨creator, member, part, among, rfl⟩)
  apply finds _ (tells.mono (List.Subset.refl _) (entry.subset_letters _ text))
  by_contra held
  rw [Bool.not_eq_false] at held
  exact unanswered creator member (Creator.creatorHolds_of_get alnum creator part held)

theorem stands_tags (names : condition.ref = .tags)
    (finds : Finds ⟨"tag", .contains, term⟩ condition) :
    Stands ⟨"tag", .contains, term⟩ condition := by
  refine ⟨fun entry => entry.tags.any (holds term), by simp [question], ?_⟩
  intro entry tells unanswered
  rw [List.any_eq_false] at unanswered
  unfold Condition.matchRecord
  rw [names]
  refine Condition.matchTags_of_unmatched entry.tags fun tag member => ?_
  have text : tag ∈ entry.texts := List.mem_append_right _ member
  apply finds _ (tells.mono (List.Subset.refl _) (entry.subset_letters _ text))
  exact Bool.eq_false_iff.2 (unanswered tag member)

theorem stands_collection (id : Int) (names : condition.ref = .collection)
    (isId : condition.collectionId? = some id) (storable : isStorable id = true) :
    Stands ⟨"collection", .is, toString id⟩ condition := by
  have short : id.natAbs < 10 ^ Text.numeralLimit := by
    have bounds : -9223372036854775808 <= id /\ id < 9223372036854775808 := by
      simpa [isStorable] using storable
    have small : id.natAbs < 10 ^ 19 := by omega
    exact small.trans_le (Nat.pow_le_pow_right (by decide) (by decide))
  refine ⟨fun entry => entry.collections.contains id, ?_, ?_⟩
  next =>
    have readBack := Text.wholeNumber?_toString id short
    generalize toString id = numeral at readBack ⊢
    simp [question, readBack, requireStorable, storable, bind, Except.bind, pure, Except.pure]
  next =>
    intro entry _ unanswered
    have absent : id ∉ entry.collections := by simpa using unanswered
    have noneMatched : condition.matchCollections entry.collections = none := by
      simp [Condition.matchCollections, isId, absent]
    unfold Condition.matchRecord
    rw [names]
    exact congrArg Except.ok noneMatched

theorem matchText_unanswered (asks : condition.matchesEmpty = false)
    (finds : Finds probe condition) (value? : Option String)
    (tells : ∀ value, value? = some value -> condition.Tells probe.term.toList value.toList)
    (unanswered : value?.any (passes probe.test probe.term) = false) :
    condition.matchText (value?.getD "") = .ok none := by
  cases value? with
  | none =>
    -- What is not stored reads as empty, and no check for emptiness has a probe.
    unfold Condition.matchText
    rw [asks]
    rfl
  | some value =>
    exact Condition.matchText_of_unmatched asks value (finds value (tells value rfl) unanswered)

theorem stands_itemType (names : condition.ref = .itemType) (asks : condition.matchesEmpty = false)
    (fieldIs : probe.field = "itemType") (finds : Finds probe condition) :
    Stands probe condition := by
  refine ⟨fun entry => entry.itemType.any (passes probe.test probe.term), ?_, ?_⟩
  next => simp [question, fieldIs]
  next =>
    intro entry tells unanswered
    unfold Condition.matchRecord
    rw [names]
    dsimp only
    rw [Record.itemTypeText_readable, ok_bind]
    refine matchText_unanswered asks finds entry.itemType (fun value isValue => ?_) unanswered
    have text : value ∈ entry.texts := by simp [Entry.texts, isValue]
    exact tells.mono (List.Subset.refl _) (entry.subset_letters _ text)

theorem stands_scalar (name : String) (scalar : Field.isScalarName name = true)
    (names : condition.ref = .scalar name) (asks : condition.matchesEmpty = false)
    (fieldIs : probe.field = name) (finds : Finds probe condition) :
    Stands probe condition := by
  -- None of the other fields that can be asked for has the name of a scalar field.
  have other (field : String) (notScalar : Field.isScalarName field = false) : name ≠ field := by
    rintro rfl
    rw [scalar] at notScalar
    cases notScalar
  refine ⟨fun entry => (entry.fields.lookup name).any (passes probe.test probe.term), ?_, ?_⟩
  next =>
    simp [question, fieldIs, scalar, other "creator" (by decide), other "tag" (by decide),
      other "collection" (by decide), other "itemType" (by decide)]
  next =>
    intro entry tells unanswered
    unfold Condition.matchRecord
    rw [names]
    dsimp only
    rw [entry.read_scalar name scalar]
    refine matchText_unanswered asks finds (entry.fields.lookup name) (fun value isValue => ?_)
      unanswered
    have text : value ∈ entry.texts := by
      obtain ⟨before, after, split, _⟩ := List.lookup_eq_some_iff.1 isValue
      simp [Entry.texts, split]
    exact tells.mono (List.Subset.refl _) (entry.subset_letters _ text)

end Records

theorem isScalarName_of_ref {name : String} (names : condition.ref = .scalar name) :
    Field.isScalarName name = true := by
  unfold Condition.ref Field.parse at names
  split at names
  next scalar =>
    cases names
    exact scalar
  next =>
    split at names
    next => cases names
    next => grind

section Chosen

variable (valid : Pattern.validate condition.pattern condition.kind = .ok ())
  (aligned : condition.kind = .regex -> Literal.Aligned (Regex.tokenize condition.pattern.toList).1)

include valid aligned

theorem stands_of_ofCondition?
    (storable : ∀ id, condition.ref = .collection -> condition.collectionId? = some id ->
      isStorable id = true)
    (made : ofCondition? condition = .ok (some probe)) : Stands probe condition := by
  unfold ofCondition? at made
  split at made
  next => cases made
  next asked =>
    simp only [Bool.or_eq_true, not_or, Bool.not_eq_true] at asked
    obtain ⟨_, asks⟩ := asked
    cases names : condition.ref with
    | creator part =>
      rw [names] at made
      obtain ⟨isTerm, isProbe⟩ := containing_eq_ok made
      rw [isProbe]
      exact stands_creator part names asks (alnum_creatorTerm? isTerm)
        (finds_containing valid _ (requires_creatorTerm? aligned isTerm))
    | tags =>
      rw [names] at made
      obtain ⟨isTerm, isProbe⟩ := containing_eq_ok made
      rw [isProbe]
      exact stands_tags names (finds_containing valid _ (requires_term? aligned isTerm))
    | itemType =>
      rw [names] at made
      obtain ⟨fieldIs, finds⟩ := finds_wholeOrPart valid aligned made
      exact stands_itemType names asks fieldIs finds
    | collection =>
      rw [names] at made
      obtain ⟨id, isId, rfl⟩ := Option.map_eq_some_iff.1 (Except.ok.inj made)
      exact stands_collection id names isId (storable id names isId)
    | scalar name =>
      have scalar := isScalarName_of_ref names
      rw [names] at made
      dsimp only at made
      split at made
      next =>
        obtain ⟨fieldIs, finds⟩ := finds_wholeOrPart valid aligned made
        exact stands_scalar name scalar names asks fieldIs finds
      next =>
        split at made
        next =>
          obtain ⟨isTerm, isProbe⟩ := containing_eq_ok made
          rw [isProbe]
          exact stands_scalar name scalar names asks rfl
            (finds_containing valid _ (requires_term? aligned isTerm))
        next => cases made
    | unknown name =>
      rw [names] at made
      cases made

theorem ofCondition?_of_valid : ∃ probe?, ofCondition? condition = .ok probe? := by
  obtain ⟨term, isTerm⟩ := term?_of_valid valid aligned
  obtain ⟨creatorTerm, isCreatorTerm⟩ := creatorTerm?_of_valid valid aligned
  unfold ofCondition? wholeOrPart
  rw [isTerm, isCreatorTerm]
  split
  next => exact ⟨none, rfl⟩
  next =>
    cases condition.ref with
    | scalar name =>
      dsimp only
      split
      next => split <;> exact ⟨_, rfl⟩
      next => split <;> exact ⟨_, rfl⟩
    | itemType =>
      dsimp only
      split <;> exact ⟨_, rfl⟩
    | _ => exact ⟨_, rfl⟩

end Chosen

def PassedOver (condition : Condition) : Prop :=
  '|' ∈ condition.pattern.toList \/ ofCondition? condition = .ok none

/-- Whether the probe for a condition can be trusted in a library: the walk reads the pattern as
it is meant, a collection can be stored, and the letters i are compared as the index has them. -/
structure Sure (library : Library) (condition : Condition) : Prop where
  aligned : condition.kind = .regex -> Literal.Aligned (Regex.tokenize condition.pattern.toList).1
  storable : ∀ id, condition.ref = .collection -> condition.collectionId? = some id ->
    isStorable id = true
  tells : ∀ probe, ofCondition? condition = .ok (some probe) -> ∀ entry ∈ library.entries,
    condition.Tells probe.term.toList entry.letters

section Conditions

variable {library : Library} {conditions : List Condition}
  (valid : ∀ condition ∈ conditions, Pattern.validate condition.pattern condition.kind = .ok ())

include valid

omit valid in
theorem firstOf_cons (condition : Condition) (rest : List Condition)
    (noBar : '|' ∉ condition.pattern.toList) :
    firstOf (condition :: rest) = ofCondition? condition >>= fun probe? =>
      match probe? with
      | some probe => pure (some (condition, probe))
      | none => firstOf rest := by
  rw [firstOf]
  exact if_neg (by simpa using noBar)

theorem firstOf_of_sure
    (sure : ∀ condition ∈ conditions, PassedOver condition \/ Sure library condition) :
    ∃ chosen, firstOf conditions = .ok chosen /\ ∀ condition probe,
      chosen = some (condition, probe) ->
        condition ∈ conditions /\ Sure library condition /\
          ofCondition? condition = .ok (some probe) := by
  induction conditions with
  | nil => exact ⟨none, rfl, by simp⟩
  | cons condition rest ih =>
    obtain ⟨chosen, found, later⟩ := ih
      (fun other member => valid other (List.mem_cons_of_mem _ member))
      (fun other member => sure other (List.mem_cons_of_mem _ member))
    have goesOn (firstIs : firstOf (condition :: rest) = firstOf rest) :
        ∃ chosen, firstOf (condition :: rest) = .ok chosen /\ ∀ other probe,
          chosen = some (other, probe) ->
            other ∈ condition :: rest /\ Sure library other /\
              ofCondition? other = .ok (some probe) := by
      refine ⟨chosen, firstIs.trans found, fun other probe isChosen => ?_⟩
      obtain ⟨member, made⟩ := later other probe isChosen
      exact ⟨List.mem_cons_of_mem _ member, made⟩
    by_cases bar : '|' ∈ condition.pattern.toList
    next =>
      apply goesOn
      rw [firstOf, if_pos (by simpa using bar)]
    next =>
      have reads := firstOf_cons condition rest bar
      rcases sure condition (by simp) with (hasBar | unasked) | trusted
      next => exact absurd hasBar bar
      next =>
        apply goesOn
        rw [reads, unasked, ok_bind]
      next =>
        obtain ⟨probe?, made⟩ := ofCondition?_of_valid (valid condition (by simp)) trusted.aligned
        cases probe? with
        | none =>
          apply goesOn
          rw [reads, made, ok_bind]
        | some probe =>
          refine ⟨some (condition, probe), by rw [reads, made]; rfl, ?_⟩
          rintro _ _ ⟨⟩
          exact ⟨by simp, trusted, made⟩

omit valid in
theorem meets_of_matched (narrow : narrows conditions = true) {condition : Condition}
    (member : condition ∈ conditions) (source : Readable) (evaluation : Evaluation)
    (evaluated : evaluate source conditions = .ok evaluation)
    (matched : evaluation.isMatched = true) : condition.Meets source := by
  cases conditions with
  | nil => cases member
  | cons first others =>
  cases others with
  | nil =>
    -- A condition alone decides, whatever its operator.
    rw [List.mem_singleton.1 member]
    obtain ⟨detail?, matchedAlone, same⟩ := bind_eq_ok.1 evaluated
    cases same
    obtain ⟨detail, rfl⟩ := Option.isSome_iff_exists.1 matched
    exact ⟨detail, matchedAlone⟩
  | cons second rest =>
    obtain ⟨found, outcomesAre, same⟩ := bind_eq_ok.1 evaluated
    cases same
    have positive := List.all_eq_true.1 (Bool.and_eq_true_iff.1 narrow).1 condition member
    obtain ⟨detail?, matchedOne, among⟩ :=
      Evaluation.mem_outcomes source _ found outcomesAre condition member
    have holds : Evaluation.verdict .and found = true := first_and_of_narrows narrow ▸ matched
    have satisfied := Evaluation.satisfied_of_verdict_and holds _ among (by simpa using positive)
    obtain ⟨detail, rfl⟩ := Option.isSome_iff_exists.1 satisfied
    exact ⟨detail, matchedOne⟩

theorem misses_of_unmet (narrow : narrows conditions = true) {condition : Condition}
    (member : condition ∈ conditions) {record : Record}
    (unmet : condition.matchRecord record.readable = .ok none) :
    Misses Record.readable conditions record := by
  obtain ⟨evaluation, evaluated⟩ := evaluate_total record valid
  refine ⟨evaluation, evaluated, Bool.eq_false_iff.2 fun matched => ?_⟩
  obtain ⟨detail, met⟩ := meets_of_matched narrow member record.readable evaluation evaluated matched
  cases unmet.symm.trans met

theorem advisory_of_sure
    (sure : ∀ condition ∈ conditions, PassedOver condition \/ Sure library condition) :
    Advisory library conditions := by
  intro narrow
  obtain ⟨chosen, found, chosenIs⟩ := firstOf_of_sure valid sure
  refine ⟨chosen, found, fun condition probe isChosen => ?_⟩
  obtain ⟨member, trusted, made⟩ := chosenIs condition probe isChosen
  obtain ⟨answers, asked, unmet⟩ :=
    stands_of_ofCondition? (valid condition member) trusted.aligned trusted.storable made
  refine ⟨answers, asked, fun entry among unanswered => ?_⟩
  exact misses_of_unmet valid narrow member
    (unmet entry (trusted.tells probe made entry among) unanswered)

end Conditions

/-- Whatever the threshold, a search comes to the same, if its probes can be trusted. -/
theorem search_same (library : Library) (indexed : library.Indexed) (conditions : List Condition)
    (given : conditions ≠ [])
    (valid : ∀ condition ∈ conditions,
      Pattern.validate condition.pattern condition.kind = .ok ())
    (sure : ∀ condition ∈ conditions, PassedOver condition \/ Sure library condition)
    (libraryId : Option Int) (first second : Int) :
    (search library.store Record.readable conditions libraryId first).outcome =
      (search library.store Record.readable conditions libraryId second).outcome := by
  have scan := search_eq_fullScan library indexed conditions given
    (validate_eq_ok conditions valid) (advisory_of_sure valid sure) libraryId
  rw [scan first, scan second]

def machineLearning : Library where
  entries := [
    ⟨1, "A", 1, some "book", [("title", "Learning in Machines")],
      [⟨"Iris", "Goodman", "", "author"⟩], ["ai"], []⟩,
    ⟨2, "B", 1, some "book", [("title", "Machines")], [], [], []⟩]

def aboutLearning : Condition where
  field := "title"
  pattern := "learnings?"

def byIris : Condition where
  field := "creator.fullName"
  pattern := "IRIS good"
  kind := .contains

theorem tame_learnings : Literal.Tame "learnings?".toList where
  noBar := by decide
  digits c member digit := by
    have each : "learnings?".toList.all (fun c => !Unicode.isDigit c.toNat) = true := by
      decide
    have noneHere := List.all_eq_true.1 each c member
    rw [digit] at noneHere
    cases noneHere
  counts := by
    rw [← Text.contains_iff]
    decide
  comments := by
    rw [← Text.contains_iff]
    decide
  templates flags _ within := by
    have opened : '(' ∈ "learnings?".toList := within.subset (by simp)
    revert opened
    decide

theorem plain_machineLearning (entry : Entry) (member : entry ∈ machineLearning.entries)
    (term : List Char) (plain : term.all Condition.isPlain = true) :
    (term ++ entry.letters).all Condition.isPlain = true := by
  have texts :
      machineLearning.entries.all (fun entry => entry.letters.all Condition.isPlain) = true := by
    decide
  rw [List.all_append, plain, List.all_eq_true.1 texts entry member]
  rfl

theorem sure_aboutLearning : Sure machineLearning aboutLearning where
  aligned _ := tame_learnings.aligned
  storable _ names := absurd names (by decide)
  tells probe made entry member := by
    have termIs : ofCondition? aboutLearning = .ok (some ⟨"title", .contains, "learning"⟩) :=
      eq_ok_of_toOption (by decide)
    cases termIs.symm.trans made
    exact Condition.tells_of_plain _ _ _ (plain_machineLearning entry member _ (by decide))

theorem sure_byIris : Sure machineLearning byIris where
  aligned := nofun
  storable _ names := absurd names (by decide)
  tells probe made entry member := by
    have termIs : ofCondition? byIris = .ok (some ⟨"creator", .contains, "IRIS"⟩) :=
      eq_ok_of_toOption (by decide)
    cases termIs.symm.trans made
    exact Condition.tells_of_plain _ _ _ (plain_machineLearning entry member _ (by decide))

theorem search_same_learning :
    (search machineLearning.store Record.readable [aboutLearning, byIris] (some 1) 0).outcome =
        (search machineLearning.store Record.readable [aboutLearning, byIris] (some 1) 5).outcome /\
      (search machineLearning.store Record.readable [aboutLearning, byIris] (some 1)
        5).outcome.toOption.map List.length = some 1 := by
  have indexed : machineLearning.Indexed := ⟨by simp [machineLearning, Ascending], by decide⟩
  have valid : ∀ condition ∈ [aboutLearning, byIris],
      Pattern.validate condition.pattern condition.kind = .ok () := by
    simp only [List.forall_mem_cons, List.not_mem_nil, false_implies, implies_true, and_true]
    exact ⟨eq_ok_of_toOption (by decide +kernel), rfl⟩
  have sure : ∀ condition ∈ [aboutLearning, byIris],
      PassedOver condition \/ Sure machineLearning condition := by
    simp only [List.forall_mem_cons, List.not_mem_nil, false_implies, implies_true, and_true]
    exact ⟨.inr sure_aboutLearning, .inr sure_byIris⟩
  exact ⟨search_same machineLearning indexed _ (by simp) valid sure _ _ _, by decide +kernel⟩

def shortTitle : Library where
  entries := [⟨1, "A", 1, none, [("title", "ab")], [], [], []⟩]

theorem shortTitle_indexed : shortTitle.Indexed where
  ascending := List.pairwise_singleton _ _
  storable := by decide

/-- A count may leave its bounds open, so the last letter is optional. -/
def optionalLetter : Condition where
  field := "title"
  pattern := "abc\x7b,\x7d"

theorem probe_loses_optional_letter :
    shortTitle.Indexed /\
      (∀ condition ∈ [optionalLetter],
        Pattern.validate condition.pattern condition.kind = .ok ()) /\
      (search shortTitle.store Record.readable [optionalLetter] none 0).outcome ≠
        (search shortTitle.store Record.readable [optionalLetter] none 5).outcome := by
  refine ⟨shortTitle_indexed, ?_, fun same => ?_⟩
  next =>
    intro condition member
    rw [List.mem_singleton.1 member]
    exact eq_ok_of_toOption (by decide +kernel)
  next =>
    have found := congrArg (fun outcome => outcome.toOption.map List.length) same
    exact absurd found (by decide +kernel)

end Probe

end BibEdit
