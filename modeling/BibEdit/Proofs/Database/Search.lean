import BibEdit.Proofs.Database.Load
import BibEdit.Proofs.Evaluation
import BibEdit.Proofs.Library.Search
import BibEdit.Proofs.Probe.Advisory

set_option autoImplicit false

namespace BibEdit

namespace Database.Tables

section Own

variable {α κ : Type} (owner : α -> Int) (rank : α -> κ) (rows : List α)
  (apart : (rows.map fun row => (owner row, rank row)).Nodup) (id : Int)

include apart

theorem any_own [LT κ] [DecidableLT κ] [DecidableEq κ]
    [IsStrictTotalOrder κ fun first second => first < second] (holds : α -> Bool) :
    (sortBy rank (rows.filter fun row => owner row == id)).any holds =
      rows.any fun row => owner row == id && holds row := by
  rw [Bool.eq_iff_iff]
  simp only [List.any_eq_true, mem_sortBy _ (nodup_own_ranks owner rank rows apart id),
    List.mem_filter, Bool.and_eq_true, and_assoc]

end Own

section Asking

variable {tables : Tables} (lawful : tables.Lawful)

include lawful

theorem any_creators (row : RecordRow) (holds : Creator -> Bool) :
    (tables.entryOf row).creators.any holds =
      tables.creators.any fun creator => creator.recordId == row.id && holds creator.creator := by
  rw [entryOf, List.any_map, any_own _ _ _ lawful.creatorKeys]
  rfl

theorem any_tags (row : RecordRow) (holds : String -> Bool) :
    (tables.entryOf row).tags.any holds =
      tables.tags.any fun tag => tag.recordId == row.id && holds tag.tag := by
  rw [entryOf, List.any_map, any_own _ _ _ lawful.tagPositions]
  rfl

theorem contains_collections (row : RecordRow) (number : Int) :
    (tables.entryOf row).collections.contains number =
      tables.memberships.any fun member =>
        member.recordId == row.id && member.collectionId == number := by
  have keys : (tables.memberships.map fun member => (member.recordId, member.collectionId)).Nodup :=
    lawful.membershipKeys.map fun first second same => by
      cases first
      cases second
      simpa using same
  have owned := any_own MembershipRow.recordId MembershipRow.collectionId tables.memberships keys
    row.id fun member => member.collectionId == number
  have collectionsAre : (tables.entryOf row).collections =
      (sortBy MembershipRow.collectionId
        (tables.memberships.filter fun member => member.recordId == row.id)).map
          MembershipRow.collectionId := sortBy_map MembershipRow.collectionId (fun number => number) _
  rw [← owned, collectionsAre, List.contains_eq_any_beq, List.any_map]
  simp only [Function.comp_def, Bool.beq_comm]

theorem any_field (row : RecordRow) (name : String) (holds : String -> Bool) :
    ((tables.entryOf row).fields.lookup name).any holds =
      tables.fields.any fun field => field.recordId == row.id &&
        (field.name == name && holds field.value) := by
  have apart := (ascending_fields_entryOf tables row).nodup_ranks
  rw [Bool.eq_iff_iff, List.any_eq_true, Option.any_eq_true]
  simp only [lookup_eq_some_iff _ apart, mem_fields_entryOf lawful, Bool.and_eq_true, beq_iff_eq]
  constructor
  next =>
    rintro ⟨value, member, held⟩
    exact ⟨_, member, rfl, rfl, held⟩
  next =>
    rintro ⟨field, member, own, named, held⟩
    exact ⟨field.value, by rwa [← own, ← named], held⟩

theorem question_eq (probe : Probe) :
    tables.question probe =
      (Library.question probe).map (Option.map fun answers row => answers (tables.entryOf row)) := by
  unfold question Library.question
  split
  next => simp [Except.map, any_creators lawful]
  split
  next => simp [Except.map, any_tags lawful]
  split
  next =>
    cases Text.wholeNumber? probe.term.toList with
    | none => rfl
    | some id =>
      dsimp only
      cases requireStorable id with
      | error fault => rfl
      | ok _ =>
        have same := funext fun row => (contains_collections lawful row id).symm
        exact congrArg (fun answers => Except.ok (some answers)) same
  split
  next => rfl
  split
  next => simp [Except.map, any_field lawful]
  next => rfl

theorem select_eq (answers : Entry -> Bool) (libraryId : Option Int) :
    tables.select (fun row => answers (tables.entryOf row)) libraryId = (do
      Library.requireScope libraryId
      return ((tables.library.entries.filter answers).filter
        (Library.inScope libraryId)).map Entry.id) := by
  unfold select
  refine congrArg (Library.requireScope libraryId >>= ·) (funext fun _ => congrArg Except.ok ?_)
  rw [sortBy_filter _ lawful.recordIds, List.filter_filter, library, List.filter_map,
    List.map_map]
  refine congrArg (List.map RecordRow.id) (List.filter_congr fun row _ => ?_)
  exact Bool.and_comm _ _

theorem query_eq (probe : Probe) (libraryId : Option Int) :
    tables.query probe libraryId = tables.library.query probe libraryId := by
  unfold query Library.query
  rw [question_eq lawful]
  cases Library.question probe with
  | error fault => rfl
  | ok asked =>
    cases asked with
    | none => rfl
    | some answers => exact select_eq lawful answers libraryId

theorem list_eq (libraryId : Option Int) : tables.list libraryId = tables.library.list libraryId := by
  unfold list Library.list
  rw [select_eq lawful fun _ => true]
  simp

/-- The tables answer like the library that they stand for. -/
theorem store_eq : tables.store = tables.library.store := by
  unfold store Library.store
  rw [Store.mk.injEq]
  exact ⟨funext₂ (query_eq lawful), funext (list_eq lawful), funext (load_eq lawful)⟩

end Asking

end Database.Tables

namespace Search

/-- What it takes for a result to be right: the record satisfies the conditions, and what satisfies
them is what is reported. -/
def Matches (conditions : List Condition) (result : Found Record) : Prop :=
  ∃ evaluation, evaluate result.record.readable conditions = .ok evaluation /\
    evaluation.isMatched = true /\ result.fields = evaluation.fields /\
      result.details = evaluation.details

theorem foundIn_exact (conditions : List Condition)
    (valid : ∀ condition ∈ conditions, Pattern.validate condition.pattern condition.kind = .ok ())
    (records : List Record) :
    ∃ found, foundIn Record.readable conditions records = .ok found /\
      (found.map Found.record).Sublist records /\
      ∀ result, result ∈ found <-> result.record ∈ records /\ Matches conditions result := by
  induction records with
  | nil => exact ⟨[], rfl, .slnil, by simp⟩
  | cons record rest ih =>
    obtain ⟨found, later, sublist, exactLater⟩ := ih
    obtain ⟨evaluation, evaluated⟩ := evaluate_total record valid
    -- The first record has one evaluation, so it is found at most once, with what that reports.
    have matchesIff (result : Found Record) (same : result.record = record) :
        Matches conditions result <->
          evaluation.isMatched = true /\ result.details = evaluation.details := by
      unfold Matches
      rw [same, evaluated]
      simp +contextual [Found.fields, Evaluation.fields]
    refine ⟨_, by rw [foundIn, evaluated, later]; rfl, ?_, fun result => ?_⟩
    next =>
      cases evaluation.isMatched with
      | true => exact sublist.cons_cons record
      | false => exact sublist.cons record
    next =>
      rw [List.mem_cons]
      cases matched : evaluation.isMatched with
      | true =>
        rw [if_pos rfl, List.mem_cons, exactLater]
        constructor
        next =>
          rintro (rfl | ⟨among, right⟩)
          next => exact ⟨.inl rfl, (matchesIff _ rfl).2 ⟨matched, rfl⟩⟩
          next => exact ⟨.inr among, right⟩
        next =>
          rintro ⟨same | among, right⟩
          next =>
            have detailsAre := ((matchesIff result same).1 right).2
            exact .inl (by rw [← same, ← detailsAre])
          next => exact .inr ⟨among, right⟩
      | false =>
        rw [if_neg Bool.false_ne_true, exactLater]
        constructor
        next =>
          rintro ⟨among, right⟩
          exact ⟨.inr among, right⟩
        next =>
          rintro ⟨same | among, right⟩
          next =>
            rw [matchesIff result same, matched] at right
            exact absurd right.1 Bool.false_ne_true
          next => exact ⟨among, right⟩

end Search

namespace Database

open Search

def Askable (conditions : List Condition) (libraryId : Option Int) : Prop :=
  conditions = [] \/ libraryId.all isStorable = true

/-- A search without a probe finds the stored records in scope that satisfy the conditions, in
ascending order, however many records there are. A library's number that cannot be stored cannot be
asked for. -/
theorem scan_finds_exactly (tables : Tables) (lawful : tables.Lawful)
    (storable : ∀ row ∈ tables.records, isStorable row.id = true) (conditions : List Condition)
    (valid : ∀ condition ∈ conditions, Pattern.validate condition.pattern condition.kind = .ok ())
    (libraryId : Option Int) (threshold : Int)
    (unplanned : Probe.plan conditions threshold = .ok none) :
    (Askable conditions libraryId ->
      ∃ found,
        (search tables.store Record.readable conditions libraryId threshold).outcome = .ok found /\
          Ascending (fun result => result.record.id) found /\
          ∀ result, result ∈ found <->
            (∃ row ∈ tables.records, Tables.inScope libraryId row = true /\
              result.record = (tables.entryOf row).record) /\
            Matches conditions result) /\
      (¬ Askable conditions libraryId ->
        (search tables.store Record.readable conditions libraryId threshold).outcome =
          .error (.fault .outOfRange)) := by
  rw [Tables.store_eq lawful]
  by_cases given : conditions = []
  next =>
    -- Without conditions the store is not asked, and nothing satisfies them.
    subst given
    refine ⟨fun _ => ⟨[], rfl, .nil, fun result => ?_⟩, fun refused => absurd (.inl rfl) refused⟩
    simp [Matches, evaluate]
  next =>
    -- The tables' rows may stand in any order; the library that they stand for is in order.
    have indexed : tables.library.Indexed := by
      refine ⟨Tables.ascending_entries tables, fun entry member => ?_⟩
      obtain ⟨row, among, rfl⟩ := (Tables.mem_entries lawful entry).1 member
      exact storable row among
    rw [Library.search_unplanned tables.library indexed conditions given
      (validate_eq_ok conditions valid) libraryId threshold unplanned, Library.fullScan,
      Library.requireScope_eq]
    constructor
    next =>
      intro askable
      rw [if_pos (askable.resolve_left given)]
      obtain ⟨found, foundAre, sublist, exactRecords⟩ := foundIn_exact conditions valid
        ((tables.library.entries.filter (Library.inScope libraryId)).map Entry.record)
      refine ⟨found, foundAre, ?_, fun result => ?_⟩
      next =>
        have ascending : Ascending Record.id
            ((tables.library.entries.filter (Library.inScope libraryId)).map Entry.record) :=
          List.pairwise_map.2 ((Tables.ascending_entries tables).filter _ _)
        have foundAscending := List.Pairwise.sublist sublist ascending
        rwa [List.pairwise_map] at foundAscending
      next =>
        rw [exactRecords, List.mem_map]
        refine and_congr_left fun _ => ?_
        constructor
        next =>
          rintro ⟨entry, among, same⟩
          obtain ⟨listed, isInScope⟩ := List.mem_filter.1 among
          obtain ⟨row, member, rfl⟩ := (Tables.mem_entries lawful entry).1 listed
          exact ⟨row, member, isInScope, same.symm⟩
        next =>
          rintro ⟨row, member, isInScope, same⟩
          have listed := (Tables.mem_entries lawful _).2 ⟨row, member, rfl⟩
          exact ⟨tables.entryOf row, List.mem_filter.2 ⟨listed, isInScope⟩, same.symm⟩
    next =>
      intro refused
      rw [if_neg fun fits => refused (.inr fits)]
      rfl

def datedTables : Tables where
  records := [⟨3, "C", 1, none⟩, ⟨1, "A", 1, some "book"⟩, ⟨2, "B", 2, none⟩, ⟨4, "D", 1, none⟩]
  fields := [⟨3, "date", "1999"⟩, ⟨1, "title", "Old"⟩, ⟨1, "date", "May 1995"⟩, ⟨2, "date", "1999"⟩]
  creators := [⟨1, 2, ⟨"Ada", "Lovelace", "", "editor"⟩⟩, ⟨4, 1, ⟨"", "", "Homer", "author"⟩⟩,
    ⟨1, 1, ⟨"Mary", "Shelley", "", "author"⟩⟩]
  tags := [⟨4, "sea", 2⟩, ⟨4, "war", 1⟩, ⟨2, "sea", 1⟩]
  collections := [⟨7, "Read", 1⟩]
  memberships := [⟨4, 7⟩]

def inTheNineties : Condition where
  field := "date"
  pattern := "199"
  kind := .contains
  operator := .or

def aboutTheSea : Condition where
  field := "tags"
  pattern := "SEA"
  kind := .contains
  operator := .or

theorem valid_ninetiesOrSea : ∀ condition ∈ [inTheNineties, aboutTheSea],
    Pattern.validate condition.pattern condition.kind = .ok () := by
  simp only [List.forall_mem_cons, List.not_mem_nil, false_implies, implies_true, and_true]
  exact ⟨rfl, rfl⟩

theorem scan_finds_exactly_nineties_or_sea :
    datedTables.Lawful /\ (∀ row ∈ datedTables.records, isStorable row.id = true) /\
      (∀ condition ∈ [inTheNineties, aboutTheSea],
        Pattern.validate condition.pattern condition.kind = .ok ()) /\
      Probe.plan [inTheNineties, aboutTheSea] 5 = .ok none /\
      Askable [inTheNineties, aboutTheSea] (some 1) /\
      ∃ found,
        (search datedTables.store Record.readable [inTheNineties, aboutTheSea] (some 1)
            5).outcome = .ok found /\
          found.map (fun result => (result.record.id, result.fields)) =
            [(1, ["date"]), (3, ["date"]), (4, ["tags"])] /\
          Ascending (fun result => result.record.id) found /\
          ∀ result, result ∈ found <->
            (∃ row ∈ datedTables.records, Tables.inScope (some 1) row = true /\
              result.record = (datedTables.entryOf row).record) /\
            Matches [inTheNineties, aboutTheSea] result := by
  have lawful : datedTables.Lawful := by constructor <;> decide
  have storable : ∀ row ∈ datedTables.records, isStorable row.id = true := by decide
  have unplanned : Probe.plan [inTheNineties, aboutTheSea] 5 = .ok none :=
    eq_ok_of_toOption (by decide +kernel)
  have askable : Askable [inTheNineties, aboutTheSea] (some 1) := .inr (by decide)
  obtain ⟨found, foundAre, ascending, exactly⟩ := (scan_finds_exactly datedTables lawful storable
    _ valid_ninetiesOrSea (some 1) 5 unplanned).1 askable
  have names : (search datedTables.store Record.readable [inTheNineties, aboutTheSea] (some 1)
      5).outcome.toOption.map (List.map fun result => (result.record.id, result.fields)) =
        some [(1, ["date"]), (3, ["date"]), (4, ["tags"])] := by
    decide +kernel
  rw [foundAre] at names
  exact ⟨lawful, storable, valid_ninetiesOrSea, unplanned, askable, found, foundAre,
    Option.some.inj names, ascending, exactly⟩

/-- No record can be in a library whose number cannot be stored, but the search fails instead of
finding none. -/
theorem scan_refuses_unstorable :
    datedTables.Lawful /\ (∀ row ∈ datedTables.records, isStorable row.id = true) /\
      (∀ condition ∈ [inTheNineties, aboutTheSea],
        Pattern.validate condition.pattern condition.kind = .ok ()) /\
      Probe.plan [inTheNineties, aboutTheSea] 5 = .ok none /\
      ¬ ∃ found, (search datedTables.store Record.readable [inTheNineties, aboutTheSea]
        (some 9223372036854775808) 5).outcome = .ok found := by
  refine ⟨by constructor <;> decide, by decide, valid_ninetiesOrSea,
    eq_ok_of_toOption (by decide +kernel), ?_⟩
  rintro ⟨found, foundAre⟩
  have nothing : (search datedTables.store Record.readable [inTheNineties, aboutTheSea]
      (some 9223372036854775808) 5).outcome.toOption.isNone = true := by decide +kernel
  rw [foundAre] at nothing
  cases nothing

end Database

end BibEdit
