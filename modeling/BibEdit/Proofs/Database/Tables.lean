import BibEdit.Proofs.Ascending
import BibEdit.Proofs.Success

set_option autoImplicit false

/-! What holds of the tables of a library, and how they are read. -/

namespace BibEdit.Database.Tables

/-- The constraints on the rows: keys are unique, references lead somewhere, and the numbers of
collections are of those that can be stored. -/
structure Lawful (tables : Tables) : Prop where
  recordIds : (tables.records.map RecordRow.id).Nodup
  recordKeys : (tables.records.map RecordRow.key).Nodup
  fieldKeys : (tables.fields.map fun row => (row.recordId, row.name)).Nodup
  creatorKeys : (tables.creators.map fun row => (row.recordId, row.position)).Nodup
  tagKeys : (tables.tags.map fun row => (row.recordId, row.tag)).Nodup
  tagPositions : (tables.tags.map fun row => (row.recordId, row.position)).Nodup
  collectionIds : (tables.collections.map Collection.id).Nodup
  membershipKeys : tables.memberships.Nodup
  fieldRecords : ∀ row ∈ tables.fields, tables.hasRecord row.recordId = true
  creatorRecords : ∀ row ∈ tables.creators, tables.hasRecord row.recordId = true
  tagRecords : ∀ row ∈ tables.tags, tables.hasRecord row.recordId = true
  membershipRecords : ∀ row ∈ tables.memberships, tables.hasRecord row.recordId = true
  membershipCollections : ∀ row ∈ tables.memberships,
    tables.hasCollection row.collectionId = true
  collectionsStorable : ∀ row ∈ tables.collections, isStorable row.id = true

theorem hasRecord_iff (tables : Tables) (id : Int) :
    tables.hasRecord id = true <-> id ∈ tables.records.map RecordRow.id := by
  simp [hasRecord]

theorem hasCollection_iff (tables : Tables) (id : Int) :
    tables.hasCollection id = true <-> id ∈ tables.collections.map Collection.id := by
  simp [hasCollection]

theorem recordOfKey?_eq_some (tables : Tables) (key : String) (row : RecordRow)
    (found : tables.recordOfKey? key = some row) : row ∈ tables.records /\ row.key = key :=
  ⟨List.mem_of_find?_eq_some found, by simpa using List.find?_some found⟩

theorem recordOfKey?_eq_none (tables : Tables) (key : String) :
    tables.recordOfKey? key = none <-> ∀ row ∈ tables.records, row.key ≠ key := by
  simp [recordOfKey?]

theorem nodup_own_ranks {α κ : Type} (owner : α -> Int) (rank : α -> κ) (rows : List α)
    (apart : (rows.map fun row => (owner row, rank row)).Nodup) (id : Int) :
    ((rows.filter fun row => owner row == id).map rank).Nodup := by
  have pairs : (rows.filter fun row => owner row == id).map (fun row => (owner row, rank row)) =
      ((rows.filter fun row => owner row == id).map rank).map fun value => (id, value) := by
    rw [List.map_map]
    refine List.map_congr_left fun row member => ?_
    have own : owner row = id := by simpa using (List.mem_filter.1 member).2
    simp [own]
  refine List.Nodup.of_map (fun value => (id, value)) ?_
  rw [← pairs]
  exact apart.sublist (List.filter_sublist.map _)

section Library

variable {tables : Tables}

theorem mem_entries (lawful : tables.Lawful) (entry : Entry) :
    entry ∈ tables.library.entries <-> ∃ row ∈ tables.records, tables.entryOf row = entry := by
  simp only [library, List.mem_map, mem_sortBy tables.records lawful.recordIds]

theorem ascending_entries (tables : Tables) : Ascending Entry.id tables.library.entries :=
  List.pairwise_map.2 (ascending_sortBy tables.records)

theorem mem_collections (lawful : tables.Lawful) (collection : Collection) :
    collection ∈ tables.library.collections <-> collection ∈ tables.collections :=
  mem_sortBy tables.collections lawful.collectionIds collection

theorem library_hasCollection (lawful : tables.Lawful) (id : Int) :
    tables.library.hasCollection id = tables.hasCollection id := by
  rw [Bool.eq_iff_iff]
  simp only [Library.hasCollection, hasCollection, List.any_eq_true, mem_collections lawful]

theorem row_eq_of_key (lawful : tables.Lawful) (first second : RecordRow)
    (member : first ∈ tables.records) (other : second ∈ tables.records)
    (same : first.key = second.key) : first = second :=
  List.inj_on_of_nodup_map lawful.recordKeys member other same

theorem row_eq_of_id (lawful : tables.Lawful) (first second : RecordRow)
    (member : first ∈ tables.records) (other : second ∈ tables.records)
    (same : first.id = second.id) : first = second :=
  List.inj_on_of_nodup_map lawful.recordIds member other same

theorem library_entryOfKey? (lawful : tables.Lawful) (key : String) :
    tables.library.entryOfKey? key = (tables.recordOfKey? key).map tables.entryOf := by
  cases found : tables.recordOfKey? key with
  | none =>
    rw [recordOfKey?_eq_none] at found
    simp only [Option.map_none, Library.entryOfKey?, List.find?_eq_none, mem_entries lawful]
    rintro entry ⟨row, member, rfl⟩
    simpa [entryOf] using found row member
  | some row =>
    obtain ⟨member, named⟩ := recordOfKey?_eq_some tables key row found
    cases searched : tables.library.entryOfKey? key with
    | none =>
      have missing := List.find?_eq_none.1 searched (tables.entryOf row)
        ((mem_entries lawful _).2 ⟨row, member, rfl⟩)
      exact absurd (by simpa [entryOf] using named) missing
    | some entry =>
      obtain ⟨other, among, rfl⟩ :=
        (mem_entries lawful entry).1 (List.mem_of_find?_eq_some searched)
      have same : other.key = key := by simpa [entryOf] using List.find?_some searched
      rw [row_eq_of_key lawful other row among member (same.trans named.symm)]
      rfl

theorem library_nextId (lawful : tables.Lawful) :
    tables.library.nextId =
      match (tables.records.map RecordRow.id).max? with
      | some greatest => greatest + 1
      | none => 1 := by
  have ascending := ascending_entries tables
  have members := mem_entries lawful
  unfold Library.nextId
  cases last : tables.library.entries.getLast? with
  | none =>
    rw [List.getLast?_eq_none_iff] at last
    have empty : tables.records = [] := by
      rw [List.eq_nil_iff_forall_not_mem]
      intro row member
      have among := (members _).2 ⟨row, member, rfl⟩
      rw [last] at among
      cases among
    simp [empty]
  | some entry =>
    obtain ⟨earlier, whole⟩ := List.getLast?_eq_some_iff.1 last
    obtain ⟨row, member, same⟩ := (members entry).1 (by rw [whole]; simp)
    have greatest : (tables.records.map RecordRow.id).max? = some entry.id := by
      rw [List.max?_eq_some_iff]
      constructor
      next =>
        rw [← same]
        exact List.mem_map_of_mem member
      next =>
        intro id given
        obtain ⟨other, among, rfl⟩ := List.mem_map.1 given
        have listed := (members _).2 ⟨other, among, rfl⟩
        rw [whole, List.mem_append, List.mem_singleton] at listed
        rw [whole] at ascending
        rcases listed with before | isLast
        next =>
          have below := (List.pairwise_append.1 ascending).2.2 _ before entry (by simp)
          exact Int.le_of_lt below
        next => exact Int.le_of_eq (congrArg Entry.id isLast)
    rw [greatest]

end Library

def putRow {α κ : Type} [DecidableEq κ] (rank : α -> κ) (new : α) (rows : List α) : List α :=
  if rank new ∈ rows.map rank then rows.map fun old => if rank old = rank new then new else old
  else rows ++ [new]

section PutRow

variable {α κ : Type} [DecidableEq κ] (rank : α -> κ) (new : α) (rows : List α)

theorem mem_putRow (other : α) :
    other ∈ putRow rank new rows <-> other = new \/ other ∈ rows /\ rank other ≠ rank new := by
  unfold putRow
  split
  next there =>
    obtain ⟨found, member, same⟩ := List.mem_map.1 there
    rw [List.mem_map]
    constructor
    next =>
      rintro ⟨old, among, rfl⟩
      by_cases equal : rank old = rank new
      next => simp [equal]
      next => simp [equal, among]
    next =>
      rintro (rfl | ⟨among, apart⟩)
      next => exact ⟨found, member, by simp [same]⟩
      next => exact ⟨other, among, by simp [apart]⟩
  next fresh =>
    have apart : other ∈ rows -> rank other ≠ rank new := fun member same =>
      fresh (same ▸ List.mem_map_of_mem member)
    simp only [List.mem_append, List.mem_singleton]
    constructor
    next =>
      rintro (member | same)
      next => exact .inr ⟨member, apart member⟩
      next => exact .inl same
    next =>
      rintro (same | ⟨member, _⟩)
      next => exact .inr same
      next => exact .inl member

theorem map_rank_putRow :
    (putRow rank new rows).map rank =
      if rank new ∈ rows.map rank then rows.map rank else rows.map rank ++ [rank new] := by
  unfold putRow
  split
  next =>
    rw [List.map_map]
    refine List.map_congr_left fun old _ => ?_
    by_cases same : rank old = rank new
    next => simp [same]
    next => simp [same]
  next => simp

theorem nodup_putRow (apart : (rows.map rank).Nodup) : ((putRow rank new rows).map rank).Nodup := by
  rw [map_rank_putRow]
  split
  next => exact apart
  next fresh => exact apart.append (List.nodup_singleton _) (by simpa using fresh)

theorem sortBy_putRow [LT κ] [DecidableLT κ] [IsStrictTotalOrder κ fun first second => first < second]
    (apart : (rows.map rank).Nodup) :
    sortBy rank (putRow rank new rows) = place rank new (sortBy rank rows) := by
  refine Ascending.ext _ _ (ascending_sortBy _) (ascending_place _ _ (ascending_sortBy _))
    fun other => ?_
  rw [mem_sortBy _ (nodup_putRow rank new rows apart), mem_putRow,
    mem_place _ _ _ (ascending_sortBy rows), mem_sortBy rows apart]

end PutRow

theorem upsertCollection_eq (listed : Library.ListedCollection) (tables : Tables) :
    tables.upsertCollection listed = (do
      requireStorable listed.id
      requireStorable listed.libraryId
      return { tables with
        collections := putRow Collection.id ⟨listed.id, listed.name, listed.libraryId⟩
          tables.collections }) := by
  unfold upsertCollection putRow
  by_cases there : tables.hasCollection listed.id = true
  next => simp [there, (hasCollection_iff tables listed.id).1 there]
  next =>
    simp only [there]
    rw [if_neg (mt (hasCollection_iff tables listed.id).2 there)]
    rfl

/-- The tables and the library agree on what became of a change. -/
def Simulates {ε : Type} (good : Tables -> Prop) (rows : Except ε Tables)
    (spec : Except ε Library) : Prop :=
  match spec with
  | .ok library => ∃ after, rows = .ok after /\ good after /\ after.library = library
  | .error error => rows = .error error

theorem simulates_error {ε : Type} {good : Tables -> Prop} {rows : Except ε Tables} {error : ε} :
    Simulates good rows (.error error) <-> rows = .error error := Iff.rfl

theorem simulates_ok {ε : Type} {good : Tables -> Prop} {rows : Except ε Tables}
    {library : Library} :
    Simulates good rows (.ok library) <->
      ∃ after, rows = .ok after /\ good after /\ after.library = library := Iff.rfl

theorem simulates_good {ε : Type} {good : Tables -> Prop} {rows : Except ε Tables}
    {spec : Except ε Library} (simulates : Simulates good rows spec) (after : Tables)
    (done : rows = .ok after) : good after := by
  cases spec with
  | error error => cases (simulates_error.1 simulates).symm.trans done
  | ok library =>
    obtain ⟨other, reached, holds, _⟩ := simulates_ok.1 simulates
    cases reached.symm.trans done
    exact holds

theorem simulates_foldlM {ε β : Type} (good : Tables -> Prop) (step : Tables -> β -> Except ε Tables)
    (spec : Library -> β -> Except ε Library)
    (each : ∀ tables item, good tables ->
      Simulates good (step tables item) (spec tables.library item))
    (items : List β) (tables : Tables) (holds : good tables) :
    Simulates good (items.foldlM step tables) (items.foldlM spec tables.library) := by
  induction items generalizing tables with
  | nil => exact ⟨tables, rfl, holds, rfl⟩
  | cons item rest ih =>
    have here := each tables item holds
    rw [List.foldlM_cons, List.foldlM_cons]
    cases outcome : spec tables.library item with
    | error error =>
      rw [outcome, simulates_error] at here
      rw [here]
      rfl
    | ok library =>
      rw [outcome, simulates_ok] at here
      obtain ⟨after, stepped, kept, same⟩ := here
      rw [stepped, ← same]
      exact ih after kept

theorem lawful_putCollection (tables : Tables) (row : Collection) (lawful : tables.Lawful)
    (storable : isStorable row.id = true) :
    Lawful { tables with collections := putRow Collection.id row tables.collections } :=
  { lawful with
    collectionIds := nodup_putRow _ _ _ lawful.collectionIds
    membershipCollections := by
      intro member among
      have there := (hasCollection_iff tables _).1 (lawful.membershipCollections member among)
      rw [hasCollection_iff, map_rank_putRow]
      split
      next => exact there
      next => exact List.mem_append_left _ there
    collectionsStorable := by
      intro other among
      rcases (mem_putRow Collection.id row _ other).1 among with rfl | ⟨old, _⟩
      next => exact storable
      next => exact lawful.collectionsStorable other old }

theorem upsertCollection_simulates (tables : Tables) (listed : Library.ListedCollection)
    (lawful : tables.Lawful) :
    Simulates Lawful (tables.upsertCollection listed)
      (Library.importCollection tables.library listed) := by
  rw [upsertCollection_eq]
  unfold Library.importCollection requireStorable
  by_cases idStorable : isStorable listed.id = true
  next =>
    by_cases libraryStorable : isStorable listed.libraryId = true
    next =>
      simp only [idStorable, libraryStorable]
      refine ⟨_, rfl, lawful_putCollection tables _ lawful idStorable, ?_⟩
      have sorted := sortBy_putRow Collection.id
        (⟨listed.id, listed.name, listed.libraryId⟩ : Collection) tables.collections
        lawful.collectionIds
      simp only [library, Library.putCollection, sorted]
      rfl
    next => simp [idStorable, libraryStorable, Simulates, bind, Except.bind]
  next => simp [idStorable, Simulates, bind, Except.bind]

end BibEdit.Database.Tables
