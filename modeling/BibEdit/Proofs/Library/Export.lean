import BibEdit.Library.Export
import BibEdit.Proofs.Library.Keys
import BibEdit.Proofs.Library.Load
import BibEdit.Proofs.Toml.Same
import BibEdit.Toml.Printer

set_option autoImplicit false

namespace BibEdit

namespace Library

def Entry.listed (entry : Entry) : ListedRecord where
  key := entry.key
  libraryId := entry.libraryId
  itemType := entry.itemType
  fields := entry.fields
  creators := entry.creators.map fun creator => creator.map Toml.Value.string
  tags := entry.tags
  collections := entry.collections.map Toml.Value.integer

def Collection.listed (collection : Collection) : ListedCollection :=
  ⟨collection.id, collection.name, collection.libraryId⟩

/-- A record as it is listed, its fields in any order. -/
def ListedAs (entry : Entry) (listed : ListedRecord) : Prop :=
  ∃ fields, fields.Perm entry.fields /\ listed = { Entry.listed entry with fields := fields }

def Typed (creator : Creator) : Prop := creator.creatorType ≠ ""

namespace Document

open Toml (Same SameEntries lookup_same same_string same_integer same_array same_table)

theorem part_string (table : Toml.Table) (key value fallback : String)
    (found : table.lookup key = some (.string value)) (given : value = "" -> fallback = "") :
    part table key fallback = .string value := by
  unfold part
  rw [found]
  by_cases blank : value = ""
  next => simp [Toml.Value.isBlank, blank, given blank]
  next => simp [Toml.Value.isBlank, blank]

theorem string_of_same (table : Toml.Table) (key text : String)
    (leads : ∃ other, table.lookup key = some other /\ Same (.string text) other) :
    table.lookup key = some (.string text) := by
  obtain ⟨other, found, same⟩ := leads
  rw [found, same_string text other same]

theorem integer_of_same (table : Toml.Table) (key : String) (number : Int)
    (leads : ∃ other, table.lookup key = some other /\ Same (.integer number) other) :
    table.lookup key = some (.integer number) := by
  obtain ⟨other, found, same⟩ := leads
  rw [found, same_integer number other same]

theorem collection_same (item : Collection) (value : Toml.Value)
    (same : Same (collectionTable item) value) :
    collection value = .ok (Collection.listed item) := by
  obtain ⟨reordered, others, rfl, order, each⟩ := same_table _ _ same
  have leads := lookup_same _ reordered others (by simp) order each
  have id := integer_of_same others "id" item.id (leads "id")
  have name := string_of_same others "name" item.name (leads "name")
  have libraryId := integer_of_same others "library_id" item.libraryId (leads "library_id")
  unfold collection required libraryValue
  simp only [tableOf, Toml.Value.table?_table, ok_bind, id, name, libraryId]
  rfl

theorem creator_same (item : Creator) (typed : Typed item) (value : Toml.Value)
    (same : Same (creatorTable item) value) : creator value = .ok (item.map Toml.Value.string) := by
  obtain ⟨reordered, others, rfl, order, each⟩ := same_table _ _ same
  have leads := lookup_same _ reordered others (by simp) order each
  unfold creator
  show Except.ok _ = _
  rw [part_string others "firstName" item.firstName "" (string_of_same _ _ _ (leads "firstName"))
      fun _ => rfl,
    part_string others "lastName" item.lastName "" (string_of_same _ _ _ (leads "lastName"))
      fun _ => rfl,
    part_string others "fullName" item.fullName "" (string_of_same _ _ _ (leads "fullName"))
      fun _ => rfl,
    part_string others "creatorType" item.creatorType defaultCreatorType
      (string_of_same _ _ _ (leads "creatorType")) fun empty => absurd empty typed]
  rfl

theorem checkAll_forall₂ {α β : Type} (check : Toml.Value -> Checked β)
    (error : Nat -> Refusal -> Error) (R : α -> β -> Prop) (S : α -> Toml.Value -> Prop)
    (items : List α) (values : List Toml.Value) (index : Nat)
    (each : ∀ item ∈ items, ∀ value, S item value -> ∃ result, check value = .ok result /\
      R item result)
    (related : List.Forall₂ S items values) :
    ∃ results, checkAll check error index values = .ok results /\
      List.Forall₂ R items results := by
  induction related generalizing index with
  | nil => exact ⟨[], rfl, .nil⟩
  | @cons item value items values here _ ih =>
    obtain ⟨result, checked, holds⟩ := each item (by simp) value here
    obtain ⟨results, later, rest⟩ :=
      ih (index + 1) fun other member => each other (List.mem_cons_of_mem _ member)
    refine ⟨result :: results, ?_, .cons holds rest⟩
    simp only [checkAll, checked, later]
    rfl

variable {known : Int -> Bool}

def writeField (field : String × String) : String × Toml.Value := (field.1, .string field.2)

theorem fields_of_perm (fields : List (String × String)) (entries : Toml.Table)
    (scalar : ∀ field ∈ fields, Field.isScalarName field.1 = true)
    (order : (fields.map writeField).Perm entries) :
    ∃ reordered, reordered.Perm fields /\ entries.mapM field = .ok reordered := by
  let read (entry : String × Toml.Value) : String × String :=
    (entry.1, entry.2.string?.getD "")
  refine ⟨entries.map read, ?_, ?_⟩
  next =>
    have back : (fields.map writeField).map read = fields := by
      simp [read, writeField, Function.comp_def]
    have moved := (order.map read).symm
    rwa [back] at moved
  next =>
    rw [mapM_eq_ok, List.forall₂_map_right_iff, List.forall₂_same]
    intro entry member
    obtain ⟨original, among, rfl⟩ := List.mem_map.1 (order.mem_iff.2 member)
    simp [read, writeField, field, scalar original among, demand, Toml.Value.string?, Except.map]

theorem sameEntries_texts (entries others : Toml.Table)
    (texts : ∀ entry ∈ entries, ∃ text, entry.2 = .string text) (each : SameEntries entries others) :
    others = entries := by
  induction each with
  | nil => rfl
  | @cons entry other entries others here _ ih =>
    obtain ⟨text, is⟩ := texts entry (by simp)
    have same := here.2
    rw [is] at same
    have equal : other = entry :=
      Prod.ext here.1.symm ((same_string text _ same).trans is.symm)
    rw [equal, ih fun entry member => texts entry (List.mem_cons_of_mem _ member)]

theorem fields_same (table : Toml.Table) (fields : List (String × String))
    (scalar : ∀ field ∈ fields, Field.isScalarName field.1 = true)
    (leads : ∃ other, table.lookup "fields" = some other /\
      Same (.table (fields.map writeField)) other) :
    ∃ reordered, reordered.Perm fields /\ Document.fields table = .ok reordered := by
  obtain ⟨other, found, same⟩ := leads
  obtain ⟨middle, others, rfl, order, each⟩ := same_table _ _ same
  have texts : ∀ entry ∈ middle, ∃ text, entry.2 = Toml.Value.string text := by
    intro entry member
    obtain ⟨field, _, rfl⟩ := List.mem_map.1 (order.mem_iff.2 member)
    exact ⟨field.2, rfl⟩
  have equal := sameEntries_texts middle others texts each
  obtain ⟨reordered, perm, read⟩ := fields_of_perm fields middle scalar order
  refine ⟨reordered, perm, ?_⟩
  unfold Document.fields
  rw [found, equal]
  exact read

theorem texts_same (table : Toml.Table) (key : String) (texts : List String)
    (leads : ∃ other, table.lookup key = some other /\ Same (.array (texts.map .string)) other) :
    itemsAt table key = .ok (texts.map .string) := by
  obtain ⟨other, found, same⟩ := leads
  obtain ⟨others, rfl, each⟩ := same_array _ _ same
  have equal := Toml.same_map Toml.Value.string texts others same_string each
  unfold itemsAt
  rw [found, equal]
  rfl

theorem integers_same (table : Toml.Table) (key : String) (numbers : List Int)
    (leads : ∃ other, table.lookup key = some other /\ Same (.array (numbers.map .integer)) other) :
    itemsAt table key = .ok (numbers.map .integer) := by
  obtain ⟨other, found, same⟩ := leads
  obtain ⟨others, rfl, each⟩ := same_array _ _ same
  have equal := Toml.same_map Toml.Value.integer numbers others same_integer each
  unfold itemsAt
  rw [found, equal]
  rfl

theorem creators_same (table : Toml.Table) (creators : List Creator)
    (typed : ∀ creator ∈ creators, Typed creator)
    (leads : ∃ other, table.lookup "creators" = some other /\
      Same (.array (creators.map creatorTable)) other) :
    ∃ items, itemsAt table "creators" = .ok items /\
      items.mapM creator = .ok (creators.map fun item => item.map Toml.Value.string) := by
  obtain ⟨other, found, same⟩ := leads
  obtain ⟨others, rfl, each⟩ := same_array _ _ same
  refine ⟨others, ?_, ?_⟩
  next =>
    unfold itemsAt
    rw [found]
    rfl
  next =>
    rw [List.forall₂_map_left_iff] at each
    rw [mapM_eq_ok, List.forall₂_map_right_iff]
    clear found same
    induction each with
    | nil => exact .nil
    | @cons item value creators others here _ ih =>
      exact .cons (creator_same item (typed item (by simp)) value here)
        (ih fun other member => typed other (List.mem_cons_of_mem _ member))

theorem string?_mapM (tags : List String) :
    (tags.map Toml.Value.string).mapM Toml.Value.string? = some tags := by
  induction tags with
  | nil => rfl
  | cons tag rest ih => simp [ih]

theorem itemType_of_lookup (table : Toml.Table) (kind : Option String)
    (typeKnown : ∀ name, kind = some name -> name ∈ ItemType.names)
    (found : table.lookup "item_type" = kind.map Toml.Value.string) :
    itemType table = .ok kind := by
  unfold itemType
  cases kind with
  | none => rw [found]; rfl
  | some name =>
    have filtered : (some name).filter ItemType.names.contains = some name := by
      simp [typeKnown name rfl]
    rw [found]
    simp only [Option.map_some, Toml.Value.string?_string, filtered]

theorem recordTable_eq (entry : Entry) (sound : entry.Sound Typed known) :
    recordTable entry.record = .table ([("key", .string entry.key),
      ("library_id", .integer entry.libraryId)] ++
      (entry.itemType.map fun name => ("item_type", Toml.Value.string name)).toList ++
      [("tags", .array (entry.tags.map .string)),
        ("collections", .array (entry.collections.map .integer)),
        ("fields", .table (entry.fields.map writeField)),
        ("creators", .array (entry.creators.map creatorTable))]) := by
  have typeEntry : itemTypeEntry entry.itemType =
      (entry.itemType.map fun name => ("item_type", Toml.Value.string name)).toList := by
    cases kind : entry.itemType with
    | none => rfl
    | some name =>
      have given : name ≠ "" := by
        rintro rfl
        exact absurd (sound.typeKnown "" kind) (by decide)
      simp [itemTypeEntry, given]
  have fields : entry.record.fields.map fieldEntry = entry.fields.map writeField := by
    simp [Entry.record, fieldEntry, writeField, Function.comp_def]
  unfold recordTable
  rw [fields]
  show Toml.Value.table ([("key", .string entry.key), ("library_id", .integer entry.libraryId)] ++
    itemTypeEntry entry.itemType ++ _) = _
  rw [typeEntry]
  rfl

theorem record_same (entry : Entry) (sound : entry.Sound Typed known) (value : Toml.Value)
    (same : Same (recordTable entry.record) value) :
    ∃ listed, record value = .ok listed /\ ListedAs entry listed := by
  rw [recordTable_eq entry sound] at same
  obtain ⟨reordered, others, rfl, order, each⟩ := same_table _ _ same
  have leads := lookup_same _ reordered others
    (by cases entry.itemType <;> simp) order each
  have foundType : others.lookup "item_type" = entry.itemType.map Toml.Value.string := by
    have typed := leads "item_type"
    cases kind : entry.itemType with
    | none =>
      rw [kind] at typed
      exact typed
    | some name =>
      rw [kind] at typed
      exact string_of_same _ _ _ typed
  have leadsTo (key : String) (value : Toml.Value)
      (here : ([("key", Toml.Value.string entry.key),
          ("library_id", Toml.Value.integer entry.libraryId)] ++
        (entry.itemType.map fun name => ("item_type", Toml.Value.string name)).toList ++
        [("tags", Toml.Value.array (entry.tags.map Toml.Value.string)),
          ("collections", Toml.Value.array (entry.collections.map Toml.Value.integer)),
          ("fields", Toml.Value.table (entry.fields.map writeField)),
          ("creators", Toml.Value.array (entry.creators.map creatorTable))]).lookup key =
        some value) :
      ∃ other, others.lookup key = some other /\ Same value other := by
    have found := leads key
    rw [here] at found
    exact found
  have key := string_of_same others "key" entry.key
    (leadsTo _ _ (by cases entry.itemType <;> rfl))
  have libraryId := integer_of_same others "library_id" entry.libraryId
    (leadsTo _ _ (by cases entry.itemType <;> rfl))
  have tags := texts_same others "tags" entry.tags (leadsTo _ _ (by cases entry.itemType <;> rfl))
  have collections := integers_same others "collections" entry.collections
    (leadsTo _ _ (by cases entry.itemType <;> rfl))
  obtain ⟨items, creators, eachCreator⟩ := creators_same others entry.creators sound.creatorsFit
    (leadsTo _ _ (by cases entry.itemType <;> rfl))
  obtain ⟨fields, perm, read⟩ := fields_same others entry.fields sound.fieldsScalar
    (leadsTo _ _ (by cases entry.itemType <;> rfl))
  have kind := itemType_of_lookup others entry.itemType sound.typeKnown foundType
  have integers : ((entry.collections.map Toml.Value.integer).all fun value =>
      value.integer?.isSome) = true := by simp [Toml.Value.integer?]
  have named : (some entry.key).filter (· != "") = some entry.key := by simp [sound.keyGiven]
  refine ⟨{ Entry.listed entry with fields := fields }, ?_, fields, perm, rfl⟩
  unfold record required libraryValue
  simp only [tableOf, Toml.Value.table?_table, ok_bind, key, Toml.Value.string?_string, named,
    demand, libraryId, Option.getD_some, Toml.Value.integer?_integer, kind, read, creators,
    eachCreator, tags, string?_mapM, collections, integers, if_true]
  rfl

theorem listing_same (collections : List Collection) (entries : List Entry)
    (sound : ∀ entry ∈ entries, entry.Sound Typed known) (read : Toml.Table)
    (same : Same (.table [("collections", .array (collections.map collectionTable)),
      ("records", .array ((entries.map Entry.record).map recordTable))]) (.table read)) :
    ∃ records, listing read = .ok ⟨collections.map Collection.listed, records⟩ /\
      List.Forall₂ ListedAs entries records := by
  obtain ⟨reordered, others, equal, order, each⟩ := same_table _ _ same
  cases equal
  have leads := lookup_same _ reordered read (by simp) order each
  obtain ⟨collectionValue, foundCollections, sameCollections⟩ := leads "collections"
  obtain ⟨recordValue, foundRecords, sameRecords⟩ := leads "records"
  obtain ⟨collectionValues, rfl, eachCollection⟩ := same_array _ _ sameCollections
  obtain ⟨recordValues, rfl, eachRecord⟩ := same_array _ _ sameRecords
  rw [List.forall₂_map_left_iff] at eachCollection
  rw [List.map_map, List.forall₂_map_left_iff] at eachRecord
  obtain ⟨listedCollections, checkedCollections, collectionsListed⟩ :=
    checkAll_forall₂ collection Error.collection
      (fun item listed => Collection.listed item = listed)
      (fun item value => Same (collectionTable item) value) collections collectionValues 0
      (fun item _ value same => ⟨_, collection_same item value same, rfl⟩) eachCollection
  obtain ⟨records, checkedRecords, recordsListed⟩ :=
    checkAll_forall₂ record Error.record ListedAs
      (fun entry value => Same (recordTable entry.record) value) entries recordValues 0
      (fun entry member value same => record_same entry (sound entry member) value same)
      eachRecord
  have equal : collections.map Collection.listed = listedCollections := by
    rw [← List.forall₂_eq_eq_eq, List.forall₂_map_left_iff]
    exact collectionsListed
  refine ⟨records, ?_, recordsListed⟩
  unfold listing Document.listed
  simp only [foundCollections, foundRecords, Toml.Value.items?_array, ok_bind,
    checkedCollections, checkedRecords, equal]
  rfl

end Document

def documentOf (collections : List Collection) (entries : List Entry) : Toml.Table :=
  [("collections", .array (collections.map collectionTable)),
    ("records", .array ((entries.map Entry.record).map recordTable))]

theorem document_eq (library : Library) (indexed : library.Indexed) (libraryId : Option Int) :
    library.document libraryId = (requireScope libraryId).map fun _ =>
      documentOf (library.collectionsIn libraryId) (library.entries.filter (inScope libraryId)) := by
  have loaded := load_sublist library indexed (library.entries.filter (inScope libraryId))
    List.filter_sublist
  unfold document list
  cases requireScope libraryId with
  | error fault => rfl
  | ok _ =>
    show (do
      let records <- library.load ((library.entries.filter (inScope libraryId)).map Entry.id)
      return _) = _
    rw [loaded]
    rfl

theorem document_all (library : Library) (indexed : library.Indexed) :
    library.document none = .ok (documentOf library.collections library.entries) := by
  have entries : library.entries.filter (inScope none) = library.entries :=
    List.filter_eq_self.2 fun _ _ => rfl
  have collections : library.collectionsIn none = library.collections :=
    List.filter_eq_self.2 fun _ _ => rfl
  rw [document_eq library indexed, entries, collections]
  rfl

section Writing

variable [Toml.Writer]

theorem readListing_written (path : String) (collections : List Collection) (entries : List Entry)
    (known : Int -> Bool) (sound : ∀ entry ∈ entries, entry.Sound Typed known) (read : Toml.Table)
    (readsBack : Toml.ReadsBack (documentOf collections entries) read) :
    ∃ records,
      readListing path (some (Toml.Writer.write (documentOf collections entries))) =
        .ok ⟨collections.map Collection.listed, records⟩ /\
      List.Forall₂ ListedAs entries records := by
  obtain ⟨records, listing, listed⟩ :=
    Document.listing_same collections entries sound read readsBack.same
  exact ⟨records, (readListing_eq_ok path _ _).2 ⟨read, readsBack.parsed, listing⟩, listed⟩

end Writing

def renumber (first : Int) : List Entry -> List Entry
  | [] => []
  | entry :: rest => { entry with id := first } :: renumber (first + 1) rest

theorem importCollections_eq (collections : List Collection) (library : Library)
    (ascending : Ascending Collection.id (library.collections ++ collections))
    (storable : ∀ collection ∈ collections,
      isStorable collection.id = true /\ isStorable collection.libraryId = true) :
    (collections.map Collection.listed).foldlM importCollection library =
      .ok { library with collections := library.collections ++ collections } := by
  induction collections generalizing library with
  | nil => simp [pure, Except.pure]
  | cons collection rest ih =>
    obtain ⟨idFits, libraryFits⟩ := storable collection (by simp)
    have above : ∀ other ∈ library.collections, other.id < collection.id := fun other member =>
      (List.pairwise_append.1 ascending).2.2 other member collection (by simp)
    have imported : importCollection library (Collection.listed collection) =
        .ok { library with collections := library.collections ++ [collection] } := by
      simp only [importCollection, Collection.listed, requireStorable, idFits, libraryFits,
        putCollection, place_last collection library.collections above]
      rfl
    rw [List.map_cons, List.foldlM_cons, imported]
    refine (ih _ ?_ ?_).trans ?_
    next => simpa using ascending
    next => exact fun other member => storable other (List.mem_cons_of_mem _ member)
    next => simp

theorem unknownAmong_listedAs (library : Library) (entry : Entry) (listed : ListedRecord)
    (lists : ListedAs entry listed)
    (known : ∀ collection ∈ entry.collections, library.hasCollection collection = true) :
    library.unknownAmong listed.collections = none := by
  obtain ⟨fields, _, rfl⟩ := lists
  unfold unknownAmong
  rw [List.find?_eq_none]
  intro value member
  obtain ⟨number, among, rfl⟩ := List.mem_map.1 member
  simp [known number among]

theorem entry_listedAs {fit : Creator -> Prop} {known : Int -> Bool} (entry : Entry)
    (listed : ListedRecord) (lists : ListedAs entry listed) (sound : entry.Sound fit known)
    (id : Int) : listed.entry id = .ok { entry with id := id } := by
  obtain ⟨fields, perm, rfl⟩ := lists
  have creators : (Entry.listed entry).creators.mapM storedCreator = .ok entry.creators :=
    storedCreators entry.creators
  have integers : (entry.collections.map Toml.Value.integer).filterMap Toml.Value.integer? =
      entry.collections := by
    rw [List.filterMap_map]
    exact List.filterMap_some
  unfold ListedRecord.entry
  dsimp only
  rw [creators, ok_bind]
  simp only [Entry.listed, sortFields_of_perm fields entry.fields perm sound.fieldsAscending,
    distinct_of_nodup _ sound.tagsDistinct, integers,
    sortNumbers_of_ascending _ sound.collectionsAscending]
  rfl

theorem importRecord_listed (path : String) (library : Library) (entry : Entry)
    (listed : ListedRecord) (lists : ListedAs entry listed)
    (sound : entry.Sound Typed library.hasCollection)
    (fresh : ∀ other ∈ library.entries, other.key ≠ entry.key)
    (below : ∀ other ∈ library.entries, other.id < library.nextId)
    (storable : isStorable library.nextId = true) :
    importRecord path library listed =
      .ok { library with entries := library.entries ++ [{ entry with id := library.nextId }] } := by
  have known := unknownAmong_listedAs library entry listed lists sound.collectionsKnown
  have made := entry_listedAs entry listed lists sound library.nextId
  obtain ⟨fields, _, rfl⟩ := lists
  have absent : library.entryOfKey? entry.key = none := by
    unfold entryOfKey?
    rw [List.find?_eq_none]
    intro other member
    simpa using fresh other member
  have numbered : library.idFor entry.key = .ok library.nextId := by
    simp [idFor, absent, storable]
  have put : place Entry.id { entry with id := library.nextId } library.entries =
      library.entries ++ [{ entry with id := library.nextId }] := place_last _ _ below
  rw [importRecord_eq_ok]
  refine ⟨known, sound.libraryStorable, library.nextId, _, numbered, made, ?_⟩
  rw [putEntry, put]

theorem importRecords_eq (path : String) (entries : List Entry) (records : List ListedRecord)
    (listed : List.Forall₂ ListedAs entries records) (library : Library)
    (sound : ∀ entry ∈ entries, entry.Sound Typed library.hasCollection)
    (keys : ((library.entries ++ entries).map Entry.key).Nodup)
    (below : ∀ other ∈ library.entries, other.id < library.nextId) (positive : 1 <= library.nextId)
    (room : library.nextId + entries.length <= 9223372036854775808) :
    records.foldlM (importRecord path) library =
      .ok { library with entries := library.entries ++ renumber library.nextId entries } := by
  induction listed generalizing library with
  | nil => simp [pure, Except.pure, renumber]
  | @cons entry record rest records here _ ih =>
    rw [List.length_cons] at room
    have storable : isStorable library.nextId = true := by
      simp only [isStorable, Bool.and_eq_true, decide_eq_true_eq]
      omega
    have fresh : ∀ other ∈ library.entries, other.key ≠ entry.key := by
      intro other member same
      rw [List.map_append, List.nodup_append] at keys
      exact keys.2.2 other.key (List.mem_map_of_mem member) entry.key (by simp) same
    have imported := importRecord_listed path library entry record here (sound entry (by simp))
      fresh below storable
    have next := nextId_append library { entry with id := library.nextId }
    rw [List.foldlM_cons, imported]
    refine (ih _ ?_ ?_ ?_ ?_ ?_).trans ?_
    next => exact fun other member => sound other (List.mem_cons_of_mem _ member)
    next =>
      simp only [List.append_assoc, List.singleton_append, List.map_append, List.map_cons] at keys ⊢
      exact keys
    next =>
      intro other member
      rw [next]
      rcases List.mem_append.1 member with old | new
      next => exact Int.lt_add_one_of_le (Int.le_of_lt (below other old))
      next =>
        rw [List.mem_singleton.1 new]
        exact Int.lt_add_one_of_le (Int.le_refl _)
    next =>
      rw [next]
      dsimp only
      omega
    next =>
      rw [next]
      dsimp only
      omega
    next =>
      rw [next]
      simp [renumber]

theorem length_le_of_ascending (entries : List Entry) (first bound : Int)
    (ascending : Ascending Entry.id entries) (above : ∀ entry ∈ entries, first <= entry.id)
    (below : ∀ entry ∈ entries, entry.id < bound) (within : first <= bound) :
    first + entries.length <= bound := by
  induction entries generalizing first with
  | nil => simpa using within
  | cons entry rest ih =>
    obtain ⟨smaller, later⟩ := List.pairwise_cons.1 ascending
    have here := above entry (by simp)
    have last := below entry (by simp)
    have counted := ih (first + 1) later
      (fun other member => by
        have less : entry.id < other.id := smaller other member
        omega)
      (fun other member => below other (List.mem_cons_of_mem _ member)) (by omega)
    rw [List.length_cons]
    push_cast
    omega

/-- The same record under another number. -/
def SameRecord (old new : Entry) : Prop := new = { old with id := new.id }

theorem sameRecord_renumber (entries : List Entry) (first : Int) :
    List.Forall₂ SameRecord entries (renumber first entries) := by
  induction entries generalizing first with
  | nil => exact .nil
  | cons entry rest ih => exact .cons rfl (ih (first + 1))

theorem documentOf_renumber (collections : List Collection) (entries : List Entry) (first : Int) :
    documentOf collections (renumber first entries) = documentOf collections entries := by
  have tables : ((renumber first entries).map Entry.record).map recordTable =
      (entries.map Entry.record).map recordTable := by
    induction entries generalizing first with
    | nil => rfl
    | cons entry rest ih =>
      simp only [renumber, List.map_cons, ih (first + 1)]
      rfl
  rw [documentOf, tables, documentOf]

/-- What a sound library lists makes an equal one of an empty library: the same collections, and
the same records in the same order under numbers from one on. -/
theorem importListing_exported (library : Library) (sound : library.Sound Typed) (path : String)
    (records : List ListedRecord) (listed : List.Forall₂ ListedAs library.entries records) :
    importListing path {} ⟨library.collections.map Collection.listed, records⟩ =
      .ok { entries := renumber 1 library.entries, collections := library.collections } := by
  have collections := importCollections_eq library.collections {} sound.collectionsAscending
    sound.collectionsStorable
  have bound : ∀ entry ∈ library.entries, entry.id < 9223372036854775808 := by
    intro entry member
    have storable := (sound.entries entry member).idStorable
    simp only [isStorable, Bool.and_eq_true, decide_eq_true_eq] at storable
    exact storable.2
  have room := length_le_of_ascending library.entries 1 9223372036854775808 sound.ascending
    (fun entry member => (sound.entries entry member).idPositive) bound (by decide)
  have imported := importRecords_eq path library.entries records listed
    { collections := library.collections } sound.entries sound.keys (by simp) (Int.le_refl 1) room
  unfold importListing
  dsimp only
  rw [collections]
  exact imported

section Restoring

variable [Toml.Writer]

theorem importFile_written (library : Library) (sound : library.Sound Typed) (path : String)
    (read : Toml.Table)
    (readsBack : Toml.ReadsBack (documentOf library.collections library.entries) read) :
    importFile {} path (some (Toml.Writer.write (documentOf library.collections library.entries))) =
      (.ok library.entries.length,
        { entries := renumber 1 library.entries, collections := library.collections }) := by
  obtain ⟨records, listing, listed⟩ := readListing_written path library.collections
    library.entries library.hasCollection sound.entries read readsBack
  rw [importFile_eq_ok]
  exact ⟨_, listing, listed.length_eq.symm, importListing_exported library sound path records listed⟩

/-- For every library that actions lead to from an empty one: it can be exported, and where the
document is read back with the same values, importing it into an empty library succeeds and gives
the same collections, the same records in the same order, and the same document again. -/
theorem import_exported (workspace : Workspace) (path : String)
    (reachable : Workspace.Reachable (Action.Fits Typed) workspace) :
    ∃ document, workspace.library.document none = .ok document /\
      ∀ read, Toml.ReadsBack document read ->
        ∃ fresh,
          importFile {} path (some (Toml.Writer.write document)) =
            (.ok workspace.library.entries.length, fresh) /\
          fresh.collections = workspace.library.collections /\
          List.Forall₂ SameRecord workspace.library.entries fresh.entries /\
          fresh.document none = .ok document /\
          fresh.exportText none = workspace.library.exportText none := by
  have sound := (sound_of_reachable (fun _ typed => typed) _ (fun _ fits => fits) workspace
    reachable).library
  have exported := document_all workspace.library sound.indexed
  refine ⟨_, exported, fun read readsBack => ?_⟩
  have file := importFile_written workspace.library sound path read readsBack
  have freshSound := sound_importFile (fun _ typed => typed) {} path
    (some (Toml.Writer.write (documentOf workspace.library.collections workspace.library.entries)))
    (sound_empty : Sound Typed {})
  rw [file] at freshSound
  have again := document_all _ freshSound.indexed
  rw [documentOf_renumber] at again
  refine ⟨_, file, rfl, sameRecord_renumber _ 1, again, ?_⟩
  unfold exportText
  rw [again, exported]

end Restoring

def sampleActions : List Action :=
  [.importFile "first.toml" (some ("[[collections]]\nid = 4\nname = 'Desk'\n" ++
      "[[records]]\nkey = 'K'\ncollections = [4, 4]\ntags = ['b', 'a']\n" ++
      "[records.fields]\ntitle = 'Old'\n")),
    .load [1], .setField 0 "title" "New", .setCreators 0 [⟨"Ada", "", "", "editor"⟩], .save 0]

def sampleWorkspace : Workspace := sampleActions.foldl Workspace.perform {}

def sampleRecord : Toml.Table :=
  [("key", .string "K"), ("library_id", .integer 1),
    ("tags", .array [.string "b", .string "a"]), ("collections", .array [.integer 4])]

def sampleFields : Toml.Table := [("fields", .table [("title", .string "New")])]

def sampleCreators : Toml.Table :=
  [("creators", .array [creatorTable ⟨"Ada", "", "", "editor"⟩])]

def sampleDocument (record : Toml.Table) : Toml.Table :=
  [("collections", .array [collectionTable ⟨4, "Desk", 1⟩]),
    ("records", .array [.table record])]

def sampleWritten : Toml.Table := sampleDocument (sampleRecord ++ sampleFields ++ sampleCreators)

def sampleRead : Toml.Table := sampleDocument (sampleRecord ++ sampleCreators ++ sampleFields)

theorem same_sample : Toml.Same (.table sampleWritten) (.table sampleRead) := by
  have record : Toml.Same (.table (sampleRecord ++ sampleFields ++ sampleCreators))
      (.table (sampleRecord ++ sampleCreators ++ sampleFields)) := by
    refine Toml.same_of_perm _ _ ?_
    rw [List.append_assoc, List.append_assoc]
    exact List.perm_append_comm.append_left sampleRecord
  exact .table _ sampleWritten _ (.refl _) rfl
    (.cons (.refl _) (.cons (.array _ _ (.cons record .nil)) .nil))

theorem import_exported_edited :
    Workspace.Reachable (Action.Fits Typed) sampleWorkspace /\
      sampleWorkspace.library.document none = .ok sampleWritten /\
      Toml.ReadsBack sampleWritten sampleRead /\
      ∃ fresh,
        importFile {} "again.toml" (some (Toml.Writer.write sampleWritten)) = (.ok 1, fresh) /\
        fresh.collections = [⟨4, "Desk", 1⟩] /\
        fresh.document none = .ok sampleWritten := by
  have reachable : Workspace.Reachable (Action.Fits Typed) sampleWorkspace :=
    reachable_foldl (Action.Fits Typed) sampleActions {} .start
      (by simp [sampleActions, Action.Fits, Typed])
  have facts : (sampleWorkspace.library.document none).toOption = some sampleWritten /\
      sampleWorkspace.library.entries.length = 1 /\
      sampleWorkspace.library.collections = [⟨4, "Desk", 1⟩] := by
    decide +kernel
  obtain ⟨document, count, listed⟩ := facts
  have exported := eq_ok_of_toOption document
  have readsBack : Toml.ReadsBack sampleWritten sampleRead :=
    ⟨eq_ok_of_toOption (by decide +kernel), same_sample⟩
  obtain ⟨_, isDocument, imports⟩ := import_exported sampleWorkspace "again.toml" reachable
  cases exported.symm.trans isDocument
  obtain ⟨fresh, imported, collections, _, again, _⟩ := imports _ readsBack
  rw [count] at imported
  exact ⟨reachable, exported, readsBack, fresh, imported, collections.trans listed,
    again⟩

end Library

end BibEdit
