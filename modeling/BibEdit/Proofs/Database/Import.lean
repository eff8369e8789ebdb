import BibEdit.Database.Import
import BibEdit.Proofs.Database.Parts
import BibEdit.Proofs.Database.Session

set_option autoImplicit false

namespace BibEdit.Database

open Library (ImportError ListedRecord Listing)

namespace Tables

def idFor (tables : Tables) (key : String) : Except Fault Int :=
  match tables.recordOfKey? key with
  | some row => .ok row.id
  | none => tables.newId

theorem library_idFor (tables : Tables) (lawful : tables.Lawful) (key : String) :
    tables.library.idFor key = tables.idFor key := by
  unfold Library.idFor idFor newId
  rw [library_entryOfKey? lawful, library_nextId lawful]
  cases tables.recordOfKey? key <;> rfl

theorem lt_newId (tables : Tables) (id : Int) (given : tables.newId = .ok id) :
    ∀ row ∈ tables.records, row.id < id := by
  intro row member
  have among : row.id ∈ tables.records.map RecordRow.id := List.mem_map_of_mem member
  unfold newId at given
  cases greatest : (tables.records.map RecordRow.id).max? with
  | none =>
    rw [List.max?_eq_none_iff] at greatest
    rw [greatest] at among
    cases among
  | some most =>
    rw [greatest] at given
    have bound := (List.max?_eq_some_iff.1 greatest).2 row.id among
    dsimp only at given
    split at given
    next =>
      have nextGiven : most + 1 = id := Except.ok.inj given
      omega
    next => cases given

theorem newId_fresh (tables : Tables) (id : Int) (given : tables.newId = .ok id) :
    id ∉ tables.records.map RecordRow.id := by
  intro member
  obtain ⟨row, among, same⟩ := List.mem_map.1 member
  exact absurd same (Int.ne_of_lt (lt_newId tables id given row among))

theorem key_of_idFor (tables : Tables) (lawful : tables.Lawful) (key : String) (id : Int)
    (given : tables.idFor key = .ok id) (row : RecordRow) (member : row ∈ tables.records) :
    row.id = id <-> row.key = key := by
  unfold idFor at given
  cases found : tables.recordOfKey? key with
  | none =>
    rw [found] at given
    have other := (recordOfKey?_eq_none tables key).1 found row member
    refine ⟨fun same => ?_, fun same => absurd same other⟩
    exact absurd (same ▸ List.mem_map_of_mem member) (newId_fresh tables id given)
  | some old =>
    rw [found] at given
    cases given
    obtain ⟨among, named⟩ := recordOfKey?_eq_some tables key old found
    constructor
    next =>
      intro same
      rw [row_eq_of_id lawful row old member among same, named]
    next =>
      intro same
      rw [row_eq_of_key lawful row old member among (same.trans named.symm)]

def putRecord (tables : Tables) (row : RecordRow) : Tables :=
  { tables with records := putRow RecordRow.id row tables.records }

theorem upsertRecord_eq (tables : Tables) (lawful : tables.Lawful) (key : String) (libraryId : Int)
    (itemType : Option String) :
    tables.upsertRecord key libraryId itemType = (do
      requireStorable libraryId
      let id <- tables.idFor key
      return tables.putRecord ⟨id, key, libraryId, itemType⟩) := by
  unfold upsertRecord
  congr 1
  funext _
  cases found : tables.recordOfKey? key with
  | some old =>
    obtain ⟨among, named⟩ := recordOfKey?_eq_some tables key old found
    have given : tables.idFor key = .ok old.id := by simp only [idFor, found]
    have there : old.id ∈ tables.records.map RecordRow.id := List.mem_map_of_mem among
    rw [given, ok_bind, if_pos (by simp), putRecord, putRow, if_pos there]
    have sameRows : (tables.records.map fun row =>
          if row.key == key then { row with libraryId := libraryId, itemType := itemType } else row) =
        tables.records.map fun row =>
          if row.id = old.id then ⟨old.id, key, libraryId, itemType⟩ else row := by
      refine List.map_congr_left fun row member => ?_
      have matched := key_of_idFor tables lawful key old.id given row member
      by_cases same : row.key = key
      next => simp [same, matched.2 same]
      next => simp [same, mt matched.1 same]
    rw [sameRows]
  | none =>
    have given : tables.idFor key = tables.newId := by simp only [idFor, found]
    rw [given, if_neg (by simp)]
    cases fresh : tables.newId with
    | error fault => rfl
    | ok id => rw [ok_bind, ok_bind, putRecord, putRow, if_neg (newId_fresh tables id fresh)]

theorem hasRecord_putRecord (tables : Tables) (row : RecordRow) (id : Int)
    (there : tables.hasRecord id = true) : (tables.putRecord row).hasRecord id = true := by
  rw [hasRecord_iff] at there ⊢
  show id ∈ (putRow RecordRow.id row tables.records).map RecordRow.id
  rw [map_rank_putRow]
  split
  next => exact there
  next => exact List.mem_append_left _ there

theorem hasRecord_putRecord_self (tables : Tables) (row : RecordRow) :
    (tables.putRecord row).hasRecord row.id = true :=
  (hasRecord_iff _ _).2 (List.mem_map_of_mem ((mem_putRow RecordRow.id row _ row).2 (.inl rfl)))

theorem lawful_putRecord (tables : Tables) (lawful : tables.Lawful) (row : RecordRow)
    (own : ∀ other ∈ tables.records, other.id = row.id <-> other.key = row.key) :
    (tables.putRecord row).Lawful :=
  { lawful with
    recordIds := nodup_putRow RecordRow.id row _ lawful.recordIds
    recordKeys := by
      have ids := nodup_putRow RecordRow.id row _ lawful.recordIds
      refine List.Nodup.map_on ?_ (List.Nodup.of_map _ ids)
      intro first member second other same
      rcases (mem_putRow RecordRow.id row _ first).1 member with rfl | ⟨old, apart⟩
      next =>
        rcases (mem_putRow RecordRow.id _ _ second).1 other with rfl | ⟨old, apart⟩
        next => rfl
        next => exact absurd ((own second old).2 same.symm) apart
      next =>
        rcases (mem_putRow RecordRow.id row _ second).1 other with rfl | ⟨old', apart'⟩
        next => exact absurd ((own first old).2 same) apart
        next => exact row_eq_of_key lawful first second old old' same
    fieldRecords := fun other member => hasRecord_putRecord _ _ _ (lawful.fieldRecords other member)
    creatorRecords := fun other member =>
      hasRecord_putRecord _ _ _ (lawful.creatorRecords other member)
    tagRecords := fun other member => hasRecord_putRecord _ _ _ (lawful.tagRecords other member)
    membershipRecords := fun other member =>
      hasRecord_putRecord _ _ _ (lawful.membershipRecords other member) }

theorem library_putRecord_withParts (tables : Tables) (lawful : tables.Lawful) (row : RecordRow)
    (own : ∀ other ∈ tables.records, other.id = row.id <-> other.key = row.key)
    (fields : List (String × String)) (creators : List Creator) (tags : List String)
    (collections : List Int) (sorted : Ascending Prod.fst fields)
    (good : ((tables.putRecord row).withParts row.id fields creators tags collections).Lawful) :
    ((tables.putRecord row).withParts row.id fields creators tags collections).library =
      tables.library.putEntry {
        id := row.id, key := row.key, libraryId := row.libraryId, itemType := row.itemType
        fields := fields, creators := creators, tags := distinct tags
        collections := sortNumbers collections } := by
  have entries : ((tables.putRecord row).withParts row.id fields creators tags
      collections).library.entries = place Entry.id {
        id := row.id, key := row.key, libraryId := row.libraryId, itemType := row.itemType
        fields := fields, creators := creators, tags := distinct tags
        collections := sortNumbers collections } tables.library.entries := by
    refine Ascending.ext _ _ (ascending_entries _)
      (ascending_place _ _ (ascending_entries tables)) fun entry => ?_
    rw [mem_entries good, mem_place _ _ _ (ascending_entries tables), mem_entries lawful]
    have self := entryOf_withParts_self (tables.putRecord row) row.id fields creators tags
      collections row rfl sorted
    have others (other : RecordRow) (apart : other.id ≠ row.id) :=
      entryOf_withParts_of_ne (tables.putRecord row) row.id fields creators tags collections other
        apart
    constructor
    next =>
      rintro ⟨other, member, rfl⟩
      rcases (mem_putRow RecordRow.id row _ other).1 member with rfl | ⟨old, apart⟩
      next => exact .inl self
      next =>
        rw [others other apart]
        exact .inr ⟨⟨other, old, rfl⟩, apart⟩
    next =>
      rintro (rfl | ⟨⟨other, old, rfl⟩, apart⟩)
      next => exact ⟨row, (mem_putRow RecordRow.id row _ row).2 (.inl rfl), self⟩
      next => exact ⟨other, (mem_putRow RecordRow.id row _ other).2 (.inr ⟨old, apart⟩),
        others other apart⟩
  unfold Library.putEntry
  rw [← entries]
  rfl

def importRecord (path : String) (known : List Int) (tables : Tables) (listed : ListedRecord) :
    Except ImportError Tables :=
  match listed.collections.find? fun value => !value.integer?.any known.contains with
  | some collection => .error (Library.unknownError path listed.key collection)
  | none => do
    let tables <-
      (tables.upsertRecord listed.key listed.libraryId listed.itemType).mapError .fault
    let id <- recordId listed.key tables
    (tables.writeParts id listed).mapError .fault

theorem recordId_putRecord (tables : Tables) (row : RecordRow)
    (own : ∀ other ∈ tables.records, other.id = row.id <-> other.key = row.key) :
    recordId row.key (tables.putRecord row) = .ok row.id := by
  unfold recordId
  cases found : (tables.putRecord row).recordOfKey? row.key with
  | none =>
    have member : row ∈ (tables.putRecord row).records :=
      (mem_putRow RecordRow.id row _ row).2 (.inl rfl)
    exact absurd rfl ((recordOfKey?_eq_none _ _).1 found row member)
  | some other =>
    obtain ⟨member, same⟩ := recordOfKey?_eq_some _ _ other found
    rcases (mem_putRow RecordRow.id row _ other).1 member with rfl | ⟨old, apart⟩
    next => rfl
    next => exact absurd ((own other old).2 same) apart

def Ready (known : List Int) (tables : Tables) : Prop :=
  tables.Lawful /\ tables.collections.map Collection.id = known

theorem contains_known (known : List Int) (tables : Tables) (ready : Ready known tables)
    (number : Int) : known.contains number = tables.hasCollection number := by
  rw [Bool.eq_iff_iff, List.contains_iff_mem, hasCollection_iff, ready.2]

theorem collections_there (known : List Int) (tables : Tables) (ready : Ready known tables)
    (values : List Toml.Value)
    (found : (values.find? fun value => !value.integer?.any known.contains) = none) :
    ∀ collection ∈ values.filterMap Toml.Value.integer?,
      tables.hasCollection collection = true /\ isStorable collection = true := by
  intro collection member
  obtain ⟨value, among, number⟩ := List.mem_filterMap.1 member
  have contained := List.find?_eq_none.1 found value among
  rw [number] at contained
  have there : tables.hasCollection collection = true := by
    rw [← contains_known known tables ready]
    simpa using contained
  obtain ⟨row, listed, rfl⟩ := List.mem_map.1 ((hasCollection_iff tables collection).1 there)
  exact ⟨there, ready.1.collectionsStorable row listed⟩

theorem importRecord_eq (path : String) (known : List Int) (tables : Tables)
    (listed : ListedRecord) (ready : Ready known tables) :
    tables.importRecord path known listed =
      match listed.collections.find? fun value => !value.integer?.any known.contains with
      | some collection => .error (Library.unknownError path listed.key collection)
      | none => Except.mapError .fault do
        requireStorable listed.libraryId
        let id <- tables.idFor listed.key
        let creators <- listed.creators.mapM Library.storedCreator
        return (tables.putRecord ⟨id, listed.key, listed.libraryId, listed.itemType⟩).withParts id
          (sortFields listed.fields) creators listed.tags
          (listed.collections.filterMap Toml.Value.integer?) := by
  unfold importRecord
  cases missing : listed.collections.find? fun value => !value.integer?.any known.contains with
  | some collection => rfl
  | none =>
    have collections := collections_there known tables ready listed.collections missing
    dsimp only
    rw [upsertRecord_eq tables ready.1]
    cases requireStorable listed.libraryId with
    | error fault => rfl
    | ok _ =>
      cases given : tables.idFor listed.key with
      | error fault => rfl
      | ok id =>
        have own := key_of_idFor tables ready.1 listed.key id given
        have numbered := recordId_putRecord tables ⟨id, listed.key, listed.libraryId,
          listed.itemType⟩ own
        have written := writeParts_eq id listed
          (tables.putRecord ⟨id, listed.key, listed.libraryId, listed.itemType⟩)
          (hasRecord_putRecord_self tables ⟨id, listed.key, listed.libraryId, listed.itemType⟩)
          (fun collection member => (collections collection member).1)
          fun collection member => (collections collection member).2
        rw [ok_bind, ok_bind, ok_bind, ok_bind]
        show (do
          let id <- recordId listed.key _
          (writeParts id listed _).mapError ImportError.fault) = _
        rw [numbered, ok_bind, written]
        cases listed.creators.mapM Library.storedCreator <;> rfl

theorem importRecord_simulates (path : String) (known : List Int) (tables : Tables)
    (listed : ListedRecord) (ready : Ready known tables) :
    Simulates (Ready known) (tables.importRecord path known listed)
      (Library.importRecord path tables.library listed) := by
  have lawful := ready.1
  have unknown : tables.library.unknownAmong listed.collections =
      listed.collections.find? fun value => !value.integer?.any known.contains := by
    unfold Library.unknownAmong
    congr 1
    funext value
    congr 2
    funext number
    rw [contains_known known tables ready, library_hasCollection lawful]
  rw [importRecord_eq path known tables listed ready]
  unfold Library.importRecord Library.entryFor
  rw [unknown, library_idFor tables lawful]
  cases missing : listed.collections.find? fun value => !value.integer?.any known.contains with
  | some collection => rfl
  | none =>
    dsimp only
    cases requireStorable listed.libraryId with
    | error fault => rfl
    | ok _ =>
      cases given : tables.idFor listed.key with
      | error fault => rfl
      | ok id =>
        rw [ok_bind, ok_bind, ok_bind, ok_bind]
        cases listed.creators.mapM Library.storedCreator with
        | error fault => rfl
        | ok creators =>
          have own := key_of_idFor tables lawful listed.key id given
          have collections := collections_there known tables ready listed.collections missing
          have good := lawful_withParts (tables.putRecord ⟨id, listed.key, listed.libraryId,
            listed.itemType⟩) id (sortFields listed.fields) creators listed.tags
            (listed.collections.filterMap Toml.Value.integer?)
            (lawful_putRecord tables lawful _ own) (hasRecord_putRecord_self tables _)
            (fun collection member => (collections collection member).1)
            ((ascending_sortFields listed.fields).nodup_ranks _)
          exact ⟨_, rfl, ⟨good, ready.2⟩, library_putRecord_withParts tables lawful _ own _ _ _ _
            (ascending_sortFields listed.fields) good⟩

end Tables

def Does (work : Session ImportError Unit) (statement : Tables -> Except Fault Tables) : Prop :=
  work.Follows fun tables =>
    ((statement tables).mapError ImportError.fault).map fun after => ((), after)

theorem execute_does (statement : Tables -> Except Fault Tables) :
    Does (execute statement) statement :=
  Session.follows_execute ImportError.fault statement

theorem does_then (first second : Session ImportError Unit)
    (statement next : Tables -> Except Fault Tables) (doesFirst : Does first statement)
    (doesSecond : Does second next) :
    Does (first >>= fun _ => second) fun tables => statement tables >>= next := by
  have both := Session.follows_bind first (fun _ => second) _ _ doesFirst fun _ => doesSecond
  refine both.congr fun tables => ?_
  dsimp only
  cases statement tables <;> rfl

theorem forM_does {β : Type} (items : List β) (statement : β -> Tables -> Except Fault Tables) :
    Does (items.forM fun item => execute (statement item)) fun tables =>
      items.foldlM (fun tables item => statement item tables) tables := by
  have each := Session.follows_forM items (fun item => execute (statement item))
    (fun tables item => (statement item tables).mapError ImportError.fault)
    fun item _ => execute_does (statement item)
  refine each.congr fun tables => ?_
  rw [foldlM_mapError]

theorem importRecord_follows (path : String) (known : List Int) (listed : ListedRecord) :
    (importRecord path known listed).Follows fun tables =>
      (tables.importRecord path known listed).map fun after => ((), after) := by
  unfold importRecord Tables.importRecord
  cases listed.collections.find? fun value => !value.integer?.any known.contains with
  | some collection => exact Session.follows_throw _
  | none =>
    have parts (id : Int) := does_then _ _ _ _
      (execute_does fun tables => .ok (tables.deleteFields id))
      (does_then _ _ _ _ (execute_does fun tables => .ok (tables.deleteCreators id))
      (does_then _ _ _ _ (execute_does fun tables => .ok (tables.deleteTags id))
      (does_then _ _ _ _ (execute_does fun tables => .ok (tables.deleteMemberships id))
      (does_then _ _ _ _ (forM_does (sortFields listed.fields) fun field =>
        Tables.insertField ⟨id, field.1, field.2⟩)
      (does_then _ _ _ _ (forM_does (listed.creators.zipIdx 1) fun placed =>
        Tables.insertCreator id placed.1 placed.2)
      (does_then _ _ _ _ (forM_does (listed.tags.zipIdx 1) fun placed =>
        Tables.insertTag ⟨id, placed.1, placed.2⟩)
      (forM_does (listed.collections.filterMap Toml.Value.integer?) fun collection =>
        Tables.insertMembership ⟨id, collection⟩)))))))
    have whole := Session.follows_bind _ _ _ _
      (execute_does (Tables.upsertRecord listed.key listed.libraryId listed.itemType))
      fun _ => Session.follows_bind _ _ _ _ (Session.follows_query (recordId listed.key)) parts
    refine Session.Follows.congr whole fun tables => ?_
    dsimp only
    cases Tables.upsertRecord listed.key listed.libraryId listed.itemType tables with
    | error fault => rfl
    | ok after =>
      simp only [Except.mapError, Except.map, Except.bind, ok_bind]
      cases recordId listed.key after with
      | error error => rfl
      | ok id => rfl

def importTables (path : String) (listing : Listing) (tables : Tables) :
    Except ImportError Tables := do
  let tables <- (listing.collections.foldlM
    (fun tables listed => Tables.upsertCollection listed tables) tables).mapError ImportError.fault
  listing.records.foldlM (Tables.importRecord path (tables.collections.map Collection.id)) tables

theorem importRows_follows (path : String) (listing : Listing) :
    (importRows path listing).Follows fun tables =>
      (importTables path listing tables).map fun after => (listing.records.length, after) := by
  have whole := Session.follows_bind _ _ _ _
    (forM_does listing.collections Tables.upsertCollection)
    fun _ => Session.follows_bind _ _ _ _
      (Session.follows_query fun tables : Tables => .ok (tables.collections.map Collection.id))
      fun known => Session.follows_bind _ _ _ _
        (Session.follows_forM listing.records (importRecord path known)
          (Tables.importRecord path known)
          fun listed _ => importRecord_follows path known listed)
        fun _ => Session.follows_pure listing.records.length
  refine Session.Follows.congr whole fun tables => ?_
  unfold importTables
  dsimp only
  cases listing.collections.foldlM
    (fun tables listed => Tables.upsertCollection listed tables) tables with
  | error fault => rfl
  | ok after =>
    simp only [Except.mapError, Except.map, Except.bind, ok_bind]
    cases listing.records.foldlM
      (Tables.importRecord path (after.collections.map Collection.id)) after <;> rfl

theorem importTables_simulates (path : String) (listing : Listing) (tables : Tables)
    (lawful : tables.Lawful) :
    Tables.Simulates Tables.Lawful (importTables path listing tables)
      (Library.importListing path tables.library listing) := by
  have collections := Tables.simulates_foldlM Tables.Lawful
    (fun tables listed => Tables.upsertCollection listed tables) Library.importCollection
    (fun tables listed good =>
      Tables.upsertCollection_simulates tables listed good)
    listing.collections tables lawful
  unfold importTables Library.importListing
  cases outcome : listing.collections.foldlM Library.importCollection tables.library with
  | error fault =>
    rw [outcome, Tables.simulates_error] at collections
    rw [collections]
    rfl
  | ok library =>
    rw [outcome, Tables.simulates_ok] at collections
    obtain ⟨after, done, good, rfl⟩ := collections
    rw [done]
    have records := Tables.simulates_foldlM
      (Tables.Ready (after.collections.map Collection.id))
      (Tables.importRecord path (after.collections.map Collection.id)) (Library.importRecord path)
      (fun tables listed ready => Tables.importRecord_simulates path _ tables listed ready)
      listing.records after ⟨good, rfl⟩
    show Tables.Simulates Tables.Lawful (listing.records.foldlM _ after)
      (listing.records.foldlM _ after.library)
    cases spec : listing.records.foldlM (Library.importRecord path) after.library with
    | error error =>
      rw [spec] at records
      exact records
    | ok library =>
      rw [spec, Tables.simulates_ok] at records
      obtain ⟨last, steps, ready, same⟩ := records
      exact ⟨last, steps, ready.1, same⟩

theorem runOn_importFile (path : String) (content : Option String) (tables : Tables) :
    (importFile path content).runOn ⟨tables, none⟩ =
      match Library.readListing path content with
      | .error error => (.error error, ⟨tables, none⟩)
      | .ok listing =>
        match importTables path listing tables with
        | .error error => (.error error, ⟨tables, none⟩)
        | .ok after => (.ok listing.records.length, ⟨after, none⟩) := by
  unfold importFile
  cases Library.readListing path content with
  | error error => rfl
  | ok listing =>
    refine (Session.runOn_transaction_of_follows _ _ (importRows_follows path listing) tables).trans ?_
    dsimp only
    cases importTables path listing tables <;> rfl

/-- An import goes for the tables as it goes for the library that is read from them. -/
theorem runOn_importFile_library (path : String) (content : Option String) (tables : Tables)
    (lawful : tables.Lawful) :
    ∃ after, (importFile path content).runOn ⟨tables, none⟩ =
        ((tables.library.importFile path content).1, ⟨after, none⟩) /\
      after.Lawful /\ after.library = (tables.library.importFile path content).2 := by
  rw [runOn_importFile]
  unfold Library.importFile
  cases Library.readListing path content with
  | error error => exact ⟨tables, rfl, lawful, rfl⟩
  | ok listing =>
    have simulates := importTables_simulates path listing tables lawful
    dsimp only
    cases spec : Library.importListing path tables.library listing with
    | error error =>
      rw [spec, Tables.simulates_error] at simulates
      rw [simulates]
      exact ⟨tables, rfl, lawful, rfl⟩
    | ok library =>
      rw [spec, Tables.simulates_ok] at simulates
      obtain ⟨after, done, good, same⟩ := simulates
      rw [done]
      exact ⟨after, rfl, good, same⟩

/-- An import that fails, wherever it does, leaves every row of every table as it was, and no
transaction open; one that succeeds has stored all of what the library then has. -/
theorem importFile_atomic (path : String) (content : Option String) (tables : Tables) :
    (∀ error connection,
      (importFile path content).runOn ⟨tables, none⟩ = (.error error, connection) ->
        connection = ⟨tables, none⟩) /\
    (tables.Lawful ->
      ∃ after, (importFile path content).runOn ⟨tables, none⟩ =
          ((tables.library.importFile path content).1, ⟨after, none⟩) /\
        after.Lawful /\ after.library = (tables.library.importFile path content).2) := by
  constructor
  next =>
    intro error connection ran
    rw [runOn_importFile] at ran
    split at ran
    next => cases ran; rfl
    next =>
      split at ran
      next => cases ran; rfl
      next => cases ran
  next => exact runOn_importFile_library path content tables

def sampleTables : Tables where
  records := [⟨1, "A", 1, some "book"⟩]
  fields := [⟨1, "title", "Old"⟩]
  collections := [⟨1, "Shelf", 1⟩]
  memberships := [⟨1, 1⟩]

def sampleFile : String :=
  "[[collections]]\nid = 2\nname = 'Desk'\n[[records]]\nkey = 'A'\ncollections = [2]\n" ++
    "[[records]]\nkey = 'B'\ncollections = [9]\n"

theorem importFile_atomic_unknown_collection :
    ∃ error, error.message = "Record B in records.toml belongs to unknown collection 9" /\
      (importFile "records.toml" (some sampleFile)).runOn ⟨sampleTables, none⟩ =
        (.error error, ⟨sampleTables, none⟩) /\
      (sampleTables.library.importFile "records.toml" (some sampleFile)).1 = .error error := by
  have lawful : sampleTables.Lawful := by constructor <;> decide
  obtain ⟨failed, stored⟩ := importFile_atomic "records.toml" (some sampleFile) sampleTables
  obtain ⟨after, ran, _, _⟩ := stored lawful
  obtain ⟨error, fails, message⟩ := exists_error_of_message ImportError.message
    ((importFile "records.toml" (some sampleFile)).runOn ⟨sampleTables, none⟩).1
    "Record B in records.toml belongs to unknown collection 9" (by decide +kernel)
  generalize (importFile "records.toml" (some sampleFile)).runOn ⟨sampleTables, none⟩ = run at *
  obtain ⟨result, connection⟩ := run
  obtain ⟨sameResult, _⟩ := Prod.mk.inj ran
  have isError : result = .error error := fails
  subst isError
  have unchanged := failed error connection rfl
  exact ⟨error, message, by rw [unchanged], sameResult.symm⟩

-- By then the collection and the first record were there, without what they had before.
example : ((importFile "records.toml" (some (sampleFile.dropEnd 40).copy)).onTables sampleTables).2 =
    { sampleTables with
      records := [⟨1, "A", 1, none⟩], fields := [], memberships := [⟨1, 2⟩]
      collections := [⟨1, "Shelf", 1⟩, ⟨2, "Desk", 1⟩] } := by
  decide +kernel

end BibEdit.Database
