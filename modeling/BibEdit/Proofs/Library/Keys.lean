import BibEdit.Proofs.Library.Reachable
import BibEdit.Proofs.Lookup

set_option autoImplicit false

/-! What an import makes of each key and of each number of a collection: the last that is listed
counts, and what is not listed stays. -/

namespace BibEdit

theorem lookup_putField (name value other : String) (fields : List (String × String)) :
    (putField name value fields).lookup other =
      if other = name then some value else fields.lookup other := by
  have lookupCons (field : String × String) (rest : List (String × String)) :
      (field :: rest).lookup other = if other = field.1 then some field.2 else rest.lookup other := by
    by_cases same : other = field.1
    next => rw [List.lookup_cons, beq_iff_eq.2 same, if_pos same]
    next => rw [List.lookup_cons, beq_eq_false_iff_ne.2 same, if_neg same]
  unfold putField
  induction fields with
  | nil => rw [place, lookupCons]
  | cons field rest ih =>
    unfold place
    split
    next same =>
      have head : name = field.1 := same
      rw [lookupCons, lookupCons, ← head]
      split <;> rfl
    next differs =>
      have apart : ¬ name = field.1 := differs
      split
      next => rw [lookupCons]
      next =>
        rw [lookupCons, lookupCons, ih]
        by_cases own : other = name
        next => rw [if_pos own, if_pos own, if_neg fun same => apart (own.symm.trans same)]
        next => rw [if_neg own, if_neg own]

theorem lookup_sortFields (fields : List (String × String)) (name : String) :
    (sortFields fields).lookup name = fields.reverse.lookup name := by
  -- The fields sorted so far are asked last, after all that are still to come.
  have folded (start : List (String × String)) :
      (fields.foldl (fun sorted field => putField field.1 field.2 sorted) start).lookup name =
        (fields.reverse.lookup name).or (start.lookup name) := by
    induction fields generalizing start with
    | nil => simp
    | cons field rest ih =>
      rw [List.foldl_cons, ih, lookup_putField, List.reverse_cons, List.lookup_append,
        Option.or_assoc]
      by_cases same : name = field.1
      next => rw [if_pos same, List.lookup_cons, beq_iff_eq.2 same, Option.some_or]
      next =>
        rw [if_neg same, List.lookup_cons, beq_eq_false_iff_ne.2 same, List.lookup_nil,
          Option.none_or]
  rw [sortFields, folded, List.lookup_nil, Option.or_none]

namespace Library

theorem entryOfKey?_iff (library : Library) (keyed : library.Keyed) (entry : Entry) :
    library.entryOfKey? entry.key = some entry <-> entry ∈ library.entries := by
  constructor
  next => exact fun found => (entryOfKey?_eq_some library entry.key entry found).1
  next =>
    intro member
    cases found : library.entryOfKey? entry.key with
    | none => exact absurd (by simp) (List.find?_eq_none.1 found entry member)
    | some other =>
      obtain ⟨among, same⟩ := entryOfKey?_eq_some library entry.key other found
      rw [List.inj_on_of_nodup_map keyed.keys among member same]

theorem entries_eq_of_keys (first second : Library) (keyed : first.Keyed)
    (keyedSecond : second.Keyed)
    (same : ∀ key, first.entryOfKey? key = second.entryOfKey? key) :
    first.entries = second.entries := by
  refine Ascending.ext _ _ keyed.ascending keyedSecond.ascending fun entry => ?_
  rw [← entryOfKey?_iff first keyed, ← entryOfKey?_iff second keyedSecond, same]

theorem entryOfKey?_putEntry (library : Library) (entry : Entry)
    (own : ∀ other ∈ library.entries, other.key = entry.key <-> other.id = entry.id)
    (key : String) :
    (library.putEntry entry).entryOfKey? key =
      if key = entry.key then some entry else library.entryOfKey? key := by
  unfold entryOfKey? putEntry
  split
  next same =>
    -- A record is placed by its number and found by its key: `own` says that both mean the same.
    refine find?_place_self _ entry _ (by simp [same]) fun other member passed => ?_
    exact (own other member).1 (by simpa [same] using passed)
  next differs =>
    have apart : ¬ entry.key = key := fun same => differs same.symm
    refine find?_place_of_not _ entry _ (by simpa using apart) fun other member same => ?_
    have named : other.key = entry.key := (own other member).2 same
    simpa [named] using apart

def collection? (library : Library) (id : Int) : Option Collection :=
  library.collections.find? fun collection => collection.id == id

theorem collection?_iff (library : Library) (keyed : library.Keyed) (collection : Collection) :
    library.collection? collection.id = some collection <-> collection ∈ library.collections := by
  constructor
  next => exact List.mem_of_find?_eq_some
  next =>
    intro member
    cases found : library.collection? collection.id with
    | none => exact absurd (by simp) (List.find?_eq_none.1 found collection member)
    | some other =>
      have same : other.id = collection.id := by simpa using List.find?_some found
      rw [keyed.collectionsAscending.eq_of_rank _ other collection
        (List.mem_of_find?_eq_some found) member same]

theorem collections_eq_of_ids (first second : Library) (keyed : first.Keyed)
    (keyedSecond : second.Keyed) (same : ∀ id, first.collection? id = second.collection? id) :
    first.collections = second.collections := by
  refine Ascending.ext _ _ keyed.collectionsAscending keyedSecond.collectionsAscending
    fun collection => ?_
  rw [← collection?_iff first keyed, ← collection?_iff second keyedSecond, same]

theorem collection?_putCollection (library : Library) (collection : Collection) (id : Int) :
    (library.putCollection collection).collection? id =
      if id = collection.id then some collection else library.collection? id := by
  unfold collection? putCollection
  split
  next same =>
    refine find?_place_self _ collection _ (by simp [same]) fun other _ passed => ?_
    simpa [same] using passed
  next differs =>
    have apart : ¬ collection.id = id := fun same => differs same.symm
    refine find?_place_of_not _ collection _ (by simpa using apart) fun other _ same => ?_
    simpa [same] using apart

def lastCollection? (listed : List ListedCollection) (id : Int) : Option ListedCollection :=
  listed.reverse.find? fun collection => collection.id == id

theorem lastCollection?_id (listed : List ListedCollection) (id : Int) (last : ListedCollection)
    (found : lastCollection? listed id = some last) : last.id = id := by
  simpa using List.find?_some found

theorem lastCollection?_eq_none (listed : List ListedCollection) (id : Int)
    (absent : ∀ collection ∈ listed, collection.id ≠ id) : lastCollection? listed id = none := by
  simpa [lastCollection?] using absent

theorem importCollection_eq_ok (library after : Library) (listed : ListedCollection) :
    importCollection library listed = .ok after <->
      (isStorable listed.id = true /\ isStorable listed.libraryId = true) /\
        after = library.putCollection ⟨listed.id, listed.name, listed.libraryId⟩ := by
  unfold importCollection requireStorable
  by_cases idFits : isStorable listed.id = true
  next =>
    by_cases libraryFits : isStorable listed.libraryId = true
    next => simp [idFits, libraryFits, ok_bind, pure, Except.pure, eq_comm]
    next => simp [idFits, libraryFits, bind, Except.bind]
  next => simp [idFits, bind, Except.bind]

theorem importCollections_last (listed : List ListedCollection) (library : Library)
    (keyed : library.Keyed)
    (storable : ∀ collection ∈ listed,
      isStorable collection.id = true /\ isStorable collection.libraryId = true) :
    ∃ after, listed.foldlM importCollection library = .ok after /\ after.Keyed /\
      after = { library with collections := after.collections } /\
      ∀ id, after.collection? id =
        match lastCollection? listed id with
        | some last => some ⟨last.id, last.name, last.libraryId⟩
        | none => library.collection? id := by
  induction listed generalizing library with
  | nil => exact ⟨library, rfl, keyed, rfl, fun _ => rfl⟩
  | cons first rest ih =>
    have here := (importCollection_eq_ok library _ first).2 ⟨storable first (by simp), rfl⟩
    have keyedNext : (library.putCollection ⟨first.id, first.name, first.libraryId⟩).Keyed :=
      { keyed with collectionsAscending := ascending_place _ _ keyed.collectionsAscending }
    obtain ⟨after, done, keyedAfter, others, found⟩ := ih _ keyedNext
      fun collection member => storable collection (List.mem_cons_of_mem _ member)
    refine ⟨after, by rw [List.foldlM_cons, here]; exact done, keyedAfter, others, fun id => ?_⟩
    rw [found, collection?_putCollection]
    have last : lastCollection? (first :: rest) id =
        (lastCollection? rest id).or (if first.id = id then some first else none) := by
      simp [lastCollection?, List.find?_append, List.find?_cons, List.find?_nil]
      grind
    rw [last]
    cases lastCollection? rest id with
    | some later => rfl
    | none =>
      by_cases same : id = first.id
      next => simp [same]
      next => simp [same, Ne.symm same]

def ListedRecord.entry (listed : ListedRecord) (id : Int) : Except Fault Entry := do
  let creators <- listed.creators.mapM storedCreator
  return {
    id := id
    key := listed.key
    libraryId := listed.libraryId
    itemType := listed.itemType
    fields := sortFields listed.fields
    creators := creators
    tags := distinct listed.tags
    collections := sortNumbers (listed.collections.filterMap Toml.Value.integer?) }

theorem importRecord_eq_ok (path : String) (library after : Library) (listed : ListedRecord) :
    importRecord path library listed = .ok after <->
      library.unknownAmong listed.collections = none /\ isStorable listed.libraryId = true /\
        ∃ id entry, library.idFor listed.key = .ok id /\ listed.entry id = .ok entry /\
          after = library.putEntry entry := by
  have made : library.entryFor listed = (do
      requireStorable listed.libraryId
      let id <- library.idFor listed.key
      listed.entry id) := rfl
  unfold importRecord
  cases library.unknownAmong listed.collections with
  | some collection => simp
  | none =>
    rw [made, mapError_eq_ok, map_eq_ok]
    simp only [bind_eq_ok, true_and]
    constructor
    next =>
      rintro ⟨entry, ⟨_, fits, id, numbered, written⟩, rfl⟩
      exact ⟨requireStorable_eq_ok _ fits, id, entry, numbered, written, rfl⟩
    next =>
      rintro ⟨fits, id, entry, numbered, written, rfl⟩
      exact ⟨entry, ⟨(), by simp [requireStorable, fits], id, numbered, written⟩, rfl⟩

/-- A record is stored as it is listed: of a field that is listed several times the last value, of a
tag the first place, and the collections in order. -/
structure ListedRecord.StoredAs (listed : ListedRecord) (entry : Entry) : Prop where
  key : entry.key = listed.key
  libraryId : entry.libraryId = listed.libraryId
  itemType : entry.itemType = listed.itemType
  fieldsAscending : Ascending Prod.fst entry.fields
  fields : ∀ name, entry.fields.lookup name = listed.fields.reverse.lookup name
  creators : ∀ texts : List Creator,
    listed.creators = texts.map (fun creator => creator.map Toml.Value.string) ->
      entry.creators = texts
  tags : entry.tags = distinct listed.tags
  collectionsAscending : Ascending (fun number => number) entry.collections
  collections : ∀ number, number ∈ entry.collections <->
    number ∈ listed.collections.filterMap Toml.Value.integer?

theorem storedCreator_map (creator : Creator) :
    storedCreator (creator.map Toml.Value.string) = .ok creator := rfl

theorem storedCreators (creators : List Creator) :
    (creators.map fun creator => creator.map Toml.Value.string).mapM storedCreator =
      .ok creators := by
  rw [mapM_eq_ok, List.forall₂_map_left_iff, List.forall₂_same]
  exact fun creator _ => storedCreator_map creator

theorem entry_eq_ok (listed : ListedRecord) (id : Int) (entry : Entry)
    (made : listed.entry id = .ok entry) : entry.id = id /\ listed.StoredAs entry := by
  obtain ⟨creators, stored, same⟩ := bind_eq_ok.1 made
  cases same
  refine ⟨rfl, ?_⟩
  exact {
    key := rfl
    libraryId := rfl
    itemType := rfl
    fieldsAscending := ascending_sortFields listed.fields
    fields := lookup_sortFields listed.fields
    creators := by
      intro texts are
      rw [are, storedCreators] at stored
      exact (Except.ok.inj stored).symm
    tags := rfl
    collectionsAscending := ascending_sortNumbers _
    collections := mem_sortNumbers _ }

def lastRecord? (listed : List ListedRecord) (key : String) : Option ListedRecord :=
  listed.reverse.find? fun record => record.key == key

theorem lastRecord?_eq_none (listed : List ListedRecord) (key : String)
    (absent : ∀ record ∈ listed, record.key ≠ key) : lastRecord? listed key = none := by
  simpa [lastRecord?] using absent

theorem lastRecord?_cons (first : ListedRecord) (rest : List ListedRecord) (key : String) :
    lastRecord? (first :: rest) key =
      (lastRecord? rest key).or (if first.key = key then some first else none) := by
  simp [lastRecord?, List.find?_append, List.find?_cons, List.find?_nil]
  grind

/-- What a key leads to after an import: the record that was listed for it, under the number that
the key had, or what it led to before. -/
def Replaced (library after : Library) (key : String) : Option ListedRecord -> Prop
  | some listed => ∃ entry, after.entryOfKey? key = some entry /\
      listed.entry entry.id = .ok entry /\
      ∀ old, library.entryOfKey? key = some old -> entry.id = old.id
  | none => after.entryOfKey? key = library.entryOfKey? key

theorem importRecord_step (path : String) (library after : Library) (listed : ListedRecord)
    (keyed : library.Keyed) (imported : importRecord path library listed = .ok after) :
    after.Keyed /\ after = { library with entries := after.entries } /\
      ∃ entry, listed.entry entry.id = .ok entry /\
        (∀ old, library.entryOfKey? listed.key = some old -> entry.id = old.id) /\
        ∀ key, after.entryOfKey? key =
          if key = listed.key then some entry else library.entryOfKey? key := by
  obtain ⟨_, _, id, entry, numbered, made, rfl⟩ :=
    (importRecord_eq_ok path library after listed).1 imported
  obtain ⟨rfl, stored⟩ := entry_eq_ok listed id entry made
  have own := idFor_own library keyed listed.key entry.id numbered
  rw [← stored.key] at own
  refine ⟨keyed_putEntry library entry keyed fun other member same => (own other member).1 same,
    rfl, entry, made, fun old found => ?_, fun key => ?_⟩
  next =>
    rw [idFor, found] at numbered
    exact (Except.ok.inj numbered).symm
  next => rw [entryOfKey?_putEntry library entry own, stored.key]

theorem importRecords_last (path : String) (listed : List ListedRecord) (library after : Library)
    (keyed : library.Keyed) (imported : listed.foldlM (importRecord path) library = .ok after) :
    after.Keyed /\ after = { library with entries := after.entries } /\
      ∀ key, Replaced library after key (lastRecord? listed key) := by
  induction listed generalizing library with
  | nil =>
    cases imported
    exact ⟨keyed, rfl, fun key => rfl⟩
  | cons first rest ih =>
    rw [List.foldlM_cons] at imported
    obtain ⟨next, here, later⟩ := bind_eq_ok.1 imported
    obtain ⟨keyedNext, othersNext, entry, made, numbered, found⟩ :=
      importRecord_step path library next first keyed here
    obtain ⟨keyedAfter, others, replaced⟩ := ih next keyedNext later
    refine ⟨keyedAfter, ?_, fun key => ?_⟩
    next =>
      rw [others, othersNext]
    next =>
      have kept := replaced key
      rw [lastRecord?_cons]
      cases last : lastRecord? rest key with
      | some listed =>
        rw [last] at kept
        obtain ⟨final, there, written, same⟩ := kept
        refine ⟨final, there, written, fun old before => ?_⟩
        -- The number comes from the record before this one, which may have been listed too.
        by_cases own : key = first.key
        next =>
          subst own
          rw [same entry (by simp [found]), numbered old before]
        next => exact same old (by rw [found, if_neg own, before])
      | none =>
        rw [last] at kept
        have there : after.entryOfKey? key = next.entryOfKey? key := kept
        rw [found] at there
        by_cases own : key = first.key
        next =>
          subst own
          simp only [if_true] at there
          simp only [Option.none_or, if_true]
          exact ⟨entry, there, made, numbered⟩
        next =>
          rw [if_neg own] at there
          simp only [Option.none_or, Ne.symm own, if_false]
          exact there

structure Admits (library : Library) (listed : ListedRecord) : Prop where
  known : library.unknownAmong listed.collections = none
  storable : isStorable listed.libraryId = true
  creators : ∃ creators, listed.creators.mapM storedCreator = .ok creators

theorem admits_of_imported (path : String) (listed : List ListedRecord) (library after : Library)
    (keyed : library.Keyed) (imported : listed.foldlM (importRecord path) library = .ok after) :
    ∀ record ∈ listed, library.Admits record := by
  induction listed generalizing library with
  | nil => simp
  | cons first rest ih =>
    rw [List.foldlM_cons] at imported
    obtain ⟨next, here, later⟩ := bind_eq_ok.1 imported
    obtain ⟨keyedNext, others, _⟩ := importRecord_step path library next first keyed here
    intro record member
    rcases List.mem_cons.1 member with rfl | among
    next =>
      obtain ⟨known, fits, id, entry, _, made, _⟩ :=
        (importRecord_eq_ok path library next record).1 here
      obtain ⟨creators, stored, _⟩ := bind_eq_ok.1 made
      exact ⟨known, fits, creators, stored⟩
    next =>
      -- Records change nothing of the collections, by which a membership is known or not.
      have admitted := ih next keyedNext later record among
      rw [others] at admitted
      exact ⟨admitted.known, admitted.storable, admitted.creators⟩

theorem importRecords_succeed (path : String) (listed : List ListedRecord) (library : Library)
    (keyed : library.Keyed) (admitted : ∀ record ∈ listed, library.Admits record)
    (there : ∀ record ∈ listed, (library.entryOfKey? record.key).isSome = true) :
    ∃ after, listed.foldlM (importRecord path) library = .ok after := by
  induction listed generalizing library with
  | nil => exact ⟨library, rfl⟩
  | cons first rest ih =>
    obtain ⟨known, fits, creators, stored⟩ := admitted first (by simp)
    obtain ⟨old, found⟩ := Option.isSome_iff_exists.1 (there first (by simp))
    have numbered : library.idFor first.key = .ok old.id := by rw [idFor, found]
    obtain ⟨entry, made⟩ : ∃ entry, first.entry old.id = .ok entry := by
      unfold ListedRecord.entry
      rw [stored]
      exact ⟨_, rfl⟩
    have here := (importRecord_eq_ok path library _ first).2
      ⟨known, fits, old.id, entry, numbered, made, rfl⟩
    obtain ⟨keyedNext, others, _, _, _, leads⟩ := importRecord_step path library _ first keyed here
    obtain ⟨after, later⟩ := ih _ keyedNext
      (fun record member =>
        have kept := admitted record (List.mem_cons_of_mem _ member)
        ⟨kept.known, kept.storable, kept.creators⟩)
      (fun record member => by
        rw [leads]
        split
        next => rfl
        next => exact there record (List.mem_cons_of_mem _ member))
    exact ⟨after, by rw [List.foldlM_cons, here]; exact later⟩

theorem importFile_eq_ok (path : String) (content : Option String) (library after : Library)
    (count : Nat) :
    library.importFile path content = (.ok count, after) <->
      ∃ listing, readListing path content = .ok listing /\ listing.records.length = count /\
        importListing path library listing = .ok after := by
  unfold importFile
  cases readListing path content with
  | error error => simp
  | ok listing =>
    dsimp only
    cases spec : importListing path library listing with
    | error error => simp [spec]
    | ok _ => simp [spec]

theorem storable_of_imported (listed : List ListedCollection) (library after : Library)
    (imported : listed.foldlM importCollection library = .ok after) :
    ∀ collection ∈ listed,
      isStorable collection.id = true /\ isStorable collection.libraryId = true := by
  induction listed generalizing library with
  | nil => simp
  | cons first rest ih =>
    rw [List.foldlM_cons] at imported
    obtain ⟨next, here, later⟩ := bind_eq_ok.1 imported
    intro collection member
    rcases List.mem_cons.1 member with rfl | among
    next => exact ((importCollection_eq_ok library next collection).1 here).1
    next => exact ih next later collection among

/-- What a library is after an import: the last of what is listed for each key and number, next to
what was there before. -/
structure Imported (listing : Listing) (library after : Library) : Prop where
  keyed : after.Keyed
  locked : after.locked = library.locked
  records : ∀ key, Replaced library after key (lastRecord? listing.records key)
  collections : ∀ id, after.collection? id =
    match lastCollection? listing.collections id with
    | some last => some ⟨last.id, last.name, last.libraryId⟩
    | none => library.collection? id

theorem importListing_imported (path : String) (listing : Listing) (library after : Library)
    (keyed : library.Keyed) (imported : importListing path library listing = .ok after) :
    Imported listing library after := by
  obtain ⟨middle, collections, records⟩ := bind_eq_ok.1 imported
  have done := mapError_eq_ok.1 collections
  obtain ⟨same, first, keyedMiddle, others, found⟩ :=
    importCollections_last listing.collections library keyed (storable_of_imported _ _ _ done)
  cases done.symm.trans first
  obtain ⟨keyedAfter, othersAfter, replaced⟩ :=
    importRecords_last path listing.records middle after keyedMiddle records
  rw [others] at replaced
  exact {
    keyed := keyedAfter
    locked := by rw [othersAfter, others]
    records := replaced
    collections := by
      intro id
      rw [← found id, othersAfter]
      rfl }

theorem importCollections_again (listed : List ListedCollection) (library after : Library)
    (keyed : after.Keyed)
    (storable : ∀ collection ∈ listed,
      isStorable collection.id = true /\ isStorable collection.libraryId = true)
    (stands : ∀ id, after.collection? id =
      match lastCollection? listed id with
      | some last => some ⟨last.id, last.name, last.libraryId⟩
      | none => library.collection? id) :
    listed.foldlM importCollection after = .ok after := by
  obtain ⟨again, done, keyedAgain, others, found⟩ :=
    importCollections_last listed after keyed storable
  have same : again.collections = after.collections := by
    refine collections_eq_of_ids again after keyedAgain keyed fun id => ?_
    have before := stands id
    rw [found]
    cases last : lastCollection? listed id with
    | some listed =>
      rw [last] at before
      exact before.symm
    | none => rfl
  rw [same] at others
  rw [done, others]

theorem Replaced.there {listed : List ListedRecord} {library after : Library}
    (replaced : ∀ key, Replaced library after key (lastRecord? listed key)) :
    ∀ record ∈ listed, (after.entryOfKey? record.key).isSome = true := by
  intro record member
  have stands := replaced record.key
  cases last : lastRecord? listed record.key with
  | none => exact absurd (by simp) (List.find?_eq_none.1 last record (List.mem_reverse.2 member))
  | some listed =>
    rw [last] at stands
    obtain ⟨entry, found, _⟩ := stands
    rw [found]
    rfl

theorem importRecords_again (path : String) (listed : List ListedRecord) (library after : Library)
    (keyed : after.Keyed) (admitted : ∀ record ∈ listed, after.Admits record)
    (replaced : ∀ key, Replaced library after key (lastRecord? listed key)) :
    listed.foldlM (importRecord path) after = .ok after := by
  obtain ⟨again, done⟩ :=
    importRecords_succeed path listed after keyed admitted (Replaced.there replaced)
  -- All keys stand for what they stood for, and by its keys the library is determined.
  obtain ⟨keyedAgain, others, repeated⟩ := importRecords_last path listed after again keyed done
  have same : again.entries = after.entries := by
    refine entries_eq_of_keys again after keyedAgain keyed fun key => ?_
    have before := replaced key
    have now := repeated key
    cases last : lastRecord? listed key with
    | none =>
      rw [last] at now
      exact now
    | some listed =>
      -- The same is listed for the key under the same number, so that it is the same record.
      rw [last] at before now
      obtain ⟨old, oldFound, oldMade, _⟩ := before
      obtain ⟨new, newFound, newMade, numbered⟩ := now
      rw [numbered old oldFound, oldMade] at newMade
      rw [oldFound, newFound, Except.ok.inj newMade]
  rw [same] at others
  rw [done, others]

theorem importListing_again (path : String) (listing : Listing) (library after : Library)
    (keyed : library.Keyed) (imported : importListing path library listing = .ok after) :
    importListing path after listing = .ok after := by
  have first := importListing_imported path listing library after keyed imported
  obtain ⟨middle, collections, records⟩ := bind_eq_ok.1 imported
  have storable := storable_of_imported _ _ _ (mapError_eq_ok.1 collections)
  obtain ⟨same, once, keyedMiddle, _, _⟩ :=
    importCollections_last listing.collections library keyed storable
  cases (mapError_eq_ok.1 collections).symm.trans once
  obtain ⟨_, others, _⟩ := importRecords_last path listing.records middle after keyedMiddle records
  have admitted : ∀ record ∈ listing.records, after.Admits record := by
    intro record member
    have here := admits_of_imported path listing.records middle after keyedMiddle records record
      member
    rw [others]
    exact ⟨here.known, here.storable, here.creators⟩
  unfold importListing
  rw [importCollections_again listing.collections library after first.keyed storable first.collections]
  exact importRecords_again path listing.records library after first.keyed admitted first.records

end Library

end BibEdit
