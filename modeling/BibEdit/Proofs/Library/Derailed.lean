import BibEdit.CommandLine.Run
import BibEdit.Proofs.Library.Keys

set_option autoImplicit false

namespace BibEdit

def CreatorOf.parts {α : Type} (creator : CreatorOf α) : List α :=
  [creator.firstName, creator.lastName, creator.fullName, creator.creatorType]

namespace Library

open CommandLine (Problem)

/-- Work that ends in an error that is not told as one of the import. -/
def Derailed {α : Type} (work : Except ImportError α) : Prop :=
  ∃ error, work = .error error /\ (Problem.importing error).expected? = none

theorem expected_importing (error : ImportError) :
    (Problem.importing error).expected? = none \/ (Problem.importing error).expected? =
      some ("refsed.library.LibraryImportError", error.message.toList) := by
  cases error with
  | document path cause => cases cause <;> simp [Problem.expected?]
  | _ => simp [Problem.expected?]

variable {α β : Type}

theorem not_derailed_ok (value : α) : ¬ Derailed (.ok value : Except ImportError α) := by
  simp [Derailed]

theorem derailed_error (error : ImportError) :
    Derailed (.error error : Except ImportError α) <->
      (Problem.importing error).expected? = none := by
  simp [Derailed]

theorem derailed_bind (first : Except ImportError α) (next : α -> Except ImportError β) :
    Derailed (first >>= next) <->
      Derailed first \/ ∃ value, first = .ok value /\ Derailed (next value) := by
  cases first with
  | error error => simp [error_bind, derailed_error]
  | ok value => simp [ok_bind, not_derailed_ok]

theorem derailed_fault (work : Except Fault α) :
    Derailed (work.mapError ImportError.fault) <-> ¬ ∃ value, work = .ok value := by
  cases work <;> simp [Derailed, Except.mapError, Problem.expected?]

inductive Unstorable : Toml.Value -> Prop
  | large (number : Int) (past : isStorable number = false) : Unstorable (.integer number)
  | nan : Unstorable (.float .nan)
  | time (clock : Toml.Time) : Unstorable (.time clock)
  | array (items : List Toml.Value) : Unstorable (.array items)
  | table (entries : Toml.Table) : Unstorable (.table entries)

theorem storedText_fits (value : Toml.Value) :
    (∃ text, storedText value = .ok (some text)) <-> ¬ Unstorable value := by
  constructor
  next =>
    rintro ⟨text, stored⟩ unstorable
    cases unstorable with
    | large number past => simp [storedText, requireStorable, past] at stored
    | nan => cases stored
    | time clock => cases stored
    | array items => cases stored
    | table entries => cases stored
  next =>
    intro fits
    cases value with
    | integer number =>
      have storable : isStorable number = true := by
        by_contra past
        exact fits (.large number (by simpa using past))
      exact ⟨toString number, by simp [storedText, requireStorable, storable]⟩
    | float number =>
      cases number with
      | nan => exact absurd .nan fits
      | infinite negative => exact ⟨_, rfl⟩
      | finite negative mantissa exponent => exact ⟨_, rfl⟩
    | time clock => exact absurd (.time clock) fits
    | array items => exact absurd (.array items) fits
    | table entries => exact absurd (.table entries) fits
    | _ => exact ⟨_, rfl⟩

theorem storedCreator_fits (parts : CreatorOf Toml.Value) :
    (∃ creator, storedCreator parts = .ok creator) <->
      ∀ part ∈ parts.parts, ¬ Unstorable part := by
  simp only [storedCreator_eq_ok, ← storedText_fits, CreatorOf.parts, List.forall_mem_cons]
  constructor
  next =>
    rintro ⟨creator, first, last, full, type⟩
    exact ⟨⟨_, first⟩, ⟨_, last⟩, ⟨_, full⟩, ⟨_, type⟩, by simp⟩
  next =>
    rintro ⟨⟨first, firstGiven⟩, ⟨last, lastGiven⟩, ⟨full, fullGiven⟩, ⟨type, typeGiven⟩, _⟩
    exact ⟨⟨first, last, full, type⟩, firstGiven, lastGiven, fullGiven, typeGiven⟩

def ListedRecord.stray? (known : Int -> Bool) (listed : ListedRecord) : Option Toml.Value :=
  listed.collections.find? fun value => !value.integer?.any known

structure ListedRecord.Fits (known : Int -> Bool) (listed : ListedRecord) : Prop where
  collections : listed.stray? known = none
  libraryId : isStorable listed.libraryId = true
  creators : ∀ parts ∈ listed.creators, ∀ part ∈ parts.parts, ¬ Unstorable part

/-- A record that derails the import. An unknown collection is looked for before anything is
written, and does no harm unless it is too long for the message. -/
inductive ListedRecord.Derails (known : Int -> Bool) (listed : ListedRecord) : Prop
  | collection (stray : Toml.Value) (first : listed.stray? known = some stray)
      (long : stray.isWritable = false)
  | libraryId (allKnown : listed.stray? known = none) (past : isStorable listed.libraryId = false)
  | creator (allKnown : listed.stray? known = none) (parts : CreatorOf Toml.Value)
      (among : parts ∈ listed.creators) (part : Toml.Value) (within : part ∈ parts.parts)
      (unstorable : Unstorable part)

theorem ListedRecord.derails_iff_not_fits (known : Int -> Bool) (listed : ListedRecord)
    (allKnown : listed.stray? known = none) : listed.Derails known <-> ¬ listed.Fits known := by
  constructor
  next =>
    rintro (⟨stray, first, _⟩ | ⟨_, past⟩ | ⟨_, parts, among, part, within, unstorable⟩) fits
    next =>
      rw [allKnown] at first
      cases first
    next => simp [fits.libraryId] at past
    next => exact fits.creators parts among part within unstorable
  next =>
    intro misfit
    by_contra derails
    refine misfit ⟨allKnown, ?_, fun parts among part within unstorable => ?_⟩
    next =>
      by_contra past
      exact derails (.libraryId allKnown (by simpa using past))
    next => exact derails (.creator allKnown parts among part within unstorable)

theorem importRecord_fits (path : String) (library : Library) (listed : ListedRecord)
    (numbered : ∃ id, library.idFor listed.key = .ok id) :
    (∃ after, importRecord path library listed = .ok after) <->
      listed.Fits library.hasCollection := by
  obtain ⟨id, given⟩ := numbered
  have made : (∃ entry, listed.entry id = .ok entry) <->
      ∃ creators, listed.creators.mapM storedCreator = .ok creators := by
    simp [ListedRecord.entry, bind_eq_ok, pure, Except.pure]
  have stored : (∃ creators, listed.creators.mapM storedCreator = .ok creators) <->
      ∀ parts ∈ listed.creators, ∀ part ∈ parts.parts, ¬ Unstorable part := by
    simp only [mapM_succeeds, storedCreator_fits]
  constructor
  next =>
    rintro ⟨after, imported⟩
    obtain ⟨known, storable, other, entry, numbered, written, _⟩ :=
      (importRecord_eq_ok path library after listed).1 imported
    cases given.symm.trans numbered
    exact ⟨known, storable, stored.1 (made.1 ⟨entry, written⟩)⟩
  next =>
    intro fits
    obtain ⟨entry, written⟩ := made.2 (stored.2 fits.creators)
    exact ⟨library.putEntry entry, (importRecord_eq_ok path library _ listed).2
      ⟨fits.collections, fits.libraryId, id, entry, given, written, rfl⟩⟩

theorem unknownError_expected (path key : String) (collection : Toml.Value) :
    (Problem.importing (unknownError path key collection)).expected? = none <->
      collection.isWritable = false := by
  unfold unknownError Toml.Value.shown
  cases collection.isWritable <;> simp [Problem.expected?]

theorem importRecord_derails (path : String) (library : Library) (listed : ListedRecord)
    (numbered : ∃ id, library.idFor listed.key = .ok id) :
    Derailed (importRecord path library listed) <-> listed.Derails library.hasCollection := by
  cases found : library.unknownAmong listed.collections with
  | some stray =>
    have first : listed.stray? library.hasCollection = some stray := found
    have ends : importRecord path library listed = .error (unknownError path listed.key stray) := by
      simp [importRecord, found]
    rw [ends, derailed_error, unknownError_expected]
    constructor
    next => exact .collection stray first
    next =>
      rintro (⟨other, same, long⟩ | ⟨allKnown, _⟩ | ⟨allKnown, _⟩)
      next =>
        cases first.symm.trans same
        exact long
      all_goals
        rw [first] at allKnown
        cases allKnown
  | none =>
    have allKnown : listed.stray? library.hasCollection = none := found
    have ends : importRecord path library listed =
        ((library.entryFor listed).map library.putEntry).mapError .fault := by
      simp [importRecord, found]
    rw [listed.derails_iff_not_fits _ allKnown, ← importRecord_fits path library listed numbered,
      ends, derailed_fault]
    simp only [mapError_eq_ok]

/-- The next numbers, so many of them, can be stored. -/
def HasRoom (library : Library) (count : Nat) : Prop :=
  ∀ taken < count, isStorable (library.nextId + (taken : Int)) = true

theorem HasRoom.idFor {library : Library} {count : Nat} (room : library.HasRoom (count + 1))
    (key : String) : ∃ id, library.idFor key = .ok id := by
  unfold Library.idFor
  cases library.entryOfKey? key with
  | some entry => exact ⟨entry.id, rfl⟩
  | none =>
    have next := room 0 (by omega)
    rw [Int.natCast_zero, Int.add_zero] at next
    exact ⟨library.nextId, by simp [next]⟩

theorem nextId_eq_of_ids (library other : Library)
    (same : library.entries.map Entry.id = other.entries.map Entry.id) :
    library.nextId = other.nextId := by
  have last (library : Library) :
      library.nextId = (((library.entries.map Entry.id).getLast?).map (· + 1)).getD 1 := by
    rw [List.getLast?_map, nextId]
    cases library.entries.getLast? <;> rfl
  rw [last, last, same]

theorem nextId_putEntry (library : Library) (keyed : library.Keyed) (entry : Entry)
    (own : entry.id ∈ library.entries.map Entry.id \/ entry.id = library.nextId) :
    (library.putEntry entry).nextId = library.nextId \/
      (library.putEntry entry).nextId = library.nextId + 1 := by
  rcases own with there | new
  next =>
    left
    -- The record may be another one, but the numbers in use are the same.
    refine nextId_eq_of_ids _ _ ?_
    have ascending : Ascending (fun id => id) (library.entries.map Entry.id) :=
      List.pairwise_map.2 keyed.ascending
    rw [putEntry, ← place_map Entry.id (fun id => id)]
    exact place_of_mem _ _ ascending there
  next =>
    right
    have put : place Entry.id entry library.entries = library.entries ++ [entry] :=
      place_last _ _ fun other member => by
        rw [new]
        exact id_lt_nextId library keyed other member
    rw [putEntry, put, nextId_append, new]

theorem HasRoom.importRecord {path : String} {library after : Library} {listed : ListedRecord}
    {count : Nat} (room : library.HasRoom (count + 1)) (keyed : library.Keyed)
    (imported : importRecord path library listed = .ok after) : after.HasRoom count := by
  obtain ⟨_, _, id, entry, numbered, made, rfl⟩ :=
    (importRecord_eq_ok path library after listed).1 imported
  obtain ⟨rfl, _⟩ := entry_eq_ok listed id entry made
  have own : entry.id ∈ library.entries.map Entry.id \/ entry.id = library.nextId := by
    rcases idFor_cases library listed.key entry.id numbered with ⟨old, found, same⟩ | ⟨_, next, _⟩
    next =>
      rw [← same]
      exact .inl (List.mem_map_of_mem (entryOfKey?_eq_some library listed.key old found).1)
    next => exact .inr next.symm
  intro taken within
  rcases nextId_putEntry library keyed entry own with same | next
  next =>
    rw [same]
    exact room taken (by omega)
  next =>
    rw [next, Int.add_assoc, Int.add_comm 1]
    exact room (taken + 1) (by omega)

/-- Records of which the first that does not go in derails the import. -/
inductive RecordsDerail (known : Int -> Bool) : List ListedRecord -> Prop
  | here (record : ListedRecord) (rest : List ListedRecord) (derails : record.Derails known) :
      RecordsDerail known (record :: rest)
  | later (record : ListedRecord) (rest : List ListedRecord) (fits : record.Fits known)
      (derails : RecordsDerail known rest) : RecordsDerail known (record :: rest)

theorem recordsDerail_cons (known : Int -> Bool) (record : ListedRecord)
    (rest : List ListedRecord) : RecordsDerail known (record :: rest) <->
      record.Derails known \/ record.Fits known /\ RecordsDerail known rest := by
  constructor
  next =>
    rintro (⟨_, _, derails⟩ | ⟨_, _, fits, derails⟩)
    next => exact .inl derails
    next => exact .inr ⟨fits, derails⟩
  next =>
    rintro (derails | ⟨fits, derails⟩)
    next => exact .here record rest derails
    next => exact .later record rest fits derails

theorem importRecords_derail (path : String) (listed : List ListedRecord) (library : Library)
    (keyed : library.Keyed) (room : library.HasRoom listed.length) :
    Derailed (listed.foldlM (importRecord path) library) <->
      RecordsDerail library.hasCollection listed := by
  induction listed generalizing library with
  | nil => exact iff_of_false (not_derailed_ok library) (by rintro ⟨⟩)
  | cons record rest ih =>
    have numbered := room.idFor record.key
    rw [List.foldlM_cons, derailed_bind, recordsDerail_cons,
      importRecord_derails path library record numbered,
      ← importRecord_fits path library record numbered]
    refine or_congr_right ?_
    -- A record changes nothing of the collections that the rest may belong to.
    have later (next : Library) (imported : importRecord path library record = .ok next) :
        Derailed (rest.foldlM (importRecord path) next) <->
          RecordsDerail library.hasCollection rest := by
      obtain ⟨keyedNext, others, _⟩ := importRecord_step path library next record keyed imported
      rw [ih next keyedNext (room.importRecord keyed imported), others]
      rfl
    constructor
    next =>
      rintro ⟨next, imported, derailed⟩
      exact ⟨⟨next, imported⟩, (later next imported).1 derailed⟩
    next =>
      rintro ⟨⟨next, imported⟩, derails⟩
      exact ⟨next, imported, (later next imported).2 derails⟩

def Listing.knows (listing : Listing) (library : Library) (id : Int) : Bool :=
  library.hasCollection id || listing.collections.any fun collection => collection.id == id

inductive Listing.Derails (library : Library) (listing : Listing) : Prop
  | collection (listed : ListedCollection) (among : listed ∈ listing.collections)
      (past : isStorable listed.id = false \/ isStorable listed.libraryId = false)
  | records (derail : RecordsDerail (listing.knows library) listing.records)

theorem hasCollection_eq (library : Library) (id : Int) :
    library.hasCollection id = (library.collection? id).isSome :=
  List.isSome_find?.symm

theorem importCollections_fit (listing : Listing) (library : Library) (keyed : library.Keyed)
    (storable : ∀ collection ∈ listing.collections,
      isStorable collection.id = true /\ isStorable collection.libraryId = true) :
    ∃ filled, listing.collections.foldlM importCollection library = .ok filled /\ filled.Keyed /\
      filled.nextId = library.nextId /\ filled.hasCollection = listing.knows library := by
  obtain ⟨filled, done, keyedFilled, others, found⟩ :=
    importCollections_last listing.collections library keyed storable
  refine ⟨filled, done, keyedFilled, by rw [others]; rfl, funext fun id => ?_⟩
  have listed : (listing.collections.any fun collection => collection.id == id) =
      (lastCollection? listing.collections id).isSome := by
    rw [lastCollection?, List.isSome_find?, List.any_reverse]
  rw [Listing.knows, hasCollection_eq, hasCollection_eq, listed, found]
  cases lastCollection? listing.collections id <;> simp

theorem importListing_derails (path : String) (listing : Listing) (library : Library)
    (keyed : library.Keyed) (room : library.HasRoom listing.records.length) :
    Derailed (importListing path library listing) <-> listing.Derails library := by
  unfold importListing
  rw [derailed_bind, derailed_fault]
  simp only [mapError_eq_ok]
  -- All collections go in before the first record does, or the import ends with them.
  by_cases storable : ∀ collection ∈ listing.collections,
    isStorable collection.id = true /\ isStorable collection.libraryId = true
  next =>
    obtain ⟨filled, done, keyedFilled, nextGiven, known⟩ :=
      importCollections_fit listing library keyed storable
    have records := importRecords_derail path listing.records filled keyedFilled
      (by simpa only [HasRoom, nextGiven] using room)
    rw [known] at records
    rw [done]
    constructor
    next =>
      rintro (stuck | ⟨_, same, derailed⟩)
      next => exact absurd ⟨filled, rfl⟩ stuck
      next =>
        cases same
        exact .records (records.1 derailed)
    next =>
      rintro (⟨listed, among, past⟩ | ⟨derail⟩)
      next =>
        obtain ⟨idFits, libraryFits⟩ := storable listed among
        simp [idFits, libraryFits] at past
      next => exact .inr ⟨filled, rfl, records.2 derail⟩
  next =>
    refine iff_of_true (.inl fun ⟨filled, done⟩ => storable (storable_of_imported _ _ _ done)) ?_
    obtain ⟨listed, among, past⟩ : ∃ listed ∈ listing.collections,
        ¬ (isStorable listed.id = true /\ isStorable listed.libraryId = true) := by
      simpa using storable
    exact .collection listed among
      ((not_and_or.1 past).imp Bool.eq_false_iff.2 Bool.eq_false_iff.2)

namespace Document

def Single (document : Toml.Table) (key : String) : Prop :=
  ∃ value, document.lookup key = some value /\ value.items? = none

theorem listed_eq_error (document : Toml.Table) (key : String) :
    listed document key = .error .notListed <-> Single document key := by
  unfold listed Single
  cases document.lookup key with
  | none => simp
  | some value =>
    dsimp only
    cases items : value.items? <;> simp [items]

theorem checkAll_ne_notListed {α : Type} (check : Toml.Value -> Checked α)
    (blame : Nat -> Refusal -> Error) (apart : ∀ place refusal, blame place refusal ≠ .notListed)
    (items : List Toml.Value) (index : Nat) :
    checkAll check blame index items ≠ .error .notListed := by
  induction items generalizing index with
  | nil => simp [checkAll]
  | cons item rest ih =>
    unfold checkAll
    split
    -- An item is blamed by its place, which what is no list does not have.
    next refusal _ => simpa using apart index refusal
    next =>
      intro refused
      rcases bind_eq_error.1 refused with later | ⟨_, _, never⟩
      next => exact ih (index + 1) later
      next => cases never

theorem checkAll_succeeds {α : Type} (check : Toml.Value -> Checked α)
    (blame : Nat -> Refusal -> Error) (items : List Toml.Value) (index : Nat) :
    (∃ results, checkAll check blame index items = .ok results) <->
      ∀ item ∈ items, ∃ result, check item = .ok result := by
  induction items generalizing index with
  | nil => simp [checkAll]
  | cons item rest ih =>
    rw [List.forall_mem_cons, ← ih (index + 1), checkAll]
    cases check item with
    | error refusal => simp
    | ok value =>
      simp only [bind_eq_ok]
      constructor
      next =>
        rintro ⟨_, results, later, _⟩
        exact ⟨⟨value, rfl⟩, results, later⟩
      next =>
        rintro ⟨_, results, later⟩
        exact ⟨value :: results, results, later, rfl⟩

theorem listing_eq_notListed (document : Toml.Table) :
    listing document = .error .notListed <->
      Single document "collections" \/
        (∃ items, listed document "collections" = .ok items /\
          ∀ item ∈ items, ∃ result, collection item = .ok result) /\
        Single document "records" := by
  unfold listing
  rw [bind_eq_error, listed_eq_error]
  refine or_congr_right ?_
  constructor
  next =>
    rintro ⟨items, lists, later⟩
    rcases bind_eq_error.1 later with never | ⟨results, checked, later⟩
    next => exact absurd never (checkAll_ne_notListed _ _ (by simp) items 0)
    next =>
      refine ⟨⟨items, lists, (checkAll_succeeds _ _ items 0).1 ⟨results, checked⟩⟩, ?_⟩
      rcases bind_eq_error.1 later with single | ⟨records, _, later⟩
      next => exact (listed_eq_error document "records").1 single
      next =>
        rcases bind_eq_error.1 later with never | ⟨_, _, never⟩
        next => exact absurd never (checkAll_ne_notListed _ _ (by simp) records 0)
        next => cases never
  next =>
    rintro ⟨⟨items, lists, sound⟩, single⟩
    obtain ⟨results, checked⟩ := (checkAll_succeeds _ Error.collection items 0).2 sound
    refine ⟨items, lists, bind_eq_error.2 (.inr ⟨results, checked, bind_eq_error.2 (.inl ?_)⟩)⟩
    exact (listed_eq_error document "records").2 single

/-- A document that derails its import, by the values of its keys or by what it lists. -/
inductive Derails (library : Library) (document : Toml.Table) : Prop
  | collections (single : Single document "collections")
  | records (items : List Toml.Value) (lists : listed document "collections" = .ok items)
      (sound : ∀ item ∈ items, ∃ result, collection item = .ok result)
      (single : Single document "records")
  | listing (listing : Listing) (lists : Document.listing document = .ok listing)
      (derails : listing.Derails library)

end Document

/-- A text that derails its import. It need not be a document: an integer of many digits is refused
where it stands, whatever comes after it. -/
inductive Derails (library : Library) (text : String) : Prop
  | numeral (numeral : Text.LongNumeral) (refused : Toml.parse text = .error (.longNumeral numeral))
  | document (document : Toml.Table) (parses : Toml.parse text = .ok document)
      (derails : Document.Derails library document)

theorem expected_document (path : String) (error : Document.Error) :
    (Problem.importing (.document path error)).expected? = none <-> error = .notListed := by
  cases error <;> simp [Problem.expected?]

theorem readListing_derailed (path text : String) :
    Derailed (readListing path (some text)) <->
      (∃ numeral, Toml.parse text = .error (.longNumeral numeral)) \/
        ∃ document, Toml.parse text = .ok document /\
          Document.listing document = .error .notListed := by
  unfold readListing
  dsimp only
  cases Toml.parse text with
  | error flaw =>
    cases flaw <;> simp [derailed_error, Problem.expected?]
  | ok document =>
    cases lists : Document.listing document with
    | error error => simp [lists, Except.mapError, derailed_error, expected_document]
    | ok listing => simp [lists, Except.mapError, not_derailed_ok]

theorem importFile_eq_error (path : String) (content : Option String) (library : Library)
    (error : ImportError) :
    library.importFile path content = (.error error, library) <->
      readListing path content = .error error \/ ∃ listing,
        readListing path content = .ok listing /\
          importListing path library listing = .error error := by
  unfold importFile
  cases readListing path content with
  | error other => simp
  | ok listing =>
    dsimp only
    cases spec : importListing path library listing <;> simp [spec]

theorem importFile_cases (path : String) (content : Option String) (library : Library) :
    (∃ count after, library.importFile path content = (.ok count, after)) \/
      ∃ error, library.importFile path content = (.error error, library) := by
  unfold importFile
  cases readListing path content with
  | error error => exact .inr ⟨error, rfl⟩
  | ok listing =>
    dsimp only
    cases importListing path library listing with
    | error error => exact .inr ⟨error, rfl⟩
    | ok after => exact .inl ⟨_, after, rfl⟩

theorem derails_iff (path text : String) (library : Library) :
    Derails library text <->
      Derailed (readListing path (some text)) \/
        ∃ listing, readListing path (some text) = .ok listing /\ listing.Derails library := by
  rw [readListing_derailed]
  constructor
  next =>
    rintro (⟨numeral, refused⟩ | ⟨document, parses, derails⟩)
    next => exact .inl (.inl ⟨numeral, refused⟩)
    next =>
      cases derails with
      | collections single =>
        exact .inl (.inr ⟨document, parses, (Document.listing_eq_notListed document).2 (.inl single)⟩)
      | records items lists sound single =>
        exact .inl (.inr ⟨document, parses, (Document.listing_eq_notListed document).2
          (.inr ⟨⟨items, lists, sound⟩, single⟩)⟩)
      | listing listing lists derails =>
        exact .inr ⟨listing, (readListing_eq_ok path text listing).2 ⟨document, parses, lists⟩,
          derails⟩
  next =>
    rintro ((⟨numeral, refused⟩ | ⟨document, parses, refused⟩) | ⟨listing, lists, derails⟩)
    next => exact .numeral numeral refused
    next =>
      rcases (Document.listing_eq_notListed document).1 refused with
        single | ⟨⟨items, lists, sound⟩, single⟩
      next => exact .document document parses (.collections single)
      next => exact .document document parses (.records items lists sound single)
    next =>
      obtain ⟨document, parses, lists⟩ := (readListing_eq_ok path text listing).1 lists
      exact .document document parses (.listing listing lists derails)

theorem importFile_derailed (path text : String) (library : Library) (keyed : library.Keyed)
    (room : ∀ listing, readListing path (some text) = .ok listing ->
      library.HasRoom listing.records.length) :
    (∃ error, library.importFile path (some text) = (.error error, library) /\
      (Problem.importing error).expected? = none) <-> Derails library text := by
  have listed (listing : Listing) (lists : readListing path (some text) = .ok listing) :=
    importListing_derails path listing library keyed (room listing lists)
  rw [derails_iff path]
  simp only [importFile_eq_error]
  constructor
  next =>
    rintro ⟨error, refused | ⟨listing, lists, refused⟩, unexpected⟩
    next => exact .inl ⟨error, refused, unexpected⟩
    next => exact .inr ⟨listing, lists, (listed listing lists).1 ⟨error, refused, unexpected⟩⟩
  next =>
    rintro (⟨error, refused, unexpected⟩ | ⟨listing, lists, derails⟩)
    next => exact ⟨error, .inl refused, unexpected⟩
    next =>
      obtain ⟨error, refused, unexpected⟩ := (listed listing lists).2 derails
      exact ⟨error, .inr ⟨listing, lists, refused⟩, unexpected⟩

/-- A file is imported, or it is refused with an error of the import and the library is as it was,
unless the file derails its import: then the error is another one. -/
theorem import_ends_unless_derailed (path text : String) (library : Library)
    (keyed : library.Keyed)
    (room : ∀ listing, readListing path (some text) = .ok listing ->
      library.HasRoom listing.records.length) :
    (¬ Derails library text ->
      (∃ listing after, readListing path (some text) = .ok listing /\
        library.importFile path (some text) = (.ok listing.records.length, after) /\
        Imported listing library after) \/
      ∃ error, library.importFile path (some text) = (.error error, library) /\
        (Problem.importing error).expected? =
          some ("refsed.library.LibraryImportError", error.message.toList)) /\
    (Derails library text ->
      ∃ error, library.importFile path (some text) = (.error error, library) /\
        (Problem.importing error).expected? = none) := by
  have derailed := importFile_derailed path text library keyed room
  refine ⟨fun smooth => ?_, derailed.2⟩
  rcases importFile_cases path (some text) library with ⟨count, after, imported⟩ | ⟨error, refused⟩
  next =>
    obtain ⟨listing, lists, rfl, spec⟩ :=
      (importFile_eq_ok path (some text) library after count).1 imported
    exact .inl ⟨listing, after, lists, imported,
      importListing_imported path listing library after keyed spec⟩
  next =>
    rcases expected_importing error with unexpected | expected
    next => exact absurd (derailed.1 ⟨error, refused, unexpected⟩) smooth
    next => exact .inr ⟨error, refused, expected⟩

def listedNameFile : String :=
  "[[records]]\nkey = 'A'\ncreators = [\x7blastName = ['Roe']\x7d]\n"

theorem import_ends_unless_derailed_listed_name :
    Keyed {} /\
      (∀ listing, readListing "records.toml" (some listedNameFile) = .ok listing ->
        HasRoom {} listing.records.length) /\
      Derails {} listedNameFile /\
      ∃ error, importFile {} "records.toml" (some listedNameFile) = (.error error, {}) /\
        (Problem.importing error).expected? = none := by
  have keyed : Keyed {} := ⟨List.Pairwise.nil, List.nodup_nil, List.Pairwise.nil⟩
  have counted : (readListing "records.toml" (some listedNameFile)).toOption.map
      (fun listing => listing.records.length) = some 1 := by
    decide +kernel
  have room : ∀ listing, readListing "records.toml" (some listedNameFile) = .ok listing ->
      HasRoom {} listing.records.length := by
    intro listing lists taken within
    rw [lists] at counted
    have one : listing.records.length = 1 := Option.some.inj counted
    obtain rfl : taken = 0 := by omega
    decide
  have parses : Toml.parse listedNameFile = .ok [("records", .array [.table
      [("key", .string "A"),
        ("creators", .array [.table [("lastName", .array [.string "Roe"])]])]])] :=
    eq_ok_of_toOption (by decide +kernel)
  have derails : Derails {} listedNameFile := by
    refine .document _ parses (.listing ⟨[], [⟨"A", 1, none, [],
      [⟨.string "", .array [.string "Roe"], .string "", .string "author"⟩], [], []⟩]⟩ rfl
      (.records (.here _ _ ?_)))
    exact .creator rfl _ (List.mem_singleton_self _) (.array [.string "Roe"])
      (by simp [CreatorOf.parts])
      (.array _)
  exact ⟨keyed, room, derails,
    (import_ends_unless_derailed "records.toml" listedNameFile {} keyed room).2 derails⟩

theorem number_of_collections_derails :
    Toml.parse "collections = 5" = .ok [("collections", .integer 5)] /\
      importFile {} "records.toml" (some "collections = 5") =
        (.error (.document "records.toml" .notListed), {}) /\
      (Problem.importing (.document "records.toml" .notListed)).expected? = none := by
  have parses : Toml.parse "collections = 5" = .ok [("collections", .integer 5)] :=
    eq_ok_of_toOption (by decide +kernel)
  refine ⟨parses, (importFile_eq_error _ _ _ _).2 (.inl ?_), rfl⟩
  unfold readListing
  dsimp only
  rw [parses]
  rfl

end Library

end BibEdit
