import BibEdit.Proofs.Database.Import
import BibEdit.Proofs.Database.Search
import BibEdit.Proofs.Library.Keys

set_option autoImplicit false

namespace BibEdit.Database

open Library (lastCollection? lastRecord?)

theorem Tables.keyed_library (tables : Tables) (lawful : tables.Lawful) : tables.library.Keyed where
  ascending := ascending_entries tables
  keys := by
    rw [library, List.map_map]
    refine List.Nodup.map_on ?_ (ascending_sortBy tables.records).nodup
    intro first member second other same
    rw [mem_sortBy tables.records lawful.recordIds] at member other
    exact row_eq_of_key lawful first second member other same
  collectionsAscending := ascending_sortBy tables.collections

theorem onTables_importFile (path : String) (content : Option String) (tables : Tables)
    (lawful : tables.Lawful) :
    ∃ after, (importFile path content).onTables tables =
        ((tables.library.importFile path content).1, after) /\
      after.Lawful /\ after.library = (tables.library.importFile path content).2 := by
  obtain ⟨after, ran, good, same⟩ := runOn_importFile_library path content tables lawful
  refine ⟨after, ?_, good, same⟩
  unfold Session.onTables
  rw [ran]

/-- After an import every key that the file lists stands for the record that it lists last for the
key, under the number that the key had before. All other keys stand for what they stood for, and
with the collections it is the same. A second import of the file changes nothing. -/
theorem import_replaces_by_key (path : String) (content : Option String) (tables after : Tables)
    (count : Nat) (lawful : tables.Lawful)
    (imported : (importFile path content).onTables tables = (.ok count, after)) :
    ∃ listing, Library.readListing path content = .ok listing /\
      count = listing.records.length /\ after.Lawful /\
      (∀ key listed, lastRecord? listing.records key = some listed ->
        ∃ entry, after.library.entryOfKey? key = some entry /\ listed.StoredAs entry /\
          ∀ old, tables.library.entryOfKey? key = some old -> entry.id = old.id) /\
      (∀ key, (∀ listed ∈ listing.records, listed.key ≠ key) ->
        after.library.entryOfKey? key = tables.library.entryOfKey? key) /\
      (∀ id last, lastCollection? listing.collections id = some last ->
        after.library.collection? id = some ⟨id, last.name, last.libraryId⟩) /\
      (∀ id, (∀ listed ∈ listing.collections, listed.id ≠ id) ->
        after.library.collection? id = tables.library.collection? id) /\
      ∃ again, (importFile path content).onTables after = (.ok count, again) /\ again.Lawful /\
        again.library = after.library /\ again.store = after.store := by
  obtain ⟨stored, ran, lawfulAfter, sameLibrary⟩ :=
    onTables_importFile path content tables lawful
  obtain ⟨result, rfl⟩ := Prod.mk.inj (imported.symm.trans ran)
  obtain ⟨listing, read, counted, spec⟩ := (Library.importFile_eq_ok path content tables.library
    after.library count).1 (Prod.ext result.symm sameLibrary.symm)
  have keyed := tables.keyed_library lawful
  have replaced := Library.importListing_imported path listing _ _ keyed spec
  have repeated := (Library.importFile_eq_ok path content after.library after.library count).2
    ⟨listing, read, counted, Library.importListing_again path listing _ _ keyed spec⟩
  obtain ⟨again, second, lawfulAgain, same⟩ := onTables_importFile path content after lawfulAfter
  rw [repeated] at second same
  refine ⟨listing, read, counted.symm, lawfulAfter, ?_, ?_, ?_, ?_, again, second, lawfulAgain,
    same, ?_⟩
  next =>
    intro key listed last
    have stands := replaced.records key
    rw [last] at stands
    obtain ⟨entry, found, made, numbered⟩ := stands
    exact ⟨entry, found, (Library.entry_eq_ok listed entry.id entry made).2, numbered⟩
  next =>
    intro key absent
    have stands := replaced.records key
    rwa [Library.lastRecord?_eq_none listing.records key absent] at stands
  next =>
    intro id last found
    have stands := replaced.collections id
    rw [found] at stands
    rw [← Library.lastCollection?_id listing.collections id last found] at stands ⊢
    exact stands
  next =>
    intro id absent
    have stands := replaced.collections id
    rwa [Library.lastCollection?_eq_none listing.collections id absent] at stands
  next => rw [Tables.store_eq lawfulAgain, Tables.store_eq lawfulAfter, same]

def shelvedTables : Tables where
  records := [⟨3, "A", 1, some "book"⟩, ⟨5, "B", 1, none⟩]
  fields := [⟨3, "title", "Old"⟩, ⟨5, "title", "Sea"⟩, ⟨3, "date", "1999"⟩]
  creators := [⟨3, 1, ⟨"Ann", "Lee", "", "author"⟩⟩]
  tags := [⟨3, "old", 1⟩, ⟨5, "sea", 1⟩]
  collections := [⟨1, "Shelf", 1⟩, ⟨7, "Box", 1⟩]
  memberships := [⟨3, 1⟩, ⟨5, 1⟩]

def shelvingFile : String :=
  "[[collections]]\nid = 1\nname = 'Desk'\n" ++
    "[[collections]]\nid = 1\nname = 'Attic'\nlibrary_id = 2\n" ++
    "[[records]]\nkey = 'A'\ntags = ['draft']\n[[records]]\nkey = 'C'\n" ++
    "[[records]]\nkey = 'A'\ncollections = [7, 1, 7]\ntags = ['y', 'x', 'y']\n" ++
    "fields = \x7btitle = 'New'\x7d\ncreators = [\x7blastName = 'Roe'\x7d]\n"

def reshelvedTables : Tables where
  records := [⟨3, "A", 1, none⟩, ⟨5, "B", 1, none⟩, ⟨6, "C", 1, none⟩]
  fields := [⟨5, "title", "Sea"⟩, ⟨3, "title", "New"⟩]
  creators := [⟨3, 1, ⟨"", "Roe", "", "author"⟩⟩]
  tags := [⟨5, "sea", 1⟩, ⟨3, "y", 1⟩, ⟨3, "x", 2⟩]
  collections := [⟨1, "Attic", 2⟩, ⟨7, "Box", 1⟩]
  memberships := [⟨5, 1⟩, ⟨3, 7⟩, ⟨3, 1⟩]

theorem import_replaces_by_key_shelved :
    shelvedTables.Lawful /\
      (importFile "records.toml" (some shelvingFile)).onTables shelvedTables =
        (.ok 3, reshelvedTables) /\
      ∃ again, (importFile "records.toml" (some shelvingFile)).onTables reshelvedTables =
          (.ok 3, again) /\
        again.library = reshelvedTables.library := by
  have lawful : shelvedTables.Lawful := by constructor <;> decide
  have ran : ((importFile "records.toml" (some shelvingFile)).onTables shelvedTables).1.toOption =
        some 3 /\
      ((importFile "records.toml" (some shelvingFile)).onTables shelvedTables).2 =
        reshelvedTables := by
    decide +kernel
  have imported : (importFile "records.toml" (some shelvingFile)).onTables shelvedTables =
      (.ok 3, reshelvedTables) := Prod.ext (eq_ok_of_toOption ran.1) ran.2
  obtain ⟨_, _, _, _, _, _, _, _, again, repeated, _, same, _⟩ := import_replaces_by_key
    "records.toml" (some shelvingFile) shelvedTables reshelvedTables 3 lawful imported
  exact ⟨lawful, imported, again, repeated, same⟩

end BibEdit.Database
