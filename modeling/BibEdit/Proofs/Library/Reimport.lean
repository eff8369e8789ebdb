import BibEdit.Proofs.Library.Scope

set_option autoImplicit false

namespace BibEdit.Library

section Own

variable {fit : Creator -> Prop} (library : Library) (sound : library.Sound fit)

include sound

theorem importCollection_own (collection : Collection) (member : collection ∈ library.collections) :
    importCollection library (Collection.listed collection) = .ok library := by
  have placed : library.putCollection collection = library := by
    rw [putCollection, place_of_mem collection library.collections sound.collectionsAscending member]
  rw [importCollection_eq_ok]
  exact ⟨sound.collectionsStorable collection member, placed.symm⟩

theorem importRecord_own (path : String) (entry : Entry) (listed : ListedRecord)
    (lists : ListedAs entry listed) (member : entry ∈ library.entries) :
    importRecord path library listed = .ok library := by
  have soundEntry := sound.entries entry member
  have known := unknownAmong_listedAs library entry listed lists soundEntry.collectionsKnown
  have made := entry_listedAs entry listed lists soundEntry entry.id
  have numbered : library.idFor entry.key = .ok entry.id := by
    rw [idFor, (entryOfKey?_iff library sound.keyed entry).2 member]
  have placed : library.putEntry entry = library := by
    rw [putEntry, place_of_mem entry library.entries sound.ascending member]
  rw [importRecord_eq_ok]
  obtain ⟨fields, _, rfl⟩ := lists
  exact ⟨known, soundEntry.libraryStorable, entry.id, entry, numbered, made, placed.symm⟩

theorem importListing_own (path : String) (collections : List Collection) (entries : List Entry)
    (records : List ListedRecord) (listed : List.Forall₂ ListedAs entries records)
    (collectionsOwn : ∀ collection ∈ collections, collection ∈ library.collections)
    (entriesOwn : ∀ entry ∈ entries, entry ∈ library.entries) :
    importListing path library ⟨collections.map Collection.listed, records⟩ = .ok library := by
  have sameCollections : (collections.map Collection.listed).foldlM importCollection library =
      .ok library := by
    refine foldlM_fixed _ _ _ fun item member => ?_
    obtain ⟨collection, among, rfl⟩ := List.mem_map.1 member
    exact importCollection_own library sound collection (collectionsOwn collection among)
  have sameRecords : records.foldlM (importRecord path) library = .ok library := by
    refine foldlM_fixed _ _ _ fun item member => ?_
    obtain ⟨entry, among, lists⟩ := forall₂_mem_right _ _ listed item member
    exact importRecord_own library sound path entry item lists (entriesOwn entry among)
  unfold importListing
  dsimp only
  rw [sameCollections]
  exact sameRecords

end Own

/-- A library, or one library ID of it, can be exported if the ID can be stored, and where the
document is read back with the same values, importing it into the library succeeds and leaves all
records and collections as they were. Another ID is refused. -/
theorem reimport_changes_nothing [Toml.Writer] (workspace : Workspace) (path : String)
    (libraryId : Option Int)
    (reachable : Workspace.Reachable (fun _ => True) workspace)
    (typed : ∀ entry ∈ workspace.library.entries, ∀ creator ∈ entry.creators, Typed creator) :
    (libraryId.all isStorable = true ->
      ∃ document, workspace.library.document libraryId = .ok document /\
        ∀ read, Toml.ReadsBack document read ->
          workspace.library.importFile path (some (Toml.Writer.write document)) =
            (.ok (workspace.library.entries.filter (inScope libraryId)).length,
              workspace.library)) /\
    (libraryId.all isStorable = false ->
      workspace.library.document libraryId = .error .outOfRange) := by
  have anySound := (sound_of_any workspace reachable).library
  have sound : workspace.library.Sound Typed := { anySound with
    entries := fun entry member =>
      { anySound.entries entry member with creatorsFit := typed entry member } }
  rw [document_eq workspace.library sound.indexed, requireScope_eq]
  constructor
  next =>
    intro storable
    rw [if_pos storable]
    refine ⟨_, rfl, fun read readsBack => ?_⟩
    have own (entry : Entry) (member : entry ∈ workspace.library.entries.filter (inScope libraryId)) :
        entry ∈ workspace.library.entries := (List.mem_filter.1 member).1
    -- A collection that a record is in may be missing from the document. The library knows it.
    obtain ⟨records, listing, listed⟩ := readListing_written path _ _ workspace.library.hasCollection
      (fun entry member => sound.entries entry (own entry member)) read readsBack
    have imported := importListing_own workspace.library sound path
      (workspace.library.collectionsIn libraryId) _ records listed
      (fun _ member => (List.mem_filter.1 member).1) own
    rw [importFile_eq_ok]
    exact ⟨_, listing, listed.length_eq.symm, imported⟩
  next =>
    intro unstorable
    rw [if_neg (by simp [unstorable])]
    rfl

/-- The record is in a collection of another library, which is there when it comes back. -/
theorem reimport_changes_nothing_desk :
    Workspace.Reachable (fun _ => True) deskWorkspace /\
      deskWorkspace.library.document (some 2) = .ok (deskWritten [] "L" 2) /\
      deskWorkspace.library.importFile "again.toml"
        (some (Toml.Writer.write (deskWritten [] "L" 2))) = (.ok 1, deskWorkspace.library) := by
  have facts : (deskWorkspace.library.entries.filter (inScope (some 2))).length = 1 /\
      ∀ entry ∈ deskWorkspace.library.entries, entry.creators = [] := by
    decide +kernel
  obtain ⟨count, noneGiven⟩ := facts
  have typed : ∀ entry ∈ deskWorkspace.library.entries, ∀ creator ∈ entry.creators,
      Typed creator := by
    intro entry member creator given
    rw [noneGiven entry member] at given
    cases given
  obtain ⟨document, exported, imports⟩ :=
    (reimport_changes_nothing deskWorkspace "again.toml" (some 2) reachable_desk typed).1 (by decide)
  cases document_desk.symm.trans exported
  have imported := imports _ readsBack_desk
  rw [count] at imported
  exact ⟨reachable_desk, document_desk, imported⟩

theorem export_refuses_unstorable :
    Workspace.Reachable (fun _ => True) {} /\
      ({} : Library).document (some 9223372036854775808) = .error .outOfRange :=
  ⟨.start, rfl⟩

end BibEdit.Library
