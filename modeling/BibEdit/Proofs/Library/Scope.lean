import BibEdit.Proofs.Library.Export

set_option autoImplicit false

namespace BibEdit.Library

theorem collectionTable_injective : Function.Injective collectionTable := by
  intro first second same
  cases first
  cases second
  simpa [collectionTable] using same

theorem creatorTable_injective : Function.Injective creatorTable := by
  intro first second same
  cases first
  cases second
  simpa [creatorTable] using same

theorem recordTable_tells (first second : Record)
    (same : recordTable first = recordTable second) :
    first.creators = second.creators /\ first.collections = second.collections := by
  -- Where the item type stands between, it is passed over.
  have leads (record : Record) :
      (recordTable record).table?.bind (List.lookup "creators") =
          some (.array (record.creators.map creatorTable)) /\
        (recordTable record).table?.bind (List.lookup "collections") =
          some (.array (record.collections.map .integer)) := by
    unfold recordTable itemTypeEntry
    cases record.itemType with
    | none => exact ⟨rfl, rfl⟩
    | some name =>
      dsimp only
      cases name == "" with
      | true => exact ⟨rfl, rfl⟩
      | false => exact ⟨rfl, rfl⟩
  obtain ⟨creators, collections⟩ := leads second
  rw [← same, (leads first).1] at creators
  rw [← same, (leads first).2] at collections
  have integerInjective : Function.Injective Toml.Value.integer := fun _ _ => Toml.Value.integer.inj
  exact ⟨creatorTable_injective.list_map (Toml.Value.array.inj (Option.some.inj creators)),
    integerInjective.list_map (Toml.Value.array.inj (Option.some.inj collections))⟩

theorem documentOf_tells (collections others : List Collection) (entries copies : List Entry)
    (same : documentOf collections entries = documentOf others copies) :
    collections = others /\ ∀ entry ∈ entries, ∃ copy ∈ copies,
      entry.creators = copy.creators /\ entry.collections = copy.collections := by
  simp only [documentOf, List.cons.injEq, Prod.mk.injEq, Toml.Value.array.injEq, true_and,
    and_true] at same
  obtain ⟨sameCollections, sameRecords⟩ := same
  refine ⟨collectionTable_injective.list_map sameCollections, fun entry member => ?_⟩
  have listed : recordTable entry.record ∈ (entries.map Entry.record).map recordTable :=
    List.mem_map_of_mem (List.mem_map_of_mem member)
  rw [sameRecords, List.map_map] at listed
  obtain ⟨copy, among, equal⟩ := List.mem_map.1 listed
  exact ⟨copy, among, recordTable_tells entry.record copy.record equal.symm⟩

def only (library : Library) (libraryId : Option Int) : Library where
  entries := library.entries.filter (inScope libraryId)
  collections := library.collectionsIn libraryId

/-- The creators of all records have types, and the records are in no collections but those of
their own library. -/
def StandsAlone (library : Library) (libraryId : Int) : Prop :=
  ∀ entry ∈ library.entries, entry.libraryId = libraryId ->
    (∀ creator ∈ entry.creators, Typed creator) /\
      ∀ number ∈ entry.collections, ∃ collection ∈ library.collections,
        collection.id = number /\ collection.libraryId = libraryId

theorem mem_collectionsIn (library : Library) (libraryId : Int) (collection : Collection) :
    collection ∈ library.collectionsIn (some libraryId) <->
      collection ∈ library.collections /\ collection.libraryId = libraryId := by
  simp [collectionsIn]

theorem mem_inScope (library : Library) (libraryId : Int) (entry : Entry) :
    entry ∈ library.entries.filter (inScope (some libraryId)) <->
      entry ∈ library.entries /\ entry.libraryId = libraryId := by
  simp [inScope]

theorem sound_only {fit : Creator -> Prop} (library : Library) (sound : library.Sound fit)
    (libraryId : Int) (alone : library.StandsAlone libraryId) :
    (library.only (some libraryId)).Sound Typed where
  ascending := sound.ascending.filter _ _
  keys := sound.keys.sublist (List.filter_sublist.map Entry.key)
  collectionsAscending := sound.collectionsAscending.filter _ _
  collectionsStorable := fun collection member =>
    sound.collectionsStorable collection ((mem_collectionsIn library libraryId _).1 member).1
  entries := by
    intro entry member
    obtain ⟨among, own⟩ := (mem_inScope library libraryId entry).1 member
    obtain ⟨typed, inside⟩ := alone entry among own
    exact { sound.entries entry among with
      creatorsFit := typed
      collectionsKnown := by
        intro number listed
        obtain ⟨collection, stored, same, belongs⟩ := inside number listed
        rw [hasCollection_iff]
        exact ⟨collection, (mem_collectionsIn library libraryId _).2 ⟨stored, belongs⟩, same⟩ }

def scopeDocument (library : Library) (libraryId : Int) : Toml.Table :=
  documentOf (library.only (some libraryId)).collections (library.only (some libraryId)).entries

theorem document_scope (library : Library) (indexed : library.Indexed) (libraryId : Int)
    (document : Toml.Table) :
    library.document (some libraryId) = .ok document <->
      isStorable libraryId = true /\ library.scopeDocument libraryId = document := by
  rw [document_eq library indexed, map_eq_ok]
  simp [requireScope, requireStorable, scopeDocument, only]

theorem document_own (library : Library) (indexed : library.Indexed) (libraryId : Int)
    (storable : isStorable libraryId = true)
    (entries : ∀ entry ∈ library.entries, entry.libraryId = libraryId)
    (collections : ∀ collection ∈ library.collections, collection.libraryId = libraryId) :
    library.document (some libraryId) = library.document none := by
  have allEntries : library.entries.filter (inScope (some libraryId)) = library.entries :=
    List.filter_eq_self.2 fun entry member => by simp [inScope, entries entry member]
  have allCollections : library.collectionsIn (some libraryId) = library.collections :=
    List.filter_eq_self.2 fun collection member => by simp [collections collection member]
  rw [document_all library indexed, document_scope library indexed]
  refine ⟨storable, ?_⟩
  rw [scopeDocument, only, allEntries, allCollections]

theorem libraryId_of_mem_renumber (entries : List Entry) (libraryId first : Int)
    (own : ∀ entry ∈ entries, entry.libraryId = libraryId) :
    ∀ entry ∈ renumber first entries, entry.libraryId = libraryId := by
  intro entry member
  obtain ⟨old, among, same⟩ := forall₂_mem_right _ _ (sameRecord_renumber entries first) entry member
  have equal : entry = { old with id := entry.id } := same
  rw [equal, own old among]

theorem standsAlone_of_document (library fresh : Library) (sound : fresh.Sound Typed)
    (libraryId : Int)
    (same : fresh.document none = .ok (library.scopeDocument libraryId)) :
    library.StandsAlone libraryId := by
  rw [document_all fresh sound.indexed] at same
  obtain ⟨collections, records⟩ := documentOf_tells _ _ _ _ (Except.ok.inj same).symm
  intro entry member own
  obtain ⟨copy, among, creators, memberships⟩ :=
    records entry ((mem_inScope library libraryId entry).2 ⟨member, own⟩)
  -- The new library took the record in, so it knows the collections and gave every creator a type.
  have soundCopy := sound.entries copy among
  constructor
  next =>
    rw [creators]
    exact soundCopy.creatorsFit
  next =>
    intro number listed
    rw [memberships] at listed
    obtain ⟨collection, stored, named⟩ :=
      (hasCollection_iff fresh number).1 (soundCopy.collectionsKnown number listed)
    rw [← collections] at stored
    obtain ⟨there, belongs⟩ := (mem_collectionsIn library libraryId collection).1 stored
    exact ⟨collection, there, named, belongs⟩

section Restoring

variable [Toml.Writer]

theorem importFile_scope (library : Library) (sound : library.Sound fun _ => True)
    (libraryId : Int) (storable : isStorable libraryId = true)
    (alone : library.StandsAlone libraryId) (path : String) (read : Toml.Table)
    (readsBack : Toml.ReadsBack (library.scopeDocument libraryId) read) :
    ∃ count fresh,
      importFile {} path (some (Toml.Writer.write (library.scopeDocument libraryId))) =
          (.ok count, fresh) /\
      fresh.document none = .ok (library.scopeDocument libraryId) /\
      fresh.document (some libraryId) = .ok (library.scopeDocument libraryId) := by
  have imported := importFile_written (library.only (some libraryId))
    (sound_only library sound libraryId alone) path read readsBack
  have freshSound := sound_importFile (fun _ typed => typed) {} path
    (some (Toml.Writer.write (library.scopeDocument libraryId))) (sound_empty : Sound Typed {})
  rw [scopeDocument, imported] at freshSound
  have whole := document_all _ freshSound.indexed
  rw [documentOf_renumber] at whole
  have own := document_own _ freshSound.indexed libraryId storable
    (libraryId_of_mem_renumber _ libraryId 1 fun entry member =>
      ((mem_inScope library libraryId entry).1 member).2)
    fun collection member => ((mem_collectionsIn library libraryId collection).1 member).2
  exact ⟨_, _, imported, whole, own.trans whole⟩

/-- Every library ID that can be stored can be exported, and no other. Where the document is read
back with the same values, importing it into an empty library succeeds and gives that document again
exactly if the library stands alone; then it is also the document of the ID in the new library. -/
theorem export_restores_iff (workspace : Workspace) (path : String) (libraryId : Int)
    (reachable : Workspace.Reachable (fun _ => True) workspace) :
    ((∃ document, workspace.library.document (some libraryId) = .ok document) <->
      isStorable libraryId = true) /\
    ∀ document read, workspace.library.document (some libraryId) = .ok document ->
      Toml.ReadsBack document read ->
      ((∃ count fresh, importFile {} path (some (Toml.Writer.write document)) = (.ok count, fresh) /\
          fresh.document none = .ok document) <-> workspace.library.StandsAlone libraryId) /\
      ∀ count fresh, importFile {} path (some (Toml.Writer.write document)) = (.ok count, fresh) ->
        fresh.document none = .ok document -> fresh.document (some libraryId) = .ok document := by
  have sound := (sound_of_any workspace reachable).library
  have exported := document_scope workspace.library sound.indexed libraryId
  constructor
  next =>
    constructor
    next =>
      rintro ⟨document, written⟩
      exact ((exported document).1 written).1
    next => exact fun storable => ⟨_, (exported _).2 ⟨storable, rfl⟩⟩
  intro document read written readsBack
  obtain ⟨storable, rfl⟩ := (exported document).1 written
  have standsAlone (count : Nat) (fresh : Library)
      (imported : importFile {} path
        (some (Toml.Writer.write (workspace.library.scopeDocument libraryId))) = (.ok count, fresh))
      (again : fresh.document none = .ok (workspace.library.scopeDocument libraryId)) :
      workspace.library.StandsAlone libraryId := by
    have soundFresh := sound_importFile (fun _ typed => typed) {} path
      (some (Toml.Writer.write (workspace.library.scopeDocument libraryId)))
      (sound_empty : Sound Typed {})
    rw [imported] at soundFresh
    exact standsAlone_of_document workspace.library fresh soundFresh libraryId again
  have restored (alone : workspace.library.StandsAlone libraryId) :=
    importFile_scope workspace.library sound libraryId storable alone path read readsBack
  refine ⟨⟨?_, fun alone => ?_⟩, fun count fresh imported again => ?_⟩
  next =>
    rintro ⟨count, fresh, imported, again⟩
    exact standsAlone count fresh imported again
  next =>
    obtain ⟨count, fresh, imported, again, _⟩ := restored alone
    exact ⟨count, fresh, imported, again⟩
  next =>
    obtain ⟨_, _, done, _, own⟩ := restored (standsAlone count fresh imported again)
    cases imported.symm.trans done
    exact own

end Restoring

/-- Two libraries, and a collection of the first that a record of the second is in. -/
def deskActions : List Action :=
  [.importFile "desk.toml" (some ("[[collections]]\nid = 4\nname = 'Desk'\n" ++
    "[[records]]\nkey = 'K'\ncollections = [4]\n" ++
    "[[records]]\nkey = 'L'\nlibrary_id = 2\ncollections = [4]\n"))]

def deskWorkspace : Workspace := deskActions.foldl Workspace.perform {}

theorem reachable_desk : Workspace.Reachable (fun _ => True) deskWorkspace :=
  reachable_foldl (fun _ => True) deskActions {} .start fun _ _ => trivial

def deskRecord (key : String) (libraryId : Int) : Toml.Table :=
  [("key", .string key), ("library_id", .integer libraryId), ("tags", .array []),
    ("collections", .array [.integer 4])]

def deskDocument (collections : List Collection) (record : Toml.Table) : Toml.Table :=
  [("collections", .array (collections.map collectionTable)), ("records", .array [.table record])]

def deskWritten (collections : List Collection) (key : String) (libraryId : Int) : Toml.Table :=
  deskDocument collections
    (deskRecord key libraryId ++ [("fields", .table []), ("creators", .array [])])

def deskRead (collections : List Collection) (key : String) (libraryId : Int) : Toml.Table :=
  deskDocument collections
    (deskRecord key libraryId ++ [("creators", .array []), ("fields", .table [])])

theorem same_desk (collections : List Collection) (key : String) (libraryId : Int) :
    Toml.Same (.table (deskWritten collections key libraryId))
      (.table (deskRead collections key libraryId)) := by
  have record := Toml.same_of_perm _ _
    ((List.Perm.swap ("creators", Toml.Value.array []) ("fields", Toml.Value.table []) []).append_left
      (deskRecord key libraryId))
  exact .table _ (deskWritten collections key libraryId) _ (.refl _) rfl
    (.cons (.refl _) (.cons (.array _ _ (.cons record .nil)) .nil))

theorem export_restores_iff_desk :
    Workspace.Reachable (fun _ => True) deskWorkspace /\
      deskWorkspace.library.document (some 1) = .ok (deskWritten [⟨4, "Desk", 1⟩] "K" 1) /\
      deskWorkspace.library.StandsAlone 1 /\
      ∃ count fresh, importFile {} "again.toml"
          (some (Toml.Writer.write (deskWritten [⟨4, "Desk", 1⟩] "K" 1))) = (.ok count, fresh) /\
        fresh.document none = .ok (deskWritten [⟨4, "Desk", 1⟩] "K" 1) := by
  have facts : (deskWorkspace.library.document (some 1)).toOption =
        some (deskWritten [⟨4, "Desk", 1⟩] "K" 1) /\
      deskWorkspace.library.entries = [⟨1, "K", 1, none, [], [], [], [4]⟩,
        ⟨2, "L", 2, none, [], [], [], [4]⟩] /\
      deskWorkspace.library.collections = [⟨4, "Desk", 1⟩] := by
    decide +kernel
  obtain ⟨document, entries, collections⟩ := facts
  have alone : deskWorkspace.library.StandsAlone 1 := by
    unfold StandsAlone
    rw [entries, collections]
    simp
  have readsBack : Toml.ReadsBack (deskWritten [⟨4, "Desk", 1⟩] "K" 1)
      (deskRead [⟨4, "Desk", 1⟩] "K" 1) :=
    ⟨eq_ok_of_toOption (by decide +kernel), same_desk _ _ _⟩
  have exported := eq_ok_of_toOption document
  have restores := (export_restores_iff deskWorkspace "again.toml" 1 reachable_desk).2 _ _ exported
    readsBack
  exact ⟨reachable_desk, exported, alone, restores.1.2 alone⟩

theorem document_desk :
    deskWorkspace.library.document (some 2) = .ok (deskWritten [] "L" 2) :=
  eq_ok_of_toOption (by decide +kernel)

theorem readsBack_desk : Toml.ReadsBack (deskWritten [] "L" 2) (deskRead [] "L" 2) :=
  ⟨eq_ok_of_toOption (by decide +kernel), same_desk _ _ _⟩

/-- The document of the second library names a collection that it does not list. -/
theorem export_lacks_collection :
    Workspace.Reachable (fun _ => True) deskWorkspace /\
      deskWorkspace.library.document (some 2) = .ok (deskWritten [] "L" 2) /\
      Toml.ReadsBack (deskWritten [] "L" 2) (deskRead [] "L" 2) /\
      ∃ error, error.message = "Record L in again.toml belongs to unknown collection 4" /\
        importFile {} "again.toml" (some (Toml.Writer.write (deskWritten [] "L" 2))) =
          (.error error, {}) := by
  generalize written : some (Toml.Writer.write (deskWritten [] "L" 2)) = content
  have run : (importFile {} "again.toml" content).2 = {} /\
      (error? (importFile {} "again.toml" content).1).map ImportError.message =
        some "Record L in again.toml belongs to unknown collection 4" := by
    rw [← written]
    decide +kernel
  obtain ⟨error, fails, message⟩ := exists_error_of_message ImportError.message _ _ run.2
  exact ⟨reachable_desk, document_desk, readsBack_desk, error, message,
    Prod.ext fails run.1⟩

end BibEdit.Library
