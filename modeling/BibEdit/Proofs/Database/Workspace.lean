import BibEdit.Database.Workspace
import BibEdit.Proofs.Database.Import
import BibEdit.Proofs.Database.Load
import BibEdit.Proofs.Library.Reachable
import BibEdit.Proofs.Revision.Edits

set_option autoImplicit false

namespace BibEdit.Database

open Library (ListedRecord)

def Numbered (creators : List CreatorRow) (id : Int) : Prop :=
  ∃ count, ((creators.filter fun row => row.recordId == id).map CreatorRow.position).Perm
    (List.range' 1 count)

/-- What makes the rows a library: keys and references are as they have to be, keys, item types and
field names can be read, and creators are numbered. -/
structure Tables.Represents (tables : Tables) : Prop where
  lawful : tables.Lawful
  keysGiven : ∀ row ∈ tables.records, row.key ≠ ""
  typesKnown : ∀ row ∈ tables.records, ∀ name, row.itemType = some name -> name ∈ ItemType.names
  fieldsScalar : ∀ row ∈ tables.fields, Field.isScalarName row.name = true
  creatorsNumbered : ∀ id, Numbered tables.creators id

theorem represents_empty : Tables.Represents {} where
  lawful := by constructor <;> simp
  keysGiven := by simp
  typesKnown := by simp
  fieldsScalar := by simp
  creatorsNumbered _ := ⟨0, .nil⟩

theorem numbered_replaced (creators : List CreatorRow) (id : Int) (new : List Creator)
    (numbered : ∀ other, Numbered creators other) (other : Int) :
    Numbered
      (creators.filter (fun row => row.recordId != id) ++ Tables.creatorRows id 1 new) other := by
  have own := fun row member => (Tables.mem_creatorRows id new 1 row member).1
  unfold Numbered
  by_cases same : other = id
  next =>
    subst same
    refine ⟨new.length, ?_⟩
    rw [Tables.filter_replaced_self CreatorRow.recordId other creators _ own, Tables.creatorRows,
      List.map_map]
    exact List.Perm.of_eq (List.zipIdx_map_snd 1 new)
  next =>
    rw [Tables.filter_replaced_of_ne CreatorRow.recordId id creators _ own other same]
    exact numbered other

theorem represents_upsertCollection (tables after : Tables) (listed : Library.ListedCollection)
    (represents : tables.Represents) (done : tables.upsertCollection listed = .ok after) :
    after.Represents := by
  rw [Tables.upsertCollection_eq] at done
  obtain ⟨_, fits, done⟩ := bind_eq_ok.1 done
  obtain ⟨_, _, done⟩ := bind_eq_ok.1 done
  cases done
  exact { represents with
    lawful := Tables.lawful_putCollection tables _ represents.lawful
      (Library.requireStorable_eq_ok _ fits) }

def Importing (known : List Int) (tables : Tables) : Prop :=
  tables.Represents /\ tables.collections.map Collection.id = known

theorem importing_importRecord (path : String) (known : List Int) (tables after : Tables)
    (listed : ListedRecord) (checked : listed.Checked) (importing : Importing known tables)
    (done : tables.importRecord path known listed = .ok after) : Importing known after := by
  obtain ⟨represents, knownIs⟩ := importing
  have ready : Tables.Ready known tables := ⟨represents.lawful, knownIs⟩
  rw [Tables.importRecord_eq path known tables listed ready] at done
  split at done
  next => cases done
  next unrefused =>
    have collections := Tables.collections_there known tables ready listed.collections unrefused
    obtain ⟨_, _, done⟩ := bind_eq_ok.1 (mapError_eq_ok.1 done)
    obtain ⟨id, given, done⟩ := bind_eq_ok.1 done
    obtain ⟨creators, _, done⟩ := bind_eq_ok.1 done
    cases done
    have own := Tables.key_of_idFor tables represents.lawful listed.key id given
    have put := Tables.lawful_putRecord tables represents.lawful
      ⟨id, listed.key, listed.libraryId, listed.itemType⟩ own
    refine ⟨?_, knownIs⟩
    exact {
      lawful := Tables.lawful_withParts _ id (sortFields listed.fields) creators listed.tags
        (listed.collections.filterMap Toml.Value.integer?) put (Tables.hasRecord_putRecord_self _ _)
        (fun collection member => (collections collection member).1)
        ((ascending_sortFields listed.fields).nodup_ranks _)
      keysGiven := by
        intro row member
        rcases (Tables.mem_putRow RecordRow.id _ _ row).1 member with rfl | ⟨old, _⟩
        next => exact checked.keyGiven
        next => exact represents.keysGiven row old
      typesKnown := by
        intro row member
        rcases (Tables.mem_putRow RecordRow.id _ _ row).1 member with rfl | ⟨old, _⟩
        next => exact checked.typeKnown
        next => exact represents.typesKnown row old
      fieldsScalar := by
        refine Tables.forall_replaced FieldRow.recordId id _ _ _ represents.fieldsScalar ?_
        intro row member
        obtain ⟨field, among, rfl⟩ := List.mem_map.1 member
        exact checked.fieldsScalar field (mem_of_mem_sortFields listed.fields field among)
      creatorsNumbered := numbered_replaced tables.creators id creators
        represents.creatorsNumbered }

theorem represents_importTables (path : String) (listing : Library.Listing) (tables after : Tables)
    (checked : ∀ listed ∈ listing.records, listed.Checked) (represents : tables.Represents)
    (done : importTables path listing tables = .ok after) : after.Represents := by
  obtain ⟨middle, collections, records⟩ := bind_eq_ok.1 done
  have representsMiddle := foldlM_keeps Tables.Represents _ listing.collections
    (fun state item next _ holds step => represents_upsertCollection state next item holds step)
    tables middle represents (mapError_eq_ok.1 collections)
  exact (foldlM_keeps (Importing (middle.collections.map Collection.id)) _ listing.records
    (fun state item next member holds step =>
      importing_importRecord path _ state next item (checked item member) holds step)
    middle after ⟨representsMiddle, rfl⟩ records).1

theorem represents_importFile (path : String) (content : Option String) (tables : Tables)
    (represents : tables.Represents) :
    ((importFile path content).onTables tables).2.Represents := by
  unfold Session.onTables
  rw [runOn_importFile]
  cases read : Library.readListing path content with
  | error error => exact represents
  | ok listing =>
    dsimp only
    cases done : importTables path listing tables with
    | error error => exact represents
    | ok after =>
      exact represents_importTables path listing tables after
        (Library.readListing_checked path content listing read) represents done

theorem represents_deleteRecord (tables after : Tables) (id : Int) (represents : tables.Represents)
    (deleted : tables.deleteRecord id = .ok after) : after.Represents := by
  obtain ⟨_, _, same⟩ := bind_eq_ok.1 deleted
  cases same
  have lawful := represents.lawful
  have there {ρ : Type} (recordId : ρ -> Int) (rows : List ρ)
      (held : ∀ row ∈ rows, tables.hasRecord (recordId row) = true) :
      ∀ row ∈ rows.filter (fun row => recordId row != id),
        (tables.records.filter fun row => row.id != id).any (fun record =>
          record.id == recordId row) = true := by
    intro row member
    obtain ⟨old, apart⟩ := List.mem_filter.1 member
    obtain ⟨record, among, same⟩ := List.any_eq_true.1 (held row old)
    have is : record.id = recordId row := by simpa using same
    exact List.any_eq_true.2 ⟨record, List.mem_filter.2 ⟨among, is ▸ apart⟩, same⟩
  have numbered := numbered_replaced tables.creators id [] represents.creatorsNumbered
  rw [show Tables.creatorRows id 1 [] = [] from rfl, List.append_nil] at numbered
  exact {
    lawful := { lawful with
      recordIds := lawful.recordIds.sublist (List.filter_sublist.map _)
      recordKeys := lawful.recordKeys.sublist (List.filter_sublist.map _)
      fieldKeys := lawful.fieldKeys.sublist (List.filter_sublist.map _)
      creatorKeys := lawful.creatorKeys.sublist (List.filter_sublist.map _)
      tagKeys := lawful.tagKeys.sublist (List.filter_sublist.map _)
      tagPositions := lawful.tagPositions.sublist (List.filter_sublist.map _)
      membershipKeys := lawful.membershipKeys.sublist List.filter_sublist
      fieldRecords := there FieldRow.recordId tables.fields lawful.fieldRecords
      creatorRecords := there CreatorRow.recordId tables.creators lawful.creatorRecords
      tagRecords := there TagRow.recordId tables.tags lawful.tagRecords
      membershipRecords := there MembershipRow.recordId tables.memberships
        lawful.membershipRecords
      membershipCollections := fun row member =>
        lawful.membershipCollections row (List.mem_filter.1 member).1 }
    keysGiven := fun row member => represents.keysGiven row (List.mem_filter.1 member).1
    typesKnown := fun row member => represents.typesKnown row (List.mem_filter.1 member).1
    fieldsScalar := fun row member => represents.fieldsScalar row (List.mem_filter.1 member).1
    creatorsNumbered := numbered }

theorem represents_stored (record : Record) (tables after : Tables) (represents : tables.Represents)
    (marked : record.MarksScalar) (stored : Tables.Stored record tables after) :
    after.Represents where
  lawful := stored.lawful represents.lawful
  keysGiven := by
    rw [stored.others]
    exact represents.keysGiven
  typesKnown := by
    rw [stored.others]
    exact represents.typesKnown
  fieldsScalar := by
    intro row member
    have written := (stored.fields row).1 member
    split at written
    next own => exact marked row.name own.2
    next => exact represents.fieldsScalar row written
  creatorsNumbered := by
    rw [stored.creators]
    split
    next =>
      exact numbered_replaced tables.creators record.id record.creators
        represents.creatorsNumbered
    next => exact represents.creatorsNumbered

def Good (record : Record) (tables : Tables) : Prop := tables.Represents /\ record.MarksScalar

theorem marksScalar_clean (record : Record) : record.clean.MarksScalar := by
  simp [Record.MarksScalar, Record.clean]

theorem good_save (objections : Objections) (record : Record) (tables : Tables)
    (good : Good record tables) :
    Good (save objections true record tables).record (save objections true record tables).tables := by
  rcases save_cases objections true record tables with
    ⟨_, sameRecord, stored⟩ | ⟨_, sameRecord, sameTables⟩
  next =>
    rw [sameRecord]
    exact ⟨represents_stored record tables _ good.1 good.2 stored, marksScalar_clean record⟩
  next => rwa [sameRecord, sameTables]

theorem good_edit (record edited : Record) (tables : Tables) (good : Good record tables)
    (edits : record.EditedFrom edited) : Good edited tables :=
  ⟨good.1, edits.marksScalar good.2⟩

theorem good_commit (objections : Objections) (record : Record) (tables : Tables)
    (changes : List Change) (good : Good record tables) :
    Good (Revision.commit (keeping objections) tables record changes).item
      (Revision.commit (keeping objections) tables record changes).place := by
  have staged := good_edit record _ tables good
    (Revision.editedFrom_stageAll changes record record .none)
  unfold Revision.commit
  split
  next => exact good
  next =>
    split
    next after fault stopped =>
      rw [show Revision.stageAll record changes = (after, some fault) from stopped] at staged
      exact staged
    next after finished =>
      rw [show Revision.stageAll record changes = (after, none) from finished] at staged
      have saved := good_save objections after tables staged
      dsimp only [keeping]
      cases (save objections true after tables).result with
      | ok _ => exact saved
      | error _ => exact ⟨saved.1, staged.2⟩

theorem good_reviseOne (objections : Objections) (revision : Revision) (fields : List String)
    (record : Record) (tables : Tables) (good : Good record tables) :
    Good (Revision.reviseOne (keeping objections) revision fields tables record).item
      (Revision.reviseOne (keeping objections) revision fields tables record).place := by
  unfold Revision.reviseOne
  split
  next => exact good
  next changes _ => exact good_commit objections record tables changes good

section Batches

variable (objections : Objections) (revision : Revision) (fields : List String)

theorem revise_of_getElem? (workspace : Workspace) (copy : Nat) (record : Record)
    (found : workspace.copies[copy]? = some record) :
    workspace.revise objections revision fields copy =
      let outcome := Revision.reviseOne (keeping objections) revision fields workspace.tables record
      ⟨outcome.place, workspace.copies.set copy outcome.item⟩ := by
  unfold Workspace.revise Workspace.work
  rw [found]

theorem revise_getElem?_of_ne (workspace : Workspace) (copy other : Nat) (apart : other ≠ copy) :
    (workspace.revise objections revision fields copy).copies[other]? = workspace.copies[other]? := by
  unfold Workspace.revise Workspace.work
  split
  next => rfl
  next => exact List.getElem?_set_ne apart.symm

theorem foldl_revise_getElem?_of_not_mem (copies : List Nat) (workspace : Workspace) (other : Nat)
    (absent : other ∉ copies) :
    (copies.foldl (Workspace.revise objections revision fields) workspace).copies[other]? =
      workspace.copies[other]? := by
  induction copies generalizing workspace with
  | nil => rfl
  | cons copy rest ih =>
    have apart : other ≠ copy := fun same => absent (by simp [same])
    have later : other ∉ rest := fun member => absent (List.mem_cons_of_mem _ member)
    rw [List.foldl_cons, ih _ later, revise_getElem?_of_ne objections revision fields _ _ _ apart]

theorem foldl_revise_eq_reviseAll (copies : List Nat) (workspace : Workspace) (records : List Record)
    (apart : copies.Nodup)
    (held : copies.map (fun copy => workspace.copies[copy]?) = records.map some)
    (total current : Nat) (batch : Revision.Batch Tables Record)
    (place : batch.place = workspace.tables) :
    ∃ revised,
      (Revision.reviseAll (keeping objections) revision fields total current batch records).items =
          batch.items ++ revised /\
        (Revision.reviseAll (keeping objections) revision fields total current batch records).place =
          (copies.foldl (Workspace.revise objections revision fields) workspace).tables /\
        copies.map (fun copy =>
          (copies.foldl (Workspace.revise objections revision fields) workspace).copies[copy]?) =
            revised.map some := by
  induction copies generalizing workspace records current batch with
  | nil =>
    have empty : records = [] := by simpa using held.symm
    subst empty
    exact ⟨[], (List.append_nil _).symm, place, rfl⟩
  | cons copy rest ih =>
    cases records with
    | nil => cases held
    | cons record others =>
      obtain ⟨absent, later⟩ := List.nodup_cons.1 apart
      obtain ⟨found, heldRest⟩ := List.cons.inj held
      have step := revise_of_getElem? objections revision fields workspace copy record found
      have inside : copy < workspace.copies.length := (List.getElem?_eq_some_iff.1 found).1
      have stillHeld : rest.map (fun other =>
          (workspace.revise objections revision fields copy).copies[other]?) = others.map some := by
        rw [← heldRest]
        refine List.map_congr_left fun other member => ?_
        exact revise_getElem?_of_ne objections revision fields workspace copy other
          fun same => absent (same ▸ member)
      obtain ⟨revised, items, places, copied⟩ := ih (workspace.revise objections revision fields copy)
        others later stillHeld (current + 1)
        { result := batch.result.add record.id
            (Revision.reviseOne (keeping objections) revision fields batch.place record).result
          events := batch.events ++ [.reported ⟨current + 1, total, record.id⟩,
            .revised record.id
              (Revision.reviseOne (keeping objections) revision fields batch.place record).result]
          items := batch.items ++
            [(Revision.reviseOne (keeping objections) revision fields batch.place record).item]
          place := (Revision.reviseOne (keeping objections) revision fields batch.place record).place }
        (by rw [step, place])
      refine ⟨(Revision.reviseOne (keeping objections) revision fields batch.place record).item ::
        revised, ?_, places, ?_⟩
      next => rw [List.append_cons]; exact items
      next =>
        rw [List.map_cons, List.map_cons, List.foldl_cons, copied,
          foldl_revise_getElem?_of_not_mem objections revision fields rest _ copy absent, step, place]
        simp [inside]

/-- A batch of different copies does to them and to the tables what a batch of their records does. -/
theorem perform_batch (workspace : Workspace) (copies : List Nat) (records : List Record)
    (apart : copies.Nodup)
    (held : copies.map (fun copy => workspace.copies[copy]?) = records.map some) :
    match Revision.batch (keeping objections) revision fields workspace.tables records with
    | .error _ => workspace.perform (.batch copies revision fields objections) = workspace
    | .ok batch =>
      (workspace.perform (.batch copies revision fields objections)).tables = batch.place /\
        copies.map (fun copy =>
          (workspace.perform (.batch copies revision fields objections)).copies[copy]?) =
            batch.items.map some := by
  rw [Workspace.perform, Revision.batch, Revision.reviseAll_prepared]
  cases Pattern.validate revision.search revision.kind with
  | error error => rfl
  | ok _ =>
    obtain ⟨revised, items, place, copied⟩ := foldl_revise_eq_reviseAll objections revision fields
      copies workspace records apart held records.length 0 ⟨{}, [], [], workspace.tables⟩ rfl
    rw [ok_bind]
    dsimp only [pure, Except.pure]
    rw [items]
    exact ⟨place.symm, copied⟩

end Batches

structure Workspace.Good (workspace : Workspace) : Prop where
  tables : workspace.tables.Represents
  copies : ∀ record ∈ workspace.copies, record.MarksScalar

theorem good_work (workspace : Workspace) (copy : Nat)
    (task : Record -> Tables -> Record × Tables) (good : workspace.Good)
    (keeps : ∀ record tables,
      Good record tables -> Good (task record tables).1 (task record tables).2) :
    (workspace.work copy task).Good := by
  unfold Workspace.work
  split
  next => exact good
  next record found =>
    obtain ⟨represents, marked⟩ := keeps record workspace.tables
      ⟨good.tables, good.copies record (List.mem_of_getElem? found)⟩
    refine ⟨represents, fun other member => ?_⟩
    rcases List.mem_or_eq_of_mem_set member with old | rfl
    next => exact good.copies other old
    next => exact marked

theorem marksScalar_loaded (tables : Tables) (ids : List Int) (records : List Record)
    (loaded : tables.load ids = .ok records) : ∀ record ∈ records, record.MarksScalar := by
  intro record member
  simp [Record.MarksScalar, (tables.unedited_load ids records loaded record member).fields]

theorem good_perform (workspace : Workspace) (action : Action) (good : workspace.Good) :
    (workspace.perform action).Good := by
  unfold Workspace.perform
  cases action with
  | importFile path content =>
    exact ⟨represents_importFile path content workspace.tables good.tables, good.copies⟩
  | delete id =>
    dsimp only
    split
    next after deleted =>
      exact ⟨represents_deleteRecord workspace.tables after id good.tables deleted, good.copies⟩
    next => exact good
  | load ids =>
    dsimp only
    split
    next records loaded =>
      refine ⟨good.tables, fun record member => ?_⟩
      rcases List.mem_append.1 member with old | new
      next => exact good.copies record old
      next => exact marksScalar_loaded _ ids records loaded record new
    next => exact good
  | setField copy name value =>
    exact good_work workspace copy _ good fun record tables kept =>
      good_edit record _ tables kept (record.editedFrom_setField record name value .none)
  | setCreators copy creators =>
    exact good_work workspace copy _ good fun _ _ kept => kept
  | save copy objections =>
    exact good_work workspace copy _ good fun record tables kept =>
      good_save objections record tables kept
  | commit copy changes objections =>
    exact good_work workspace copy _ good fun record tables kept =>
      good_commit objections record tables changes kept
  | batch copies revision fields objections =>
    dsimp only
    split
    next => exact good
    next =>
      refine List.foldlRecOn copies _ good fun between kept copy _ => ?_
      exact good_work between copy _ kept fun record tables held =>
        good_reviseOne objections revision fields record tables held

/-- Whatever is imported, edited, saved, revised and deleted, and whatever of it fails, the rows are
those of a library. -/
theorem represents_performed (actions : List Action) :
    (actions.foldl Workspace.perform {}).tables.Represents := by
  have good : (actions.foldl Workspace.perform {}).Good :=
    List.foldlRecOn actions _ ⟨represents_empty, by simp⟩ fun workspace kept action _ =>
      good_perform workspace action kept
  exact good.tables

-- The second import fails and is undone; the number of the deleted record is given out again.
example :
    ([.importFile "a.toml" (some "[[records]]\nkey = 'A'\ntags = ['x', 'x']"),
      .importFile "b.toml" (some "[[records]]\nkey = 'B'\n[[records]]\nkey = 'C'\ncollections = [1]"),
      .delete 1, .importFile "d.toml" (some "[[records]]\nkey = 'D'\ntags = ['y', 'y', 'z']")].foldl
        Workspace.perform {}).tables =
      { records := [⟨1, "D", 1, none⟩], tags := [⟨1, "y", 1⟩, ⟨1, "z", 3⟩] } := by
  decide +kernel

end BibEdit.Database
