import BibEdit.Proofs.Database.Workspace

set_option autoImplicit false

/-! Which numbers records have, and which of them copies stand for. The number of a deleted record is
given out again if it was the greatest. -/

namespace BibEdit.Database

/-- Which record a copy is of, and which records there are, stays as it was. -/
structure Leaves (record after : Record) (tables place : Tables) : Prop where
  identity : after.identity = record.identity
  records : place.records = tables.records
  locked : place.locked = tables.locked

theorem leaves_edit (record after : Record) (tables : Tables) (edits : record.EditedFrom after) :
    Leaves record after tables tables := ⟨edits.identity, rfl, rfl⟩

theorem leaves_save (objections : Objections) (record edited : Record) (tables : Tables)
    (edits : record.EditedFrom edited) :
    Leaves record (save objections true edited tables).record tables
      (save objections true edited tables).tables := by
  rcases save_cases objections true edited tables with
    ⟨_, sameRecord, stored⟩ | ⟨_, sameRecord, sameTables⟩
  next =>
    rw [sameRecord]
    exact ⟨edits.identity, by rw [stored.others], by rw [stored.others]⟩
  next =>
    rw [sameRecord, sameTables]
    exact leaves_edit record edited tables edits

theorem leaves_commit (objections : Objections) (record : Record) (tables : Tables)
    (changes : List Change) :
    Leaves record (Revision.commit (keeping objections) tables record changes).item tables
      (Revision.commit (keeping objections) tables record changes).place := by
  have edits := Revision.editedFrom_stageAll changes record record .none
  unfold Revision.commit
  split
  next => exact leaves_edit record record tables .none
  next =>
    split
    next after fault stopped =>
      rw [show Revision.stageAll record changes = (after, some fault) from stopped] at edits
      exact leaves_edit record after tables edits
    next after finished =>
      rw [show Revision.stageAll record changes = (after, none) from finished] at edits
      have saved := leaves_save objections record after tables edits
      dsimp only [keeping]
      cases (save objections true after tables).result with
      | ok _ => exact saved
      | error _ => exact { saved with identity := edits.identity }

theorem leaves_reviseOne (objections : Objections) (revision : Revision) (fields : List String)
    (record : Record) (tables : Tables) :
    Leaves record (Revision.reviseOne (keeping objections) revision fields tables record).item tables
      (Revision.reviseOne (keeping objections) revision fields tables record).place := by
  unfold Revision.reviseOne
  split
  next => exact leaves_edit record record tables .none
  next changes _ => exact leaves_commit objections record tables changes

structure Workspace.Worked (before after : Workspace) : Prop where
  copies : after.copies.map Record.identity = before.copies.map Record.identity
  records : after.tables.records = before.tables.records
  locked : after.tables.locked = before.tables.locked

theorem worked_work (workspace : Workspace) (copy : Nat)
    (task : Record -> Tables -> Record × Tables)
    (leaves : ∀ record tables, Leaves record (task record tables).1 tables (task record tables).2) :
    workspace.Worked (workspace.work copy task) := by
  unfold Workspace.work
  split
  next => exact ⟨rfl, rfl, rfl⟩
  next record found =>
    have kept := leaves record workspace.tables
    refine ⟨?_, kept.records, kept.locked⟩
    have listed : (workspace.copies.map Record.identity)[copy]? = some record.identity := by
      rw [List.getElem?_map, found, Option.map_some]
    obtain ⟨inside, same⟩ := List.getElem?_eq_some_iff.1 listed
    dsimp only
    rw [List.map_set, kept.identity, ← same, List.set_getElem_self]

/-- Rows keep their numbers and keys, and new ones have greater numbers than all before them. -/
structure Extends (before after : List RecordRow) : Prop where
  kept : ∀ old ∈ before, ∃ row ∈ after, row.id = old.id /\ row.key = old.key
  new : ∀ row ∈ after, (∃ old ∈ before, old.id = row.id /\ old.key = row.key) \/
    ∀ old ∈ before, old.id < row.id

theorem Extends.refl (rows : List RecordRow) : Extends rows rows where
  kept old member := ⟨old, member, rfl, rfl⟩
  new row member := .inl ⟨row, member, rfl, rfl⟩

theorem Extends.trans {first second third : List RecordRow} (before : Extends first second)
    (after : Extends second third) : Extends first third where
  kept := by
    intro old member
    obtain ⟨middle, among, sameId, sameKey⟩ := before.kept old member
    obtain ⟨row, last, id, key⟩ := after.kept middle among
    exact ⟨row, last, id.trans sameId, key.trans sameKey⟩
  new := by
    intro row member
    rcases after.new row member with ⟨middle, among, id, key⟩ | greater
    next =>
      rcases before.new middle among with ⟨old, first, sameId, sameKey⟩ | above
      next => exact .inl ⟨old, first, sameId.trans id, sameKey.trans key⟩
      next => exact .inr fun old first => id ▸ above old first
    next =>
      refine .inr fun old first => ?_
      obtain ⟨middle, among, sameId, _⟩ := before.kept old first
      exact sameId ▸ greater middle among

theorem extends_putRecord (tables : Tables) (lawful : tables.Lawful) (row : RecordRow)
    (given : tables.idFor row.key = .ok row.id) :
    Extends tables.records (tables.putRecord row).records where
  kept := by
    intro old member
    -- The row that is overwritten had the number by its key, so that the key stays.
    by_cases same : old.id = row.id
    next =>
      have named := (Tables.key_of_idFor tables lawful row.key row.id given old member).1 same
      exact ⟨row, (Tables.mem_putRow RecordRow.id row _ row).2 (.inl rfl), same.symm, named.symm⟩
    next => exact ⟨old, (Tables.mem_putRow RecordRow.id row _ old).2 (.inr ⟨member, same⟩), rfl, rfl⟩
  new := by
    intro other member
    rcases (Tables.mem_putRow RecordRow.id row _ other).1 member with rfl | ⟨old, _⟩
    next =>
      unfold Tables.idFor at given
      cases found : tables.recordOfKey? other.key with
      | some old =>
        rw [found] at given
        obtain ⟨among, named⟩ := Tables.recordOfKey?_eq_some tables other.key old found
        exact .inl ⟨old, among, Except.ok.inj given, named⟩
      | none =>
        rw [found] at given
        exact .inr (Tables.lt_newId tables other.id given)
    next => exact .inl ⟨other, old, rfl, rfl⟩

theorem extends_importRecord (path : String) (known : List Int) (tables after : Tables)
    (listed : Library.ListedRecord) (ready : Tables.Ready known tables)
    (done : tables.importRecord path known listed = .ok after) :
    Extends tables.records after.records /\ after.locked = tables.locked := by
  rw [Tables.importRecord_eq path known tables listed ready] at done
  split at done
  next => cases done
  next =>
    obtain ⟨_, _, done⟩ := bind_eq_ok.1 (mapError_eq_ok.1 done)
    obtain ⟨id, given, done⟩ := bind_eq_ok.1 done
    obtain ⟨creators, _, done⟩ := bind_eq_ok.1 done
    cases done
    exact ⟨extends_putRecord tables ready.1 ⟨id, listed.key, listed.libraryId, listed.itemType⟩ given,
      rfl⟩

theorem extends_importTables (path : String) (listing : Library.Listing) (tables after : Tables)
    (lawful : tables.Lawful) (done : importTables path listing tables = .ok after) :
    Extends tables.records after.records /\ after.locked = tables.locked := by
  obtain ⟨middle, collections, records⟩ := bind_eq_ok.1 done
  -- Collections leave the rows of records alone. Then each record only adds to them.
  have first := foldlM_keeps (fun state => Tables.Lawful state /\ state.records = tables.records /\
      state.locked = tables.locked) _ listing.collections
    (fun state item next _ holds step => by
      have good := Tables.simulates_good (Tables.upsertCollection_simulates state item holds.1) next
        step
      rw [Tables.upsertCollection_eq] at step
      obtain ⟨_, _, step⟩ := bind_eq_ok.1 step
      obtain ⟨_, _, same⟩ := bind_eq_ok.1 step
      cases same
      exact ⟨good, holds.2⟩)
    tables middle ⟨lawful, rfl, rfl⟩ (mapError_eq_ok.1 collections)
  obtain ⟨lawfulMiddle, sameRecords, sameLocked⟩ := first
  have second := foldlM_keeps (fun state =>
      Tables.Ready (middle.collections.map Collection.id) state /\
        Extends tables.records state.records /\ state.locked = tables.locked) _ listing.records
    (fun state item next _ holds step => by
      have ready := Tables.simulates_good
        (Tables.importRecord_simulates path _ state item holds.1) next step
      obtain ⟨more, locked⟩ := extends_importRecord path _ state next item holds.1 step
      exact ⟨ready, holds.2.1.trans more, locked.trans holds.2.2⟩)
    middle after ⟨⟨lawfulMiddle, rfl⟩, sameRecords ▸ .refl _, sameLocked⟩ records
  exact second.2

theorem extends_importFile (path : String) (content : Option String) (tables : Tables)
    (lawful : tables.Lawful) :
    Extends tables.records ((importFile path content).onTables tables).2.records /\
      ((importFile path content).onTables tables).2.locked = tables.locked := by
  unfold Session.onTables
  rw [runOn_importFile]
  cases Library.readListing path content with
  | error error => exact ⟨.refl _, rfl⟩
  | ok listing =>
    dsimp only
    cases done : importTables path listing tables with
    | error error => exact ⟨.refl _, rfl⟩
    | ok after => exact extends_importTables path listing tables after lawful done

theorem loaded_from (tables : Tables) (lawful : tables.Lawful) (ids : List Int)
    (records : List Record) (loaded : tables.load ids = .ok records) :
    ∀ record ∈ records, isStorable record.id = true /\
      ∃ row ∈ tables.records, (row.id, row.key) = record.identity := by
  rw [Tables.load_eq lawful] at loaded
  intro record member
  obtain ⟨id, _, storable, entry, found, rfl⟩ :=
    Library.mem_load tables.library ids records loaded record member
  obtain ⟨among, rfl⟩ := Library.entry?_eq_some tables.library id entry found
  obtain ⟨row, listed, rfl⟩ := (Tables.mem_entries lawful entry).1 among
  exact ⟨storable, row, listed, rfl⟩

structure Workspace.Grows (before after : Workspace) : Prop where
  copies : after.copies.map Record.identity = before.copies.map Record.identity
  records : Extends before.tables.records after.tables.records

structure Workspace.Loses (before after : Workspace) (id : Int) : Prop where
  copies : after.copies = before.copies
  records : after.tables.records = before.tables.records.filter fun row => row.id != id

structure Workspace.Loads (before after : Workspace) (loaded : List Record) : Prop where
  copies : after.copies = before.copies ++ loaded
  records : after.tables.records = before.tables.records
  fromRows : ∀ record ∈ loaded, isStorable record.id = true /\
    ∃ row ∈ before.tables.records, (row.id, row.key) = record.identity

theorem Workspace.Worked.grows {before after : Workspace} (worked : before.Worked after) :
    before.Grows after := ⟨worked.copies, worked.records ▸ .refl _⟩

theorem Workspace.Worked.trans {first second third : Workspace} (before : first.Worked second)
    (after : second.Worked third) : first.Worked third :=
  ⟨after.copies.trans before.copies, after.records.trans before.records,
    after.locked.trans before.locked⟩

theorem perform_cases (workspace : Workspace) (lawful : workspace.tables.Lawful) (action : Action) :
    (workspace.perform action).tables.locked = workspace.tables.locked /\
      (workspace.Grows (workspace.perform action) \/
        (∃ id, action = .delete id /\ workspace.Loses (workspace.perform action) id) \/
        ∃ loaded, workspace.Loads (workspace.perform action) loaded) := by
  have worked (after : Workspace) (step : workspace.Worked after) :
      after.tables.locked = workspace.tables.locked /\
        (workspace.Grows after \/ (∃ id, action = .delete id /\ workspace.Loses after id) \/
          ∃ loaded, workspace.Loads after loaded) :=
    ⟨step.locked, .inl step.grows⟩
  have unchanged := worked workspace ⟨rfl, rfl, rfl⟩
  unfold Workspace.perform
  cases action with
  | importFile path content =>
    obtain ⟨more, locked⟩ := extends_importFile path content workspace.tables lawful
    exact ⟨locked, .inl ⟨rfl, more⟩⟩
  | delete id =>
    dsimp only
    split
    next after deleted =>
      obtain ⟨_, _, same⟩ := bind_eq_ok.1 deleted
      cases same
      exact ⟨rfl, .inr (.inl ⟨id, rfl, rfl, rfl⟩)⟩
    next => exact unchanged
  | load ids =>
    dsimp only
    split
    next records loaded =>
      exact ⟨rfl, .inr (.inr ⟨records, rfl, rfl, loaded_from workspace.tables lawful ids _ loaded⟩)⟩
    next => exact unchanged
  | setField copy name value =>
    exact worked _ (worked_work workspace copy _ fun record tables =>
      leaves_edit record _ tables (record.editedFrom_setField record name value .none))
  | setCreators copy creators =>
    exact worked _ (worked_work workspace copy _ fun record tables =>
      leaves_edit record _ tables (.setCreators record creators .none))
  | save copy objections =>
    exact worked _ (worked_work workspace copy _ fun record tables =>
      leaves_save objections record record tables .none)
  | commit copy changes objections =>
    exact worked _ (worked_work workspace copy _ fun record tables =>
      leaves_commit objections record tables changes)
  | batch copies revision fields objections =>
    dsimp only
    split
    next => exact unchanged
    next =>
      refine worked _ (List.foldlRecOn copies _ (⟨rfl, rfl, rfl⟩ : workspace.Worked workspace)
        fun between kept copy _ => ?_)
      exact kept.trans (worked_work between copy _ fun record tables =>
        leaves_reviseOne objections revision fields record tables)

structure Workspace.Sane (workspace : Workspace) : Prop where
  good : workspace.Good
  unlocked : workspace.tables.locked = false
  storable : ∀ record ∈ workspace.copies, isStorable record.id = true

theorem exists_of_identity (copies others : List Record)
    (same : copies.map Record.identity = others.map Record.identity) (record : Record)
    (member : record ∈ copies) : ∃ other ∈ others, other.identity = record.identity := by
  have listed : record.identity ∈ copies.map Record.identity := List.mem_map_of_mem member
  rw [same] at listed
  exact List.mem_map.1 listed

theorem sane_perform (workspace : Workspace) (action : Action) (sane : workspace.Sane) :
    (workspace.perform action).Sane := by
  obtain ⟨locked, what⟩ := perform_cases workspace sane.good.tables.lawful action
  refine ⟨good_perform workspace action sane.good, locked.trans sane.unlocked, ?_⟩
  intro record member
  rcases what with grows | ⟨id, _, loses⟩ | ⟨loaded, loads⟩
  next =>
    obtain ⟨old, among, same⟩ := exists_of_identity _ _ grows.copies record member
    have fits := sane.storable old among
    rwa [show old.id = record.id from congrArg Prod.fst same] at fits
  next => exact sane.storable record (loses.copies ▸ member)
  next =>
    rw [loads.copies] at member
    rcases List.mem_append.1 member with old | new
    next => exact sane.storable record old
    next => exact (loads.fromRows record new).1

theorem sane_performed (actions : List Action) : (actions.foldl Workspace.perform {}).Sane := by
  have start : Workspace.Sane {} := ⟨⟨represents_empty, by simp⟩, rfl, by simp⟩
  exact List.foldlRecOn actions _ start fun workspace kept action _ =>
    sane_perform workspace action kept

/-- The number of a copy stands for no record but its own. -/
def Owns (record : Record) (tables : Tables) : Prop :=
  ∀ row ∈ tables.records, row.id = record.id -> row.key = record.key

/-- No deletion of a run takes away the record with the greatest number. -/
def SparesGreatest (workspace : Workspace) : List Action -> Prop
  | [] => True
  | action :: rest =>
    (∀ id, action = .delete id -> workspace.tables.hasRecord id = true ->
      ∃ row ∈ workspace.tables.records, id < row.id) /\
        SparesGreatest (workspace.perform action) rest

theorem sparesGreatest_append (first second : List Action) (workspace : Workspace) :
    SparesGreatest workspace (first ++ second) <->
      SparesGreatest workspace first /\
        SparesGreatest (first.foldl Workspace.perform workspace) second := by
  induction first generalizing workspace with
  | nil => simp [SparesGreatest]
  | cons action rest ih => simp [SparesGreatest, ih, and_assoc]

theorem sparesGreatest_of_no_delete (actions : List Action) (workspace : Workspace)
    (kept : ∀ id, .delete id ∉ actions) : SparesGreatest workspace actions := by
  induction actions generalizing workspace with
  | nil => trivial
  | cons action rest ih =>
    refine ⟨fun id isDelete => absurd (by simp [isDelete]) (kept id), ih _ fun id member => ?_⟩
    exact kept id (List.mem_cons_of_mem _ member)

/-- The copy stands for its own record, and no number up to its own is free to be given out. -/
def Reserved (tables : Tables) (record : Record) : Prop :=
  Owns record tables /\ ∃ row ∈ tables.records, record.id <= row.id

theorem reserved_extends (before after : Tables) (old record : Record)
    (more : Extends before.records after.records) (same : old.identity = record.identity)
    (reserved : Reserved before old) : Reserved after record := by
  have sameId : old.id = record.id := congrArg Prod.fst same
  have sameKey : old.key = record.key := congrArg Prod.snd same
  obtain ⟨owns, bound, among, below⟩ := reserved
  constructor
  next =>
    intro row member own
    -- A new row is beyond the bound, and so beyond the number of the copy.
    rcases more.new row member with ⟨first, there, id, key⟩ | greater
    next =>
      rw [← key, ← sameKey]
      exact owns first there (by rw [id, own, sameId])
    next =>
      have above := greater bound among
      omega
  next =>
    obtain ⟨kept, there, id, _⟩ := more.kept bound among
    exact ⟨kept, there, by omega⟩

theorem reserved_perform (workspace : Workspace) (action : Action) (sane : workspace.Sane)
    (spares : ∀ id, action = .delete id -> workspace.tables.hasRecord id = true ->
      ∃ row ∈ workspace.tables.records, id < row.id)
    (reserved : ∀ record ∈ workspace.copies, Reserved workspace.tables record) :
    ∀ record ∈ (workspace.perform action).copies,
      Reserved (workspace.perform action).tables record := by
  obtain ⟨_, what⟩ := perform_cases workspace sane.good.tables.lawful action
  intro record member
  rcases what with grows | ⟨id, isDelete, loses⟩ | ⟨loaded, loads⟩
  next =>
    obtain ⟨old, among, same⟩ := exists_of_identity _ _ grows.copies record member
    exact reserved_extends _ _ old record grows.records same (reserved old among)
  next =>
    rw [loses.copies] at member
    obtain ⟨owns, bound, among, below⟩ := reserved record member
    unfold Reserved Owns
    rw [loses.records]
    refine ⟨fun row listed => owns row (List.mem_filter.1 listed).1, ?_⟩
    by_cases same : bound.id = id
    next =>
      -- The row that bounds the number is the one that goes, but a greater one is left.
      have there := (Tables.hasRecord_iff workspace.tables id).2 (same ▸ List.mem_map_of_mem among)
      obtain ⟨greater, listed, above⟩ := spares id isDelete there
      exact ⟨greater, List.mem_filter.2 ⟨listed, by simpa using Int.ne_of_gt above⟩, by omega⟩
    next => exact ⟨bound, List.mem_filter.2 ⟨among, by simpa using same⟩, below⟩
  next =>
    unfold Reserved Owns
    rw [loads.records]
    rw [loads.copies] at member
    rcases List.mem_append.1 member with old | new
    next => exact reserved record old
    next =>
      obtain ⟨_, row, listed, same⟩ := loads.fromRows record new
      obtain ⟨sameId, sameKey⟩ := Prod.mk.inj same
      refine ⟨fun other among own => ?_, row, listed, Int.le_of_eq sameId.symm⟩
      rw [Tables.row_eq_of_id sane.good.tables.lawful other row among listed (own.trans sameId.symm),
        sameKey]

theorem reserved_performed (actions : List Action) (workspace : Workspace) (sane : workspace.Sane)
    (spares : SparesGreatest workspace actions)
    (reserved : ∀ record ∈ workspace.copies, Reserved workspace.tables record) :
    ∀ record ∈ (actions.foldl Workspace.perform workspace).copies,
      Reserved (actions.foldl Workspace.perform workspace).tables record := by
  induction actions generalizing workspace with
  | nil => exact reserved
  | cons action rest ih =>
    exact ih (workspace.perform action) (sane_perform workspace action sane) spares.2
      (reserved_perform workspace action sane spares.1 reserved)

end BibEdit.Database
