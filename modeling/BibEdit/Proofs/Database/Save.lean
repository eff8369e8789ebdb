import BibEdit.Database.Save
import BibEdit.Proofs.Database.Parts
import BibEdit.Proofs.Database.Session
import BibEdit.Proofs.Library.Save
import BibEdit.Proofs.Lookup

set_option autoImplicit false

namespace BibEdit.Database

def FieldRow.key (row : FieldRow) : Int × String := (row.recordId, row.name)

namespace Tables

theorem hasField_iff (tables : Tables) (id : Int) (name : String) :
    tables.hasField id name = true <-> (id, name) ∈ tables.fields.map FieldRow.key := by
  simp [hasField, FieldRow.key]

def putField (tables : Tables) (row : FieldRow) : Tables :=
  { tables with fields := putRow FieldRow.key row tables.fields }

theorem upsertField_eq (tables : Tables) (id : Int) (name value : String)
    (there : tables.hasRecord id = true) :
    tables.upsertField id name (some value) =
      if tables.locked && tables.hasField id name then .error (.constraint "read only")
      else .ok (tables.putField ⟨id, name, value⟩) := by
  unfold upsertField putField putRow
  by_cases taken : tables.hasField id name = true
  next =>
    have listed := (hasField_iff tables id name).1 taken
    cases locked : tables.locked with
    | true => simp [taken]
    | false => simp [taken, FieldRow.key, listed]
  next =>
    have absent := mt (hasField_iff tables id name).2 taken
    simp [taken, FieldRow.key, absent, there, requireReferenced]

theorem upsertField_eq_ok (tables after : Tables) (id : Int) (name : String) (value : Option String)
    (there : tables.hasRecord id = true) (written : tables.upsertField id name value = .ok after) :
    ∃ text, value = some text /\ after = tables.putField ⟨id, name, text⟩ := by
  cases value with
  | none => cases written
  | some text =>
    rw [upsertField_eq tables id name text there] at written
    split at written
    next => cases written
    next =>
      cases written
      exact ⟨text, rfl, rfl⟩

theorem lawful_putField (tables : Tables) (row : FieldRow) (lawful : tables.Lawful)
    (there : tables.hasRecord row.recordId = true) : (tables.putField row).Lawful :=
  { lawful with
    fieldKeys := nodup_putRow FieldRow.key row _ lawful.fieldKeys
    fieldRecords := by
      intro other member
      rcases (mem_putRow FieldRow.key row _ other).1 member with rfl | ⟨old, _⟩
      next => exact there
      next => exact lawful.fieldRecords other old }

structure FieldsWritten (record : Record) (names : List String) (before after : Tables) : Prop where
  others : after = { before with fields := after.fields }
  fields : ∀ row, row ∈ after.fields <->
    if row.recordId = record.id /\ row.name ∈ names then
      record.fields.lookup row.name = some (some row.value)
    else row ∈ before.fields
  given : ∀ name ∈ names, ∃ value, record.fields.lookup name = some (some value)
  lawful : before.Lawful -> after.Lawful

theorem fieldsWritten_nil (record : Record) (tables : Tables) :
    FieldsWritten record [] tables tables where
  others := rfl
  fields := by simp
  given := by simp
  lawful lawful := lawful

theorem fieldsWritten_cons (record : Record) (name value : String) (rest : List String)
    (before after : Tables) (there : before.hasRecord record.id = true)
    (given : record.fields.lookup name = some (some value))
    (later : FieldsWritten record rest (before.putField ⟨record.id, name, value⟩) after) :
    FieldsWritten record (name :: rest) before after where
  others := later.others
  fields := by
    intro row
    rw [later.fields row]
    have members := mem_putRow FieldRow.key ⟨record.id, name, value⟩ before.fields row
    have put : row ∈ (before.putField ⟨record.id, name, value⟩).fields <->
        if row.recordId = record.id /\ row.name = name then row.value = value
        else row ∈ before.fields := by
      rw [putField, members]
      obtain ⟨id, other, text⟩ := row
      by_cases own : id = record.id /\ other = name
      next =>
        obtain ⟨rfl, rfl⟩ := own
        simp [FieldRow.key]
      next =>
        have differs : ¬ (id = record.id /\ other = name /\ text = value) := fun all =>
          own ⟨all.1, all.2.1⟩
        simp [FieldRow.key, own, differs]
    -- A field that is given once more later on is given the same value.
    by_cases listed : row.recordId = record.id /\ row.name ∈ rest
    next => simp [listed]
    next =>
      rw [if_neg listed, put]
      by_cases own : row.recordId = record.id /\ row.name = name
      next => simp [own, given, eq_comm]
      next =>
        have unlisted : ¬ (row.recordId = record.id /\ row.name ∈ name :: rest) := by
          rintro ⟨same, member⟩
          rcases List.mem_cons.1 member with is | among
          next => exact own ⟨same, is⟩
          next => exact listed ⟨same, among⟩
        rw [if_neg own, if_neg unlisted]
  given := by
    intro other member
    rcases List.mem_cons.1 member with rfl | among
    next => exact ⟨value, given⟩
    next => exact later.given other among
  lawful lawful := later.lawful (lawful_putField before _ lawful there)

def upsertFields (record : Record) (names : List String) (tables : Tables) : Except Fault Tables :=
  names.foldlM (fun tables name =>
    tables.upsertField record.id name (record.fields.lookup name).join) tables

theorem upsertFields_eq_ok (record : Record) (names : List String) (tables after : Tables)
    (there : tables.hasRecord record.id = true)
    (written : tables.upsertFields record names = .ok after) :
    FieldsWritten record names tables after := by
  induction names generalizing tables with
  | nil =>
    cases written
    exact fieldsWritten_nil record _
  | cons name rest ih =>
    rw [upsertFields, List.foldlM_cons] at written
    obtain ⟨next, first, later⟩ := bind_eq_ok.1 written
    obtain ⟨value, given, rfl⟩ := upsertField_eq_ok tables next record.id name _ there first
    rw [Option.join_eq_some_iff] at given
    exact fieldsWritten_cons record name value rest tables after there given
      (ih _ there later)

def withCreators (record : Record) (tables : Tables) : Tables :=
  if record.dirtyCreators then
    { tables with
      creators := tables.creators.filter (fun row => row.recordId != record.id) ++
        creatorRows record.id 1 record.creators }
  else tables

theorem lawful_withCreators (record : Record) (tables : Tables) (lawful : tables.Lawful)
    (there : tables.hasRecord record.id = true) : (tables.withCreators record).Lawful := by
  have own := fun row member => (mem_creatorRows record.id record.creators 1 row member).1
  unfold withCreators
  split
  next =>
    exact { lawful with
      creatorKeys := nodup_replaced CreatorRow.recordId record.id _ _ _ (by simp +contextual) own
        lawful.creatorKeys
        (nodup_own_keys _ _ _ ((ascending_creatorRows record.id record.creators 1).nodup_ranks _))
      creatorRecords := forall_replaced CreatorRow.recordId record.id _ _ _ lawful.creatorRecords
        fun row member => own row member ▸ there }
  next => exact lawful

def performAll (writes : List Write) (tables : Tables) : Except Fault Tables :=
  writes.foldlM (fun tables write => write.perform tables) tables

theorem insertCreators_performed (record : Record) (tables : Tables)
    (there : tables.hasRecord record.id = true) :
    performAll ((record.creators.zipIdx 1).map fun placed =>
        .insertCreator record.id placed.1 placed.2) (tables.deleteCreators record.id) =
      .ok { tables with
        creators := tables.creators.filter (fun row => row.recordId != record.id) ++
          creatorRows record.id 1 record.creators } := by
  -- Every position is free once the creators before are gone.
  have fresh : ∀ row ∈ (tables.deleteCreators record.id).creators, row.recordId = record.id ->
      row.position < 1 := by
    intro row member same
    exact absurd same (by simpa using (List.mem_filter.1 member).2)
  have inserted := insertCreators_eq record.id (record.creators.map fun creator =>
    creator.map Toml.Value.string) 1 (tables.deleteCreators record.id) there fresh
  have stored : (record.creators.map fun creator => creator.map Toml.Value.string).mapM
      Library.storedCreator = .ok record.creators := by
    rw [mapM_eq_ok, List.forall₂_map_left_iff, List.forall₂_same]
    exact fun creator _ => rfl
  rw [stored, List.zipIdx_map, List.foldlM_map] at inserted
  rw [performAll, List.foldlM_map]
  exact inserted

theorem performAll_writesOf (record : Record) (tables : Tables)
    (there : tables.hasRecord record.id = true) :
    performAll (writesOf record) tables =
      (tables.upsertFields record (Library.sortNames record.dirtyFields)).map fun after =>
        after.withCreators record := by
  unfold writesOf performAll
  rw [List.foldlM_append, List.foldlM_map]
  show (tables.upsertFields record (Library.sortNames record.dirtyFields) >>= _) = _
  cases written : tables.upsertFields record (Library.sortNames record.dirtyFields) with
  | error fault => rfl
  | ok after =>
    -- The fields leave the record where it is, so its creators can refer to it.
    have kept := upsertFields_eq_ok record _ tables after there written
    have stillThere : after.hasRecord record.id = true := by
      rw [kept.others]
      exact there
    rw [ok_bind]
    cases changed : record.dirtyCreators with
    | false => simp [withCreators, changed, Except.map, pure, Except.pure]
    | true =>
      rw [if_pos rfl, List.foldlM_cons]
      show performAll _ (after.deleteCreators record.id) = _
      rw [insertCreators_performed record after stillThere]
      simp [withCreators, changed, Except.map]

theorem attempt_eq_ok (objections : Objections) (tables after : Tables) (write : Write)
    (done : tables.attempt objections write = .ok after) : write.perform tables = .ok after := by
  unfold attempt at done
  split at done
  next => cases done
  next => exact done

theorem performAll_of_attempts (objections : Objections) (writes : List Write)
    (tables after : Tables) (done : writes.foldlM (attempt objections) tables = .ok after) :
    performAll writes tables = .ok after := by
  induction writes generalizing tables with
  | nil => exact done
  | cons write rest ih =>
    rw [List.foldlM_cons] at done
    obtain ⟨next, first, later⟩ := bind_eq_ok.1 done
    rw [performAll, List.foldlM_cons, attempt_eq_ok objections tables next write first]
    exact ih next later

/-- What is stored of a record after a save: the fields and creators that were changed, in the place
of what was there, and next to them every other row. -/
structure Stored (record : Record) (before after : Tables) : Prop where
  others : after = { before with fields := after.fields, creators := after.creators }
  fields : ∀ row, row ∈ after.fields <->
    if row.recordId = record.id /\ row.name ∈ record.dirtyFields then
      record.fields.lookup row.name = some (some row.value)
    else row ∈ before.fields
  given : ∀ name ∈ record.dirtyFields, ∃ value, record.fields.lookup name = some (some value)
  creators : after.creators =
    if record.dirtyCreators then
      before.creators.filter (fun row => row.recordId != record.id) ++
        creatorRows record.id 1 record.creators
    else before.creators
  lawful : before.Lawful -> after.Lawful

theorem stored_of_clean (record : Record) (tables : Tables) (clean : record.isDirty = false) :
    Stored record tables tables := by
  simp only [Record.isDirty, Bool.or_eq_false_iff, Bool.not_eq_false', List.isEmpty_iff] at clean
  exact {
    others := rfl
    fields := by simp [clean.1]
    given := by simp [clean.1]
    creators := by simp [clean.2]
    lawful := fun lawful => lawful }

theorem stored_of_performAll (record : Record) (tables after : Tables)
    (there : tables.hasRecord record.id = true)
    (done : performAll (writesOf record) tables = .ok after) : Stored record tables after := by
  rw [performAll_writesOf record tables there] at done
  obtain ⟨middle, written, rfl⟩ := map_eq_ok.1 done
  have kept := upsertFields_eq_ok record _ tables middle there written
  have fields : (middle.withCreators record).fields = middle.fields := by
    unfold withCreators
    split <;> rfl
  have creators : middle.creators = tables.creators := by rw [kept.others]
  exact {
    others := by
      rw [fields]
      unfold withCreators
      split
      next => rw [kept.others]
      next => exact kept.others.trans (by rw [creators])
    fields := by
      intro row
      simp only [fields, kept.fields row, Library.sortNames_mem]
    given := fun name member => kept.given name ((Library.sortNames_mem _ name).2 member)
    creators := by
      unfold withCreators
      rw [kept.others]
      split <;> rfl
    lawful := fun lawful => lawful_withCreators record middle (kept.lawful lawful) (by
      rw [kept.others]
      exact there) }

end Tables

def Tables.writeRecord (objections : Objections) (record : Record) (tables : Tables) :
    Except Fault Tables := do
  if <- recordExists record.id tables then
    (writesOf record).foldlM (Tables.attempt objections) tables
  else throw (.gone record.key)

theorem writeRecord_follows (objections : Objections) (record : Record) :
    (writeRecord objections record).Follows fun tables =>
      (tables.writeRecord objections record).map fun after => ((), after) := by
  have each := Session.follows_forM (writesOf record)
    (fun write => Session.execute (fun fault => fault) fun tables => tables.attempt objections write)
    (Tables.attempt objections)
    fun write _ => (Session.follows_execute _ _).congr fun tables => by
      cases tables.attempt objections write <;> rfl
  have whole := Session.follows_bind (Session.query (recordExists record.id))
    (fun there => if there then
        (writesOf record).forM fun write =>
          Session.execute (fun fault => fault) fun tables => tables.attempt objections write
      else throw (.gone record.key))
    _ (fun there tables => if there then
        ((writesOf record).foldlM (Tables.attempt objections) tables).map fun after => ((), after)
      else .error (.gone record.key))
    (Session.follows_query (recordExists record.id)) fun there => by
      cases there with
      | true => exact each
      | false => exact Session.follows_throw _
  refine whole.congr fun tables => ?_
  unfold Tables.writeRecord
  cases recordExists record.id tables with
  | error fault => rfl
  | ok there => cases there <;> rfl

theorem save_changed (objections : Objections) (record : Record) (tables : Tables)
    (dirty : record.isDirty = true) :
    save objections true record tables =
      match tables.writeRecord objections record with
      | .ok after => ⟨.ok (), record.clean, after⟩
      | .error fault => ⟨.error fault, record, tables⟩ := by
  have ran := Session.runOn_transaction_of_follows _ _ (writeRecord_follows objections record) tables
  unfold save
  rw [if_neg (by simp), if_neg (by simp [dirty]), Session.onTables, ran]
  cases tables.writeRecord objections record <;> rfl

namespace Tables

section Reading

variable {tables : Tables} (lawful : tables.Lawful)

include lawful in
theorem mem_fields_entryOf (row : RecordRow) (field : String × String) :
    field ∈ (tables.entryOf row).fields <-> ⟨row.id, field.1, field.2⟩ ∈ tables.fields := by
  have names := nodup_own_ranks FieldRow.recordId FieldRow.name tables.fields lawful.fieldKeys row.id
  rw [entryOf, mem_sortBy _ (by simpa [Function.comp_def] using names)]
  simp only [List.mem_map, List.mem_filter, beq_iff_eq]
  constructor
  next =>
    rintro ⟨old, ⟨member, same⟩, rfl⟩
    rw [← same]
    exact member
  next => exact fun member => ⟨_, ⟨member, rfl⟩, rfl⟩

theorem ascending_fields_entryOf (tables : Tables) (row : RecordRow) :
    Ascending Prod.fst (tables.entryOf row).fields := ascending_sortBy _

include lawful in
theorem hasField_entryOf (row : RecordRow) (name : String) :
    tables.hasField row.id name = ((tables.entryOf row).fields.lookup name).isSome := by
  rw [Bool.eq_iff_iff, hasField_iff, Option.isSome_iff_exists]
  have found (value : String) := lookup_eq_some_iff (tables.entryOf row).fields
    ((ascending_fields_entryOf tables row).nodup_ranks _) name value
  simp only [found, mem_fields_entryOf lawful, List.mem_map, FieldRow.key, Prod.mk.injEq]
  constructor
  next =>
    rintro ⟨old, member, same, named⟩
    exact ⟨old.value, by rwa [← same, ← named]⟩
  next => exact fun ⟨value, member⟩ => ⟨_, member, rfl, rfl⟩

include lawful in
theorem entryOf_putField (row : RecordRow) (name value : String)
    (there : tables.hasRecord row.id = true) :
    (tables.putField ⟨row.id, name, value⟩).entryOf row = { tables.entryOf row with
      fields := BibEdit.putField name value (tables.entryOf row).fields } := by
  have put := lawful_putField tables ⟨row.id, name, value⟩ lawful there
  have fields : ((tables.putField ⟨row.id, name, value⟩).entryOf row).fields =
      BibEdit.putField name value (tables.entryOf row).fields := by
    refine Ascending.ext _ _ (ascending_fields_entryOf _ row)
      (ascending_place _ _ (ascending_fields_entryOf tables row)) fun field => ?_
    rw [mem_fields_entryOf put, BibEdit.putField, mem_place _ _ _
      (ascending_fields_entryOf tables row),
      mem_fields_entryOf lawful, putField, mem_putRow]
    simp [FieldRow.key, Prod.ext_iff]
  rw [← fields]
  rfl

end Reading

theorem upsertField_simulates (tables : Tables) (lawful : tables.Lawful) (row : RecordRow)
    (id : Int) (own : row.id = id) (there : tables.hasRecord id = true) (name : String)
    (value : Option String) :
    match Library.writeField tables.locked (tables.entryOf row).fields name value with
    | .error fault => tables.upsertField id name value = .error fault
    | .ok fields => ∃ text, tables.upsertField id name value =
          .ok (tables.putField ⟨id, name, text⟩) /\
        ((tables.putField ⟨id, name, text⟩).entryOf row).fields = fields := by
  subst own
  unfold Library.writeField
  cases value with
  | none => rfl
  | some text =>
    have written := upsertField_eq tables row.id name text there
    rw [hasField_entryOf lawful] at written
    dsimp only
    -- Both refuse to change a value while the library is locked, and nothing else.
    by_cases refused : (tables.locked && ((tables.entryOf row).fields.lookup name).isSome) = true
    next =>
      rw [if_pos refused] at written ⊢
      exact written
    next =>
      rw [if_neg refused] at written ⊢
      refine ⟨text, written, ?_⟩
      rw [entryOf_putField lawful row name text there]

theorem upsertFields_simulates (record : Record) (names : List String) (tables : Tables)
    (lawful : tables.Lawful) (row : RecordRow) (own : row.id = record.id)
    (there : tables.hasRecord record.id = true) :
    match names.foldlM (fun fields name => Library.writeField tables.locked fields name
        (record.fields.lookup name).join) (tables.entryOf row).fields with
    | .error fault => tables.upsertFields record names = .error fault
    | .ok fields => ∃ after, tables.upsertFields record names = .ok after /\
        (after.entryOf row).fields = fields := by
  induction names generalizing tables with
  | nil => exact ⟨tables, rfl, rfl⟩
  | cons name rest ih =>
    have here := upsertField_simulates tables lawful row record.id own there name
      (record.fields.lookup name).join
    rw [List.foldlM_cons, upsertFields, List.foldlM_cons]
    cases wrote : Library.writeField tables.locked (tables.entryOf row).fields name
        (record.fields.lookup name).join with
    | error fault =>
      rw [wrote] at here
      rw [error_bind, here, error_bind]
    | ok fields =>
      rw [wrote] at here
      obtain ⟨text, put, rfl⟩ := here
      rw [ok_bind, put, ok_bind]
      exact ih (tables.putField ⟨record.id, name, text⟩) (lawful_putField tables _ lawful there) there

theorem entryOf_of_stored_of_ne (record : Record) (tables after : Tables) (lawful : tables.Lawful)
    (stored : Stored record tables after) (row : RecordRow) (apart : row.id ≠ record.id) :
    after.entryOf row = tables.entryOf row := by
  have fields : (after.entryOf row).fields = (tables.entryOf row).fields := by
    refine Ascending.ext _ _ (ascending_fields_entryOf after row) (ascending_fields_entryOf tables row)
      fun field => ?_
    rw [mem_fields_entryOf (stored.lawful lawful), mem_fields_entryOf lawful, stored.fields,
      if_neg fun own => apart own.1]
  have creators : after.creators.filter (fun old => old.recordId == row.id) =
      tables.creators.filter fun old => old.recordId == row.id := by
    rw [stored.creators]
    split
    next =>
      exact filter_replaced_of_ne CreatorRow.recordId record.id tables.creators
        (creatorRows record.id 1 record.creators)
        (fun old member => (mem_creatorRows record.id _ 1 old member).1) row.id apart
    next => rfl
  have unfolded : after.entryOf row = { tables.entryOf row with
      fields := (after.entryOf row).fields
      creators := (sortBy CreatorRow.position (after.creators.filter fun old =>
        old.recordId == row.id)).map CreatorRow.creator } := by
    rw [stored.others]
    rfl
  rw [unfolded, fields, creators]
  rfl

theorem creators_entryOf_withCreators (record : Record) (tables : Tables) (row : RecordRow)
    (own : row.id = record.id) :
    (tables.withCreators record).entryOf row = { tables.entryOf row with
      creators := if record.dirtyCreators then record.creators else
        (tables.entryOf row).creators } := by
  have replaced := filter_replaced_self CreatorRow.recordId record.id tables.creators
    (creatorRows record.id 1 record.creators)
    (fun old member => (mem_creatorRows record.id _ 1 old member).1)
  unfold withCreators
  cases record.dirtyCreators with
  | false => rfl
  | true =>
    simp only [entryOf, if_true, own, replaced,
      sortBy_of_ascending _ (ascending_creatorRows record.id record.creators 1),
      map_creator_creatorRows]

theorem library_eq_putEntry (tables after : Tables) (lawful : tables.Lawful) (row : RecordRow)
    (member : row ∈ tables.records) (records : after.records = tables.records)
    (collections : after.collections = tables.collections) (locked : after.locked = tables.locked)
    (lawfulAfter : after.Lawful)
    (others : ∀ other, other.id ≠ row.id -> after.entryOf other = tables.entryOf other) :
    after.library = tables.library.putEntry (after.entryOf row) := by
  have entries :
      after.library.entries = place Entry.id (after.entryOf row) tables.library.entries := by
    -- Both lists ascend, so that they need only have the same members.
    refine Ascending.ext _ _ (ascending_entries after)
      (ascending_place _ _ (ascending_entries tables)) fun entry => ?_
    rw [mem_entries lawfulAfter, mem_place _ _ _ (ascending_entries tables), mem_entries lawful,
      records]
    constructor
    next =>
      rintro ⟨other, among, rfl⟩
      by_cases same : other.id = row.id
      next =>
        rw [row_eq_of_id lawful other row among member same]
        exact .inl rfl
      next => exact .inr ⟨⟨other, among, (others other same).symm⟩, same⟩
    next =>
      rintro (rfl | ⟨⟨other, among, rfl⟩, apart⟩)
      next => exact ⟨row, member, rfl⟩
      next => exact ⟨other, among, others other apart⟩
  have rest : after.library = { tables.library with entries := after.library.entries } := by
    simp [library, collections, locked]
  rw [rest, entries]
  rfl

theorem entry?_of_row (tables : Tables) (lawful : tables.Lawful) (row : RecordRow)
    (member : row ∈ tables.records) : tables.library.entry? row.id = some (tables.entryOf row) :=
  Library.entry?_of_mem tables.library (ascending_entries tables) (tables.entryOf row)
    ((mem_entries lawful _).2 ⟨row, member, rfl⟩)

theorem entry?_of_no_record (tables : Tables) (lawful : tables.Lawful) (id : Int)
    (gone : tables.hasRecord id = false) : tables.library.entry? id = none := by
  rw [Library.entry?, List.find?_eq_none]
  intro entry member
  obtain ⟨row, among, rfl⟩ := (mem_entries lawful entry).1 member
  have differs : row.id ≠ id := fun same => by
    have there := (hasRecord_iff tables id).2 (same ▸ List.mem_map_of_mem among)
    rw [gone] at there
    cases there
  simpa [entryOf] using differs

theorem performAll_simulates (record : Record) (tables : Tables) (lawful : tables.Lawful)
    (row : RecordRow) (member : row ∈ tables.records) (own : row.id = record.id) :
    match Library.updated tables.locked record (tables.entryOf row) with
    | .error fault => performAll (writesOf record) tables = .error fault
    | .ok entry => ∃ after, performAll (writesOf record) tables = .ok after /\
        after.library = tables.library.putEntry entry := by
  have there : tables.hasRecord record.id = true :=
    (hasRecord_iff tables record.id).2 (own ▸ List.mem_map_of_mem member)
  have fields := upsertFields_simulates record (Library.sortNames record.dirtyFields) tables lawful
    row own there
  rw [performAll_writesOf record tables there]
  unfold Library.updated Library.writeFields
  cases written : (Library.sortNames record.dirtyFields).foldlM (fun fields name =>
      Library.writeField tables.locked fields name (record.fields.lookup name).join)
      (tables.entryOf row).fields with
  | error fault =>
    rw [written] at fields
    rw [error_bind, fields]
    rfl
  | ok entryFields =>
    rw [written] at fields
    obtain ⟨middle, done, rfl⟩ := fields
    -- All entries but the one of the record read as before, and that one as the updated entry.
    have stored := stored_of_performAll record tables (middle.withCreators record) there (by
      rw [performAll_writesOf record tables there, done]
      rfl)
    have kept := upsertFields_eq_ok record _ tables middle there done
    refine ⟨middle.withCreators record, by rw [done]; rfl, ?_⟩
    rw [library_eq_putEntry tables (middle.withCreators record) lawful row member
      (by rw [stored.others]) (by rw [stored.others]) (by rw [stored.others])
      (stored.lawful lawful) fun other apart =>
        entryOf_of_stored_of_ne record tables _ lawful stored other (own ▸ apart),
      creators_entryOf_withCreators record middle row own]
    have unfolded : middle.entryOf row = { tables.entryOf row with
        fields := (middle.entryOf row).fields } := by
      rw [kept.others]
      rfl
    rw [unfolded]

end Tables

theorem recordExists_storable (id : Int) (tables : Tables) (storable : isStorable id = true) :
    recordExists id tables = .ok (tables.hasRecord id) := by
  simp [recordExists, requireStorable, storable, ok_bind, pure, Except.pure]

theorem writeRecord_eq_ok (objections : Objections) (record : Record) (tables after : Tables) :
    tables.writeRecord objections record = .ok after <->
      isStorable record.id = true /\ tables.hasRecord record.id = true /\
        (writesOf record).foldlM (Tables.attempt objections) tables = .ok after := by
  unfold Tables.writeRecord
  by_cases storable : isStorable record.id = true
  next =>
    rw [recordExists_storable record.id tables storable, ok_bind]
    cases tables.hasRecord record.id with
    | true => simp [storable]
    | false => simp [throw, throwThe, MonadExceptOf.throw]
  next => simp [recordExists, requireStorable, storable, bind, Except.bind]

theorem save_detached (objections : Objections) (record : Record) (tables : Tables) :
    save objections false record tables = ⟨.error (.detached record.key), record, tables⟩ := rfl

theorem save_clean (objections : Objections) (record : Record) (tables : Tables)
    (clean : record.isDirty = false) :
    save objections true record tables = ⟨.ok (), record, tables⟩ := by
  simp [save, clean]

/-- Without objections the tables read after a save as the library does after the save of an entry. -/
theorem save_agrees (record : Record) (tables : Tables) (lawful : tables.Lawful)
    (storable : isStorable record.id = true) :
    ((save noObjections true record tables).result.map fun _ => record.clean) =
        (Library.save record tables.library).1 /\
      (save noObjections true record tables).tables.library =
        (Library.save record tables.library).2 := by
  by_cases dirty : record.isDirty = true
  next =>
    rw [save_changed noObjections record tables dirty,
      Library.save_of_dirty record tables.library dirty]
    unfold Tables.writeRecord
    rw [recordExists_storable record.id tables storable, ok_bind]
    cases there : tables.hasRecord record.id with
    | false =>
      rw [Tables.entry?_of_no_record tables lawful record.id there]
      exact ⟨rfl, rfl⟩
    | true =>
      obtain ⟨row, member, own⟩ := List.mem_map.1 ((Tables.hasRecord_iff tables record.id).1 there)
      have simulates := Tables.performAll_simulates record tables lawful row member own
      have found := own ▸ Tables.entry?_of_row tables lawful row member
      have plain : (writesOf record).foldlM (Tables.attempt noObjections) tables =
          Tables.performAll (writesOf record) tables := rfl
      have locked : tables.library.locked = tables.locked := rfl
      rw [found, if_pos rfl, plain, locked]
      dsimp only
      cases spec : Library.updated tables.locked record (tables.entryOf row) with
      | error fault =>
        rw [spec] at simulates
        rw [simulates]
        exact ⟨rfl, rfl⟩
      | ok entry =>
        rw [spec] at simulates
        obtain ⟨after, done, same⟩ := simulates
        rw [done]
        exact ⟨rfl, same⟩
  next =>
    rw [Bool.not_eq_true] at dirty
    have untouched : Library.save record tables.library = (.ok record, tables.library) := by
      simp [Library.save, dirty]
    rw [save_clean noObjections record tables dirty, untouched, record.clean_of_not_dirty dirty]
    exact ⟨rfl, rfl⟩

/-- A save has stored everything, or it failed and did nothing. -/
theorem save_cases (objections : Objections) (attached : Bool) (record : Record) (tables : Tables) :
    ((save objections attached record tables).result = .ok () /\
        (save objections attached record tables).record = record.clean /\
        Tables.Stored record tables (save objections attached record tables).tables) \/
      ((∃ fault, (save objections attached record tables).result = .error fault) /\
        (save objections attached record tables).record = record /\
        (save objections attached record tables).tables = tables) := by
  cases attached with
  | false =>
    rw [save_detached]
    exact .inr ⟨⟨_, rfl⟩, rfl, rfl⟩
  | true =>
    cases dirty : record.isDirty with
    | false =>
      rw [save_clean objections record tables dirty]
      exact .inl ⟨rfl, (record.clean_of_not_dirty dirty).symm,
        Tables.stored_of_clean record tables dirty⟩
    | true =>
      rw [save_changed objections record tables dirty]
      cases written : tables.writeRecord objections record with
      | error fault => exact .inr ⟨⟨fault, rfl⟩, rfl, rfl⟩
      | ok after =>
        obtain ⟨_, there, done⟩ := (writeRecord_eq_ok objections record tables after).1 written
        exact .inl ⟨rfl, rfl, Tables.stored_of_performAll record tables after there
          (Tables.performAll_of_attempts objections _ tables after done)⟩

theorem save_succeeds_iff (objections : Objections) (attached : Bool) (record : Record)
    (tables : Tables) :
    (save objections attached record tables).result = .ok () <->
      attached = true /\ (record.isDirty = true -> isStorable record.id = true /\
        tables.hasRecord record.id = true /\
        ∃ after, (writesOf record).foldlM (Tables.attempt objections) tables = .ok after) := by
  cases attached with
  | false => simp [save_detached]
  | true =>
    cases dirty : record.isDirty with
    | false => simp [save_clean objections record tables dirty]
    | true =>
      have succeeds := writeRecord_eq_ok objections record tables
      rw [save_changed objections record tables dirty]
      cases written : tables.writeRecord objections record with
      | error fault =>
        simp only [written, reduceCtorEq, false_iff, not_and] at succeeds
        simp only [reduceCtorEq, false_iff, not_and, true_implies, not_exists]
        exact fun storable there after => succeeds after storable there
      | ok after =>
        obtain ⟨storable, there, done⟩ := (succeeds after).1 written
        exact ⟨fun _ => ⟨rfl, fun _ => ⟨storable, there, after, done⟩⟩, fun _ => rfl⟩

/-- A save that succeeds has stored what was changed and cleared the marks; one that fails, at
whatever statement, leaves the rows and the record as they were. It succeeds exactly if the record
belongs to a library, and is still there with no statement refused if anything was changed. Where
nothing is refused for other reasons, the library that is read afterwards is the one that the save
of an entry makes. -/
theorem save_all_or_nothing (objections : Objections) (attached : Bool) (record : Record)
    (tables : Tables) :
    ((save objections attached record tables).result = .ok () ->
      (save objections attached record tables).record = record.clean /\
        Tables.Stored record tables (save objections attached record tables).tables) /\
    (∀ fault, (save objections attached record tables).result = .error fault ->
      (save objections attached record tables).record = record /\
        (save objections attached record tables).tables = tables) /\
    ((save objections attached record tables).result = .ok () <->
      attached = true /\ (record.isDirty = true -> isStorable record.id = true /\
        tables.hasRecord record.id = true /\
        ∃ after, (writesOf record).foldlM (Tables.attempt objections) tables = .ok after)) /\
    (tables.Lawful -> isStorable record.id = true ->
      ((save noObjections true record tables).result.map fun _ => record.clean) =
          (Library.save record tables.library).1 /\
        (save noObjections true record tables).tables.library =
          (Library.save record tables.library).2) := by
  refine ⟨?_, ?_, save_succeeds_iff objections attached record tables, save_agrees record tables⟩
  next =>
    intro succeeded
    rcases save_cases objections attached record tables with ⟨_, done⟩ | ⟨⟨fault, failed⟩, _⟩
    next => exact done
    next => cases failed.symm.trans succeeded
  next =>
    intro fault failed
    rcases save_cases objections attached record tables with ⟨succeeded, _⟩ | ⟨_, unchanged⟩
    next => cases succeeded.symm.trans failed
    next => exact unchanged

def bookTables : Tables where
  records := [⟨1, "A", 1, some "book"⟩]
  fields := [⟨1, "title", "Old"⟩]
  creators := [⟨1, 1, ⟨"Ada", "Lovelace", "", "author"⟩⟩]

def editedBook : Record where
  id := 1
  key := "A"
  libraryId := 1
  itemType := some "book"
  fields := [("title", some "New")]
  creators := [⟨"Ada", "Byron", "", "author"⟩]
  tags := []
  collections := []
  dirtyFields := ["title"]
  dirtyCreators := true

/-- No creator can be inserted, which shows only after the title and the deletion. -/
def noCreators : Objections
  | _, .insertCreator _ _ _ => some (.constraint "read only")
  | _, _ => none

theorem save_all_or_nothing_book :
    (∃ fault, (save noCreators true editedBook bookTables).result = .error fault) /\
      (save noCreators true editedBook bookTables).record = editedBook /\
      (save noCreators true editedBook bookTables).tables = bookTables /\
      (save noObjections true editedBook bookTables).result = .ok () /\
      Tables.Stored editedBook bookTables (save noObjections true editedBook bookTables).tables /\
      bookTables.Lawful /\ isStorable editedBook.id = true /\
      (save noObjections true editedBook bookTables).tables.library =
        (Library.save editedBook bookTables.library).2 := by
  have lawful : bookTables.Lawful := by constructor <;> decide
  obtain ⟨fault, refused⟩ := exists_error_of_toOption
    (show (save noCreators true editedBook bookTables).result.toOption = none by decide +kernel)
  have succeeds := eq_ok_of_toOption
    (show (save noObjections true editedBook bookTables).result.toOption = some () by
      decide +kernel)
  obtain ⟨_, fails, _⟩ := save_all_or_nothing noCreators true editedBook bookTables
  obtain ⟨stores, _, _, agrees⟩ := save_all_or_nothing noObjections true editedBook bookTables
  obtain ⟨sameRecord, sameTables⟩ := fails fault refused
  exact ⟨⟨fault, refused⟩, sameRecord, sameTables, succeeds, (stores succeeds).2, lawful,
    by decide, (agrees lawful (by decide)).2⟩

example : (save noObjections true editedBook bookTables).tables =
    { bookTables with
      fields := [⟨1, "title", "New"⟩]
      creators := [⟨1, 1, ⟨"Ada", "Byron", "", "author"⟩⟩] } := by
  decide +kernel

end BibEdit.Database
