import BibEdit.Proofs.Database.Keys
import BibEdit.Proofs.Database.Numbers

set_option autoImplicit false

namespace BibEdit.Database

/-- A save changes no record with another key, and fails if there is something to save and no record
with the key. -/
structure SavesOwn (objections : Objections) (record : Record) (tables : Tables) : Prop where
  others : ∀ key, key ≠ record.key ->
    (save objections true record tables).tables.library.entryOfKey? key =
      tables.library.entryOfKey? key
  gone : tables.library.entryOfKey? record.key = none -> record.isDirty = true ->
    (save objections true record tables).result = .error (.gone record.key) /\
      (save objections true record tables).tables = tables

theorem savesOwn_of_owns (objections : Objections) (record : Record) (tables : Tables)
    (lawful : tables.Lawful) (storable : isStorable record.id = true) (owns : Owns record tables) :
    SavesOwn objections record tables where
  others := by
    intro key apart
    rcases save_cases objections true record tables with ⟨_, _, stored⟩ | ⟨_, _, sameTables⟩
    next =>
      rw [Tables.library_entryOfKey? (stored.lawful lawful), Tables.library_entryOfKey? lawful]
      have sameRow : (save objections true record tables).tables.recordOfKey? key =
          tables.recordOfKey? key := by
        rw [stored.others]
        rfl
      rw [sameRow]
      cases found : tables.recordOfKey? key with
      | none => rfl
      | some row =>
        obtain ⟨member, named⟩ := Tables.recordOfKey?_eq_some tables key row found
        have other : row.id ≠ record.id := fun same => apart (named ▸ owns row member same)
        exact congrArg some (Tables.entryOf_of_stored_of_ne record tables _ lawful stored row other)
    next => rw [sameTables]
  gone := by
    intro missing dirty
    -- A row with the number would have the key, and no row has it.
    have absent : tables.hasRecord record.id = false := by
      rw [← Bool.not_eq_true, Tables.hasRecord_iff]
      intro there
      obtain ⟨row, member, own⟩ := List.mem_map.1 there
      rw [Tables.library_entryOfKey? lawful, Option.map_eq_none_iff,
        Tables.recordOfKey?_eq_none] at missing
      exact missing row member (owns row member own)
    have refused : tables.writeRecord objections record = .error (.gone record.key) := by
      unfold Tables.writeRecord
      rw [recordExists_storable record.id tables storable, absent]
      rfl
    rw [save_changed objections record tables dirty, refused]
    exact ⟨rfl, rfl⟩

def AllGiven (record : Record) : Prop :=
  ∀ name ∈ record.dirtyFields, ∃ value, record.fields.lookup name = some (some value)

theorem exists_edited_given (names : List String) (record edited : Record)
    (edits : record.EditedFrom edited) (marked : edited.MarksScalar)
    (rest : ∀ name ∈ edited.dirtyFields, name ∈ names \/
      ∃ value, edited.fields.lookup name = some (some value)) :
    ∃ after, record.EditedFrom after /\ AllGiven after := by
  induction names generalizing edited with
  | nil => exact ⟨edited, edits, fun name member => (rest name member).resolve_left (by simp)⟩
  | cons name names ih =>
    by_cases scalar : Field.isScalarName name = true
    next =>
      -- The field may be marked without a value, which would stop the save. Any text will do.
      have done := (Record.setField_eq_some edited _ name (some "")).2 ⟨scalar, rfl⟩
      have next := edits.setField edited _ name (some "") done
      refine ih _ next ((Record.EditedFrom.none.setField edited _ name _ done).marksScalar marked) ?_
      intro other member
      dsimp only at member ⊢
      by_cases same : other = name
      next => exact .inr ⟨"", by rw [same, lookup_putEntry]⟩
      next =>
        have old : other ∈ edited.dirtyFields := by
          split at member
          next => exact member
          next => simpa [same] using member
        rw [lookup_putEntry_of_ne name other _ _ same]
        exact (rest other old).imp_left fun listed => (List.mem_cons.1 listed).resolve_left same
    next =>
      refine ih edited edits marked fun other member => ?_
      refine (rest other member).imp_left fun listed => (List.mem_cons.1 listed).resolve_left ?_
      rintro rfl
      exact scalar (marked other member)

theorem writeFields_given (record : Record) (fields : List (String × String))
    (given : AllGiven record) : ∃ after, Library.writeFields false record fields = .ok after := by
  unfold Library.writeFields
  have among : ∀ name ∈ Library.sortNames record.dirtyFields, ∃ value,
      record.fields.lookup name = some (some value) := fun name member =>
    given name ((Library.sortNames_mem _ name).1 member)
  generalize Library.sortNames record.dirtyFields = names at among
  induction names generalizing fields with
  | nil => exact ⟨fields, rfl⟩
  | cons name rest ih =>
    obtain ⟨value, found⟩ := among name (by simp)
    rw [List.foldlM_cons, found]
    exact ih (putField name value fields) fun other member =>
      among other (List.mem_cons_of_mem _ member)

theorem save_lands (record : Record) (tables : Tables) (lawful : tables.Lawful)
    (unlocked : tables.locked = false) (storable : isStorable record.id = true) (row : RecordRow)
    (member : row ∈ tables.records) (own : row.id = record.id) (given : AllGiven record)
    (changed : record.dirtyCreators = true) :
    ∃ entry, (save noObjections true record tables).tables.library.entryOfKey? row.key = some entry /\
      entry.creators = record.creators := by
  have dirty : record.isDirty = true := by simp [Record.isDirty, changed]
  have keyed := tables.keyed_library lawful
  have found := Tables.entry?_of_row tables lawful row member
  have listed := (Tables.mem_entries lawful _).2 ⟨row, member, rfl⟩
  obtain ⟨fields, written⟩ := writeFields_given record (tables.entryOf row).fields given
  have updated : Library.updated tables.library.locked record (tables.entryOf row) =
      .ok { tables.entryOf row with fields := fields, creators := record.creators } := by
    rw [show tables.library.locked = false from unlocked, Library.updated, written, changed]
    rfl
  rw [(save_agrees record tables lawful storable).2, Library.save_of_dirty record _ dirty, ← own,
    found]
  dsimp only
  rw [updated]
  dsimp only
  refine ⟨{ tables.entryOf row with fields := fields, creators := record.creators }, ?_, rfl⟩
  rw [Library.entryOfKey?_putEntry]
  next => exact if_pos rfl
  next =>
    intro other among
    constructor
    next =>
      intro same
      rw [List.inj_on_of_nodup_map keyed.keys among listed same]
    next =>
      intro same
      rw [keyed.ascending.eq_of_rank _ other (tables.entryOf row) among listed same]

theorem owns_of_savesOwn (record : Record) (tables : Tables) (lawful : tables.Lawful)
    (unlocked : tables.locked = false) (storable : isStorable record.id = true)
    (marked : record.MarksScalar)
    (saves : ∀ edited objections, record.EditedFrom edited -> SavesOwn objections edited tables) :
    Owns record tables := by
  intro row member own
  by_contra apart
  obtain ⟨given, edits, allGiven⟩ := exists_edited_given record.dirtyFields record record .none
    marked fun _ marked => .inl marked
  -- Creators that the record with the number does not have.
  let edited := given.setCreators (⟨"", "", "", ""⟩ :: (tables.entryOf row).creators)
  have changes : record.EditedFrom edited := edits.setCreators given _
  have fits : isStorable edited.id = true := by rwa [changes.id]
  have other : row.key ≠ edited.key := by rwa [changes.key]
  obtain ⟨entry, found, creators⟩ := save_lands edited tables lawful unlocked fits row member
    (own.trans changes.id.symm) allGiven rfl
  have before := (Library.entryOfKey?_iff tables.library (tables.keyed_library lawful)
    (tables.entryOf row)).2 ((Tables.mem_entries lawful _).2 ⟨row, member, rfl⟩)
  have same : some entry = some (tables.entryOf row) :=
    found.symm.trans (((saves edited noObjections changes).others row.key other).trans before)
  rw [Option.some.inj same] at creators
  exact List.cons_ne_self _ _ creators.symm

/-- After any run, the saves of a copy, whatever is edited before them, keep to its own record exactly
if its number stands for no other. So it is as long as no deletion takes away the record with the
greatest number, for then no number is given out twice. -/
theorem save_keeps_to_own_iff (actions : List Action) (record : Record)
    (held : record ∈ (actions.foldl Workspace.perform {}).copies) :
    ((∀ edited objections, record.EditedFrom edited ->
        SavesOwn objections edited (actions.foldl Workspace.perform {}).tables) <->
      Owns record (actions.foldl Workspace.perform {}).tables) /\
    (SparesGreatest {} actions -> Owns record (actions.foldl Workspace.perform {}).tables) := by
  have sane := sane_performed actions
  have lawful := sane.good.tables.lawful
  have storable := sane.storable record held
  refine ⟨⟨?_, fun owns edited objections edits => ?_⟩, fun spares => ?_⟩
  next => exact owns_of_savesOwn record _ lawful sane.unlocked storable (sane.good.copies record held)
  next =>
    refine savesOwn_of_owns objections edited _ lawful (by rwa [edits.id]) fun row member own => ?_
    rw [edits.key]
    exact owns row member (own.trans edits.id)
  next => exact (reserved_performed actions {} (sane_performed []) spares (by simp) record held).1

def editingK (file : String) : List Action :=
  [.importFile "first.toml" (some file), .load [1], .setField 0 "title" (some "New")]

def replacingK (file : String) : List Action :=
  editingK file ++ .delete 1 :: [.importFile "second.toml" (some "[[records]]\nkey = 'M'")]

def besideL : List Action := replacingK "[[records]]\nkey = 'K'\n[[records]]\nkey = 'L'"

def copyOfK : Record where
  id := 1
  key := "K"
  libraryId := 1
  itemType := none
  fields := [("title", some "New")]
  creators := []
  tags := []
  collections := []
  dirtyFields := ["title"]
  dirtyCreators := false

theorem sparesGreatest_besideL : SparesGreatest {} besideL := by
  have greater : (⟨2, "L", 1, none⟩ : RecordRow) ∈
      ((editingK "[[records]]\nkey = 'K'\n[[records]]\nkey = 'L'").foldl
        Workspace.perform {}).tables.records := by
    decide +kernel
  unfold besideL replacingK
  rw [sparesGreatest_append]
  constructor
  next => exact sparesGreatest_of_no_delete _ _ fun id => by simp [editingK]
  next =>
    generalize (editingK "[[records]]\nkey = 'K'\n[[records]]\nkey = 'L'").foldl
      Workspace.perform {} = workspace at greater
    refine ⟨fun id isDelete _ => ?_, sparesGreatest_of_no_delete _ _ fun id => by simp⟩
    cases isDelete
    exact ⟨_, greater, by decide⟩

theorem save_keeps_to_own_besideL :
    copyOfK ∈ (besideL.foldl Workspace.perform {}).copies /\ SparesGreatest {} besideL /\
      Owns copyOfK (besideL.foldl Workspace.perform {}).tables /\
      (save noObjections true copyOfK (besideL.foldl Workspace.perform {}).tables).result =
        .error (.gone "K") := by
  have facts : copyOfK ∈ (besideL.foldl Workspace.perform {}).copies /\
      (besideL.foldl Workspace.perform {}).tables.library.entryOfKey? "K" = none := by
    decide +kernel
  obtain ⟨held, missing⟩ := facts
  obtain ⟨exactly, spared⟩ := save_keeps_to_own_iff besideL copyOfK held
  have owns := spared sparesGreatest_besideL
  exact ⟨held, sparesGreatest_besideL, owns,
    ((exactly.2 owns copyOfK noObjections .none).gone missing rfl).1⟩

def aloneK : List Action := replacingK "[[records]]\nkey = 'K'"

/-- The record that came in has the number of the copy, and its save lands there. -/
theorem save_lands_on_other :
    copyOfK ∈ (aloneK.foldl Workspace.perform {}).copies /\ copyOfK.isDirty = true /\
      (aloneK.foldl Workspace.perform {}).tables.library.entryOfKey? "K" = none /\
      (save noObjections true copyOfK (aloneK.foldl Workspace.perform {}).tables).result = .ok () /\
      (aloneK.foldl Workspace.perform {}).tables.library.entryOfKey? "M" =
        some ⟨1, "M", 1, none, [], [], [], []⟩ /\
      (save noObjections true copyOfK
          (aloneK.foldl Workspace.perform {}).tables).tables.library.entryOfKey? "M" =
        some ⟨1, "M", 1, none, [("title", "New")], [], [], []⟩ := by
  have facts : copyOfK ∈ (aloneK.foldl Workspace.perform {}).copies /\
      (aloneK.foldl Workspace.perform {}).tables = { records := [⟨1, "M", 1, none⟩] } := by
    decide +kernel
  obtain ⟨held, tables⟩ := facts
  rw [tables]
  exact ⟨held, rfl, by decide, eq_ok_of_toOption (by decide +kernel), by decide, by decide +kernel⟩

end BibEdit.Database
