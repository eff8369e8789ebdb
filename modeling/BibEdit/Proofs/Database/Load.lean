import BibEdit.Database.Load
import BibEdit.Proofs.Database.Save
import BibEdit.Proofs.Library.Load

set_option autoImplicit false

/-! Loading records from the tables, portion by portion. -/

namespace BibEdit

theorem putEntry_of_fresh {α : Type} (key : String) (value : α) (entries : List (String × α))
    (fresh : key ∉ entries.map Prod.fst) : putEntry key value entries = entries ++ [(key, value)] := by
  induction entries with
  | nil => rfl
  | cons entry rest ih =>
    obtain ⟨name, old⟩ := entry
    rw [List.map_cons, List.mem_cons, not_or] at fresh
    have differs : (name == key) = false := by simpa using Ne.symm fresh.1
    rw [putEntry, differs, if_neg Bool.false_ne_true, ih fresh.2]
    rfl

theorem forM_requireStorable (numbers : List Int) :
    numbers.forM requireStorable =
      if numbers.all isStorable then .ok () else .error .outOfRange := by
  induction numbers with
  | nil => rfl
  | cons number rest ih =>
    show (requireStorable number >>= fun _ => rest.forM requireStorable) = _
    rw [ih, List.all_cons, requireStorable]
    cases isStorable number <;> rfl

namespace Database

theorem flatMap_single {β : Type} (numbers : List Int) (once : numbers.Nodup) (id : Int)
    (own : List β) :
    numbers.flatMap (fun number => if number = id then own else []) =
      if id ∈ numbers then own else [] := by
  induction numbers with
  | nil => rfl
  | cons number rest ih =>
    obtain ⟨fresh, later⟩ := List.nodup_cons.1 once
    rw [List.flatMap_cons, ih later]
    by_cases here : number = id
    next =>
      subst here
      simp [fresh]
    next => simp [here, Ne.symm here]

namespace Tables

section RowsOf

variable {α κ : Type} [LT κ] [DecidableLT κ] [DecidableEq κ] (owner : α -> Int) (rank : α -> κ)
  (asked : List Int) (rows : List α)

theorem mem_rowsOf (row : α) (member : row ∈ rowsOf owner rank asked rows) :
    owner row ∈ asked /\ row ∈ rows := by
  obtain ⟨id, wanted, among⟩ := List.mem_flatMap.1 member
  obtain ⟨stored, own⟩ := List.mem_filter.1 (mem_of_mem_sortBy rank _ row among)
  rw [beq_iff_eq] at own
  exact ⟨own ▸ (mem_sortNumbers asked id).1 wanted, stored⟩

theorem filter_rowsOf (id : Int) :
    (rowsOf owner rank asked rows).filter (fun row => owner row == id) =
      if id ∈ asked then sortBy rank (rows.filter fun row => owner row == id) else [] := by
  have each (number : Int) :
      (sortBy rank (rows.filter fun row => owner row == number)).filter
          (fun row => owner row == id) =
        if number = id then sortBy rank (rows.filter fun row => owner row == id) else [] := by
    have own : ∀ row ∈ sortBy rank (rows.filter fun row => owner row == number),
        owner row = number := fun row member => by
      simpa using (List.mem_filter.1 (mem_of_mem_sortBy rank _ row member)).2
    split
    next same =>
      subst same
      exact List.filter_eq_self.2 fun row member => by simpa using own row member
    next differs =>
      exact List.filter_eq_nil_iff.2 fun row member => by simpa [own row member] using differs
  have once : (sortNumbers asked).Nodup := by
    simpa using (ascending_sortNumbers asked).nodup_ranks
  unfold rowsOf
  rw [List.filter_flatMap]
  simp only [each]
  rw [flatMap_single _ once]
  simp only [mem_sortNumbers]

end RowsOf

end Tables

structure Unedited (record : Record) : Prop where
  fields : record.dirtyFields = []
  creators : record.dirtyCreators = false

namespace Loading

def AllUnedited (loading : Loading) : Prop :=
  ∀ id record, loading.record? id = some record -> Unedited record

theorem unedited_put (loading : Loading) (record : Record) (all : loading.AllUnedited)
    (unedited : Unedited record) : (loading.put record).AllUnedited := by
  intro id other read
  unfold put at read
  dsimp only at read
  split at read
  next =>
    cases read
    exact unedited
  next => exact all id other read

theorem unedited_amend (loading after : Loading) (id : Int) (change : Record -> Record)
    (all : loading.AllUnedited) (keeps : ∀ record, Unedited record -> Unedited (change record))
    (amended : loading.amend id change = .ok after) : after.AllUnedited := by
  unfold amend at amended
  split at amended
  next record found =>
    cases amended
    intro other next read
    dsimp only at read
    split at read
    next =>
      cases read
      exact keeps record (all id record found)
    next => exact all other next read
  next => cases amended

theorem unedited_amendAll {α : Type} (owner : α -> Int) (addTo : α -> Record -> Record)
    (items : List α) (loading after : Loading) (all : loading.AllUnedited)
    (amended : loading.amendAll owner addTo items = .ok after)
    (keeps : ∀ item record, Unedited record -> Unedited (addTo item record)) : after.AllUnedited :=
  foldlM_keeps AllUnedited _ items
    (fun state item next _ held stepped => unedited_amend state next _ _ held (keeps item) stepped)
    loading after all amended

end Loading

theorem Tables.unedited_readPortion (tables : Tables) (loading after : Loading) (portion : List Int)
    (all : loading.AllUnedited) (read : tables.readPortion loading portion = .ok after) :
    after.AllUnedited := by
  have records : (tables.readRecords portion loading).AllUnedited :=
    List.foldlRecOn _ _ all fun state held row _ =>
      state.unedited_put row.bare held ⟨rfl, rfl⟩
  unfold readPortion at read
  obtain ⟨_, _, read⟩ := bind_eq_ok.1 read
  obtain ⟨withFields, fields, read⟩ := bind_eq_ok.1 read
  obtain ⟨withTags, tags, memberships⟩ := bind_eq_ok.1 read
  have named := Loading.unedited_amendAll _ _ _ _ _ records fields
    fun _ _ held => ⟨held.fields, held.creators⟩
  have tagged := Loading.unedited_amendAll _ _ _ (withFields.addCreators _) withTags named tags
    fun _ _ held => ⟨held.fields, held.creators⟩
  exact Loading.unedited_amendAll _ _ _ _ _ tagged memberships
    fun _ _ held => ⟨held.fields, held.creators⟩

theorem Tables.unedited_load (tables : Tables) (ids : List Int) (records : List Record)
    (loaded : tables.load ids = .ok records) : ∀ record ∈ records, Unedited record := by
  obtain ⟨loading, read, loaded⟩ := bind_eq_ok.1 loaded
  obtain ⟨complete, attached, same⟩ := bind_eq_ok.1 loaded
  cases same
  have all : loading.AllUnedited :=
    foldlM_keeps Loading.AllUnedited _ _
      (fun state portion next _ held stepped =>
        tables.unedited_readPortion state next portion held stepped) Loading.empty _
      (fun _ _ none => by cases none) read
  unfold Loading.attachCreators at attached
  have completed := Loading.unedited_amendAll _ _ _ _ _ all attached
    fun _ _ held => ⟨held.fields, held.creators⟩
  intro record member
  obtain ⟨id, _, is⟩ := List.mem_filterMap.1 member
  exact completed id record is

namespace Loading

section Amend

variable {α : Type} (owner : α -> Int) (addTo : α -> Record -> Record)

def amended (items : List α) (loading : Loading) : Loading :=
  { loading with
    record? := fun id => (loading.record? id).map fun record =>
      (items.filter fun item => owner item == id).foldl (fun record item => addTo item record)
        record }

theorem isSome_amended (items : List α) (loading : Loading) (id : Int) :
    ((amended owner addTo items loading).record? id).isSome = (loading.record? id).isSome := by
  simp [amended]

theorem amendAll_eq (items : List α) (loading : Loading)
    (known : ∀ item ∈ items, (loading.record? (owner item)).isSome = true) :
    loading.amendAll owner addTo items = .ok (amended owner addTo items loading) := by
  induction items generalizing loading with
  | nil => simp [amendAll, amended, pure, Except.pure]
  | cons item rest ih =>
    -- The record is there, so that the rest starts from a function changed at its number alone.
    obtain ⟨record, read⟩ := Option.isSome_iff_exists.1 (known item (by simp))
    have amendedOne : loading.amend (owner item) (addTo item) = .ok { loading with
        record? := fun other =>
          if other = owner item then some (addTo item record) else loading.record? other } := by
      rw [amend, read]
    unfold amendAll at ih ⊢
    rw [List.foldlM_cons, amendedOne, ok_bind, ih]
    next =>
      simp only [amended, Except.ok.injEq, Loading.mk.injEq, and_true]
      funext id
      by_cases same : owner item = id
      next =>
        subst same
        simp [read]
      next =>
        have later : id ≠ owner item := Ne.symm same
        simp [same, later]
    next =>
      intro other member
      by_cases same : owner other = owner item
      next => simp [same]
      next => simpa [same] using known other (by simp [member])

end Amend

theorem foldl_addTags (rows : List TagRow) (record : Record) :
    rows.foldl (fun record row => row.addTo record) record =
      { record with tags := record.tags ++ rows.map TagRow.tag } := by
  induction rows generalizing record with
  | nil => simp
  | cons row rest ih =>
    rw [List.foldl_cons, ih]
    simp [TagRow.addTo]

theorem foldl_addMemberships (rows : List MembershipRow) (record : Record) :
    rows.foldl (fun record row => row.addTo record) record =
      { record with collections := record.collections ++ rows.map MembershipRow.collectionId } := by
  induction rows generalizing record with
  | nil => simp
  | cons row rest ih =>
    rw [List.foldl_cons, ih]
    simp [MembershipRow.addTo]

theorem foldl_addFields (rows : List FieldRow) (record : Record)
    (apart : (record.fields.map Prod.fst ++ rows.map FieldRow.name).Nodup) :
    rows.foldl (fun record row => row.addTo record) record =
      { record with
        fields := record.fields ++ rows.map fun row => (row.name, some row.value) } := by
  induction rows generalizing record with
  | nil => simp
  | cons row rest ih =>
    have fresh : row.name ∉ record.fields.map Prod.fst := fun again =>
      (List.nodup_append.1 apart).2.2 _ again _ (by simp) rfl
    rw [List.foldl_cons, ih, FieldRow.addTo, putEntry_of_fresh _ _ _ fresh]
    next => simp
    next =>
      rw [FieldRow.addTo, putEntry_of_fresh _ _ _ fresh]
      simpa using apart

section AddRecord

variable (rows : List RecordRow) (loading : Loading)

theorem creators_foldl_addRecord : (rows.foldl addRecord loading).creators = loading.creators := by
  induction rows generalizing loading with
  | nil => rfl
  | cons row rest ih => rw [List.foldl_cons, ih]; rfl

theorem foldl_addRecord_of_not_mem (id : Int) (absent : ∀ row ∈ rows, row.id ≠ id) :
    (rows.foldl addRecord loading).record? id = loading.record? id := by
  induction rows generalizing loading with
  | nil => rfl
  | cons row rest ih =>
    have differs : id ≠ row.id := Ne.symm (absent row (by simp))
    rw [List.foldl_cons, ih _ fun other member => absent other (by simp [member])]
    simp [addRecord, put, RecordRow.bare, differs]

theorem foldl_addRecord_of_mem (row : RecordRow) (member : row ∈ rows)
    (only : ∀ other ∈ rows, other.id = row.id -> other = row) :
    (rows.foldl addRecord loading).record? row.id = some row.bare := by
  induction rows generalizing loading with
  | nil => cases member
  | cons first rest ih =>
    rw [List.foldl_cons]
    by_cases later : row ∈ rest
    next => exact ih _ later fun other among => only other (by simp [among])
    next =>
      have here : row = first := (List.mem_cons.1 member).resolve_right later
      subst here
      have absent : ∀ other ∈ rest, other.id ≠ row.id := fun other among same =>
        later (only other (by simp [among]) same ▸ among)
      rw [foldl_addRecord_of_not_mem rest _ _ absent]
      simp [addRecord, put, RecordRow.bare]

end AddRecord

end Loading

namespace Tables

def recordOf? (tables : Tables) (id : Int) : Option RecordRow :=
  tables.records.find? fun row => row.id == id

theorem recordOf?_eq_some (tables : Tables) (id : Int) (row : RecordRow)
    (found : tables.recordOf? id = some row) : row ∈ tables.records /\ row.id = id :=
  ⟨List.mem_of_find?_eq_some found, by simpa using List.find?_some found⟩

theorem isSome_recordOf? (tables : Tables) (id : Int) :
    (tables.recordOf? id).isSome = tables.hasRecord id := by
  rw [Bool.eq_iff_iff]
  simp [recordOf?, hasRecord]

def partial? (tables : Tables) (id : Int) : Option Record :=
  (tables.recordOf? id).map fun row => { (tables.entryOf row).record with creators := [] }

def reading (tables : Tables) (asked : List (List Int)) : Loading where
  record? id := if id ∈ asked.flatten then tables.partial? id else none
  creators := asked.flatMap fun portion =>
    rowsOf CreatorRow.recordId CreatorRow.position portion tables.creators

theorem record?_reading (tables : Tables) (asked : List (List Int)) (id : Int) :
    (tables.reading asked).record? id =
      if id ∈ asked.flatten then tables.partial? id else none := rfl

def assembled (tables : Tables) (portion : List Int) (loading : Loading) : Loading :=
  let creators := rowsOf CreatorRow.recordId CreatorRow.position portion tables.creators
  Loading.amended MembershipRow.recordId MembershipRow.addTo
    (rowsOf MembershipRow.recordId MembershipRow.collectionId portion tables.memberships)
    (Loading.amended TagRow.recordId TagRow.addTo
      (rowsOf TagRow.recordId TagRow.position portion tables.tags)
      ((Loading.amended FieldRow.recordId FieldRow.addTo
        (rowsOf FieldRow.recordId FieldRow.name portion tables.fields) loading).addCreators creators))

theorem foldl_parts (tables : Tables) (row : RecordRow) :
    (sortBy MembershipRow.collectionId
        (tables.memberships.filter fun member => member.recordId == row.id)).foldl
      (fun record member => member.addTo record)
      ((sortBy TagRow.position (tables.tags.filter fun tag => tag.recordId == row.id)).foldl
        (fun record tag => tag.addTo record)
        ((sortBy FieldRow.name (tables.fields.filter fun field => field.recordId == row.id)).foldl
          (fun record field => field.addTo record) row.bare)) =
      { (tables.entryOf row).record with creators := [] } := by
  have ascending : Ascending FieldRow.name (sortBy FieldRow.name
      (tables.fields.filter fun field => field.recordId == row.id)) := ascending_sortBy _
  have apart := ascending.nodup_ranks
  rw [Loading.foldl_addMemberships, Loading.foldl_addTags,
    Loading.foldl_addFields _ _ (by simpa [RecordRow.bare] using apart)]
  simp [RecordRow.bare, Entry.record, entryOf, sortBy_map]

section Portion

variable {tables : Tables} (lawful : tables.Lawful)

include lawful

theorem record?_readRecords (portion : List Int) (loading : Loading) (id : Int) :
    (tables.readRecords portion loading).record? id =
      if id ∈ portion then ((tables.recordOf? id).map RecordRow.bare).or (loading.record? id)
      else loading.record? id := by
  have within := mem_rowsOf RecordRow.id RecordRow.id portion tables.records
  have untouched (absent : ∀ row ∈ tables.records, row.id ∈ portion -> row.id ≠ id) :=
    Loading.foldl_addRecord_of_not_mem _ loading id fun row member =>
      absent row (within row member).2 (within row member).1
  unfold readRecords
  split
  next wanted =>
    cases found : tables.recordOf? id with
    | none =>
      -- A number without a row leaves things as they are, even if it is asked for.
      refine untouched fun row member _ same => ?_
      have there := (hasRecord_iff tables id).2 (same ▸ List.mem_map_of_mem member)
      rw [← isSome_recordOf?, found] at there
      cases there
    | some row =>
      obtain ⟨member, rfl⟩ := recordOf?_eq_some tables id row found
      have own : row ∈ tables.records.filter fun other => other.id == row.id :=
        List.mem_filter.2 ⟨member, by simp⟩
      have ownApart : ((tables.records.filter fun other => other.id == row.id).map
          RecordRow.id).Nodup := lawful.recordIds.sublist (List.filter_sublist.map _)
      have read : row ∈ rowsOf RecordRow.id RecordRow.id portion tables.records := by
        have among := filter_rowsOf RecordRow.id RecordRow.id portion tables.records row.id
        rw [if_pos wanted] at among
        exact List.mem_of_mem_filter (among ▸ (mem_sortBy _ ownApart row).2 own)
      exact Loading.foldl_addRecord_of_mem _ loading row read fun other among same =>
        row_eq_of_id lawful other row (within other among).2 member same
  next unwanted => exact untouched fun row _ wanted same => unwanted (same ▸ wanted)

omit lawful in
theorem known_rowsOf {α κ : Type} [LT κ] [DecidableLT κ] [DecidableEq κ] (owner : α -> Int)
    (rank : α -> κ) (rows : List α) (portion : List Int) (loading : Loading)
    (refers : ∀ row ∈ rows, tables.hasRecord (owner row) = true)
    (known : ∀ id ∈ portion, tables.hasRecord id = true -> (loading.record? id).isSome = true) :
    ∀ row ∈ rowsOf owner rank portion rows, (loading.record? (owner row)).isSome = true := by
  intro row member
  obtain ⟨wanted, among⟩ := mem_rowsOf owner rank portion rows row member
  exact known (owner row) wanted (refers row among)

theorem readPortion_of_storable (portion : List Int) (loading : Loading)
    (storable : portion.all isStorable = true) :
    tables.readPortion loading portion =
      .ok (assembled tables portion (tables.readRecords portion loading)) := by
  have known : ∀ id ∈ portion, tables.hasRecord id = true ->
      ((tables.readRecords portion loading).record? id).isSome = true := by
    intro id wanted there
    rw [record?_readRecords lawful, if_pos wanted]
    simp [isSome_recordOf?, there]
  unfold readPortion
  rw [forM_requireStorable, if_pos storable, ok_bind]
  dsimp only
  generalize tables.readRecords portion loading = start at known ⊢
  rw [Loading.amendAll_eq, ok_bind, Loading.amendAll_eq, ok_bind, Loading.amendAll_eq]
  next => rfl
  -- What is brought in leaves each record where it is, so that the next rows find it too.
  next =>
    refine known_rowsOf _ _ _ portion _ lawful.membershipRecords fun id wanted there => ?_
    rw [Loading.isSome_amended]
    exact (Loading.isSome_amended _ _ _ _ _).trans (known id wanted there)
  next =>
    refine known_rowsOf _ _ _ portion _ lawful.tagRecords fun id wanted there => ?_
    exact (Loading.isSome_amended _ _ _ _ _).trans (known id wanted there)
  next => exact known_rowsOf _ _ _ portion _ lawful.fieldRecords known

theorem assembled_reading (asked : List (List Int)) (portion : List Int) :
    assembled tables portion (tables.readRecords portion (tables.reading asked)) =
      tables.reading (asked ++ [portion]) := by
  have creatorsAre : (tables.readRecords portion (tables.reading asked)).creators =
      (tables.reading asked).creators := Loading.creators_foldl_addRecord _ _
  have recordIs := record?_readRecords lawful portion (tables.reading asked)
  simp only [assembled, Loading.amended, Loading.addCreators, Option.map_map, creatorsAre,
    recordIs, filter_rowsOf]
  simp only [reading, Loading.mk.injEq]
  constructor
  next =>
    funext id
    by_cases wanted : id ∈ portion
    next =>
      -- A record of the portion starts bare, whether or not it was read before.
      cases found : tables.recordOf? id with
      | none => simp [wanted, partial?, found]
      | some row =>
        obtain ⟨_, rfl⟩ := recordOf?_eq_some tables id row found
        have whole := foldl_parts tables row
        simp [wanted, partial?, found, whole]
    next => simp [wanted, Function.comp_def]
  next => simp

theorem readPortion_reading (asked : List (List Int)) (portion : List Int) :
    tables.readPortion (tables.reading asked) portion =
      if portion.all isStorable then .ok (tables.reading (asked ++ [portion]))
      else .error .outOfRange := by
  split
  next storable =>
    rw [readPortion_of_storable lawful portion _ storable, assembled_reading lawful]
  next unstorable =>
    unfold readPortion
    rw [forM_requireStorable, if_neg unstorable]
    rfl

-- The portions read so far are the variable of the induction: what is in store after them depends
-- on which numbers they hold and, for the creators, on how often.
theorem foldlM_readPortion (asked portions : List (List Int)) :
    portions.foldlM tables.readPortion (tables.reading asked) =
      if portions.flatten.all isStorable then .ok (tables.reading (asked ++ portions))
      else .error .outOfRange := by
  induction portions generalizing asked with
  | nil => simp [pure, Except.pure]
  | cons portion rest ih =>
    rw [List.foldlM_cons, readPortion_reading lawful, List.flatten_cons, List.all_append]
    cases storable : portion.all isStorable with
    | false => rfl
    | true =>
      rw [if_pos rfl, ok_bind, ih, List.append_assoc, List.singleton_append, Bool.true_and]

end Portion

theorem creatorsOf_reading (tables : Tables) (asked : List (List Int)) (row : RecordRow) :
    (tables.reading asked).creatorsOf row.id =
      (List.replicate (asked.countP fun portion => portion.contains row.id)
        (tables.entryOf row).creators).flatten := by
  simp only [Loading.creatorsOf, reading, List.filter_flatMap, filter_rowsOf]
  induction asked with
  | nil => rfl
  | cons portion rest ih =>
    rw [List.flatMap_cons, List.map_append, ih]
    by_cases wanted : row.id ∈ portion
    next => simp [wanted, List.replicate_succ, entryOf]
    next => simp [wanted]

theorem creatorsOf_eq_nil (loading : Loading) (id : Int)
    (absent : id ∉ loading.creators.map CreatorRow.recordId) : loading.creatorsOf id = [] := by
  rw [Loading.creatorsOf, List.map_eq_nil_iff, List.filter_eq_nil_iff]
  intro row member own
  rw [beq_iff_eq] at own
  exact absent (own ▸ List.mem_map_of_mem member)

theorem attachCreators_eq (loading : Loading)
    (known : ∀ row ∈ loading.creators, (loading.record? row.recordId).isSome = true)
    (bare : ∀ id record, loading.record? id = some record -> record.creators = []) :
    loading.attachCreators = .ok { loading with
      record? := fun id => (loading.record? id).map fun record =>
        { record with creators := loading.creatorsOf id } } := by
  have owners (id : Int) : id ∈ distinct (loading.creators.map CreatorRow.recordId) <->
      id ∈ loading.creators.map CreatorRow.recordId := List.mem_eraseDups
  unfold Loading.attachCreators
  rw [Loading.amendAll_eq]
  next =>
    simp only [Loading.amended, Except.ok.injEq, Loading.mk.injEq, and_true, id_eq]
    funext id
    cases read : loading.record? id with
    | none => rfl
    | some record =>
      rw [List.filter_beq, Option.map_some, Option.map_some]
      by_cases there : id ∈ loading.creators.map CreatorRow.recordId
      next => rw [List.count_eq_one_of_mem (nodup_distinct _) ((owners id).2 there)]; rfl
      next =>
        -- Without creators read for it a record is passed over and keeps its empty list.
        rw [List.count_eq_zero_of_not_mem (mt (owners id).1 there), creatorsOf_eq_nil loading id there,
          ← bare id record read]
        rfl
  next =>
    intro id member
    obtain ⟨row, among, rfl⟩ := List.mem_map.1 ((owners id).1 member)
    exact known row among

section Load

variable {tables : Tables} (lawful : tables.Lawful)

include lawful

theorem entry?_eq_map (id : Int) :
    tables.library.entry? id = (tables.recordOf? id).map tables.entryOf := by
  cases found : tables.recordOf? id with
  | none => exact entry?_of_no_record tables lawful id (by rw [← isSome_recordOf?, found]; rfl)
  | some row =>
    obtain ⟨member, rfl⟩ := recordOf?_eq_some tables id row found
    exact entry?_of_row tables lawful row member

theorem attachCreators_reading (asked : List (List Int)) :
    (tables.reading asked).attachCreators = .ok { tables.reading asked with
      record? := fun id => if id ∈ asked.flatten then
        (tables.library.entry? id).map (Library.loadEntry asked) else none } := by
  rw [attachCreators_eq]
  next =>
    simp only [Except.ok.injEq, Loading.mk.injEq, and_true]
    funext id
    by_cases wanted : id ∈ asked.flatten
    next =>
      rw [record?_reading, if_pos wanted, if_pos wanted, partial?, entry?_eq_map lawful]
      cases found : tables.recordOf? id with
      | none => rfl
      | some row =>
        obtain ⟨_, rfl⟩ := recordOf?_eq_some tables id row found
        simp [Library.loadEntry, creatorsOf_reading, entryOf]
    next =>
      rw [record?_reading, if_neg wanted, if_neg wanted]
      rfl
  next =>
    intro row member
    obtain ⟨portion, among, read⟩ := List.mem_flatMap.1 member
    obtain ⟨wanted, stored⟩ := mem_rowsOf _ _ portion tables.creators row read
    have askedFor : row.recordId ∈ asked.flatten := List.mem_flatten.2 ⟨portion, among, wanted⟩
    rw [record?_reading, if_pos askedFor, partial?, Option.isSome_map, isSome_recordOf?]
    exact lawful.creatorRecords row stored
  next =>
    intro id record read
    simp only [record?_reading, partial?, Option.ite_none_right_eq_some,
      Option.map_eq_some_iff] at read
    obtain ⟨_, row, _, rfl⟩ := read
    rfl

/-- Records come from the tables as they come from the library that the tables stand for. -/
theorem load_eq (ids : List Int) : tables.load ids = tables.library.load ids := by
  have start : Loading.empty = tables.reading [] := by simp [Loading.empty, reading]
  unfold load Library.load
  rw [start, foldlM_readPortion lawful, Library.flatten_portions, List.nil_append]
  split
  next =>
    rw [ok_bind, attachCreators_reading lawful, ok_bind]
    refine congrArg Except.ok (List.filterMap_congr fun id member => ?_)
    simp only [Library.flatten_portions, if_pos member]
  next => rfl

end Load

end Tables

end Database

end BibEdit
