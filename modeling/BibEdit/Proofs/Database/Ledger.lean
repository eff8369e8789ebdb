import BibEdit.Database.Workspace
import BibEdit.Proofs.Database.Load

set_option autoImplicit false

namespace BibEdit.Database

/-- What was set on a copy since it was loaded or saved. -/
structure Draft where
  id : Int
  fields : List (String × Option String) := []
  creators : Option (List Creator) := none

namespace Draft

def blank (record : Record) : Draft := { id := record.id }

def setField (name : String) (value : Option String) (draft : Draft) : Draft :=
  if Field.isScalarName name then { draft with fields := putEntry name value draft.fields }
  else draft

def setCreators (creators : List Creator) (draft : Draft) : Draft :=
  { draft with creators := some creators }

def field? (id : Int) (name : String) (draft : Draft) : Option (Option String) :=
  if draft.id = id then draft.fields.lookup name else none

def creators? (id : Int) (draft : Draft) : Option (List Creator) :=
  if draft.id = id then draft.creators else none

end Draft

/-- The drafts of all copies, and those that were stored, the last of them first. -/
structure Ledger where
  drafts : List Draft := []
  stored : List Draft := []

namespace Ledger

def edit (ledger : Ledger) (copy : Nat) (change : Draft -> Draft) : Ledger :=
  match ledger.drafts[copy]? with
  | none => ledger
  | some draft => { ledger with drafts := ledger.drafts.set copy (change draft) }

def note (workspace : Workspace) (ledger : Ledger) : Action -> Ledger
  | .load ids =>
    match workspace.tables.load ids with
    | .ok records => { ledger with drafts := ledger.drafts ++ records.map Draft.blank }
    | .error _ => ledger
  | .setField copy name value => ledger.edit copy (Draft.setField name value)
  | .setCreators copy creators => ledger.edit copy (Draft.setCreators creators)
  | .save copy objections =>
    match workspace.copies[copy]?, ledger.drafts[copy]? with
    | some record, some draft =>
      -- A save that fails leaves the draft to the next one.
      match (save objections true record workspace.tables).result with
      | .error _ => ledger
      | .ok _ => ⟨ledger.drafts.set copy { id := draft.id }, draft :: ledger.stored⟩
    | _, _ => ledger
  | _ => ledger

def follow (workspace : Workspace) (ledger : Ledger) : List Action -> Ledger
  | [] => ledger
  | action :: rest => follow (workspace.perform action) (ledger.note workspace action) rest

/-- The value that the last draft with the field gave it, of those that were stored. -/
def field? (ledger : Ledger) (id : Int) (name : String) : Option (Option String) :=
  ledger.stored.findSome? (Draft.field? id name)

def creators? (ledger : Ledger) (id : Int) : Option (List Creator) :=
  ledger.stored.findSome? (Draft.creators? id)

end Ledger

def Action.IsEdit : Action -> Prop
  | .load _ | .setField _ _ _ | .setCreators _ _ | .save _ _ => True
  | _ => False

/-- The marks of a record are for what its draft holds, with the same values. -/
structure Tracked (record : Record) (draft : Draft) : Prop where
  id : draft.id = record.id
  marked : ∀ name, name ∈ record.dirtyFields <-> (draft.fields.lookup name).isSome = true
  fields : ∀ name value, draft.fields.lookup name = some value ->
    record.fields.lookup name = some value
  markedCreators : record.dirtyCreators = draft.creators.isSome
  creators : ∀ creators, draft.creators = some creators -> record.creators = creators

theorem tracked_blank (record : Record) (noFields : record.dirtyFields = [])
    (creatorsClean : record.dirtyCreators = false) : Tracked record (Draft.blank record) where
  id := rfl
  marked := by simp [noFields, Draft.blank]
  fields := by simp [Draft.blank]
  markedCreators := creatorsClean
  creators := by simp [Draft.blank]

theorem tracked_loaded (tables : Tables) (ids : List Int) (records : List Record)
    (loaded : tables.load ids = .ok records) :
    List.Forall₂ Tracked records (records.map Draft.blank) := by
  rw [List.forall₂_map_right_iff, List.forall₂_same]
  intro record member
  have unedited := tables.unedited_load ids records loaded record member
  exact tracked_blank record unedited.fields unedited.creators

theorem tracked_setField (record : Record) (draft : Draft) (tracked : Tracked record draft)
    (name : String) (value : Option String) :
    Tracked ((record.setField name value).getD record) (draft.setField name value) := by
  unfold Record.setField Draft.setField
  by_cases scalar : Field.isScalarName name = true
  next =>
    simp only [scalar, Bool.not_true, Bool.false_eq_true, if_false, if_true, Option.getD_some]
    exact { tracked with
      marked := by
        intro other
        -- A name is marked once, however often its field is set.
        have listed : other ∈ (if record.dirtyFields.contains name then record.dirtyFields
            else record.dirtyFields ++ [name]) <-> other ∈ record.dirtyFields \/ other = name := by
          by_cases known : name ∈ record.dirtyFields
          next =>
            have among : other = name -> other ∈ record.dirtyFields := fun same => same ▸ known
            simpa [known] using among
          next => simp [known]
        rw [listed, tracked.marked]
        by_cases same : other = name
        next => simp [same]
        next => simp [same, lookup_putEntry_of_ne name other value draft.fields same]
      fields := by
        intro other text found
        dsimp only at found ⊢
        by_cases same : other = name
        next =>
          subst same
          simpa using found
        next =>
          rw [lookup_putEntry_of_ne name other value _ same] at found ⊢
          exact tracked.fields other text found }
  next => simpa [scalar] using tracked

theorem tracked_setCreators (record : Record) (draft : Draft) (tracked : Tracked record draft)
    (creators : List Creator) :
    Tracked (record.setCreators creators) (draft.setCreators creators) :=
  { tracked with
    markedCreators := rfl
    creators := fun _ given => Option.some.inj given }

theorem forall₂_set {α β : Type} (related : α -> β -> Prop) (first : List α) (second : List β)
    (paired : List.Forall₂ related first second) (index : Nat) (item : α) (other : β)
    (fits : related item other) :
    List.Forall₂ related (first.set index item) (second.set index other) := by
  induction paired generalizing index with
  | nil => exact .nil
  | cons here rest ih =>
    cases index with
    | zero => exact .cons fits rest
    | succ index => exact .cons here (ih index)

theorem forall₂_getElem? {α β : Type} (related : α -> β -> Prop) (first : List α) (second : List β)
    (paired : List.Forall₂ related first second) (index : Nat) :
    (first[index]? = none /\ second[index]? = none) \/
      ∃ item other, first[index]? = some item /\ second[index]? = some other /\
        related item other := by
  induction paired generalizing index with
  | nil => simp
  | cons here rest ih =>
    cases index with
    | zero => simp [here]
    | succ index => simpa using ih index

/-- The rows are those of the start with the drafts that were stored, and the copies are tracked. -/
structure Accounts (start : Tables) (workspace : Workspace) (ledger : Ledger) : Prop where
  copies : List.Forall₂ Tracked workspace.copies ledger.drafts
  fields : ∀ row, row ∈ workspace.tables.fields <->
    match ledger.field? row.recordId row.name with
    | some value => value = some row.value
    | none => row ∈ start.fields
  given : ∀ id name value, ledger.field? id name = some value -> value.isSome = true
  creators : ∀ id, workspace.tables.creators.filter (fun row => row.recordId == id) =
    match ledger.creators? id with
    | some creators => Tables.creatorRows id 1 creators
    | none => start.creators.filter fun row => row.recordId == id
  others : workspace.tables = { start with
    fields := workspace.tables.fields
    creators := workspace.tables.creators }

theorem accounts_start (start : Tables) : Accounts start { tables := start } {} where
  copies := .nil
  fields := by simp [Ledger.field?]
  given := by simp [Ledger.field?]
  creators := by simp [Ledger.creators?]
  others := rfl

theorem accounts_edit (start : Tables) (workspace : Workspace) (ledger : Ledger)
    (accounts : Accounts start workspace ledger) (copy : Nat) (change : Record -> Record)
    (noted : Draft -> Draft)
    (keeps : ∀ record draft, Tracked record draft -> Tracked (change record) (noted draft)) :
    Accounts start (workspace.work copy fun record tables => (change record, tables))
      (ledger.edit copy noted) := by
  unfold Workspace.work Ledger.edit
  rcases forall₂_getElem? Tracked _ _ accounts.copies copy with
    ⟨noRecord, noDraft⟩ | ⟨record, draft, found, drafted, tracked⟩
  next =>
    rw [noRecord, noDraft]
    exact accounts
  next =>
    rw [found, drafted]
    exact { accounts with
      copies := forall₂_set Tracked _ _ accounts.copies copy _ _ (keeps record draft tracked) }

theorem field?_stored (stored : List Draft) (draft : Draft) (drafts : List Draft) (id : Int)
    (name : String) :
    Ledger.field? ⟨drafts, draft :: stored⟩ id name =
      (draft.field? id name).or (Ledger.field? ⟨drafts, stored⟩ id name) := by
  cases found : draft.field? id name <;> simp [Ledger.field?, found]

theorem creators?_stored (stored : List Draft) (draft : Draft) (drafts : List Draft) (id : Int) :
    Ledger.creators? ⟨drafts, draft :: stored⟩ id =
      (draft.creators? id).or (Ledger.creators? ⟨drafts, stored⟩ id) := by
  cases found : draft.creators? id <;> simp [Ledger.creators?, found]

theorem field?_of_tracked (record : Record) (draft : Draft) (tracked : Tracked record draft)
    (id : Int) (name : String) :
    draft.field? id name =
      if id = record.id /\ name ∈ record.dirtyFields then record.fields.lookup name else none := by
  simp only [Draft.field?, tracked.id, tracked.marked]
  by_cases own : record.id = id
  next =>
    cases found : draft.fields.lookup name with
    | none => simp
    | some value => simp [own, tracked.fields name value found]
  next =>
    have apart : ¬ id = record.id := fun same => own same.symm
    simp [own, apart]

theorem accounts_stored (start : Tables) (workspace : Workspace) (ledger : Ledger)
    (accounts : Accounts start workspace ledger) (copy : Nat) (record : Record) (draft : Draft)
    (tracked : Tracked record draft) (after : Tables)
    (stored : Tables.Stored record workspace.tables after) :
    Accounts start ⟨after, workspace.copies.set copy record.clean⟩
      ⟨ledger.drafts.set copy { id := draft.id }, draft :: ledger.stored⟩ where
  copies := by
    apply forall₂_set Tracked _ _ accounts.copies
    rw [tracked.id]
    exact tracked_blank record.clean rfl rfl
  fields := by
    intro row
    -- The draft comes before all others for the fields that it has, and is silent on the rest.
    rw [stored.fields row, field?_stored, field?_of_tracked record draft tracked]
    split
    next own =>
      obtain ⟨value, given⟩ := stored.given row.name own.2
      simp [given]
    next => exact accounts.fields row
  given := by
    intro id name value found
    rw [field?_stored, field?_of_tracked record draft tracked] at found
    split at found
    next own =>
      obtain ⟨text, given⟩ := stored.given name own.2
      rw [given] at found
      cases found
      rfl
    next => exact accounts.given id name value found
  creators := by
    intro id
    have own := fun row member => (Tables.mem_creatorRows record.id record.creators 1 row member).1
    rw [stored.creators, creators?_stored, Draft.creators?, tracked.id, tracked.markedCreators]
    cases given : draft.creators with
    | none =>
      simp only [Option.isSome_none, Bool.false_eq_true, if_false, ite_self, Option.none_or]
      exact accounts.creators id
    | some creators =>
      have sameCreators := tracked.creators creators given
      simp only [Option.isSome_some, if_true]
      by_cases same : record.id = id
      next =>
        subst same
        rw [Tables.filter_replaced_self CreatorRow.recordId record.id _ _ own, sameCreators]
        simp
      next =>
        have apart : id ≠ record.id := fun is => same is.symm
        rw [Tables.filter_replaced_of_ne CreatorRow.recordId record.id _ _ own id apart]
        simp only [same, if_false, Option.none_or]
        exact accounts.creators id
  others := by
    rw [stored.others, accounts.others]

theorem accounts_save (start : Tables) (workspace : Workspace) (ledger : Ledger)
    (accounts : Accounts start workspace ledger) (copy : Nat) (objections : Objections) :
    Accounts start (workspace.perform (.save copy objections))
      (ledger.note workspace (.save copy objections)) := by
  unfold Workspace.perform Workspace.work Ledger.note
  rcases forall₂_getElem? Tracked _ _ accounts.copies copy with
    ⟨noRecord, _⟩ | ⟨record, draft, found, drafted, tracked⟩
  next =>
    simp only [noRecord]
    exact accounts
  next =>
    simp only [found, drafted]
    rcases save_cases objections true record workspace.tables with
      ⟨succeeded, sameRecord, stored⟩ | ⟨⟨fault, failed⟩, sameRecord, sameTables⟩
    next =>
      rw [succeeded, sameRecord]
      exact accounts_stored start workspace ledger accounts copy record draft tracked _ stored
    next =>
      -- A save that fails leaves the copy with its marks, and so the draft stays open.
      have kept : workspace.copies.set copy record = workspace.copies := by
        obtain ⟨inside, rfl⟩ := List.getElem?_eq_some_iff.1 found
        exact List.set_getElem_self inside
      rw [failed, sameRecord, sameTables, kept]
      exact accounts

theorem accounts_perform (start : Tables) (workspace : Workspace) (ledger : Ledger)
    (accounts : Accounts start workspace ledger) (action : Action) (edit : action.IsEdit) :
    Accounts start (workspace.perform action) (ledger.note workspace action) := by
  cases action with
  | load ids =>
    simp only [Workspace.perform, Ledger.note]
    cases loaded : workspace.tables.load ids with
    | error fault => exact accounts
    | ok records =>
      exact { accounts with
        copies := List.rel_append accounts.copies (tracked_loaded _ ids records loaded) }
  | setField copy name value =>
    exact accounts_edit start workspace ledger accounts copy _ _ fun record draft tracked =>
      tracked_setField record draft tracked name value
  | setCreators copy creators =>
    exact accounts_edit start workspace ledger accounts copy _ _ fun record draft tracked =>
      tracked_setCreators record draft tracked creators
  | save copy objections => exact accounts_save start workspace ledger accounts copy objections
  | _ => cases edit

theorem accounts_follow (start : Tables) (actions : List Action) (workspace : Workspace)
    (ledger : Ledger) (accounts : Accounts start workspace ledger)
    (edits : ∀ action ∈ actions, action.IsEdit) :
    Accounts start (actions.foldl Workspace.perform workspace) (ledger.follow workspace actions) := by
  induction actions generalizing workspace ledger with
  | nil => exact accounts
  | cons action rest ih =>
    apply ih
    next => exact accounts_perform start workspace ledger accounts action (edits action (by simp))
    next => exact fun other member => edits other (List.mem_cons_of_mem _ member)

/-- However copies of records are edited and saved, each field has the value that the last stored
draft with the field gave it, and each record the creators of the last with creators; what no draft
had is as at the start. -/
theorem last_draft_stands (start : Tables) (actions : List Action)
    (edits : ∀ action ∈ actions, action.IsEdit) :
    (∀ id name, ∀ value,
      (⟨id, name, value⟩ : FieldRow) ∈
          (actions.foldl Workspace.perform { tables := start }).tables.fields <->
        match (Ledger.follow { tables := start } {} actions).field? id name with
        | some written => written = some value
        | none => ⟨id, name, value⟩ ∈ start.fields) /\
    (∀ id name written,
      (Ledger.follow { tables := start } {} actions).field? id name = some written ->
        written.isSome = true) /\
    (∀ id, (actions.foldl Workspace.perform { tables := start }).tables.creators.filter
          (fun row => row.recordId == id) =
        match (Ledger.follow { tables := start } {} actions).creators? id with
        | some creators => Tables.creatorRows id 1 creators
        | none => start.creators.filter fun row => row.recordId == id) /\
    (actions.foldl Workspace.perform { tables := start }).tables =
      { start with
        fields := (actions.foldl Workspace.perform { tables := start }).tables.fields
        creators := (actions.foldl Workspace.perform { tables := start }).tables.creators } := by
  have accounts := accounts_follow start actions _ _ (accounts_start start) edits
  exact ⟨fun id name value => accounts.fields ⟨id, name, value⟩, accounts.given, accounts.creators,
    accounts.others⟩

/-- Two copies of one record are edited and saved; the creators can be stored only in the end. -/
def crossedEdits : List Action :=
  [.load [1], .load [1], .setField 0 "title" (some "New"), .setField 1 "url" (some "here"),
    .save 1 noCreators, .setCreators 1 [⟨"Grace", "Hopper", "", "author"⟩], .save 1 noCreators,
    .save 0 noObjections, .setField 0 "title" (some "Newer"), .save 1 noObjections]

theorem last_draft_stands_crossed :
    (∀ action ∈ crossedEdits, action.IsEdit) /\
      ⟨1, "title", "New"⟩ ∈
        (crossedEdits.foldl Workspace.perform { tables := bookTables }).tables.fields /\
      ⟨1, "url", "here"⟩ ∈
        (crossedEdits.foldl Workspace.perform { tables := bookTables }).tables.fields /\
      (crossedEdits.foldl Workspace.perform { tables := bookTables }).tables.creators.filter
          (fun row => row.recordId == 1) = [⟨1, 1, ⟨"Grace", "Hopper", "", "author"⟩⟩] := by
  have edits : ∀ action ∈ crossedEdits, action.IsEdit := by simp [crossedEdits, Action.IsEdit]
  obtain ⟨fields, _, creators, _⟩ := last_draft_stands bookTables crossedEdits edits
  have title : (Ledger.follow { tables := bookTables } {} crossedEdits).field? 1 "title" =
      some (some "New") := by
    decide +kernel
  have url : (Ledger.follow { tables := bookTables } {} crossedEdits).field? 1 "url" =
      some (some "here") := by
    decide +kernel
  have authors : (Ledger.follow { tables := bookTables } {} crossedEdits).creators? 1 =
      some [⟨"Grace", "Hopper", "", "author"⟩] := by
    decide +kernel
  have titleStands := fields 1 "title" "New"
  have urlStands := fields 1 "url" "here"
  have authorsStand := creators 1
  rw [title] at titleStands
  rw [url] at urlStands
  rw [authors] at authorsStand
  exact ⟨edits, titleStands.2 rfl, urlStands.2 rfl, authorsStand⟩

end BibEdit.Database
