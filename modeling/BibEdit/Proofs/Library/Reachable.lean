import BibEdit.Proofs.Library.Listing
import BibEdit.Proofs.Library.Load

set_option autoImplicit false

/-! Every workspace that actions lead to is sound. -/

namespace BibEdit.Library

variable {fit : Creator -> Prop}

theorem hasCollection_iff (library : Library) (id : Int) :
    library.hasCollection id = true <-> ∃ collection ∈ library.collections, collection.id = id := by
  simp [hasCollection]

theorem sound_importCollection (library after : Library) (listed : ListedCollection)
    (sound : library.Sound fit) (imported : importCollection library listed = .ok after) :
    after.Sound fit := by
  unfold importCollection at imported
  obtain ⟨_, idFits, rest⟩ := bind_eq_ok.1 imported
  obtain ⟨_, libraryFits, same⟩ := bind_eq_ok.1 rest
  cases same
  have members := fun other => mem_place (⟨listed.id, listed.name, listed.libraryId⟩ : Collection)
    other library.collections sound.collectionsAscending
  exact { sound with
    collectionsAscending := ascending_place _ _ sound.collectionsAscending
    collectionsStorable := by
      intro collection member
      rcases (members collection).1 member with rfl | ⟨old, _⟩
      next =>
        exact ⟨requireStorable_eq_ok _ idFits, requireStorable_eq_ok _ libraryFits⟩
      next => exact sound.collectionsStorable collection old
    entries := by
      intro entry member
      refine (sound.entries entry member).mono fun number known => ?_
      obtain ⟨collection, old, same⟩ := (hasCollection_iff library number).1 known
      rw [hasCollection_iff]
      by_cases equal : collection.id = listed.id
      next => exact ⟨_, (members _).2 (.inl rfl), equal.symm.trans same⟩
      next => exact ⟨collection, (members collection).2 (.inr ⟨old, equal⟩), same⟩ }

theorem collections_of_unknownAmong (library : Library) (collections : List Toml.Value)
    (known : library.unknownAmong collections = none) (number : Int)
    (member : number ∈ collections.filterMap Toml.Value.integer?) :
    library.hasCollection number = true := by
  obtain ⟨value, among, is⟩ := List.mem_filterMap.1 member
  have found := List.find?_eq_none.1 known value among
  simpa [is] using found

theorem id_le_of_last (entries : List Entry) (last : Entry) (ascending : Ascending Entry.id entries)
    (isLast : entries.getLast? = some last) : ∀ entry ∈ entries, entry.id <= last.id := by
  obtain ⟨earlier, rfl⟩ := List.getLast?_eq_some_iff.1 isLast
  intro entry member
  rcases List.mem_append.1 member with before | here
  next => exact Int.le_of_lt ((List.pairwise_append.1 ascending).2.2 entry before last (by simp))
  next => exact Int.le_of_eq (congrArg Entry.id (List.mem_singleton.1 here))

theorem id_lt_nextId (library : Library) (keyed : library.Keyed) :
    ∀ entry ∈ library.entries, entry.id < library.nextId := by
  unfold nextId
  cases last : library.entries.getLast? with
  | none =>
    rw [List.getLast?_eq_none_iff] at last
    simp [last]
  | some greatest =>
    exact fun entry member => Int.lt_add_one_of_le
      (id_le_of_last library.entries greatest keyed.ascending last entry member)

theorem nextId_positive (library : Library) (sound : library.Sound fit) : 1 <= library.nextId := by
  unfold nextId
  cases last : library.entries.getLast? with
  | none => exact Int.le_refl 1
  | some greatest =>
    have positive := (sound.entries greatest (List.mem_of_getLast? last)).idPositive
    dsimp only
    omega

theorem nextId_append (library : Library) (entry : Entry) :
    nextId { library with entries := library.entries ++ [entry] } = entry.id + 1 := by
  simp [nextId]

theorem entryOfKey?_eq_some (library : Library) (key : String) (entry : Entry)
    (found : library.entryOfKey? key = some entry) : entry ∈ library.entries /\ entry.key = key :=
  ⟨List.mem_of_find?_eq_some found, by simpa using List.find?_some found⟩

theorem idFor_cases (library : Library) (key : String) (id : Int)
    (given : library.idFor key = .ok id) :
    (∃ old, library.entryOfKey? key = some old /\ old.id = id) \/
      library.entryOfKey? key = none /\ library.nextId = id /\ isStorable id = true := by
  unfold idFor at given
  cases found : library.entryOfKey? key with
  | some old =>
    rw [found] at given
    exact .inl ⟨old, rfl, Except.ok.inj given⟩
  | none =>
    rw [found] at given
    dsimp only at given
    split at given
    next storable =>
      cases given
      exact .inr ⟨rfl, rfl, storable⟩
    next => cases given

theorem idFor_own (library : Library) (keyed : library.Keyed) (key : String) (id : Int)
    (given : library.idFor key = .ok id) :
    ∀ entry ∈ library.entries, entry.key = key <-> entry.id = id := by
  intro entry among
  rcases idFor_cases library key id given with ⟨old, found, rfl⟩ | ⟨found, rfl, _⟩
  next =>
    obtain ⟨member, named⟩ := entryOfKey?_eq_some library key old found
    constructor
    next =>
      intro same
      rw [List.inj_on_of_nodup_map keyed.keys among member (same.trans named.symm)]
    next =>
      intro same
      rw [keyed.ascending.eq_of_rank _ entry old among member same, named]
  next =>
    constructor
    next =>
      intro same
      exact absurd (by simpa using same) (List.find?_eq_none.1 found entry among)
    next =>
      intro same
      exact absurd same (Int.ne_of_lt (id_lt_nextId library keyed entry among))

theorem idFor_eq_ok (library : Library) (sound : library.Sound fit) (key : String) (id : Int)
    (given : library.idFor key = .ok id) :
    1 <= id /\ isStorable id = true /\
      ∀ entry ∈ library.entries, entry.key = key <-> entry.id = id := by
  have own := idFor_own library sound.keyed key id given
  rcases idFor_cases library key id given with ⟨old, found, rfl⟩ | ⟨_, rfl, storable⟩
  next =>
    have soundOld := sound.entries old (entryOfKey?_eq_some library key old found).1
    exact ⟨soundOld.idPositive, soundOld.idStorable, own⟩
  next => exact ⟨nextId_positive library sound, storable, own⟩

theorem sound_importRecord (typedFit : ∀ creator : Creator, creator.creatorType ≠ "" -> fit creator)
    (path : String) (library after : Library) (listed : ListedRecord) (checked : listed.Checked)
    (sound : library.Sound fit) (imported : importRecord path library listed = .ok after) :
    after.Sound fit := by
  unfold importRecord at imported
  split at imported
  next => cases imported
  next known =>
    obtain ⟨entry, made, rfl⟩ := map_eq_ok.1 (mapError_eq_ok.1 imported)
    unfold entryFor at made
    obtain ⟨_, libraryFits, made⟩ := bind_eq_ok.1 made
    obtain ⟨id, numbered, made⟩ := bind_eq_ok.1 made
    obtain ⟨creators, stored, made⟩ := bind_eq_ok.1 made
    cases made
    obtain ⟨positive, storable, own⟩ := idFor_eq_ok library sound listed.key id numbered
    refine sound_putEntry library _ sound ?_ fun other member same => (own other member).1 same
    exact {
      idPositive := positive
      idStorable := storable
      libraryStorable := requireStorable_eq_ok _ libraryFits
      keyGiven := checked.keyGiven
      typeKnown := checked.typeKnown
      fieldsAscending := ascending_sortFields listed.fields
      fieldsScalar := fun field member =>
        checked.fieldsScalar field (mem_of_mem_sortFields listed.fields field member)
      creatorsFit := by
        intro creator member
        obtain ⟨parts, among, one⟩ := forall₂_mem_right _ _ (mapM_eq_ok.1 stored) creator member
        exact typedFit creator (storedCreator_type parts creator (checked.typesGiven parts among) one)
      tagsDistinct := nodup_distinct listed.tags
      collectionsAscending := ascending_sortNumbers _
      collectionsKnown := by
        intro number member
        rw [mem_sortNumbers] at member
        exact collections_of_unknownAmong library listed.collections known number member }

theorem sound_importFile (typedFit : ∀ creator : Creator, creator.creatorType ≠ "" -> fit creator)
    (library : Library) (path : String) (content : Option String) (sound : library.Sound fit) :
    (library.importFile path content).2.Sound fit := by
  unfold importFile
  cases read : readListing path content with
  | error error => exact sound
  | ok listing =>
    have checked := readListing_checked path content listing read
    dsimp only
    cases imported : importListing path library listing with
    | error error => exact sound
    | ok after =>
      obtain ⟨middle, collections, records⟩ := bind_eq_ok.1 imported
      have soundMiddle := foldlM_keeps (Sound fit) importCollection listing.collections
        (fun state item next _ holds step => sound_importCollection state next item holds step)
        library middle sound (mapError_eq_ok.1 collections)
      exact foldlM_keeps (Sound fit) (importRecord path) listing.records
        (fun state item next member holds step =>
          sound_importRecord typedFit path state next item (checked item member) holds step)
        middle after soundMiddle records

theorem sound_loaded (library : Library) (ids : List Int) (records : List Record)
    (sound : library.Sound fit) (loaded : library.load ids = .ok records) :
    ∀ record ∈ records, record.Sound fit := by
  intro record member
  obtain ⟨id, _, _, entry, found, rfl⟩ := mem_load library ids records loaded record member
  obtain ⟨among, _⟩ := entry?_eq_some library id entry found
  refine ⟨by simp [loadEntry, Entry.record], fun creator listed => ?_⟩
  obtain ⟨copy, copied, within⟩ := List.mem_flatten.1 listed
  rw [(List.mem_replicate.1 copied).2] at within
  exact (sound.entries entry among).creatorsFit creator within

theorem sound_setField (record : Record) (name value : String) (sound : record.Sound fit) :
    ((record.setField name (some value)).getD record).Sound fit := by
  unfold Record.setField
  split
  next => exact sound
  next scalar =>
    refine ⟨?_, sound.creatorsFit⟩
    intro dirty member
    simp only [Option.getD_some] at member
    split at member
    next => exact sound.dirtyScalar dirty member
    next =>
      rcases List.mem_append.1 member with old | new
      next => exact sound.dirtyScalar dirty old
      next =>
        rw [List.mem_singleton.1 new]
        simpa using scalar

theorem sound_clean (record : Record) (sound : record.Sound fit) : record.clean.Sound fit :=
  ⟨by simp [Record.clean], sound.creatorsFit⟩

structure Workspace.Sound (fit : Creator -> Prop) (workspace : Workspace) : Prop where
  library : workspace.library.Sound fit
  copies : ∀ record ∈ workspace.copies, record.Sound fit

def Action.Fits (fit : Creator -> Prop) : Action -> Prop
  | .setCreators _ creators => ∀ creator ∈ creators, fit creator
  | _ => True

theorem mem_modify {α : Type} (items : List α) (index : Nat) (change : α -> α) (item : α)
    (member : item ∈ items.modify index change) :
    item ∈ items \/ ∃ old ∈ items, item = change old := by
  induction items generalizing index with
  | nil => simp at member
  | cons head rest ih =>
    cases index with
    | zero =>
      rcases List.mem_cons.1 (by simpa using member) with rfl | later
      next => exact .inr ⟨head, by simp, rfl⟩
      next => exact .inl (List.mem_cons_of_mem _ later)
    | succ index =>
      rcases List.mem_cons.1 (by simpa using member) with rfl | later
      next => exact .inl (by simp)
      next =>
        rcases ih index later with old | ⟨old, among, same⟩
        next => exact .inl (List.mem_cons_of_mem _ old)
        next => exact .inr ⟨old, List.mem_cons_of_mem _ among, same⟩

theorem sound_edit (workspace : Workspace) (copy : Nat) (change : Record -> Record)
    (sound : workspace.Sound fit)
    (keeps : ∀ record, record.Sound fit -> (change record).Sound fit) :
    (workspace.edit copy change).Sound fit := by
  refine ⟨sound.library, fun record member => ?_⟩
  rcases mem_modify _ _ _ record member with old | ⟨old, among, rfl⟩
  next => exact sound.copies record old
  next => exact keeps old (sound.copies old among)

theorem sound_saveCopy (workspace : Workspace) (copy : Nat) (sound : workspace.Sound fit) :
    (workspace.saveCopy copy).Sound fit := by
  unfold Workspace.saveCopy
  split
  next => exact sound
  next record found =>
    have soundRecord := sound.copies record (List.mem_of_getElem? found)
    have saved := sound_save workspace.library record sound.library soundRecord
    split
    next done library wrote =>
      rw [wrote] at saved
      refine ⟨saved, fun other member => ?_⟩
      rcases List.mem_or_eq_of_mem_set member with old | rfl
      next => exact sound.copies other old
      next =>
        rw [Library.save_eq_ok record other workspace.library library wrote]
        exact sound_clean record soundRecord
    next _ library wrote =>
      rw [wrote] at saved
      exact ⟨saved, sound.copies⟩

theorem sound_perform (typedFit : ∀ creator : Creator, creator.creatorType ≠ "" -> fit creator)
    (workspace : Workspace) (action : Action) (sound : workspace.Sound fit)
    (fits : action.Fits fit) : (workspace.perform action).Sound fit := by
  cases action with
  | importFile path content =>
    exact ⟨sound_importFile typedFit workspace.library path content sound.library, sound.copies⟩
  | load ids =>
    simp only [Workspace.perform]
    split
    next records loaded =>
      refine ⟨sound.library, fun record member => ?_⟩
      rcases List.mem_append.1 member with old | new
      next => exact sound.copies record old
      next => exact sound_loaded workspace.library ids records sound.library loaded record new
    next => exact sound
  | setField copy name value =>
    exact sound_edit workspace copy _ sound fun record holds => sound_setField record name value holds
  | setCreators copy creators =>
    exact sound_edit workspace copy _ sound fun record holds => ⟨holds.dirtyScalar, fits⟩
  | save copy => exact sound_saveCopy workspace copy sound
  | delete id =>
    simp only [Workspace.perform]
    split
    next library deleted =>
      exact ⟨sound_delete workspace.library library id sound.library deleted, sound.copies⟩
    next => exact sound

/-- Whatever is done, the library stays sound. -/
theorem sound_of_reachable (typedFit : ∀ creator : Creator, creator.creatorType ≠ "" -> fit creator)
    (allowed : Action -> Prop) (allowedFits : ∀ action, allowed action -> action.Fits fit)
    (workspace : Workspace) (reachable : Workspace.Reachable allowed workspace) :
    workspace.Sound fit := by
  induction reachable with
  | start => exact ⟨sound_empty, by simp⟩
  | perform workspace action _ permitted ih =>
    exact sound_perform typedFit workspace action ih (allowedFits action permitted)

theorem sound_of_any (workspace : Workspace)
    (reachable : Workspace.Reachable (fun _ => True) workspace) :
    workspace.Sound fun _ => True := by
  have anything (action : Action) (_ : True) : action.Fits fun _ => True := by
    cases action <;> simp [Action.Fits]
  exact sound_of_reachable (fun _ _ => trivial) _ anything workspace reachable

theorem reachable_foldl (allowed : Action -> Prop) (actions : List Action) (workspace : Workspace)
    (before : Workspace.Reachable allowed workspace) (permitted : ∀ action ∈ actions, allowed action) :
    Workspace.Reachable allowed (actions.foldl Workspace.perform workspace) := by
  induction actions generalizing workspace with
  | nil => exact before
  | cons action rest ih =>
    exact ih _ (.perform workspace action before (permitted action (by simp)))
      fun other member => permitted other (List.mem_cons_of_mem _ member)

end BibEdit.Library
