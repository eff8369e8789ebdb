import BibEdit.Proofs.Ascending
import BibEdit.Proofs.Revision.Commit

set_option autoImplicit false

/-! A revision of some fields leaves everything else in the library as it was. -/

namespace BibEdit

namespace Field

theorem parse_eq_scalar (id name : String) (parsed : parse id = .scalar name) :
    name = id /\ isScalarName id = true := by
  unfold parse at parsed
  split at parsed
  next scalar =>
    cases parsed
    exact ⟨rfl, scalar⟩
  next =>
    split at parsed
    next => cases parsed
    next => split_ifs at parsed

theorem parse_eq_creator (id : String) (part : NamePart) (parsed : parse id = .creator part) :
    id = creatorId part := by
  unfold parse at parsed
  split at parsed
  next => cases parsed
  next =>
    split at parsed
    next found is =>
      cases parsed
      have named := List.find?_some is
      simpa using (beq_iff_eq.1 named).symm
    next => split_ifs at parsed

end Field

def revisable (targets : List String) (name : String) : Bool :=
  targets.contains name && Field.isScalarName name

structure Creator.Within (targets : List String) (before after : Creator) : Prop where
  type : after.creatorType = before.creatorType
  first : Field.creatorId .firstName ∉ targets -> after.firstName = before.firstName
  last : Field.creatorId .lastName ∉ targets -> after.lastName = before.lastName
  full : Field.creatorId .fullName ∉ targets -> after.fullName = before.fullName

/-- Nothing of an entry differs but the fields that are to be revised. -/
structure Entry.Within (targets : List String) (before after : Entry) : Prop where
  id : after.id = before.id
  key : after.key = before.key
  library : after.libraryId = before.libraryId
  type : after.itemType = before.itemType
  fields : after.fields.filter (fun field => !revisable targets field.1) =
    before.fields.filter fun field => !revisable targets field.1
  creators : List.Forall₂ (Creator.Within targets) before.creators after.creators
  tags : after.tags = before.tags
  collections : after.collections = before.collections

/-- No entry differs but by the fields that are to be revised, and only those of some sort differ. -/
structure Library.Within (targets : List String) (touched : Entry -> Prop) (before after : Library) :
    Prop where
  entries : List.Forall₂ (fun old new => old.Within targets new /\ (touched old \/ new = old))
    before.entries after.entries
  collections : after.collections = before.collections
  locked : after.locked = before.locked

theorem Creator.within_refl (targets : List String) (creator : Creator) :
    creator.Within targets creator := ⟨rfl, fun _ => rfl, fun _ => rfl, fun _ => rfl⟩

theorem Creator.Within.trans {targets : List String} {first second third : Creator}
    (before : first.Within targets second) (after : second.Within targets third) :
    first.Within targets third where
  type := after.type.trans before.type
  first unnamed := (after.first unnamed).trans (before.first unnamed)
  last unnamed := (after.last unnamed).trans (before.last unnamed)
  full unnamed := (after.full unnamed).trans (before.full unnamed)

theorem forall₂_trans {α : Type} {first second both : α -> α -> Prop}
    (chained : ∀ a b c, first a b -> second b c -> both a c) {before middle after : List α}
    (earlier : List.Forall₂ first before middle) (later : List.Forall₂ second middle after) :
    List.Forall₂ both before after := by
  induction earlier generalizing after with
  | nil =>
    cases later
    exact .nil
  | cons here _ ih =>
    cases later with
    | cons there rest => exact .cons (chained _ _ _ here there) (ih rest)

theorem Entry.within_refl (targets : List String) (entry : Entry) : entry.Within targets entry where
  id := rfl
  key := rfl
  library := rfl
  type := rfl
  fields := rfl
  creators := List.forall₂_same.2 fun creator _ => creator.within_refl targets
  tags := rfl
  collections := rfl

theorem Entry.Within.trans {targets : List String} {first second third : Entry}
    (before : first.Within targets second) (after : second.Within targets third) :
    first.Within targets third where
  id := after.id.trans before.id
  key := after.key.trans before.key
  library := after.library.trans before.library
  type := after.type.trans before.type
  fields := after.fields.trans before.fields
  creators := forall₂_trans (fun _ _ _ here there => here.trans there) before.creators after.creators
  tags := after.tags.trans before.tags
  collections := after.collections.trans before.collections

namespace Library

theorem within_refl (targets : List String) (touched : Entry -> Prop) (library : Library) :
    library.Within targets touched library where
  entries := List.forall₂_same.2 fun entry _ => ⟨entry.within_refl targets, .inr rfl⟩
  collections := rfl
  locked := rfl

theorem Within.trans {targets : List String} {firstTouched thenTouched : Entry -> Prop}
    {first second third : Library} (before : first.Within targets firstTouched second)
    (after : second.Within targets thenTouched third) :
    first.Within targets (fun entry => firstTouched entry \/ thenTouched entry) third where
  entries := by
    apply forall₂_trans _ before.entries after.entries
    intro old between new ⟨here, touchedHere⟩ ⟨there, touchedThere⟩
    refine ⟨here.trans there, ?_⟩
    rcases touchedHere with touched | rfl
    next => exact .inl (.inl touched)
    next => exact touchedThere.imp_left .inr
  collections := after.collections.trans before.collections
  locked := after.locked.trans before.locked

theorem Within.mono {targets : List String} {touched wider : Entry -> Prop}
    {before after : Library} (within : before.Within targets touched after)
    (covers : ∀ entry ∈ before.entries, touched entry -> wider entry) :
    before.Within targets wider after where
  entries := by
    have members := (List.forall₂_and_left _ _).2 ⟨fun entry member => member, within.entries⟩
    exact members.imp fun old new ⟨member, same, touched⟩ =>
      ⟨same, touched.imp_left (covers old member)⟩
  collections := within.collections
  locked := within.locked

theorem Within.ascending {targets : List String} {touched : Entry -> Prop} {before after : Library}
    (within : before.Within targets touched after) (ascending : Ascending Entry.id before.entries) :
    Ascending Entry.id after.entries := by
  have ids : before.entries.map Entry.id = after.entries.map Entry.id := by
    rw [← List.forall₂_eq_eq_eq, List.forall₂_map_left_iff, List.forall₂_map_right_iff]
    exact within.entries.imp fun old new both => both.1.id.symm
  have pairs (entries : List Entry) : Ascending Entry.id entries <->
      (entries.map Entry.id).Pairwise fun first second => first < second := by
    rw [List.pairwise_map]
    rfl
  rwa [pairs, ← ids, ← pairs]

theorem Within.mem {targets : List String} {touched : Entry -> Prop} {before after : Library}
    (within : before.Within targets touched after) (entry : Entry)
    (member : entry ∈ before.entries) (untouched : ¬ touched entry) : entry ∈ after.entries := by
  obtain ⟨new, among, _, either⟩ := forall₂_mem_right _ _ within.entries.flip entry member
  rcases either with touched | rfl
  next => exact absurd touched untouched
  next => exact among

end Library

namespace Revision

theorem reviseCreator_within (revision : Revision) (targets : List String) (part : NamePart)
    (named : Field.creatorId part ∈ targets) (creator : Creator) (revised : Creator × Nat)
    (done : revision.reviseCreator part creator = .ok revised) :
    creator.Within targets revised.1 := by
  have partSet (text : String) : creator.Within targets (creator.set part text) := by
    cases part with
    | firstName => exact ⟨rfl, fun unnamed => absurd named unnamed, fun _ => rfl, fun _ => rfl⟩
    | lastName => exact ⟨rfl, fun _ => rfl, fun unnamed => absurd named unnamed, fun _ => rfl⟩
    | fullName => exact ⟨rfl, fun _ => rfl, fun _ => rfl, fun unnamed => absurd named unnamed⟩
  unfold reviseCreator at done
  dsimp only at done
  split at done
  next =>
    cases done
    exact creator.within_refl targets
  next =>
    obtain ⟨replaced, _, rest⟩ := bind_eq_ok.1 done
    split at rest
    next =>
      cases rest
      exact creator.within_refl targets
    next =>
      cases rest
      exact partSet replaced.result

def ChangeWithin (targets : List String) (creators : List Creator) (change : Change) : Prop :=
  revisable targets change.field = true \/
    ∃ part after, change.field = Field.creatorId part /\ change.after = Snapshot.write after /\
      List.Forall₂ (Creator.Within targets) creators after

theorem preview_within (revision : Revision) (source : Readable) (targets : List String)
    (changes : List Change) (previewed : revision.preview source targets = .ok changes) :
    ∀ change ∈ changes, ChangeWithin targets source.record.creators change := by
  intro change member
  obtain ⟨sublist, outcomes⟩ := preview_eq_ok revision source targets changes previewed
  have named := sublist.subset (List.mem_map_of_mem member)
  obtain ⟨outcome, found, is⟩ := outcomes change.field named
  rw [(is change).2 ⟨member, rfl⟩] at found
  unfold previewField at found
  split at found
  next part parsed =>
    have field := Field.parse_eq_creator _ part parsed
    obtain ⟨revised, each, rest⟩ := bind_eq_ok.1 found
    have pairs := (mapM_eq_ok.1 each).imp fun creator after done =>
      reviseCreator_within revision targets part (field ▸ named) creator after done
    dsimp only at rest
    split at rest
    next => cases rest
    next =>
      have same := Option.some.inj (Except.ok.inj rest)
      exact .inr ⟨part, revised.map Prod.fst, field, (congrArg Change.after same).symm,
        List.forall₂_map_right_iff.2 pairs⟩
  next name parsed =>
    left
    simp [revisable, named, (Field.parse_eq_scalar _ name parsed).2]
  next => cases found

/-- What a record of an entry may have marked: no field that is not to be revised, and the creators
only with nothing else changed. -/
structure StagedWithin (targets : List String) (entry : Entry) (record : Record) : Prop where
  id : record.id = entry.id
  fields : ∀ name ∈ record.dirtyFields, revisable targets name = true
  creators : record.dirtyCreators = true ->
    List.Forall₂ (Creator.Within targets) entry.creators record.creators

theorem stagedWithin_record (targets : List String) (entry : Entry) :
    StagedWithin targets entry entry.record where
  id := rfl
  fields := by simp [Entry.record]
  creators marked := by cases marked

theorem read_write_typed (creators : List Creator)
    (typed : ∀ creator ∈ creators, creator.creatorType ≠ "") :
    Snapshot.read (Snapshot.write creators) = .ok creators := by
  rw [Snapshot.read_write, List.map_congr_left fun creator member =>
    creator.typed_of_ne (typed creator member), List.map_id']

theorem stage_within (targets : List String) (entry : Entry) (record after : Record)
    (change : Change) (typed : ∀ creator ∈ entry.creators, creator.creatorType ≠ "")
    (within : ChangeWithin targets entry.creators change)
    (before : StagedWithin targets entry record) (staged : stage record change = .ok after) :
    StagedWithin targets entry after := by
  rcases within with field | ⟨part, creators, named, snapshot, kept⟩
  next =>
    have scalar : Field.isScalarName change.field = true := by
      simp only [revisable, Bool.and_eq_true] at field
      exact field.2
    simp only [stage, Field.parse_scalar _ scalar, Record.setField, scalar, Bool.not_true] at staged
    cases staged
    refine { before with fields := fun name member => ?_ }
    dsimp only at member
    split at member
    next => exact before.fields name member
    next =>
      rcases List.mem_append.1 member with old | new
      next => exact before.fields name old
      next => exact List.mem_singleton.1 new ▸ field
  next =>
    -- A snapshot gives creators without a type the default one, so the types have to be there.
    have stillTyped : ∀ creator ∈ creators, creator.creatorType ≠ "" := by
      intro creator member
      obtain ⟨old, among, same⟩ := forall₂_mem_right _ _ kept creator member
      rw [same.type]
      exact typed old among
    simp only [stage, named, Field.parse_creatorId, snapshot, read_write_typed creators stillTyped,
      Except.mapError, ok_bind] at staged
    cases staged
    exact { before with creators := fun _ => kept }

theorem stageAll_within (targets : List String) (entry : Entry) (changes : List Change)
    (record : Record) (typed : ∀ creator ∈ entry.creators, creator.creatorType ≠ "")
    (within : ∀ change ∈ changes, ChangeWithin targets entry.creators change)
    (before : StagedWithin targets entry record) :
    StagedWithin targets entry (stageAll record changes).1 := by
  induction changes generalizing record with
  | nil => exact before
  | cons change rest ih =>
    unfold stageAll
    cases staged : stage record change with
    -- What was staged before a change that fails stays staged.
    | error fault => exact before
    | ok next =>
      apply ih next
      next => exact fun other member => within other (List.mem_cons_of_mem _ member)
      next =>
        exact stage_within targets entry record next change typed (within change (by simp)) before
          staged

theorem filter_place {α κ : Type} [LT κ] [DecidableLT κ] [DecidableEq κ] (rank : α -> κ)
    (keep : κ -> Bool) (item : α) (items : List α) (dropped : keep (rank item) = false) :
    (place rank item items).filter (fun other => keep (rank other)) =
      items.filter fun other => keep (rank other) := by
  induction items with
  | nil => simp [place, dropped]
  | cons other rest ih =>
    unfold place
    split
    next same => simp [← same, dropped]
    next =>
      split
      next => simp [dropped]
      next => simp [List.filter_cons, ih]

theorem forall₂_place {α κ : Type} [LinearOrder κ] (rank : α -> κ) (related : α -> α -> Prop)
    (item old : α) (items : List α) (ascending : Ascending rank items) (member : old ∈ items)
    (same : rank item = rank old) (fits : related old item)
    (refl : ∀ other ∈ items, related other other) :
    List.Forall₂ related items (place rank item items) := by
  induction items with
  | nil => cases member
  | cons head rest ih =>
    obtain ⟨above, later⟩ := List.pairwise_cons.1 ascending
    have restRefl : ∀ other ∈ rest, related other other := fun other among =>
      refl other (List.mem_cons_of_mem _ among)
    unfold place
    rcases List.mem_cons.1 member with rfl | among
    next =>
      rw [if_pos same]
      exact .cons fits (List.forall₂_same.2 restRefl)
    next =>
      have below : rank head < rank item := same ▸ above old among
      rw [if_neg below.ne', if_neg below.not_gt]
      exact .cons (refl head (by simp)) (ih later among restRefl)

theorem writeFields_filter (locked : Bool) (targets : List String) (record : Record)
    (fields after : List (String × String))
    (marked : ∀ name ∈ record.dirtyFields, revisable targets name = true)
    (written : Library.writeFields locked record fields = .ok after) :
    after.filter (fun field => !revisable targets field.1) =
      fields.filter fun field => !revisable targets field.1 := by
  refine foldlM_keeps (fun state => state.filter (fun field => !revisable targets field.1) =
    fields.filter fun field => !revisable targets field.1) _ (Library.sortNames record.dirtyFields)
    ?_ fields after rfl written
  intro state name next member kept wrote
  have named := marked name ((Library.sortNames_mem _ name).1 member)
  unfold Library.writeField at wrote
  split at wrote
  next => cases wrote
  next value _ =>
    split at wrote
    next => cases wrote
    next =>
      cases wrote
      rw [← kept]
      exact filter_place Prod.fst (fun name => !revisable targets name) (name, value) state
        (by simp [named])

theorem save_within (targets : List String) (library : Library)
    (ascending : Ascending Entry.id library.entries) (entry : Entry)
    (member : entry ∈ library.entries) (record : Record)
    (staged : StagedWithin targets entry record) :
    library.Within targets (fun touched => touched = entry) (Library.save record library).2 := by
  have found := Library.entry?_of_mem library ascending entry member
  by_cases dirty : record.isDirty = true
  next =>
    rw [Library.save_of_dirty record library dirty, staged.id, found]
    dsimp only
    cases updated : Library.updated library.locked record entry with
    | error fault => exact library.within_refl targets _
    | ok after =>
      obtain ⟨fields, written, rfl⟩ := Library.updated_eq_ok _ _ _ _ updated
      refine ⟨?_, rfl, rfl⟩
      apply forall₂_place Entry.id _ { entry with
        fields := fields
        creators := if record.dirtyCreators then record.creators else entry.creators } entry _
        ascending member rfl
      next =>
        refine ⟨{ entry.within_refl targets with fields := ?_, creators := ?_ }, .inl rfl⟩
        next => exact writeFields_filter _ targets record _ _ staged.fields written
        next =>
          dsimp only
          split
          next marked => exact staged.creators marked
          next => exact (entry.within_refl targets).creators
      next => exact fun other _ => ⟨other.within_refl targets, .inr rfl⟩
  next =>
    have untouched : Library.save record library = (.ok record, library) := by
      simp [Library.save, dirty]
    rw [untouched]
    exact library.within_refl targets _

variable (revision : Revision) (targets : List String)

theorem reviseOne_within (library : Library) (ascending : Ascending Entry.id library.entries)
    (entry : Entry) (member : entry ∈ library.entries)
    (typed : ∀ creator ∈ entry.creators, creator.creatorType ≠ "") :
    library.Within targets (fun touched => touched = entry)
      (reviseOne Library.keeping revision targets library entry.record).place := by
  unfold reviseOne
  cases previewed : revision.preview (Library.keeping.readable entry.record) targets with
  | error fault => exact library.within_refl targets _
  | ok changes =>
    have staged := stageAll_within targets entry changes entry.record typed
      (preview_within revision _ targets changes previewed) (stagedWithin_record targets entry)
    dsimp only
    unfold commit
    split
    next => exact library.within_refl targets _
    next =>
      cases outcome : stageAll entry.record changes with
      | mk record stopped =>
        rw [outcome] at staged
        have saved := save_within targets library ascending entry member record staged
        rw [show stageAll (Library.keeping.record entry.record) changes = (record, stopped) from
          outcome]
        cases stopped with
        | some fault => exact library.within_refl targets _
        | none =>
          dsimp only [Library.keeping]
          cases wrote : Library.save record library with
          | mk result after =>
            rw [wrote] at saved
            cases result <;> exact saved

theorem reviseAll_within (chosen : List Entry) (library : Library)
    (ascending : Ascending Entry.id library.entries) (apart : chosen.Nodup)
    (members : ∀ entry ∈ chosen, entry ∈ library.entries)
    (typed : ∀ entry ∈ chosen, ∀ creator ∈ entry.creators, creator.creatorType ≠ "")
    (total current : Nat) (batch : Batch Library Record) (place : batch.place = library) :
    library.Within targets (fun touched => touched ∈ chosen)
      (reviseAll Library.keeping revision targets total current batch
        (chosen.map Entry.record)).place := by
  induction chosen generalizing library current batch with
  | nil =>
    rw [List.map_nil, reviseAll, place]
    exact library.within_refl targets _
  | cons entry rest ih =>
    obtain ⟨absent, apartRest⟩ := List.nodup_cons.1 apart
    have here := reviseOne_within revision targets library ascending entry (members entry (by simp))
      (typed entry (by simp))
    -- The entries that come later are still as they were loaded.
    have stillThere : ∀ other ∈ rest, other ∈
        (reviseOne Library.keeping revision targets library entry.record).place.entries := by
      intro other among
      apply here.mem other (members other (List.mem_cons_of_mem _ among))
      exact fun same => absent (same ▸ among)
    have later := ih _ (here.ascending ascending) apartRest stillThere
      (fun other among => typed other (List.mem_cons_of_mem _ among)) (current + 1)
      { result := batch.result.add entry.record.id
          (reviseOne Library.keeping revision targets library entry.record).result
        events := batch.events ++ [.reported ⟨current + 1, total, entry.record.id⟩,
          .revised entry.record.id
            (reviseOne Library.keeping revision targets library entry.record).result]
        items := batch.items ++
          [(reviseOne Library.keeping revision targets library entry.record).item]
        place := (reviseOne Library.keeping revision targets library entry.record).place } rfl
    have both := here.trans later
    simp only [List.mem_cons]
    rw [List.map_cons, reviseAll, place]
    exact both

end Revision

end BibEdit
