import BibEdit.Held
import BibEdit.Proofs.Library.Save
import BibEdit.Proofs.Snapshot.RoundTrip
import BibEdit.Proofs.Success

set_option autoImplicit false

namespace BibEdit

/-- What is staged on a record reaches it, and a save that succeeds only clears the marks. -/
structure Keeping.Lawful {σ ρ : Type} (keeping : Keeping σ ρ) : Prop where
  recordReplace : ∀ item record, keeping.record (keeping.replace item record) = record
  readRecord : ∀ item name value, keeping.read item name = .ok value ->
    (keeping.record item).read name = .ok value
  readReplace : ∀ item record name value, keeping.read item name = .ok value ->
    keeping.read (keeping.replace item record) name = record.read name
  recordSave : ∀ item place saved after, keeping.save item place = (.ok saved, after) ->
    keeping.record saved = (keeping.record item).clean
  readSave : ∀ item place saved after, keeping.save item place = (.ok saved, after) ->
    keeping.read saved = keeping.read item

theorem Library.keeping_lawful : Library.keeping.Lawful where
  recordReplace _ _ := rfl
  readRecord _ _ _ read := read
  readReplace _ _ _ _ _ := rfl
  recordSave _ _ _ _ done := Library.save_eq_ok _ _ _ _ done
  readSave _ _ _ _ done := by
    rw [Library.save_eq_ok _ _ _ _ done]
    rfl

theorem Held.save_eq_ok (held saved : Held) (done : held.save = .ok saved) :
    saved = { held with record := held.record.clean, saves := held.saves + 1 } := by
  unfold Held.save at done
  split at done <;> cases done
  rfl

theorem Held.keeping_lawful : Held.keeping.Lawful where
  recordReplace _ _ := rfl
  readRecord held name value read := by
    simp only [Held.keeping, Held.read] at read ⊢
    split at read
    next => cases read
    next => split at read <;> simp_all
  readReplace held record name value read := by
    simp only [Held.keeping, Held.read] at read ⊢
    split at read
    next => cases read
    next => split at read <;> simp_all
  recordSave held _ saved _ done := by
    rw [Held.save_eq_ok held saved (Prod.ext_iff.1 done).1]
    rfl
  readSave held _ saved _ done := by
    rw [Held.save_eq_ok held saved (Prod.ext_iff.1 done).1]
    rfl

namespace Field

theorem parse_scalar (name : String) (scalar : isScalarName name = true) :
    parse name = .scalar name := by
  simp [parse, scalar]

theorem parse_creatorId (part : NamePart) : parse (creatorId part) = .creator part := by
  cases part <;> decide +kernel

theorem creatorId_not_scalar (part : NamePart) : isScalarName (creatorId part) = false := by
  cases part <;> decide +kernel

end Field

namespace Revision

theorem stage_scalar (record after : Record) (change : Change)
    (scalar : Field.isScalarName change.field = true) (staged : stage record change = .ok after) :
    after.fields = putEntry change.field (some change.after) record.fields /\
      after.creators = record.creators := by
  simp only [stage, Field.parse_scalar _ scalar, Record.setField, scalar, Bool.not_true] at staged
  cases staged
  exact ⟨rfl, rfl⟩

theorem stage_creator (record after : Record) (change : Change) (part : NamePart)
    (named : change.field = Field.creatorId part) (staged : stage record change = .ok after) :
    after.fields = record.fields /\ Snapshot.read change.after = .ok after.creators := by
  simp only [stage, named, Field.parse_creatorId, bind_eq_ok, mapError_eq_ok] at staged
  obtain ⟨creators, read, same⟩ := staged
  cases same
  exact ⟨rfl, read⟩

theorem stageAll_cons (record after : Record) (change : Change) (rest : List Change)
    (staged : stageAll record (change :: rest) = (after, none)) :
    ∃ next, stage record change = .ok next /\ stageAll next rest = (after, none) := by
  cases first : stage record change with
  | error fault => simp [stageAll, first] at staged
  | ok next => exact ⟨next, rfl, by simpa [stageAll, first] using staged⟩

def Replaceable (field : String) : Prop :=
  Field.isScalarName field = true \/
    field = Field.creatorId .firstName \/ field = Field.creatorId .lastName

instance (field : String) : Decidable (Replaceable field) :=
  inferInstanceAs (Decidable (_ \/ _))

theorem stage_lookup_of_ne (record after : Record) (change : Change) (name : String)
    (replaceable : Replaceable change.field) (other : change.field ≠ name)
    (staged : stage record change = .ok after) :
    after.fields.lookup name = record.fields.lookup name := by
  rcases replaceable with scalar | first | last
  next =>
    rw [(stage_scalar record after change scalar staged).1]
    exact lookup_putEntry_of_ne _ _ _ _ (Ne.symm other)
  next => rw [(stage_creator record after change _ first staged).1]
  next => rw [(stage_creator record after change _ last staged).1]

theorem stageAll_lookup_of_ne (changes : List Change) (record after : Record) (name : String)
    (replaceable : ∀ change ∈ changes, Replaceable change.field)
    (other : ∀ change ∈ changes, change.field ≠ name)
    (staged : stageAll record changes = (after, none)) :
    after.fields.lookup name = record.fields.lookup name := by
  induction changes generalizing record with
  | nil =>
    cases staged
    rfl
  | cons change rest ih =>
    obtain ⟨next, first, later⟩ := stageAll_cons record after change rest staged
    rw [ih next (fun c member => replaceable c (List.mem_cons_of_mem _ member))
      (fun c member => other c (List.mem_cons_of_mem _ member)) later]
    exact stage_lookup_of_ne record next change name (replaceable change (by simp))
      (other change (by simp)) first

theorem stageAll_append (earlier later : List Change) (record after : Record)
    (staged : stageAll record (earlier ++ later) = (after, none)) :
    ∃ middle, stageAll record earlier = (middle, none) /\
      stageAll middle later = (after, none) := by
  induction earlier generalizing record with
  | nil => exact ⟨record, rfl, staged⟩
  | cons change rest ih =>
    obtain ⟨next, first, restStaged⟩ := stageAll_cons record after change _ staged
    obtain ⟨middle, before, behind⟩ := ih next restStaged
    exact ⟨middle, by simp [stageAll, first, before], behind⟩

theorem stageAll_lookup (changes : List Change) (record after : Record) (change : Change)
    (replaceable : ∀ change ∈ changes, Replaceable change.field)
    (apart : (changes.map Change.field).Nodup) (member : change ∈ changes)
    (scalar : Field.isScalarName change.field = true)
    (staged : stageAll record changes = (after, none)) :
    after.fields.lookup change.field = some (some change.after) := by
  obtain ⟨earlier, later, rfl⟩ := List.append_of_mem member
  obtain ⟨middle, _, behind⟩ := stageAll_append earlier _ record after staged
  obtain ⟨next, here, rest⟩ := stageAll_cons middle after change later behind
  have other : ∀ c ∈ later, c.field ≠ change.field := by
    intro c within same
    simp only [List.map_append, List.map_cons, List.nodup_append, List.nodup_cons] at apart
    exact apart.2.1.1 (same ▸ List.mem_map_of_mem within)
  rw [stageAll_lookup_of_ne later next after change.field
      (fun c within => replaceable c (by simp [within])) other rest,
    (stage_scalar middle next change scalar here).1, lookup_putEntry]

theorem stageAll_creators_of_scalar (changes : List Change) (record after : Record)
    (scalar : ∀ change ∈ changes, Field.isScalarName change.field = true)
    (staged : stageAll record changes = (after, none)) : after.creators = record.creators := by
  induction changes generalizing record with
  | nil =>
    cases staged
    rfl
  | cons change rest ih =>
    obtain ⟨next, first, later⟩ := stageAll_cons record after change rest staged
    rw [ih next (fun c member => scalar c (List.mem_cons_of_mem _ member)) later]
    exact (stage_scalar record next change (scalar change (by simp)) first).2

-- A snapshot holds all creators, so the last one decides.
theorem stageAll_creators_last (earlier later : List Change) (record after : Record)
    (change : Change) (part : NamePart) (named : change.field = Field.creatorId part)
    (scalar : ∀ change ∈ later, Field.isScalarName change.field = true)
    (staged : stageAll record (earlier ++ change :: later) = (after, none)) :
    Snapshot.read change.after = .ok after.creators := by
  obtain ⟨middle, _, behind⟩ := stageAll_append earlier _ record after staged
  obtain ⟨next, here, rest⟩ := stageAll_cons middle after change later behind
  rw [stageAll_creators_of_scalar later next after scalar rest]
  exact (stage_creator middle next change part named here).2

theorem commit_of_save {σ ρ : Type} (keeping : Keeping σ ρ) (place after : σ) (item saved : ρ)
    (changes : List Change) (record : Record) (someChanges : changes ≠ [])
    (staged : stageAll (keeping.record item) changes = (record, none))
    (wrote : keeping.save (keeping.replace item record) place = (.ok saved, after)) :
    commit keeping place item changes = ⟨.ok ⟨true, savedMessage, changes⟩, saved, after⟩ := by
  have given : changes.isEmpty = false := by simpa using someChanges
  simp [commit, given, staged, wrote]

/-- The part of a creator, if it had a text, is now what the revision makes of it. -/
def PartRevised (revision : Revision) (part : NamePart) (before after : Creator) : Prop :=
  before.get part ≠ "" ->
    ∃ replaced, revision.apply (before.get part) = .ok replaced /\ after.get part = replaced.result

theorem reviseCreator_unchanged (revision : Revision) (part : NamePart) (creator after : Creator)
    (count : Nat) (revised : revision.reviseCreator part creator = .ok (after, count))
    (holds : revision.PartRevised part creator creator) : after = creator := by
  unfold reviseCreator at revised
  dsimp only at revised
  split at revised
  next => cases revised; rfl
  next filled =>
    obtain ⟨replaced, applied, same⟩ := holds (by simpa using filled)
    simp only [applied, bind_eq_ok, Except.ok.injEq, exists_eq_left', ← same] at revised
    simp [pure, Except.pure] at revised
    exact revised.1.symm

theorem reviseCreator_holds (revision : Revision) (part : NamePart) (creator after : Creator)
    (count : Nat) (named : part ≠ .fullName)
    (revised : revision.reviseCreator part creator = .ok (after, count)) :
    revision.PartRevised part creator after /\
      ∀ other, other ≠ part -> other ≠ .fullName -> after.get other = creator.get other := by
  unfold reviseCreator at revised
  dsimp only at revised
  split at revised
  next blank =>
    cases revised
    exact ⟨fun filled => absurd (by simpa using blank) filled, fun _ _ _ => rfl⟩
  next =>
    obtain ⟨replaced, applied, rest⟩ := bind_eq_ok.1 revised
    split at rest
    next same =>
      cases rest
      have kept : replaced.result = creator.get part := by simpa using same
      exact ⟨fun _ => ⟨replaced, applied, kept.symm⟩, fun _ _ _ => rfl⟩
    next =>
      cases rest
      constructor
      next =>
        intro _
        refine ⟨replaced, applied, ?_⟩
        cases part <;> simp_all
      next =>
        intro other apart short
        cases part <;> cases other <;> simp_all [Creator.get, Creator.set]

def Revises (revision : Revision) (part : NamePart) (before after : List Creator) : Prop :=
  List.Forall₂ (fun old new => revision.PartRevised part old new /\
    ∀ other, other ≠ part -> other ≠ .fullName -> new.get other = old.get other) before after

theorem previewCreators_eq_ok (revision : Revision) (field : String) (part : NamePart)
    (creators : List Creator) (outcome : Option Change) (named : part ≠ .fullName)
    (previewed : revision.previewCreators field part creators = .ok outcome) :
    ∃ after, revision.Revises part creators after /\
      (List.Forall₂ (revision.PartRevised part) creators creators -> after = creators) /\
      (outcome = none /\ after = creators \/
        ∃ change, outcome = some change /\ change.field = field /\
          change.after = Snapshot.write after /\ after ≠ creators) := by
  unfold previewCreators at previewed
  obtain ⟨revised, each, rest⟩ := bind_eq_ok.1 previewed
  have pairs := mapM_eq_ok.1 each
  refine ⟨revised.map Prod.fst, ?_, ?_, ?_⟩
  next =>
    rw [Revises, List.forall₂_map_right_iff]
    exact pairs.imp fun old new done => reviseCreator_holds revision part old new.1 new.2 named done
  next =>
    clear previewed rest each
    intro holds
    induction pairs with
    | nil => rfl
    | cons first _ ih =>
      obtain ⟨here, later⟩ := List.forall₂_cons.1 holds
      rw [List.map_cons, ih later, reviseCreator_unchanged revision part _ _ _ first here]
  next =>
    dsimp only at rest
    split at rest
    next same =>
      cases rest
      exact .inl ⟨rfl, by simpa using same⟩
    next changed =>
      cases rest
      exact .inr ⟨_, rfl, rfl, rfl, by simpa using changed⟩

theorem previewScalar_eq_ok (revision : Revision) (field name : String) (source : Readable)
    (outcome : Option Change) (value : String) (read : source.read name = .ok (some value))
    (previewed : revision.previewScalar field name source = .ok outcome) :
    ∃ replaced, revision.apply value = .ok replaced /\
      (outcome = none /\ replaced.result = value \/
        ∃ change, outcome = some change /\ change.field = field /\
          change.after = replaced.result) := by
  have given : Condition.present? (source.read name) = .ok (some value) := by
    rw [read]
    rfl
  unfold previewScalar at previewed
  obtain ⟨found, is, rest⟩ := bind_eq_ok.1 previewed
  rw [given] at is
  cases is
  dsimp only at rest
  obtain ⟨replaced, applied, last⟩ := bind_eq_ok.1 rest
  refine ⟨replaced, applied, ?_⟩
  split at last
  next same =>
    cases last
    exact .inl ⟨rfl, by simpa using same⟩
  next =>
    cases last
    exact .inr ⟨_, rfl, rfl, rfl⟩

theorem previewField_field (revision : Revision) (source : Readable) (field : String)
    (change : Change) (previewed : revision.previewField source field = .ok (some change)) :
    change.field = field := by
  unfold previewField at previewed
  split at previewed
  next =>
    obtain ⟨revised, _, rest⟩ := bind_eq_ok.1 previewed
    dsimp only at rest
    split at rest <;> cases rest
    rfl
  next =>
    obtain ⟨found, _, rest⟩ := bind_eq_ok.1 previewed
    split at rest
    next => cases rest
    next =>
      obtain ⟨replaced, _, last⟩ := bind_eq_ok.1 rest
      split at last <;> cases last
      rfl
  next => cases previewed

theorem preview_eq_ok (revision : Revision) (source : Readable) (fields : List String)
    (changes : List Change) (previewed : revision.preview source fields = .ok changes) :
    (changes.map Change.field).Sublist fields /\
      ∀ field ∈ fields, ∃ outcome, revision.previewField source field = .ok outcome /\
        ∀ change, outcome = some change <-> change ∈ changes /\ change.field = field := by
  obtain ⟨outcomes, each, same⟩ := bind_eq_ok.1 previewed
  cases same
  have pairs := mapM_eq_ok.1 each
  constructor
  next =>
    clear previewed each
    induction pairs with
    | nil => simp
    | @cons field outcome fields outcomes here _ ih =>
      cases outcome with
      | none => exact ih.cons field
      | some change =>
        have own := previewField_field revision source field change here
        simpa [List.filterMap_cons, own] using ih
  next =>
    intro field member
    obtain ⟨outcome, within, here⟩ := forall₂_mem_right _ _ pairs.flip field member
    refine ⟨outcome, here, fun change => ⟨?_, ?_⟩⟩
    next =>
      rintro rfl
      exact ⟨List.mem_filterMap.2 ⟨_, within, rfl⟩, previewField_field revision source field _ here⟩
    next =>
      rintro ⟨listed, named⟩
      obtain ⟨_, among, rfl⟩ := List.mem_filterMap.1 listed
      obtain ⟨asked, _, there⟩ := forall₂_mem_right _ _ pairs _ among
      have same : asked = field :=
        (previewField_field revision source asked change there).symm.trans named
      rw [same, here] at there
      exact Except.ok.inj there

/-- The field holds what the revision makes of its value. -/
def Holds (revision : Revision) (before after : Readable) (field : String) : Prop :=
  match Field.parse field with
  | .scalar name => ∀ value, before.read name = .ok (some value) ->
      ∃ replaced, revision.apply value = .ok replaced /\ after.read name = .ok (some replaced.result)
  | .creator part =>
      List.Forall₂ (revision.PartRevised part) before.record.creators after.record.creators
  | _ => True

theorem holds_scalar (revision : Revision) (before after : Readable) (name : String)
    (scalar : Field.isScalarName name = true) :
    revision.Holds before after name <-> ∀ value, before.read name = .ok (some value) ->
      ∃ replaced, revision.apply value = .ok replaced /\
        after.read name = .ok (some replaced.result) := by
  simp only [Holds, Field.parse_scalar name scalar]

theorem holds_creator (revision : Revision) (before after : Readable) (part : NamePart) :
    revision.Holds before after (Field.creatorId part) <->
      List.Forall₂ (revision.PartRevised part) before.record.creators after.record.creators := by
  simp only [Holds, Field.parse_creatorId]

theorem read_scalar (record : Record) (name : String) (scalar : Field.isScalarName name = true) :
    record.read name = .ok ((record.fields.lookup name).getD (some "")) := by
  have other : (name == "itemType") = false := by
    by_contra same
    simp only [beq_iff_eq, Bool.not_eq_false] at same
    subst same
    exact absurd scalar (by decide)
  simp [Record.read, Record.value?, other, scalar]

theorem last_creator_change (changes : List Change)
    (replaceable : ∀ change ∈ changes, Replaceable change.field) :
    (∀ change ∈ changes, Field.isScalarName change.field = true) \/
      ∃ earlier change later part, changes = earlier ++ change :: later /\
        part ≠ NamePart.fullName /\ change.field = Field.creatorId part /\
        ∀ other ∈ later, Field.isScalarName other.field = true := by
  induction changes with
  | nil => simp
  | cons change rest ih =>
    rcases ih fun other member => replaceable other (List.mem_cons_of_mem _ member) with
      scalar | ⟨earlier, last, later, part, rfl, short, named, scalar⟩
    next =>
      rcases replaceable change (by simp) with here | first | last
      next => exact .inl (by simpa using ⟨here, scalar⟩)
      next => exact .inr ⟨[], change, rest, .firstName, rfl, by simp, first, scalar⟩
      next => exact .inr ⟨[], change, rest, .lastName, rfl, by simp, last, scalar⟩
    next => exact .inr ⟨change :: earlier, last, later, part, rfl, short, named, scalar⟩

section Committed

variable {σ ρ : Type} {keeping : Keeping σ ρ} {revision : Revision} {place after : σ}
  {item saved : ρ} {record : Record} {fields : List String} {changes : List Change}

theorem replaceable_of_preview (source : Readable) (replaceable : ∀ field ∈ fields, Replaceable field)
    (previewed : revision.preview source fields = .ok changes) :
    ∀ change ∈ changes, Replaceable change.field := by
  intro change member
  have sublist := (preview_eq_ok revision source fields changes previewed).1
  exact replaceable _ (sublist.subset (List.mem_map_of_mem member))

theorem creator_change (source : Readable) (change : Change) (part : NamePart)
    (short : part ≠ .fullName) (previewed : revision.preview source fields = .ok changes)
    (member : change ∈ changes) (named : change.field = Field.creatorId part) :
    ∃ creators, revision.Revises part source.record.creators creators /\
      change.after = Snapshot.write creators := by
  obtain ⟨sublist, outcomes⟩ := preview_eq_ok revision source fields changes previewed
  have listed := sublist.subset (List.mem_map_of_mem member)
  obtain ⟨outcome, previewedField, found⟩ := outcomes _ listed
  have here := (found change).2 ⟨member, rfl⟩
  simp only [previewField, named, Field.parse_creatorId, here] at previewedField
  obtain ⟨creators, revised, _, ⟨absurdity, _⟩ | ⟨written, is, _, text, _⟩⟩ :=
    previewCreators_eq_ok revision _ part _ _ short previewedField
  next => cases absurdity
  next =>
    cases is
    exact ⟨creators, revised, text⟩

theorem stage_of_preview (source : Readable) (replaceable : ∀ field ∈ fields, Replaceable field)
    (previewed : revision.preview source fields = .ok changes) (change : Change)
    (member : change ∈ changes) (record : Record) : ∃ next, stage record change = .ok next := by
  have ofPart (part : NamePart) (short : part ≠ .fullName)
      (named : change.field = Field.creatorId part) : ∃ next, stage record change = .ok next := by
    obtain ⟨creators, _, text⟩ := creator_change source change part short previewed member named
    refine ⟨record.setCreators (creators.map Creator.typed), ?_⟩
    simp only [stage, named, Field.parse_creatorId, text, Snapshot.read_write]
    rfl
  rcases replaceable_of_preview source replaceable previewed change member with
    scalar | first | last
  next => simp [stage, Field.parse_scalar _ scalar, Record.setField, scalar]
  next => exact ofPart .firstName (by simp) first
  next => exact ofPart .lastName (by simp) last

theorem stageAll_succeeds (changes : List Change) (record : Record)
    (succeeds : ∀ change ∈ changes, ∀ record, ∃ next, stage record change = .ok next) :
    ∃ after, stageAll record changes = (after, none) := by
  induction changes generalizing record with
  | nil => exact ⟨record, rfl⟩
  | cons change rest ih =>
    obtain ⟨next, here⟩ := succeeds change (by simp) record
    obtain ⟨after, later⟩ := ih next fun other member => succeeds other (by simp [member])
    exact ⟨after, by simp [stageAll, here, later]⟩

theorem holds_scalar_of_save (lawful : keeping.Lawful) (name : String)
    (scalar : Field.isScalarName name = true)
    (replaceable : ∀ field ∈ fields, Replaceable field) (apart : fields.Nodup)
    (previewed : revision.preview (keeping.readable item) fields = .ok changes)
    (staged : stageAll (keeping.record item) changes = (record, none))
    (wrote : keeping.save (keeping.replace item record) place = (.ok saved, after))
    (listed : name ∈ fields) :
    revision.Holds (keeping.readable item) (keeping.readable saved) name := by
  rw [holds_scalar _ _ _ _ scalar]
  intro value read
  obtain ⟨sublist, outcomes⟩ := preview_eq_ok revision _ fields changes previewed
  have allowed := replaceable_of_preview _ replaceable previewed
  have savedRead : keeping.read saved name = record.read name := by
    rw [lawful.readSave _ _ _ _ wrote]
    exact lawful.readReplace item record name _ read
  obtain ⟨outcome, previewedField, found⟩ := outcomes name listed
  simp only [previewField, Field.parse_scalar name scalar] at previewedField
  obtain ⟨replaced, applied, unchanged | changed⟩ :=
    previewScalar_eq_ok revision name name _ outcome value read previewedField
  next =>
    obtain ⟨rfl, same⟩ := unchanged
    have other : ∀ change ∈ changes, change.field ≠ name := by
      intro change member named
      exact absurd ((found change).2 ⟨member, named⟩) (by simp)
    have kept := stageAll_lookup_of_ne changes _ record name allowed other staged
    have original := lawful.readRecord item name _ read
    refine ⟨replaced, applied, savedRead.trans ?_⟩
    rw [same, read_scalar _ _ scalar, kept, ← read_scalar _ _ scalar, original]
  next =>
    obtain ⟨change, rfl, named, result⟩ := changed
    obtain ⟨member, _⟩ := (found change).1 rfl
    have written := stageAll_lookup changes _ record change allowed (sublist.nodup apart) member
      (named ▸ scalar) staged
    refine ⟨replaced, applied, savedRead.trans ?_⟩
    rw [read_scalar _ _ scalar, ← named, written, result]
    rfl

theorem creators_of_save (lawful : keeping.Lawful)
    (wrote : keeping.save (keeping.replace item record) place = (.ok saved, after)) :
    (keeping.readable saved).record.creators = record.creators := by
  show (keeping.record saved).creators = record.creators
  rw [lawful.recordSave _ _ _ _ wrote, lawful.recordReplace]
  rfl

theorem last_snapshot (earlier later : List Change) (change : Change) (part : NamePart)
    (source : Readable) (named : change.field = Field.creatorId part) (short : part ≠ .fullName)
    (scalar : ∀ other ∈ later, Field.isScalarName other.field = true)
    (previewed : revision.preview source fields = .ok (earlier ++ change :: later))
    (staged : stageAll source.record (earlier ++ change :: later) = (record, none)) :
    revision.Revises part source.record.creators record.creators := by
  obtain ⟨creators, revised, text⟩ :=
    creator_change source change part short previewed (by simp) named
  have snapshot := stageAll_creators_last earlier later _ record change part named scalar staged
  rw [text, Snapshot.read_write] at snapshot
  rw [← Except.ok.inj snapshot, Revises, List.forall₂_map_right_iff]
  refine revised.imp fun old new holds => ⟨?_, ?_⟩
  next =>
    intro filled
    rw [Creator.typed_get]
    exact holds.1 filled
  next =>
    intro other apart full
    rw [Creator.typed_get]
    exact holds.2 other apart full

theorem forall₂_partRevised (part other : NamePart) (before after : List Creator)
    (revised : revision.Revises part before after) (apart : other ≠ part)
    (short : other ≠ .fullName) :
    List.Forall₂ (revision.PartRevised other) before after <->
      ∀ creator ∈ before, revision.PartRevised other creator creator := by
  have kept (old new : Creator) (same : new.get other = old.get other) :
      revision.PartRevised other old new <-> revision.PartRevised other old old := by
    simp only [PartRevised, same]
  constructor
  next =>
    intro holds
    have both := holds.mp (fun old new here there =>
      And.intro ((kept old new (there.2 other apart short)).1 here) there) revised
    exact ((List.forall₂_and_left _ _).1 both).1
  next =>
    intro holds
    have both := (List.forall₂_and_left _ _).2 ⟨holds, revised⟩
    exact both.imp fun old new here => (kept old new (here.2.2 other apart short)).2 here.1

theorem creator_changed_iff (source : Readable) (part : NamePart) (short : part ≠ .fullName)
    (previewed : revision.preview source fields = .ok changes)
    (listed : Field.creatorId part ∈ fields) :
    Field.creatorId part ∈ changes.map Change.field <->
      ¬ ∀ creator ∈ source.record.creators, revision.PartRevised part creator creator := by
  obtain ⟨_, outcomes⟩ := preview_eq_ok revision source fields changes previewed
  obtain ⟨outcome, previewedField, found⟩ := outcomes _ listed
  simp only [previewField, Field.parse_creatorId] at previewedField
  obtain ⟨creators, revised, unchanged, outcomeEq⟩ :=
    previewCreators_eq_ok revision _ part _ _ short previewedField
  rw [List.forall₂_same] at unchanged
  rcases outcomeEq with ⟨rfl, same⟩ | ⟨change, rfl, named, _, changed⟩
  next =>
    constructor
    next =>
      intro member
      obtain ⟨change, within, named⟩ := List.mem_map.1 member
      exact absurd ((found change).2 ⟨within, named⟩) (by simp)
    next =>
      intro lacking
      rw [same] at revised
      exact absurd (fun creator member => (List.forall₂_same.1 revised creator member).1) lacking
  next =>
    have member := ((found change).1 rfl).1
    exact ⟨fun _ holds => changed (unchanged holds), fun _ => named ▸ List.mem_map_of_mem member⟩

theorem creatorId_not_changed (part : NamePart) (changes : List Change)
    (scalar : ∀ change ∈ changes, Field.isScalarName change.field = true) :
    Field.creatorId part ∉ changes.map Change.field := by
  intro member
  obtain ⟨change, within, named⟩ := List.mem_map.1 member
  have impossible := scalar change within
  rw [named, Field.creatorId_not_scalar] at impossible
  cases impossible

/-- Both the first and the last names of creators are among the changes. -/
def BothNames (changes : List Change) : Prop :=
  Field.creatorId .firstName ∈ changes.map Change.field /\
    Field.creatorId .lastName ∈ changes.map Change.field

instance (changes : List Change) : Decidable (BothNames changes) :=
  inferInstanceAs (Decidable (_ /\ _))

theorem bothNames_of_parts (first second : NamePart) (apart : first ≠ second)
    (shortFirst : first ≠ .fullName) (shortSecond : second ≠ .fullName)
    (changedFirst : Field.creatorId first ∈ changes.map Change.field)
    (changedSecond : Field.creatorId second ∈ changes.map Change.field) : BothNames changes := by
  cases first <;> cases second <;> simp_all [BothNames]

theorem holds_creator_of_save (lawful : keeping.Lawful) (part : NamePart) (short : part ≠ .fullName)
    (replaceable : ∀ field ∈ fields, Replaceable field)
    (previewed : revision.preview (keeping.readable item) fields = .ok changes)
    (staged : stageAll (keeping.record item) changes = (record, none))
    (wrote : keeping.save (keeping.replace item record) place = (.ok saved, after))
    (listed : Field.creatorId part ∈ fields) (single : ¬ BothNames changes) :
    revision.Holds (keeping.readable item) (keeping.readable saved) (Field.creatorId part) := by
  have changed := creator_changed_iff _ part short previewed listed
  rw [holds_creator, creators_of_save lawful wrote]
  rcases last_creator_change changes (replaceable_of_preview _ replaceable previewed) with
    scalar | ⟨earlier, change, later, other, rfl, shortOther, named, scalar⟩
  next =>
    have kept := stageAll_creators_of_scalar changes _ record scalar staged
    have untouched := creatorId_not_changed part changes scalar
    rw [kept]
    exact List.forall₂_same.2 (not_not.1 (mt changed.2 untouched))
  next =>
    have revised := last_snapshot earlier later change other (keeping.readable item) named
      shortOther scalar previewed staged
    by_cases same : part = other
    next =>
      subst same
      exact revised.imp fun _ _ here => here.1
    next =>
      have untouched : Field.creatorId part ∉ (earlier ++ change :: later).map Change.field := by
        intro member
        exact single (bothNames_of_parts part other same short shortOther member
          (by simp [named]))
      exact (forall₂_partRevised other part _ _ revised same short).2
        (not_not.1 (mt changed.2 untouched))

theorem not_holds_of_bothNames (lawful : keeping.Lawful)
    (replaceable : ∀ field ∈ fields, Replaceable field)
    (previewed : revision.preview (keeping.readable item) fields = .ok changes)
    (staged : stageAll (keeping.record item) changes = (record, none))
    (wrote : keeping.save (keeping.replace item record) place = (.ok saved, after))
    (both : BothNames changes) :
    ¬ ∀ field ∈ fields, revision.Holds (keeping.readable item) (keeping.readable saved) field := by
  intro holds
  have within := (preview_eq_ok revision _ fields changes previewed).1.subset
  rcases last_creator_change changes (replaceable_of_preview _ replaceable previewed) with
    scalar | ⟨earlier, change, later, part, rfl, short, named, scalar⟩
  next => exact creatorId_not_changed .firstName changes scalar both.1
  next =>
    have revised := last_snapshot earlier later change part (keeping.readable item) named short
      scalar previewed staged
    have putBack (other : NamePart) (distinct : other ≠ part) (short : other ≠ .fullName)
        (changed : Field.creatorId other ∈ (earlier ++ change :: later).map Change.field) :
        False := by
      have listed := within changed
      have kept := (holds_creator _ _ _ _).1 (holds _ listed)
      rw [creators_of_save lawful wrote] at kept
      have unchanged := (forall₂_partRevised part other _ _ revised distinct short).1 kept
      exact (creator_changed_iff _ other short previewed listed).1 changed unchanged
    cases part with
    | firstName => exact putBack .lastName (by simp) (by simp) both.2
    | lastName => exact putBack .firstName (by simp) (by simp) both.1
    | fullName => exact short rfl

/-- Previewed changes can be staged, and a save that succeeds makes the commit succeed. The fields
then hold what the revision makes of them, unless it changed both the first and the last names: the
snapshots are of the creators before the commit, and the later one puts the other names back. -/
theorem commit_holds_iff (lawful : keeping.Lawful)
    (replaceable : ∀ field ∈ fields, Replaceable field) (apart : fields.Nodup)
    (previewed : revision.preview (keeping.readable item) fields = .ok changes)
    (someChanges : changes ≠ []) :
    ∃ record, stageAll (keeping.record item) changes = (record, none) /\
      ∀ place saved after, keeping.save (keeping.replace item record) place = (.ok saved, after) ->
        commit keeping place item changes = ⟨.ok ⟨true, savedMessage, changes⟩, saved, after⟩ /\
        ((∀ field ∈ fields,
            revision.Holds (keeping.readable item) (keeping.readable saved) field) <->
          ¬ BothNames changes) := by
  have stageable := stage_of_preview _ replaceable previewed
  obtain ⟨record, staged⟩ := stageAll_succeeds changes (keeping.record item) stageable
  refine ⟨record, staged, fun place saved after wrote => ⟨?_, ?_, ?_⟩⟩
  next => exact commit_of_save keeping place after item saved changes record someChanges staged wrote
  next =>
    intro holds both
    exact not_holds_of_bothNames lawful replaceable previewed staged wrote both holds
  next =>
    intro single field listed
    rcases replaceable field listed with scalar | rfl | rfl
    next =>
      exact holds_scalar_of_save lawful field scalar replaceable apart previewed staged wrote listed
    next =>
      exact holds_creator_of_save lawful .firstName (by simp) replaceable previewed staged wrote
        listed single
    next =>
      exact holds_creator_of_save lawful .lastName (by simp) replaceable previewed staged wrote
        listed single

end Committed

def sampleHeld (title first last : String) : Held where
  record :=
    { id := 1, key := "K1", libraryId := 1, itemType := some "book", fields := [("title", some title)]
      creators := [⟨first, last, "", "author"⟩], tags := [], collections := []
      dirtyFields := [], dirtyCreators := false }
  lacking := []
  temper := .sound

def sampleRevision : Revision where
  search := "Tom"
  replacement := .template "Tim"
  kind := .contains

def sampleChange (part : NamePart) (before after : Creator) : Change where
  field := Field.creatorId part
  before := Snapshot.write [before]
  after := Snapshot.write [after]
  count := 1

def sampleChanges : List Change := [⟨"title", "Tom", "Tim", 1⟩,
  sampleChange .lastName ⟨"Sam", "Tom", "", "author"⟩ ⟨"Sam", "Tim", "", "author"⟩]

theorem commit_holds_title_last_name :
    ∃ saved,
      commit Held.keeping () (sampleHeld "Tom" "Sam" "Tom") sampleChanges =
        ⟨.ok ⟨true, savedMessage, sampleChanges⟩, saved, ()⟩ /\
      ∀ field ∈ ["title", "creator.lastName"],
        sampleRevision.Holds (Held.keeping.readable (sampleHeld "Tom" "Sam" "Tom"))
          (Held.keeping.readable saved) field := by
  have previewed : sampleRevision.preview (Held.keeping.readable (sampleHeld "Tom" "Sam" "Tom"))
      ["title", "creator.lastName"] = .ok sampleChanges := eq_ok_of_toOption (by decide +kernel)
  obtain ⟨record, staged, holds⟩ :=
    commit_holds_iff Held.keeping_lawful (by decide +kernel) (by decide) previewed
      (by simp [sampleChanges])
  obtain ⟨committed, each⟩ := holds () _ () rfl
  exact ⟨_, committed, each.2 (by decide +kernel)⟩

def bothNamesChanges : List Change := [
  sampleChange .firstName ⟨"Tom", "Tom", "", "author"⟩ ⟨"Tim", "Tom", "", "author"⟩,
  sampleChange .lastName ⟨"Tom", "Tom", "", "author"⟩ ⟨"Tom", "Tim", "", "author"⟩]

/-- Both names were to be changed, and the first name is what it was. -/
theorem commit_loses_first_name :
    sampleRevision.preview (Held.keeping.readable (sampleHeld "Tom" "Tom" "Tom"))
      ["creator.firstName", "creator.lastName"] = .ok bothNamesChanges /\
    ∃ saved,
      commit Held.keeping () (sampleHeld "Tom" "Tom" "Tom") bothNamesChanges =
        ⟨.ok ⟨true, savedMessage, bothNamesChanges⟩, saved, ()⟩ /\
      saved.record.creators = [⟨"Tom", "Tim", "", "author"⟩] /\
      ¬ ∀ field ∈ ["creator.firstName", "creator.lastName"],
        sampleRevision.Holds (Held.keeping.readable (sampleHeld "Tom" "Tom" "Tom"))
          (Held.keeping.readable saved) field := by
  have previewed : sampleRevision.preview (Held.keeping.readable (sampleHeld "Tom" "Tom" "Tom"))
      ["creator.firstName", "creator.lastName"] = .ok bothNamesChanges :=
    eq_ok_of_toOption (by decide +kernel)
  have replaceable : ∀ field ∈ ["creator.firstName", "creator.lastName"], Replaceable field := by
    decide +kernel
  obtain ⟨record, staged⟩ := stageAll_succeeds bothNamesChanges (sampleHeld "Tom" "Tom" "Tom").record
    (stage_of_preview _ replaceable previewed)
  refine ⟨previewed, _, commit_of_save Held.keeping () () _ _ _ record (by simp [bothNamesChanges])
    staged rfl, ?_, ?_⟩
  next =>
    have creators : (stageAll (sampleHeld "Tom" "Tom" "Tom").record bothNamesChanges).1.creators =
        [⟨"Tom", "Tim", "", "author"⟩] := by decide +kernel
    rwa [staged] at creators
  next =>
    have wrote : Held.keeping.save { sampleHeld "Tom" "Tom" "Tom" with record := record } () =
        (.ok { sampleHeld "Tom" "Tom" "Tom" with record := record.clean, saves := 1 }, ()) := rfl
    exact not_holds_of_bothNames Held.keeping_lawful replaceable previewed staged wrote
      (by decide +kernel)

end Revision

end BibEdit
