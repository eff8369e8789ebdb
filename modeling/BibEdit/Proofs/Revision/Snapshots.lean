import BibEdit.Proofs.Revision.Frame

set_option autoImplicit false

namespace BibEdit.Revision

theorem write_injective (creators others : List Creator)
    (typed : ∀ creator ∈ creators, creator.creatorType ≠ "")
    (othersTyped : ∀ creator ∈ others, creator.creatorType ≠ "")
    (same : Snapshot.write creators = Snapshot.write others) : creators = others := by
  have read := read_write_typed creators typed
  rw [same, read_write_typed others othersTyped] at read
  exact (Except.ok.inj read).symm

theorem previewField_creators (revision : Revision) (source : Readable) (field : String)
    (part : NamePart) (change : Change) (names : Field.parse field = .creator part)
    (previewed : revision.previewField source field = .ok (some change))
    (typed : ∀ creator ∈ source.record.creators, creator.creatorType ≠ "") :
    ∃ revised, source.record.creators.mapM (revision.reviseCreator part) = .ok revised /\
      change.field = field /\ change.after = Snapshot.write (revised.map Prod.fst) /\
      ∀ creator ∈ revised.map Prod.fst, creator.creatorType ≠ "" := by
  simp only [previewField, names, previewCreators] at previewed
  obtain ⟨revised, each, rest⟩ := bind_eq_ok.1 previewed
  split at rest
  next => cases rest
  next =>
    cases rest
    refine ⟨revised, each, rfl, rfl, fun creator member => ?_⟩
    obtain ⟨after, among, rfl⟩ := List.mem_map.1 member
    obtain ⟨before, listed, done⟩ := forall₂_mem_right _ _ (mapM_eq_ok.1 each) after among
    have kept := reviseCreator_within revision [Field.creatorId part] part (by simp) before after done
    rw [kept.type]
    exact typed before listed

theorem stage_succeeds_of_scalar (record : Record) (change : Change)
    (scalar : Field.isScalarName change.field = true) : ∃ next, stage record change = .ok next := by
  simp [stage, Field.parse_scalar _ scalar, Record.setField, scalar]

theorem commit_creators {σ ρ : Type} {keeping : Keeping σ ρ} (lawful : keeping.Lawful) (place : σ)
    (item : ρ) (changes : List Change) (record : Record) (someChanges : changes ≠ [])
    (staged : stageAll (keeping.record item) changes = (record, none)) :
    (keeping.record (commit keeping place item changes).item).creators = record.creators := by
  have given : changes.isEmpty = false := by simpa using someChanges
  unfold commit
  simp only [given, Bool.false_eq_true, if_false, staged]
  cases wrote : keeping.save (keeping.replace item record) place with
  | mk outcome after =>
    cases outcome with
    -- A record that could not be saved stays as it was staged.
    | error fault => exact congrArg Record.creators (lawful.recordReplace item record)
    | ok saved => exact creators_of_save lawful wrote

/-- Creators that have types are read from a snapshot as they were written to it; no two lists of them
have the same snapshot; and a commit with one change to them leaves those that were previewed. -/
theorem snapshot_keeps_creators (creators : List Creator)
    (typed : ∀ creator ∈ creators, creator.creatorType ≠ "") :
    Snapshot.read (Snapshot.write creators) = .ok creators /\
      (∀ others : List Creator, (∀ creator ∈ others, creator.creatorType ≠ "") ->
        Snapshot.write creators = Snapshot.write others -> creators = others) /\
      ∀ (revision : Revision) (source : Readable) (field : String) (part : NamePart)
        (change : Change), source.record.creators = creators ->
        Field.parse field = .creator part ->
        revision.previewField source field = .ok (some change) ->
        ∃ revised, creators.mapM (revision.reviseCreator part) = .ok revised /\
          ∀ (σ ρ : Type) (keeping : Keeping σ ρ), keeping.Lawful ->
            ∀ (place : σ) (item : ρ) (earlier later : List Change),
            (∀ other ∈ earlier ++ later, Field.isScalarName other.field = true) ->
            (keeping.record (commit keeping place item (earlier ++ change :: later)).item).creators =
              revised.map Prod.fst := by
  refine ⟨read_write_typed creators typed,
    fun others othersTyped => write_injective creators others typed othersTyped, ?_⟩
  rintro revision source field part change rfl names previewed
  obtain ⟨revised, each, named, text, stillTyped⟩ :=
    previewField_creators revision source field part change names previewed typed
  have read : Snapshot.read change.after = .ok (revised.map Prod.fst) :=
    text ▸ read_write_typed _ stillTyped
  rw [Field.parse_eq_creator field part names] at named
  refine ⟨revised, each, fun σ ρ keeping lawful place item earlier later scalar => ?_⟩
  have stageable : ∀ other ∈ earlier ++ change :: later, ∀ record, ∃ next,
      stage record other = .ok next := by
    intro other member record
    rcases List.mem_append.1 member with before | hereOrAfter
    next => exact stage_succeeds_of_scalar record other (scalar other (by simp [before]))
    next =>
      rcases List.mem_cons.1 hereOrAfter with rfl | after
      next =>
        refine ⟨record.setCreators (revised.map Prod.fst), ?_⟩
        simp only [stage, named, Field.parse_creatorId, read]
        rfl
      next => exact stage_succeeds_of_scalar record other (scalar other (by simp [after]))
  -- No other change touches the creators, so theirs has the last word on them.
  obtain ⟨record, staged⟩ := stageAll_succeeds _ (keeping.record item) stageable
  have last := stageAll_creators_last earlier later _ record change part named
    (fun other member => scalar other (by simp [member])) staged
  rw [commit_creators lawful place item _ record (by simp) staged]
  exact Except.ok.inj (last.symm.trans read)

def quotedCreators (lastName : String) : List Creator :=
  [⟨"Zoë \"Z\"\n", lastName, "", "editor"⟩, ⟨"", "", "\x01\\\t 名/", "author"⟩]

def quotedHeld : Held :=
  { sampleHeld "" "" "" with
    record := { (sampleHeld "" "" "").record with creators := quotedCreators "Tom\\" } }

theorem snapshot_keeps_creators_quoted :
    (∀ creator ∈ quotedCreators "Tom\\", creator.creatorType ≠ "") /\
      Snapshot.read (Snapshot.write (quotedCreators "Tom\\")) = .ok (quotedCreators "Tom\\") /\
      ∃ change, sampleRevision.previewField quotedHeld.readable "creator.lastName" =
          .ok (some change) /\
        (Held.keeping.record (commit Held.keeping () quotedHeld [change]).item).creators =
          quotedCreators "Tim\\" := by
  have typed : ∀ creator ∈ quotedCreators "Tom\\", creator.creatorType ≠ "" := by decide
  obtain ⟨read, _, commits⟩ := snapshot_keeps_creators (quotedCreators "Tom\\") typed
  have names : Field.parse "creator.lastName" = .creator .lastName := Field.parse_creatorId .lastName
  have computed : (quotedCreators "Tom\\").mapM (sampleRevision.reviseCreator .lastName) =
      .ok ((quotedCreators "Tim\\").zip [1, 0]) := eq_ok_of_toOption (by decide +kernel)
  have previewed : sampleRevision.previewField quotedHeld.readable "creator.lastName" =
      .ok (some ⟨"creator.lastName", Snapshot.write (quotedCreators "Tom\\"),
        Snapshot.write (quotedCreators "Tim\\"), 1⟩) := by
    unfold previewField
    rw [names]
    exact bind_eq_ok.2 ⟨_, computed, rfl⟩
  obtain ⟨revised, each, sets⟩ := commits sampleRevision quotedHeld.readable "creator.lastName"
    .lastName _ rfl names previewed
  cases each.symm.trans computed
  have after := sets _ _ _ Held.keeping_lawful () quotedHeld [] [] (by simp)
  rw [List.nil_append, List.map_fst_zip (by decide)] at after
  exact ⟨typed, read, _, previewed, after⟩

end BibEdit.Revision
