import BibEdit.Held
import BibEdit.Proofs.Library.Save
import BibEdit.Proofs.Revision.Edits

set_option autoImplicit false

namespace BibEdit

/-- Which part of the place where records are kept each of them sees, and which records are apart:
what a save comes to depends on no more of the place than the record sees, and it is not seen by
records that are apart from it. -/
structure Keeping.Separation {σ ρ : Type} (keeping : Keeping σ ρ) (τ : Type) where
  view : ρ -> σ -> τ
  Apart : ρ -> ρ -> Prop
  symm : ∀ item other, Apart item other -> Apart other item
  saveCongr : ∀ item record first second, record.id = (keeping.record item).id ->
    view item first = view item second ->
      (keeping.save (keeping.replace item record) first).1 =
        (keeping.save (keeping.replace item record) second).1 /\
      view item (keeping.save (keeping.replace item record) first).2 =
        view item (keeping.save (keeping.replace item record) second).2
  saveFrame : ∀ item other record place, record.id = (keeping.record item).id ->
    Apart item other ->
      view other (keeping.save (keeping.replace item record) place).2 = view other place

namespace Revision

instance : Add BatchResult where
  add first second :=
    ⟨first.modified + second.modified, first.skipped + second.skipped,
      first.errors ++ second.errors⟩

def BatchResult.ofVerdicts (verdicts : List (Int × Verdict)) : BatchResult :=
  verdicts.foldl (fun result verdict => result.add verdict.1 verdict.2) {}

def errorOf? : Int × Verdict -> Option BatchError
  | (recordId, .failed message) => some ⟨recordId, message⟩
  | _ => none

/-- What happens in a batch that comes to some verdicts: each record's turn is reported before the
record is worked on. -/
def turns (total : Nat) : Nat -> List (Int × Verdict) -> List BatchEvent
  | _, [] => []
  | current, (recordId, verdict) :: rest =>
    .reported ⟨current + 1, total, recordId⟩ :: .revised recordId verdict ::
      turns total (current + 1) rest

namespace BatchResult

theorem add_def (first second : BatchResult) :
    first + second = ⟨first.modified + second.modified, first.skipped + second.skipped,
      first.errors ++ second.errors⟩ := rfl

theorem add_assoc (first second third : BatchResult) :
    first + second + third = first + (second + third) := by
  simp [add_def, Nat.add_assoc]

theorem add_eq (result : BatchResult) (recordId : Int) (verdict : Verdict) :
    result.add recordId verdict = result + ofVerdicts [(recordId, verdict)] := by
  cases verdict <;> simp [ofVerdicts, add, add_def]

theorem foldl_add (verdicts : List (Int × Verdict)) (result : BatchResult) :
    verdicts.foldl (fun result verdict => result.add verdict.1 verdict.2) result =
      result + ofVerdicts verdicts := by
  induction verdicts generalizing result with
  | nil => simp [ofVerdicts, add_def]
  | cons verdict rest ih =>
    have split : ofVerdicts (verdict :: rest) = ofVerdicts [verdict] + ofVerdicts rest := ih _
    rw [List.foldl_cons, ih, add_eq, add_assoc, split]

theorem ofVerdicts_append (first second : List (Int × Verdict)) :
    ofVerdicts (first ++ second) = ofVerdicts first + ofVerdicts second := by
  rw [ofVerdicts, List.foldl_append, foldl_add]
  rfl

theorem ofVerdicts_cons (verdict : Int × Verdict) (rest : List (Int × Verdict)) :
    ofVerdicts (verdict :: rest) = ofVerdicts [verdict] + ofVerdicts rest :=
  ofVerdicts_append [verdict] rest

theorem errors_ofVerdicts (verdicts : List (Int × Verdict)) :
    (ofVerdicts verdicts).errors = verdicts.filterMap errorOf? := by
  induction verdicts with
  | nil => rfl
  | cons verdict rest ih =>
    obtain ⟨recordId, verdict⟩ := verdict
    rw [ofVerdicts_cons, add_def, ih, List.filterMap_cons]
    cases verdict <;> rfl

theorem counts_ofVerdicts (verdicts : List (Int × Verdict)) :
    (ofVerdicts verdicts).modified + (ofVerdicts verdicts).skipped +
      (ofVerdicts verdicts).errors.length = verdicts.length := by
  induction verdicts with
  | nil => rfl
  | cons verdict rest ih =>
    obtain ⟨recordId, verdict⟩ := verdict
    rw [ofVerdicts_cons, List.length_cons, ← ih]
    cases verdict <;> simp [ofVerdicts, add, add_def] <;> omega

end BatchResult

section One

variable {σ ρ τ : Type} (keeping : Keeping σ ρ) (separation : keeping.Separation τ)
  (revision : Revision) (fields : List String) (item : ρ)

def SameOutcome {α : Type} (view : σ -> τ) (first second : Outcome σ ρ α) : Prop :=
  first.result = second.result /\ first.item = second.item /\ view first.place = view second.place

theorem commit_congr (changes : List Change) (first second : σ)
    (same : separation.view item first = separation.view item second) :
    SameOutcome (separation.view item) (commit keeping first item changes)
      (commit keeping second item changes) := by
  -- Only the save looks at the place, and staging leaves the record its number.
  have keptId := (editedFrom_stageAll changes (keeping.record item) _ .none).id
  unfold commit
  split
  next => exact ⟨rfl, rfl, same⟩
  next =>
    cases staged : stageAll (keeping.record item) changes with
    | mk record stopped =>
      rw [staged] at keptId
      cases stopped with
      | some fault => exact ⟨rfl, rfl, same⟩
      | none =>
        obtain ⟨results, views⟩ := separation.saveCongr item record first second keptId same
        dsimp only
        generalize keeping.save (keeping.replace item record) first = one at results views
        generalize keeping.save (keeping.replace item record) second = other at results views
        obtain ⟨result, place⟩ := one
        obtain ⟨_, _⟩ := other
        dsimp only at results views
        subst results
        cases result <;> exact ⟨rfl, rfl, views⟩

theorem commit_frame (changes : List Change) (other : ρ) (place : σ)
    (apart : separation.Apart item other) :
    separation.view other (commit keeping place item changes).place =
      separation.view other place := by
  have keptId := (editedFrom_stageAll changes (keeping.record item) _ .none).id
  unfold commit
  split
  next => rfl
  next =>
    cases staged : stageAll (keeping.record item) changes with
    | mk record stopped =>
      rw [staged] at keptId
      cases stopped with
      | some fault => rfl
      | none =>
        have unseen := separation.saveFrame item other record place keptId apart
        dsimp only
        generalize keeping.save (keeping.replace item record) place = saved at unseen
        obtain ⟨result, after⟩ := saved
        cases result <;> exact unseen

theorem reviseOne_congr (first second : σ)
    (same : separation.view item first = separation.view item second) :
    SameOutcome (separation.view item) (reviseOne keeping revision fields first item)
      (reviseOne keeping revision fields second item) := by
  unfold reviseOne
  cases revision.preview (keeping.readable item) fields with
  | error fault => exact ⟨rfl, rfl, same⟩
  | ok changes =>
    obtain ⟨results, items, views⟩ := commit_congr keeping separation item changes first second same
    exact ⟨congrArg verdictOf results, items, views⟩

theorem reviseOne_frame (other : ρ) (place : σ) (apart : separation.Apart item other) :
    separation.view other (reviseOne keeping revision fields place item).place =
      separation.view other place := by
  unfold reviseOne
  cases revision.preview (keeping.readable item) fields with
  | error fault => rfl
  | ok changes => exact commit_frame keeping separation item changes other place apart

end One

section All

variable {σ ρ τ : Type} (keeping : Keeping σ ρ) (separation : keeping.Separation τ)
  (revision : Revision) (fields : List String) (start : σ)

def verdictAlone (item : ρ) : Int × Verdict :=
  ((keeping.record item).id, (reviseOne keeping revision fields start item).result)

structure Grown (total current : Nat) (before : Batch σ ρ) (items : List ρ) (after : Batch σ ρ) :
    Prop where
  resultIs : after.result = before.result +
    BatchResult.ofVerdicts (items.map (verdictAlone keeping revision fields start))
  eventsAre : after.events = before.events ++
    turns total current (items.map (verdictAlone keeping revision fields start))
  itemsAre : after.items = before.items ++
    items.map fun item => (reviseOne keeping revision fields start item).item
  seen : ∀ item ∈ items, separation.view item after.place =
    separation.view item (reviseOne keeping revision fields start item).place
  unseen : ∀ other, (∀ item ∈ items, separation.Apart item other) ->
    separation.view other after.place = separation.view other before.place

theorem reviseAll_grown (total current : Nat) (batch : Batch σ ρ) (items : List ρ)
    (apart : items.Pairwise separation.Apart)
    (untouched : ∀ item ∈ items, separation.view item batch.place = separation.view item start) :
    Grown keeping separation revision fields start total current batch items
      (reviseAll keeping revision fields total current batch items) := by
  -- The batch so far is the variable: the records to come see in its place what they saw at first.
  induction items generalizing current batch with
  | nil =>
    exact ⟨by simp [reviseAll, BatchResult.ofVerdicts, BatchResult.add_def],
      by simp [reviseAll, turns], by simp [reviseAll], nofun, fun _ _ => rfl⟩
  | cons item rest ih =>
    obtain ⟨apartItem, apartRest⟩ := List.pairwise_cons.1 apart
    obtain ⟨results, sameItem, views⟩ := reviseOne_congr keeping separation revision fields item
      batch.place start (untouched item (by simp))
    have frame := fun other (apart : separation.Apart item other) =>
      reviseOne_frame keeping separation revision fields item other batch.place apart
    -- What the later records see is still what they saw before the batch.
    have still : ∀ other ∈ rest,
        separation.view other (reviseOne keeping revision fields batch.place item).place =
          separation.view other start := fun other member =>
      (frame other (apartItem other member)).trans (untouched other (List.mem_cons_of_mem _ member))
    have grown := ih (current + 1)
      { result := batch.result.add (keeping.record item).id
          (reviseOne keeping revision fields batch.place item).result
        events := batch.events ++
          [.reported ⟨current + 1, total, (keeping.record item).id⟩,
            .revised (keeping.record item).id
              (reviseOne keeping revision fields batch.place item).result]
        items := batch.items ++ [(reviseOne keeping revision fields batch.place item).item]
        place := (reviseOne keeping revision fields batch.place item).place } apartRest still
    have verdictIs : verdictAlone keeping revision fields start item =
        ((keeping.record item).id, (reviseOne keeping revision fields batch.place item).result) := by
      rw [verdictAlone, results]
    unfold reviseAll
    constructor
    next =>
      rw [grown.resultIs, List.map_cons, BatchResult.ofVerdicts_cons, verdictIs,
        BatchResult.add_eq, BatchResult.add_assoc]
    next =>
      rw [grown.eventsAre, List.map_cons, verdictIs, turns]
      simp
    next =>
      rw [grown.itemsAre, List.map_cons, ← sameItem]
      simp
    next =>
      intro other member
      rcases List.mem_cons.1 member with rfl | later
      next =>
        -- The first record's part of the place is not touched again.
        have unseenLater := grown.unseen other fun item among =>
          separation.symm _ _ (apartItem item among)
        exact unseenLater.trans views
      next => exact grown.seen other later
    next =>
      intro other apartOther
      have unseenLater := grown.unseen other fun item among =>
        apartOther item (List.mem_cons_of_mem _ among)
      exact unseenLater.trans (frame other (apartOther item (by simp)))

end All

theorem progress_turns (total current : Nat) (verdicts : List (Int × Verdict)) :
    (turns total current verdicts).filterMap BatchEvent.progress? =
      ((verdicts.map Prod.fst).zipIdx (current + 1)).map fun turn => ⟨turn.2, total, turn.1⟩ := by
  induction verdicts generalizing current with
  | nil => rfl
  | cons verdict rest ih => simp [turns, List.filterMap_cons, BatchEvent.progress?, ih]

theorem verdicts_turns (total current : Nat) (verdicts : List (Int × Verdict)) :
    (turns total current verdicts).filterMap BatchEvent.verdict? = verdicts := by
  induction verdicts generalizing current with
  | nil => rfl
  | cons verdict rest ih => simp [turns, List.filterMap_cons, BatchEvent.verdict?, ih]

/-- What a batch tells of the records that it went through: each is reported, numbered from one,
before it is worked on, and counted once; the errors come in the order of the records. -/
structure Batch.Accounts {σ ρ : Type} (batch : Batch σ ρ) (ids : List Int) : Prop where
  recordIds : batch.verdicts.map Prod.fst = ids
  events : batch.events = turns ids.length 0 batch.verdicts
  progress : batch.progress = (ids.zipIdx 1).map fun turn => ⟨turn.2, ids.length, turn.1⟩
  errors : batch.result.errors = batch.verdicts.filterMap errorOf?
  counted : batch.result.modified + batch.result.skipped + batch.result.errors.length = ids.length

section Whole

variable {σ ρ τ : Type} (keeping : Keeping σ ρ) (separation : keeping.Separation τ)
  (revision : Revision) (fields : List String) (place : σ)
  (valid : Pattern.validate revision.search revision.kind = .ok ())

structure Done (items : List ρ) (done : Batch σ ρ) : Prop where
  ran : batch keeping revision fields place items = .ok done
  resultIs : done.result =
    BatchResult.ofVerdicts (items.map (verdictAlone keeping revision fields place))
  eventsAre : done.events =
    turns items.length 0 (items.map (verdictAlone keeping revision fields place))
  itemsAre : done.items =
    items.map fun item => (reviseOne keeping revision fields place item).item
  seen : ∀ item ∈ items, separation.view item done.place =
    separation.view item (reviseOne keeping revision fields place item).place

include valid in
theorem batch_done (items : List ρ) (apart : items.Pairwise separation.Apart) :
    ∃ done, Done keeping separation revision fields place items done := by
  have grown := reviseAll_grown keeping separation revision fields place items.length 0
    ⟨{}, [], [], place⟩ items apart fun _ _ => rfl
  refine ⟨_, ?_, ?_, grown.eventsAre, grown.itemsAre, grown.seen⟩
  next =>
    rw [batch, valid, reviseAll_prepared]
    rfl
  next =>
    rw [grown.resultIs]
    simp [BatchResult.add_def]

variable {keeping separation revision fields place}

theorem Done.verdicts_are {items : List ρ} {done : Batch σ ρ}
    (finished : Done keeping separation revision fields place items done) :
    done.verdicts = items.map (verdictAlone keeping revision fields place) := by
  rw [Batch.verdicts, finished.eventsAre, verdicts_turns]

theorem Done.accounts {items : List ρ} {done : Batch σ ρ}
    (finished : Done keeping separation revision fields place items done) :
    done.Accounts (items.map fun item => (keeping.record item).id) where
  recordIds := by
    rw [finished.verdicts_are, List.map_map]
    rfl
  events := by rw [finished.verdicts_are, finished.eventsAre, List.length_map]
  progress := by
    rw [Batch.progress, finished.eventsAre, progress_turns, List.map_map, List.length_map]
    rfl
  errors := by
    rw [finished.verdicts_are, finished.resultIs, BatchResult.errors_ofVerdicts]
  counted := by
    rw [finished.resultIs, BatchResult.counts_ofVerdicts, List.length_map, List.length_map]

variable (keeping separation revision fields place)

include valid in
/-- A batch of records that are apart counts every record once, leaves each as a batch of its own
does, and is the sum of the batches of its parts. -/
theorem batch_composes (items : List ρ) (apart : items.Pairwise separation.Apart) :
    ∃ done : Batch σ ρ, batch keeping revision fields place items = .ok done /\
      done.Accounts (items.map fun item => (keeping.record item).id) /\
      (∀ (index : Nat) item, items[index]? = some item ->
        ∃ (alone : Batch σ ρ) (after : ρ) (verdict : Int × Verdict),
        batch keeping revision fields place [item] = .ok alone /\
          alone.items = [after] /\ done.items[index]? = some after /\
          alone.verdicts = [verdict] /\ done.verdicts[index]? = some verdict /\
          separation.view item done.place = separation.view item alone.place) /\
      (∀ first second, items = first ++ second -> ∃ one other : Batch σ ρ,
        batch keeping revision fields place first = .ok one /\
          batch keeping revision fields place second = .ok other /\
          done.result = one.result + other.result /\ done.items = one.items ++ other.items /\
          (∀ item ∈ first, separation.view item done.place = separation.view item one.place) /\
          (∀ item ∈ second, separation.view item done.place = separation.view item other.place)) := by
  obtain ⟨done, finished⟩ := batch_done keeping separation revision fields place valid items apart
  refine ⟨done, finished.ran, finished.accounts, ?_, ?_⟩
  next =>
    intro index item here
    obtain ⟨alone, single⟩ := batch_done keeping separation revision fields place valid [item]
      (List.pairwise_singleton _ _)
    refine ⟨alone, (reviseOne keeping revision fields place item).item,
      verdictAlone keeping revision fields place item, single.ran, single.itemsAre, ?_,
      single.verdicts_are, ?_, ?_⟩
    next => simp [finished.itemsAre, here]
    next => simp [finished.verdicts_are, here]
    next =>
      exact (finished.seen item (List.mem_of_getElem? here)).trans
        (single.seen item (by simp)).symm
  next =>
    rintro first second rfl
    obtain ⟨apartFirst, apartSecond, _⟩ := List.pairwise_append.1 apart
    obtain ⟨one, ended⟩ :=
      batch_done keeping separation revision fields place valid first apartFirst
    obtain ⟨other, endedToo⟩ :=
      batch_done keeping separation revision fields place valid second apartSecond
    refine ⟨one, other, ended.ran, endedToo.ran, ?_, ?_, ?_, ?_⟩
    next =>
      rw [finished.resultIs, List.map_append, BatchResult.ofVerdicts_append, ended.resultIs,
        endedToo.resultIs]
    next => rw [finished.itemsAre, List.map_append, ended.itemsAre, endedToo.itemsAre]
    next =>
      intro item member
      exact (finished.seen item (List.mem_append_left _ member)).trans (ended.seen item member).symm
    next =>
      intro item member
      exact (finished.seen item (List.mem_append_right _ member)).trans
        (endedToo.seen item member).symm

end Whole

end Revision

def Held.separation : Held.keeping.Separation Unit where
  view _ _ := ()
  Apart _ _ := True
  symm _ _ apart := apart
  saveCongr _ _ _ _ _ _ := ⟨rfl, rfl⟩
  saveFrame _ _ _ _ _ _ := rfl

namespace Library

theorem entry?_putEntry_of_ne (library : Library) (entry : Entry) (id : Int) (apart : entry.id ≠ id) :
    entry? (library.putEntry entry) id = library.entry? id := by
  refine find?_place_of_not _ entry library.entries (by simpa using apart) fun other _ same => ?_
  simpa [same] using apart

theorem entry?_putEntry_self (library : Library) (entry : Entry) :
    entry? (library.putEntry entry) entry.id = some entry :=
  find?_place_self _ entry library.entries (by simp) fun other _ passed => by simpa using passed

theorem updated_id (locked : Bool) (record : Record) (id : Int) (library : Library)
    (entry after : Entry) (found : library.entry? id = some entry)
    (wrote : updated locked record entry = .ok after) : after.id = id := by
  obtain ⟨fields, _, rfl⟩ := updated_eq_ok locked record entry after wrote
  exact (entry?_eq_some library id entry found).2

/-- What a save sees of the library: its own entry, and whether the library is locked. -/
def outlook (record : Record) (library : Library) : Option Entry × Bool :=
  (library.entry? record.id, library.locked)

theorem save_outlook (record : Record) (first second : Library)
    (same : outlook record first = outlook record second) :
    (save record first).1 = (save record second).1 /\
      outlook record (save record first).2 = outlook record (save record second).2 := by
  obtain ⟨entries, locks⟩ := Prod.mk.inj same
  unfold save
  split
  next => exact ⟨rfl, same⟩
  next =>
    rw [entries, locks]
    cases found : second.entry? record.id with
    | none => exact ⟨rfl, same⟩
    | some entry =>
      dsimp only
      cases wrote : updated second.locked record entry with
      | error fault => exact ⟨rfl, same⟩
      | ok after =>
        -- The entry that was written keeps its number, so it is what both libraries hold there now.
        have keptId := updated_id _ record record.id second entry after found wrote
        refine ⟨rfl, ?_⟩
        simp only [outlook, ← keptId, entry?_putEntry_self]
        exact congrArg _ locks

theorem save_outlook_of_ne (record other : Record) (library : Library)
    (apart : record.id ≠ other.id) :
    outlook other (save record library).2 = outlook other library := by
  unfold save
  split
  next => rfl
  next =>
    cases found : library.entry? record.id with
    | none => rfl
    | some entry =>
      dsimp only
      cases wrote : updated library.locked record entry with
      | error fault => rfl
      | ok after =>
        have keptId := updated_id _ record record.id library entry after found wrote
        have elsewhere := entry?_putEntry_of_ne library after other.id (by rwa [keptId])
        exact congrArg (fun entry => (entry, library.locked)) elsewhere

def separation : keeping.Separation (Option Entry × Bool) where
  view := outlook
  Apart first second := first.id ≠ second.id
  symm _ _ apart := apart.symm
  saveCongr item record first second keptId same := by
    have views (library : Library) : outlook item library = outlook record library := by
      unfold outlook
      rw [show item.id = record.id from keptId.symm]
    simp only [views] at same ⊢
    exact save_outlook record first second same
  saveFrame item other record library keptId apart := by
    refine save_outlook_of_ne record other library ?_
    rw [show record.id = item.id from keptId]
    exact apart

def voyages : Library where
  entries := [⟨1, "A", 1, none, [("title", "Tom at sea")], [], [], []⟩,
    ⟨2, "B", 1, none, [("title", "The sea")], [], [], []⟩]

def lostVoyage : Record :=
  Entry.record ⟨3, "C", 1, none, [("title", "Tom at home")], [], [], []⟩

def tomToTim : Revision where
  search := "T(o)m"
  replacement := .template "Tim$1"

end Library

theorem Revision.batch_composes_voyages :
    Pattern.validate Library.tomToTim.search Library.tomToTim.kind = .ok () /\
      (Library.voyages.entries.map Entry.record ++ [Library.lostVoyage]).Pairwise
        Library.separation.Apart /\
      ∃ done : Revision.Batch Library Record,
        Revision.batch Library.keeping Library.tomToTim ["title"] Library.voyages
            (Library.voyages.entries.map Entry.record ++ [Library.lostVoyage]) = .ok done /\
          done.Accounts [1, 2, 3] /\
          done.result = ⟨1, 1, [⟨3, "Record C no longer exists in the library"⟩]⟩ := by
  have valid : Pattern.validate Library.tomToTim.search Library.tomToTim.kind = .ok () :=
    eq_ok_of_toOption (by decide +kernel)
  have apart : (Library.voyages.entries.map Entry.record ++ [Library.lostVoyage]).Pairwise
      Library.separation.Apart := by
    simp [Library.voyages, Library.separation, Entry.record, Library.lostVoyage]
  obtain ⟨done, ran, accounts, _⟩ := batch_composes Library.keeping Library.separation
    Library.tomToTim ["title"] Library.voyages valid _ apart
  refine ⟨valid, apart, done, ran, accounts, ?_⟩
  have counted : (Revision.batch Library.keeping Library.tomToTim ["title"] Library.voyages
      (Library.voyages.entries.map Entry.record ++ [Library.lostVoyage])).toOption.map
        Revision.Batch.result =
      some ⟨1, 1, [⟨3, "Record C no longer exists in the library"⟩]⟩ := by decide +kernel
  rw [ran] at counted
  exact Option.some.inj counted

end BibEdit
