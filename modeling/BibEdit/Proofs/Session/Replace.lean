import BibEdit.Console.Ansi
import BibEdit.Proofs.Library.Reachable
import BibEdit.Proofs.Library.Search
import BibEdit.Proofs.Revision.Frame
import BibEdit.Proofs.Session.Review

set_option autoImplicit false

namespace BibEdit

namespace Search

theorem foundIn_sublist {ρ α : Type} (readable : ρ -> Readable) (conditions : List Condition)
    (record : α -> ρ) (items : List α) (found : List (Found ρ))
    (done : foundIn readable conditions (items.map record) = .ok found) :
    ∃ chosen : List α, chosen.Sublist items /\ found.map Found.record = chosen.map record := by
  induction items generalizing found with
  | nil =>
    cases done
    exact ⟨[], .slnil, rfl⟩
  | cons item rest ih =>
    obtain ⟨evaluation, _, done⟩ := bind_eq_ok.1 done
    obtain ⟨later, foundLater, same⟩ := bind_eq_ok.1 done
    obtain ⟨chosen, sublist, records⟩ := ih later foundLater
    cases same
    split
    next => exact ⟨item :: chosen, sublist.cons_cons item, by simp [records]⟩
    next => exact ⟨chosen, sublist.cons item, records⟩

end Search

theorem Library.search_sublist {fit : Creator -> Prop} (library : Library)
    (sound : library.Sound fit) (conditions : List Condition) (libraryId : Option Int)
    (threshold : Int) (found : List (Search.Found Record))
    (done : (search library.store Record.readable conditions libraryId threshold).outcome =
      .ok found) :
    ∃ chosen : List Entry, chosen.Sublist (library.entries.filter (inScope libraryId)) /\
      found.map Search.Found.record = chosen.map Entry.record := by
  by_cases given : conditions = []
  next =>
    rw [given] at done
    cases done
    exact ⟨[], List.nil_sublist _, rfl⟩
  cases valid : Search.validate conditions with
  | error failure =>
    rw [Search.search_invalid _ _ conditions given failure valid] at done
    cases done
  | ok _ =>
    rw [Search.search_outcome _ _ conditions given valid] at done
    obtain ⟨probe?, _, done⟩ := bind_eq_ok.1 done
    obtain ⟨ids, answered, refined⟩ := bind_eq_ok.1 done
    obtain ⟨asked, within, rfl⟩ := library.candidates_sublist libraryId probe? ids answered
    rw [library.refineAll_sublist sound.indexed conditions asked
      (within.trans List.filter_sublist)] at refined
    obtain ⟨chosen, sublist, records⟩ := Search.foundIn_sublist _ _ _ asked found refined
    exact ⟨chosen, sublist.trans within, records⟩

namespace Session

theorem plans_sublist (revision : Revision) (fields : List String)
    (found : List (Search.Found Record)) (planned : List Plan)
    (done : plans revision fields found = .ok planned) :
    (planned.map Plan.record).Sublist (found.map Search.Found.record) := by
  obtain ⟨all, each, rfl⟩ := map_eq_ok.1 done
  have records : all.map Plan.record = found.map Search.Found.record := by
    have pairs : List.Forall₂ (fun plan one => plan.record = one.record) all found := by
      apply (mapM_eq_ok.1 each).flip.imp
      intro plan one made
      obtain ⟨changes, _, same⟩ := map_eq_ok.1 made
      exact (congrArg Plan.record same).symm
    rw [← List.forall₂_eq_eq_eq, List.forall₂_map_left_iff, List.forall₂_map_right_iff]
    exact pairs
  rw [← records]
  exact List.filter_sublist.map Plan.record

theorem write_leaves (start : Library) (allowed : Library -> Prop) (revision : Revision)
    (fields : List String) (records : List Record) (unchanged : allowed start)
    (revised : ∀ total current batch, batch.place = start ->
      allowed (Revision.reviseAll Library.keeping revision fields total current batch records).place) :
    Leaves start allowed (write revision fields records) := by
  intro desk here
  unfold write
  rw [work_bind, work_get]
  dsimp only
  rw [work_bind]
  rw [Revision.batch, Revision.reviseAll_prepared]
  cases Pattern.validate revision.search revision.kind with
  | error error =>
    show allowed desk.library
    rwa [here]
  | ok _ => exact revised _ _ _ here

section Writing

variable [Console.Prompting]

theorem conclude_leaves (request : Request) (start : Library) (sound : start.Sound fun _ => True)
    (typed : ∀ entry ∈ start.entries, ∀ creator ∈ entry.creators, creator.creatorType ≠ "")
    (threshold : Int) (found : List (Search.Found Record)) (planned : List Plan)
    (searched : (search start.store Record.readable request.conditions request.libraryId
      threshold).outcome = .ok found)
    (made : plans request.revision request.targets found = .ok planned) :
    Leaves start
      (start.Within request.targets fun entry => Library.inScope request.libraryId entry = true /\
        entry.record ∈ found.map Search.Found.record)
      (conclude request (some planned)) := by
  obtain ⟨chosen, isInScope, records⟩ := start.search_sublist sound _ _ _ found searched
  have withChanges := plans_sublist _ _ _ planned made
  rw [records] at withChanges
  -- Records with changes come from entries that were found, in the same order.
  obtain ⟨revised, among, plannedRecords⟩ := List.sublist_map_iff.1 withChanges
  have sublist := among.trans (isInScope.trans List.filter_sublist)
  have writes := write_leaves start
    (start.Within request.targets fun entry => Library.inScope request.libraryId entry = true /\
      entry.record ∈ found.map Search.Found.record)
    request.revision request.targets (revised.map Entry.record) (start.within_refl _ _) (by
      intro total current batch place
      have within := Revision.reviseAll_within request.revision request.targets revised start
        sound.ascending ((List.Nodup.of_map _ (sound.ascending.nodup_ranks _)).sublist sublist)
        (fun entry member => sublist.subset member)
        (fun entry member => typed entry (sublist.subset member)) total current batch place
      apply within.mono
      intro entry _ member
      have chosenMember := among.subset member
      refine ⟨(List.mem_filter.1 (isInScope.subset chosenMember)).2, ?_⟩
      rw [records]
      exact List.mem_map_of_mem chosenMember)
  unfold conclude
  dsimp only
  rw [plannedRecords]
  exact leaves_then _ _ writes fun _ =>
    keepsLibrary_bind _ _ (keepsLibrary_report _ _) fun _ => keepsLibrary_pure _

/-- However a replacement ends, no entry of the library differs afterwards but in the named fields,
and only entries in scope that were found do. -/
theorem replace_within (settings : Settings) (request : Request) (desk : Desk)
    (workspace : Library.Workspace) (locked : Bool)
    (reachable : Library.Workspace.Reachable (fun _ => True) workspace)
    (stored : desk.library = { workspace.library with locked := locked })
    (typed : ∀ entry ∈ desk.library.entries, ∀ creator ∈ entry.creators,
      creator.creatorType ≠ "") :
    desk.library.Within request.targets
      (fun entry => Library.inScope request.libraryId entry = true /\
        ∃ found, (search desk.library.store Record.readable request.conditions request.libraryId
            settings.fieldThreshold).outcome = .ok found /\
          entry.record ∈ found.map Search.Found.record)
      ((replace settings request).work desk).2.library := by
  have sound : desk.library.Sound fun _ => True := by
    have kept := (Library.sound_of_reachable (fun _ _ => trivial) _
      (fun action _ => by cases action <;> simp [Library.Action.Fits]) workspace reachable).library
    rw [stored]
    exact ⟨kept.ascending, kept.keys, kept.collectionsAscending, kept.collectionsStorable,
      kept.entries⟩
  rw [replace_eq]
  apply leaves_bind _ _ (keepsLibrary_review settings request) (desk.library.within_refl _ _) _
    desk rfl
  intro reviewed gives
  cases reviewed with
  | none => exact leaves_of_keeps _ (keepsLibrary_pure none) (desk.library.within_refl _ _)
  | some planned =>
    obtain ⟨before, after, same, given⟩ := gives
    obtain ⟨-, -, ⟨found, searched, made⟩, -⟩ := (review_eq_some _ _ _ _ _).1 given
    rw [same] at searched
    intro between here
    apply (conclude_leaves request desk.library sound typed _ found planned searched made between
      here).mono
    exact fun entry _ touched => ⟨touched.1, found, searched, touched.2⟩

end Writing

def shelf : Library.Workspace :=
  Library.Workspace.perform {} (.importFile "shelf.toml" (some
    "[[records]]\nkey='A'\nfields.title='Old'\n[[records.creators]]\nfirstName='Old'"))

def shelfDesk : Desk where
  library := { entries := [⟨1, "A", 1, none, [("title", "Old")],
    [⟨"Old", "", "", "author"⟩], [], []⟩] }
  terminal := { color := false, typed := [[]] }

def plainSettings : Settings := { libraryPath := "library.sqlite3" }

def newTitles : Request where
  conditions := [⟨"title", "Old", .contains, true, .and⟩]
  revision := { search := "Old", replacement := .template "New", kind := .contains }
  confirm := true

theorem replace_within_titles :
    Library.Workspace.Reachable (fun _ => True) shelf /\
      (∀ entry ∈ shelfDesk.library.entries, ∀ creator ∈ entry.creators, creator.creatorType ≠ "") /\
      newTitles.targets = ["title"] /\
      ((replace plainSettings newTitles).work shelfDesk).2.library.entries =
        [⟨1, "A", 1, none, [("title", "New")], [⟨"Old", "", "", "author"⟩], [], []⟩] /\
      shelfDesk.library.Within newTitles.targets
        (fun entry => Library.inScope newTitles.libraryId entry = true /\
          ∃ found, (search shelfDesk.library.store Record.readable newTitles.conditions
              newTitles.libraryId plainSettings.fieldThreshold).outcome = .ok found /\
            entry.record ∈ found.map Search.Found.record)
        ((replace plainSettings newTitles).work shelfDesk).2.library := by
  have reachable : Library.Workspace.Reachable (fun _ => True) shelf := .perform _ _ .start trivial
  have typed : ∀ entry ∈ shelfDesk.library.entries, ∀ creator ∈ entry.creators,
      creator.creatorType ≠ "" := by
    decide
  have stored : shelfDesk.library = { shelf.library with locked := false } := by
    decide +kernel
  exact ⟨reachable, typed, by decide, by decide +kernel,
    replace_within plainSettings newTitles shelfDesk shelf false reachable stored typed⟩

end Session

end BibEdit
