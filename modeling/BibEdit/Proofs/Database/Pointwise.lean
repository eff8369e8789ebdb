import BibEdit.Proofs.Database.Load

set_option autoImplicit false

namespace BibEdit.Database

theorem filterMap_eq_filterMap_iff {α β : Type} (first second : α -> Option β) (items : List α)
    (alike : ∀ item ∈ items, (first item).isSome = (second item).isSome) :
    items.filterMap first = items.filterMap second <->
      ∀ item ∈ items, first item = second item := by
  induction items with
  | nil => simp
  | cons item rest ih =>
    rw [List.forall_mem_cons] at alike
    have later := ih alike.2
    have here := alike.1
    rw [List.forall_mem_cons, ← later, List.filterMap_cons, List.filterMap_cons]
    cases one : first item with
    | none =>
      have other : second item = none := by simpa [one] using here
      simp [other]
    | some value =>
      obtain ⟨found, other⟩ : ∃ found, second item = some found :=
        Option.isSome_iff_exists.1 (by rw [← here, one]; rfl)
      simp [other]

theorem flatten_replicate_eq_self_iff {α : Type} (count : Nat) (items : List α)
    (given : 0 < count) :
    (List.replicate count items).flatten = items <-> (1 < count -> items = []) := by
  constructor
  next =>
    intro same more
    have lengths : count * items.length = items.length := by
      simpa using congrArg List.length same
    by_contra there
    have once := (Nat.mul_eq_right (mt List.length_eq_zero_iff.1 there)).1 lengths
    omega
  next =>
    intro bare
    obtain one | more : count = 1 \/ 1 < count := by omega
    next => simp [one]
    next => simp [bare more]

theorem countP_portions_pos (ids : List Int) (id : Int) :
    0 < (Library.portions ids).countP (fun portion => portion.contains id) <-> id ∈ ids := by
  have whole : id ∈ (Library.portions ids).flatten <-> id ∈ ids := by
    rw [Library.flatten_portions]
  rw [← whole, List.countP_pos_iff, List.mem_flatten]
  simp

theorem loadEntry_eq_record_iff (ids : List Int) (entry : Entry) (asked : entry.id ∈ ids) :
    Library.loadEntry (Library.portions ids) entry = entry.record <->
      (1 < (Library.portions ids).countP (fun portion => portion.contains entry.id) ->
        entry.creators = []) := by
  have given := (countP_portions_pos ids entry.id).2 asked
  rw [← flatten_replicate_eq_self_iff _ entry.creators given]
  simp [Library.loadEntry, Entry.record]

namespace Tables

def loadEach (tables : Tables) (ids : List Int) : Except Fault (List Record) :=
  (ids.mapM fun id => tables.load [id]).map List.flatten

section Load

variable {tables : Tables} (lawful : tables.Lawful)

include lawful

theorem recordOf?_of_mem (row : RecordRow) (member : row ∈ tables.records) :
    tables.recordOf? row.id = some row := by
  cases found : tables.recordOf? row.id with
  | none => simpa using List.find?_eq_none.1 found row member
  | some other =>
    obtain ⟨among, same⟩ := recordOf?_eq_some tables row.id other found
    rw [row_eq_of_id lawful other row among member same]

theorem load_single (id : Int) :
    tables.load [id] = if isStorable id then
      .ok ((tables.recordOf? id).map fun row => (tables.entryOf row).record).toList
      else .error .outOfRange := by
  have single : tables.library.load [id] = if isStorable id then
      .ok ((tables.library.entry? id).map (Library.loadEntry (Library.portions [id]))).toList
      else .error .outOfRange := by
    simp only [Library.load, List.all_cons, List.all_nil, Bool.and_true, List.filterMap_cons,
      List.filterMap_nil]
    cases tables.library.entry? id <;> rfl
  rw [load_eq lawful, single, entry?_eq_map lawful, Option.map_map]
  split
  next =>
    refine congrArg Except.ok (congrArg Option.toList (Option.map_congr fun row found => ?_))
    have own : row.id = id := (recordOf?_eq_some tables id row found).2
    exact Library.loadEntry_once [id] _ (List.nodup_singleton id) (List.mem_singleton.2 own)
  next => rfl

omit lawful in
theorem loadEach_cons (id : Int) (rest : List Int) :
    tables.loadEach (id :: rest) =
      (tables.load [id] >>= fun first => (tables.loadEach rest).map (first ++ ·)) := by
  unfold loadEach
  rw [List.mapM_cons]
  cases tables.load [id] with
  | error fault => rfl
  | ok first => cases rest.mapM fun id => tables.load [id] <;> rfl

theorem loadEach_eq (ids : List Int) :
    tables.loadEach ids = if ids.all isStorable then
      .ok (ids.filterMap fun id =>
        (tables.recordOf? id).map fun row => (tables.entryOf row).record)
      else .error .outOfRange := by
  induction ids with
  | nil => rfl
  | cons id rest ih =>
    rw [loadEach_cons, ih, load_single lawful, List.all_cons]
    cases isStorable id with
    | false => rfl
    | true =>
      rw [Bool.true_and, if_pos rfl, ok_bind]
      split
      next => cases found : tables.recordOf? id <;> simp [found, Except.map]
      next => rfl

theorem load_eq_loadEach_iff (ids : List Int) :
    tables.load ids = tables.loadEach ids <->
      (∃ id ∈ ids, isStorable id = false) \/ ∀ row ∈ tables.records,
        1 < (Library.portions ids).countP (fun portion => portion.contains row.id) ->
          (tables.entryOf row).creators = [] := by
  rw [load_eq lawful, loadEach_eq lawful]
  unfold Library.load
  by_cases storable : ids.all isStorable = true
  next =>
    -- Both keep the same numbers, so that they differ only in what a record holds.
    have every : ¬ ∃ id ∈ ids, isStorable id = false := by simpa using storable
    rw [if_pos storable, if_pos storable, Except.ok.injEq, or_iff_right every,
      filterMap_eq_filterMap_iff]
    next =>
      constructor
      next =>
        intro same row member often
        have wanted := (countP_portions_pos ids row.id).1 (Nat.zero_lt_of_lt often)
        have alone := same row.id wanted
        rw [entry?_eq_map lawful, recordOf?_of_mem lawful row member] at alone
        exact (loadEntry_eq_record_iff ids (tables.entryOf row) wanted).1 (Option.some.inj alone)
          often
      next =>
        intro bare id wanted
        rw [entry?_eq_map lawful]
        cases found : tables.recordOf? id with
        | none => rfl
        | some row =>
          obtain ⟨member, rfl⟩ := recordOf?_eq_some tables id row found
          exact congrArg some ((loadEntry_eq_record_iff ids (tables.entryOf row) wanted).2
            (bare row member))
    next =>
      intro id _
      simp [entry?_eq_map lawful]
  next =>
    have unstorable : ∃ id ∈ ids, isStorable id = false := by simpa using storable
    simp [storable, unstorable]

end Load

/-- Records loaded together are those loaded one by one, each as it is stored, unless a record with
creators is asked for in two portions: each portion brings its creators again. Numbers that cannot
be stored fail alone and among others. -/
theorem load_pointwise_iff (tables : Tables) (lawful : tables.Lawful) (ids : List Int) :
    (tables.load ids = tables.loadEach ids <->
      (∃ id ∈ ids, isStorable id = false) \/ ∀ row ∈ tables.records,
        1 < (Library.portions ids).countP (fun portion => portion.contains row.id) ->
          (tables.entryOf row).creators = []) /\
      ∀ id, tables.load [id] = if isStorable id then
        .ok ((tables.recordOf? id).map fun row => (tables.entryOf row).record).toList
        else .error .outOfRange :=
  ⟨load_eq_loadEach_iff lawful ids, load_single lawful⟩

end Tables

def epics : Tables where
  records := [⟨2, "B", 1, some "book"⟩, ⟨1, "A", 1, none⟩]
  fields := [⟨1, "title", "Odyssey"⟩, ⟨2, "title", "Aeneid"⟩]
  creators := [⟨1, 1, ⟨"", "", "Homer", "author"⟩⟩]
  tags := [⟨2, "war", 2⟩, ⟨2, "sea", 1⟩]
  collections := []
  memberships := []

def shuffled : List Int := [2, 1, 9, 2]

theorem load_pointwise_shuffled :
    epics.Lawful /\ epics.load shuffled = epics.loadEach shuffled /\
      epics.load [1] =
        .ok ((epics.recordOf? 1).map fun row => (epics.entryOf row).record).toList := by
  have lawful : epics.Lawful := by constructor <;> decide
  obtain ⟨pointwise, single⟩ := Tables.load_pointwise_iff epics lawful shuffled
  exact ⟨lawful, pointwise.2 (.inr (by decide +kernel)), (single 1).trans (if_pos (by decide))⟩

/-- A number asked for at both ends of a list that is longer than a portion. -/
def farApart : List Int := 1 :: (List.range 899).map (fun index => 1001 + (index : Int)) ++ [1]

theorem load_doubles_creators :
    epics.Lawful /\ epics.load farApart ≠ epics.loadEach farApart /\
      (epics.load farApart).toOption.map (List.map Record.creators) =
        some (List.replicate 2 (List.replicate 2 ⟨"", "", "Homer", "author"⟩)) := by
  have lawful : epics.Lawful := by constructor <;> decide
  have doubled : (epics.library.load farApart).toOption.map (List.map Record.creators) =
      some (List.replicate 2 (List.replicate 2 ⟨"", "", "Homer", "author"⟩)) := by decide +kernel
  refine ⟨lawful, ?_, by rw [Tables.load_eq lawful, doubled]⟩
  intro pointwise
  obtain unstorable | bare := (Tables.load_eq_loadEach_iff lawful farApart).1 pointwise
  next =>
    obtain ⟨id, asked, refused⟩ := unstorable
    have storable : ∀ id ∈ farApart, isStorable id = true := by decide +kernel
    rw [storable id asked] at refused
    cases refused
  next =>
    have noneThere := bare ⟨1, "A", 1, none⟩ (by decide) (by decide +kernel)
    cases noneThere

end BibEdit.Database
