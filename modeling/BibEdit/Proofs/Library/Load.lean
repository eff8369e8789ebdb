import BibEdit.Proofs.Library.Sound

set_option autoImplicit false

/-! Loading records by portions of their numbers. -/

namespace BibEdit.Library

theorem flatten_chunks (ids : List Int) (size count : Nat) :
    ((List.range count).map fun index => (ids.drop (index * size)).take size).flatten =
      ids.take (count * size) := by
  induction count with
  | zero => simp
  | succ count ih =>
    rw [List.range_succ, List.map_append, List.flatten_append, ih, Nat.succ_mul, List.take_add]
    simp

theorem flatten_portions (ids : List Int) : (portions ids).flatten = ids := by
  unfold portions
  rw [flatten_chunks]
  refine List.take_of_length_le ?_
  have enough := Nat.div_add_mod (ids.length + portionSize - 1) portionSize
  have small := Nat.mod_lt (ids.length + portionSize - 1) (show portionSize > 0 by decide)
  rw [Nat.mul_comm] at enough
  have size : 0 < portionSize := by decide
  omega

theorem countP_contains (chunks : List (List Int)) (id : Int) (once : chunks.flatten.Nodup)
    (member : id ∈ chunks.flatten) :
    chunks.countP (fun portion => portion.contains id) = 1 := by
  induction chunks with
  | nil => cases member
  | cons chunk rest ih =>
    rw [List.flatten_cons, List.nodup_append] at once
    rw [List.flatten_cons, List.mem_append] at member
    by_cases here : id ∈ chunk
    next =>
      have elsewhere : rest.countP (fun portion => portion.contains id) = 0 := by
        rw [List.countP_eq_zero]
        intro portion among found
        have again : id ∈ rest.flatten :=
          List.mem_flatten.2 ⟨portion, among, by simpa using found⟩
        exact once.2.2 id here id again rfl
      rw [List.countP_cons, elsewhere]
      simp [here]
    next =>
      have later := ih once.2.1 (member.resolve_left here)
      rw [List.countP_cons, later]
      simp [here]

theorem requireScope_eq (libraryId : Option Int) :
    requireScope libraryId = if libraryId.all isStorable then .ok () else .error .outOfRange := by
  cases libraryId <;> rfl

theorem loadEntry_once (ids : List Int) (entry : Entry) (once : ids.Nodup)
    (member : entry.id ∈ ids) : loadEntry (portions ids) entry = entry.record := by
  have count : (portions ids).countP (fun portion => portion.contains entry.id) = 1 := by
    refine countP_contains (portions ids) entry.id ?_ ?_
    next => rwa [flatten_portions]
    next => rwa [flatten_portions]
  unfold loadEntry
  dsimp only
  rw [count, List.replicate_one, List.flatten_cons, List.flatten_nil, List.append_nil]
  rfl

theorem mem_load (library : Library) (ids : List Int) (records : List Record)
    (loaded : library.load ids = .ok records) (record : Record) (member : record ∈ records) :
    ∃ id ∈ ids, isStorable id = true /\ ∃ entry, library.entry? id = some entry /\
      loadEntry (portions ids) entry = record := by
  unfold load at loaded
  dsimp only at loaded
  split at loaded
  next storable =>
    cases loaded
    obtain ⟨id, asked, found⟩ := List.mem_filterMap.1 member
    exact ⟨id, asked, List.all_eq_true.1 storable id asked, Option.map_eq_some_iff.1 found⟩
  next => cases loaded

/-- What the numbers of records are like in any library: each stands for one record. -/
structure Indexed (library : Library) : Prop where
  ascending : Ascending Entry.id library.entries
  storable : ∀ entry ∈ library.entries, isStorable entry.id = true

theorem Sound.indexed {fit : Creator -> Prop} {library : Library} (sound : library.Sound fit) :
    library.Indexed where
  ascending := sound.ascending
  storable := fun entry member => (sound.entries entry member).idStorable

theorem load_sublist (library : Library) (indexed : library.Indexed) (chosen : List Entry)
    (sublist : chosen.Sublist library.entries) :
    library.load (chosen.map Entry.id) = .ok (chosen.map Entry.record) := by
  have once : (chosen.map Entry.id).Nodup :=
    (indexed.ascending.nodup_ranks _).sublist (sublist.map Entry.id)
  have storable : (chosen.map Entry.id).all isStorable = true := by
    rw [List.all_eq_true]
    intro id member
    obtain ⟨entry, among, rfl⟩ := List.mem_map.1 member
    exact indexed.storable entry (sublist.subset among)
  have each : (chosen.map Entry.id).filterMap (fun id =>
      (library.entry? id).map (loadEntry (portions (chosen.map Entry.id)))) =
      chosen.map Entry.record := by
    generalize askedIs : portions (chosen.map Entry.id) = asked
    rw [List.filterMap_map, ← List.filterMap_eq_map]
    refine List.filterMap_congr fun entry member => ?_
    simp only [Function.comp_apply]
    rw [entry?_of_mem library indexed.ascending entry (sublist.subset member), Option.map_some,
      ← askedIs, loadEntry_once _ entry once (List.mem_map_of_mem member)]
  unfold load
  dsimp only
  rw [if_pos storable, each]

end BibEdit.Library
