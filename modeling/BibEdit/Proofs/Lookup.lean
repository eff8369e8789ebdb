import Mathlib.Data.List.Nodup

set_option autoImplicit false

/-! Look-ups in lists of keys and values. -/

namespace BibEdit

variable {α : Type}

theorem lookup_eq_some_iff (entries : List (String × α)) (apart : (entries.map Prod.fst).Nodup)
    (key : String) (value : α) : entries.lookup key = some value <-> (key, value) ∈ entries := by
  induction entries with
  | nil => simp
  | cons entry rest ih =>
    obtain ⟨name, first⟩ := entry
    obtain ⟨fresh, later⟩ := List.nodup_cons.1 apart
    by_cases here : key = name
    next =>
      subst here
      have absent : (key, value) ∉ rest := fun member =>
        fresh (List.mem_map.2 ⟨_, member, rfl⟩)
      simp [absent, eq_comm]
    next =>
      have differs : (key == name) = false := by simpa using here
      rw [List.lookup_cons, differs]
      simp [ih later, here]

theorem lookup_eq_none_iff (entries : List (String × α)) (key : String) :
    entries.lookup key = none <-> key ∉ entries.map Prod.fst := by
  induction entries with
  | nil => simp
  | cons entry rest ih =>
    obtain ⟨name, first⟩ := entry
    by_cases here : key = name
    next => simp [here]
    next =>
      have differs : (key == name) = false := by simpa using here
      rw [List.lookup_cons, differs]
      simp [ih, here]

end BibEdit
