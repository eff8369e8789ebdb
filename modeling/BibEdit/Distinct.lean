set_option autoImplicit false

namespace BibEdit

def distinct {α : Type} [BEq α] (items : List α) : List α := items.eraseDups

@[simp] theorem distinct_nil {α : Type} [BEq α] : distinct ([] : List α) = [] := rfl

theorem distinct_cons {α : Type} [BEq α] (item : α) (rest : List α) :
    distinct (item :: rest) = item :: distinct (rest.filter fun other => !other == item) := by
  simp [distinct, List.eraseDups_cons]

theorem nodup_distinct {α : Type} [BEq α] [LawfulBEq α] (items : List α) :
    (distinct items).Nodup := by
  match items with
  | [] => simp
  | item :: rest =>
    rw [distinct_cons, List.nodup_cons]
    refine ⟨fun again => ?_, nodup_distinct _⟩
    simpa using List.mem_eraseDups.1 again
  termination_by items.length
  decreasing_by
    simp only [List.length_cons]
    exact Nat.lt_succ_of_le (List.length_filter_le _ rest)

theorem distinct_of_nodup {α : Type} [BEq α] [LawfulBEq α] (items : List α) (apart : items.Nodup) :
    distinct items = items := by
  induction items with
  | nil => rfl
  | cons item rest ih =>
    obtain ⟨fresh, later⟩ := List.nodup_cons.1 apart
    have kept : rest.filter (fun other => !other == item) = rest := by
      rw [List.filter_eq_self]
      intro other member
      have differs : other ≠ item := fun same => fresh (same ▸ member)
      simp [differs]
    rw [distinct_cons, kept, ih later]

end BibEdit
