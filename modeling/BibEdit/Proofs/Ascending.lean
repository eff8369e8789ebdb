import BibEdit.Database.Tables
import Mathlib.Data.List.Nodup
import Mathlib.Data.String.Basic
import Mathlib.Order.RelClasses

set_option autoImplicit false

/-! Lists in ascending order, by a rank that each item has for itself. -/

namespace BibEdit

def Ascending {α κ : Type} [LT κ] (rank : α -> κ) (items : List α) : Prop :=
  items.Pairwise fun first second => rank first < rank second

section Order

variable {α κ : Type} [LT κ] [DecidableLT κ] [DecidableEq κ]
  [IsStrictTotalOrder κ fun first second => first < second] {rank : α -> κ}

omit [DecidableLT κ] [DecidableEq κ] in
theorem Ascending.nodup_ranks (items : List α) (ascending : Ascending rank items) :
    (items.map rank).Nodup := by
  rw [List.Nodup, List.pairwise_map]
  refine ascending.imp fun {first second} (below : rank first < rank second) same => ?_
  rw [same] at below
  exact irrefl_of (· < ·) _ below

omit [DecidableLT κ] [DecidableEq κ] [IsStrictTotalOrder κ fun first second => first < second] in
theorem Ascending.filter (items : List α) (ascending : Ascending rank items) (keep : α -> Bool) :
    Ascending rank (items.filter keep) := List.Pairwise.filter keep ascending

omit [DecidableLT κ] [DecidableEq κ] in
theorem Ascending.eq_of_rank (items : List α) (ascending : Ascending rank items) (first second : α)
    (member : first ∈ items) (other : second ∈ items) (same : rank first = rank second) :
    first = second :=
  List.inj_on_of_nodup_map (ascending.nodup_ranks items) member other same

omit [DecidableLT κ] [DecidableEq κ] in
theorem Ascending.ext (first second : List α) (ascendingFirst : Ascending rank first)
    (ascendingSecond : Ascending rank second) (same : ∀ item, item ∈ first <-> item ∈ second) :
    first = second := by
  have nodupFirst := List.Nodup.of_map rank (ascendingFirst.nodup_ranks first)
  have nodupSecond := List.Nodup.of_map rank (ascendingSecond.nodup_ranks second)
  have perm := (List.perm_ext_iff_of_nodup nodupFirst nodupSecond).2 same
  refine perm.eq_of_pairwise ?_ ascendingFirst ascendingSecond
  intro x y _ _ below above
  exact absurd (trans_of (· < ·) below above) (irrefl_of (· < ·) (rank x))

theorem mem_place (item other : α) (items : List α) (ascending : Ascending rank items) :
    other ∈ place rank item items <->
      other = item \/ other ∈ items /\ rank other ≠ rank item := by
  induction items with
  | nil => simp [place]
  | cons head rest ih =>
    obtain ⟨first, later⟩ := List.pairwise_cons.1 ascending
    unfold place
    split
    next same =>
      have apart : ∀ x ∈ rest, rank x ≠ rank item := by
        intro x member equal
        have below := first x member
        rw [equal, same] at below
        exact irrefl_of (· < ·) _ below
      grind
    next differs =>
      split
      next below =>
        have apart : ∀ x ∈ rest, rank x ≠ rank item := by
          intro x member equal
          have above := first x member
          rw [equal] at above
          exact irrefl_of (· < ·) _ (trans_of (· < ·) below above)
        grind
      next =>
        rw [List.mem_cons, ih later, List.mem_cons]
        grind

theorem ascending_place (item : α) (items : List α) (ascending : Ascending rank items) :
    Ascending rank (place rank item items) := by
  induction items with
  | nil => simp [place, Ascending]
  | cons head rest ih =>
    obtain ⟨first, later⟩ := List.pairwise_cons.1 ascending
    unfold place
    split
    next same =>
      refine List.pairwise_cons.2 ⟨fun x member => ?_, later⟩
      rw [same]
      exact first x member
    next differs =>
      split
      next below =>
        refine List.pairwise_cons.2 ⟨fun x member => ?_, ascending⟩
        rcases List.mem_cons.1 member with rfl | among
        next => exact below
        next => exact trans_of (· < ·) below (first x among)
      next notBelow =>
        have above : rank head < rank item := by
          rcases trichotomous_of (· < ·) (rank item) (rank head) with below | same | above
          next => exact absurd below notBelow
          next => exact absurd same differs
          next => exact above
        refine List.pairwise_cons.2 ⟨fun x member => ?_, ih later⟩
        rcases (mem_place item x rest later).1 member with rfl | ⟨among, _⟩
        next => exact above
        next => exact first x among

theorem place_of_mem (item : α) (items : List α) (ascending : Ascending rank items)
    (member : item ∈ items) : place rank item items = items := by
  refine Ascending.ext _ _ (ascending_place item items ascending) ascending fun other => ?_
  rw [mem_place item other items ascending]
  constructor
  next =>
    rintro (rfl | ⟨kept, _⟩)
    next => exact member
    next => exact kept
  next =>
    intro kept
    by_cases same : rank other = rank item
    next => exact .inl (ascending.eq_of_rank items other item kept member same)
    next => exact .inr ⟨kept, same⟩

theorem place_last (item : α) (items : List α)
    (above : ∀ other ∈ items, rank other < rank item) :
    place rank item items = items ++ [item] := by
  induction items with
  | nil => rfl
  | cons head rest ih =>
    have below := above head (by simp)
    have differs : rank item ≠ rank head := by
      intro same
      rw [same] at below
      exact irrefl_of (· < ·) _ below
    have notBelow : ¬ rank item < rank head := fun reverse =>
      irrefl_of (· < ·) _ (trans_of (· < ·) below reverse)
    rw [place, if_neg differs, if_neg notBelow,
      ih fun other member => above other (List.mem_cons_of_mem _ member)]
    rfl

omit [IsStrictTotalOrder κ fun first second => first < second] in
theorem find?_place_self (found : α -> Bool) (item : α) (items : List α) (passes : found item = true)
    (own : ∀ other ∈ items, found other = true -> rank other = rank item) :
    (place rank item items).find? found = some item := by
  induction items with
  | nil => simp [place, passes]
  | cons head rest ih =>
    unfold place
    split
    next => simp [passes]
    next differs =>
      split
      next => simp [passes]
      next =>
        have fails : found head = false := by
          by_contra passed
          exact differs (own head (by simp) (by simpa using passed)).symm
        rw [List.find?_cons, fails]
        exact ih fun other member => own other (List.mem_cons_of_mem _ member)

omit [IsStrictTotalOrder κ fun first second => first < second] in
theorem find?_place_of_not (found : α -> Bool) (item : α) (items : List α)
    (fails : found item = false)
    (own : ∀ other ∈ items, rank other = rank item -> found other = false) :
    (place rank item items).find? found = items.find? found := by
  induction items with
  | nil => simp [place, fails]
  | cons head rest ih =>
    unfold place
    split
    next same => rw [List.find?_cons, List.find?_cons, fails, own head (by simp) same.symm]
    next =>
      split
      next => rw [List.find?_cons, fails]
      next =>
        rw [List.find?_cons, List.find?_cons,
          ih fun other member => own other (List.mem_cons_of_mem _ member)]

open Database

theorem ascending_sortBy (items : List α) : Ascending rank (sortBy rank items) := by
  induction items with
  | nil => exact List.Pairwise.nil
  | cons item rest ih => exact ascending_place item _ ih

theorem mem_sortBy (items : List α) (apart : (items.map rank).Nodup) (other : α) :
    other ∈ sortBy rank items <-> other ∈ items := by
  induction items generalizing other with
  | nil => rfl
  | cons item rest ih =>
    obtain ⟨fresh, later⟩ := List.nodup_cons.1 apart
    show other ∈ place rank item (sortBy rank rest) <-> other ∈ item :: rest
    rw [mem_place item other _ (ascending_sortBy rest), ih later, List.mem_cons]
    have differs : other ∈ rest -> rank other ≠ rank item := fun member same =>
      fresh (same ▸ List.mem_map_of_mem member)
    grind

theorem sortBy_of_ascending (items : List α) (ascending : Ascending rank items) :
    sortBy rank items = items :=
  Ascending.ext _ _ (ascending_sortBy items) ascending
    (mem_sortBy items (ascending.nodup_ranks items))

theorem sortBy_filter (items : List α) (apart : (items.map rank).Nodup) (keep : α -> Bool) :
    sortBy rank (items.filter keep) = (sortBy rank items).filter keep := by
  have keptApart : ((items.filter keep).map rank).Nodup :=
    apart.sublist (List.filter_sublist.map rank)
  refine Ascending.ext _ _ (ascending_sortBy _) ((ascending_sortBy items).filter _ keep)
    fun item => ?_
  rw [mem_sortBy _ keptApart, List.mem_filter, List.mem_filter, mem_sortBy _ apart]

end Order

section Sorting

open Database

variable {α β κ : Type} [LT κ] [DecidableLT κ] [DecidableEq κ]

theorem place_map (f : α -> β) (rank : β -> κ) (item : α) (items : List α) :
    place rank (f item) (items.map f) = (place (fun other => rank (f other)) item items).map f := by
  induction items with
  | nil => rfl
  | cons other rest ih =>
    simp only [place, List.map_cons, ih]
    split
    next => rfl
    next => split <;> rfl

theorem sortBy_map (f : α -> β) (rank : β -> κ) (items : List α) :
    sortBy rank (items.map f) = (sortBy (fun item => rank (f item)) items).map f := by
  induction items with
  | nil => rfl
  | cons item rest ih =>
    show place rank (f item) (sortBy rank (rest.map f)) = _
    rw [ih, place_map]
    rfl

-- An item with the rank of another may push it out, but nothing new comes in.
theorem mem_of_mem_sortBy (rank : α -> κ) (items : List α) (item : α)
    (member : item ∈ sortBy rank items) : item ∈ items := by
  induction items with
  | nil => exact member
  | cons first rest ih =>
    rcases mem_of_mem_place rank first item _ member with same | later
    next => exact same ▸ List.mem_cons_self
    next => exact List.mem_cons_of_mem _ (ih later)

end Sorting

theorem ascending_foldl_place {α β κ : Type} [LT κ] [DecidableLT κ] [DecidableEq κ]
    [IsStrictTotalOrder κ fun first second => first < second] (rank : α -> κ) (f : β -> α)
    (items : List β) (start : List α) (ascending : Ascending rank start) :
    Ascending rank (items.foldl (fun sorted item => place rank (f item) sorted) start) := by
  induction items generalizing start with
  | nil => exact ascending
  | cons item rest ih => exact ih _ (ascending_place _ _ ascending)

theorem ascending_sortFields (fields : List (String × String)) :
    Ascending Prod.fst (sortFields fields) :=
  ascending_foldl_place Prod.fst (fun field => (field.1, field.2)) fields [] List.Pairwise.nil

theorem mem_of_mem_sortFields (fields : List (String × String)) (field : String × String)
    (member : field ∈ sortFields fields) : field ∈ fields := by
  have folded (items start : List (String × String)) (ascending : Ascending Prod.fst start)
      (among : field ∈ items.foldl (fun sorted field => putField field.1 field.2 sorted) start) :
      field ∈ start \/ field ∈ items := by
    induction items generalizing start with
    | nil => exact .inl among
    | cons first rest ih =>
      rcases ih _ (ascending_place first start ascending) among with early | later
      next =>
        rcases (mem_place first field start ascending).1 early with rfl | ⟨old, _⟩
        next => exact .inr (by simp)
        next => exact .inl old
      next => exact .inr (List.mem_cons_of_mem _ later)
  simpa using folded fields [] List.Pairwise.nil member

theorem ascending_sortNumbers (numbers : List Int) : Ascending id (sortNumbers numbers) :=
  ascending_foldl_place id (fun number => number) numbers [] List.Pairwise.nil

theorem mem_sortNumbers (numbers : List Int) (number : Int) :
    number ∈ sortNumbers numbers <-> number ∈ numbers := by
  have folded (start : List Int) (ascending : Ascending id start) :
      number ∈ numbers.foldl (fun sorted number => place id number sorted) start <->
        number ∈ start \/ number ∈ numbers := by
    induction numbers generalizing start with
    | nil => simp
    | cons first rest ih =>
      rw [List.foldl_cons, ih _ (ascending_place _ _ ascending), mem_place _ _ _ ascending]
      simp only [id_eq, List.mem_cons]
      grind
  have all := folded [] List.Pairwise.nil
  rw [List.mem_nil_iff, false_or] at all
  exact all

theorem sortFields_of_perm (fields sorted : List (String × String)) (perm : fields.Perm sorted)
    (ascending : Ascending Prod.fst sorted) : sortFields fields = sorted := by
  have reversed : sortFields fields = Database.sortBy Prod.fst fields.reverse :=
    List.foldl_eq_foldr_reverse
  have apart : (fields.reverse.map Prod.fst).Nodup := by
    rw [List.map_reverse, List.nodup_reverse]
    exact (perm.map Prod.fst).nodup_iff.2 (ascending.nodup_ranks sorted)
  rw [reversed]
  refine Ascending.ext _ _ (ascending_sortBy _) ascending fun field => ?_
  rw [mem_sortBy _ apart, List.mem_reverse, perm.mem_iff]

theorem sortNumbers_of_ascending (numbers : List Int)
    (ascending : Ascending (fun number => number) numbers) : sortNumbers numbers = numbers :=
  Ascending.ext _ _ (ascending_sortNumbers numbers) ascending (mem_sortNumbers numbers)

end BibEdit
