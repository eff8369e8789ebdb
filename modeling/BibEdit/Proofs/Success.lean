import Mathlib.Data.List.Forall2

set_option autoImplicit false

/-! What it takes for work that may fail to succeed. -/

namespace BibEdit

variable {ε α β : Type}

theorem eq_ok_of_toOption {work : Except ε α} {value : α} (given : work.toOption = some value) :
    work = .ok value := by
  cases work with
  | error error => cases given
  | ok found =>
    cases given
    rfl

theorem exists_error_of_toOption {work : Except ε α} (given : work.toOption = none) :
    ∃ error, work = .error error := by
  cases work with
  | error error => exact ⟨error, rfl⟩
  | ok value => cases given

def error? : Except ε α -> Option ε
  | .error error => some error
  | .ok _ => none

theorem exists_error_of_message (message : ε -> String) (work : Except ε α) (text : String)
    (given : (error? work).map message = some text) :
    ∃ error, work = .error error /\ message error = text := by
  cases work with
  | error error => exact ⟨error, rfl, Option.some.inj given⟩
  | ok value => cases given

theorem ok_bind (value : α) (next : α -> Except ε β) : (.ok value >>= next) = next value := rfl

theorem error_bind (error : ε) (next : α -> Except ε β) : (.error error >>= next) = .error error :=
  rfl

theorem bind_eq_ok {first : Except ε α} {next : α -> Except ε β} {result : β} :
    (first >>= next) = .ok result <-> ∃ value, first = .ok value /\ next value = .ok result := by
  cases first with
  | error error => simp [bind, Except.bind]
  | ok value => simp [bind, Except.bind]

theorem bind_eq_error {first : Except ε α} {next : α -> Except ε β} {error : ε} :
    (first >>= next) = .error error <->
      first = .error error \/ ∃ value, first = .ok value /\ next value = .error error := by
  cases first with
  | error other => simp [error_bind]
  | ok value => simp [ok_bind]

theorem map_eq_ok {f : α -> β} {first : Except ε α} {result : β} :
    first.map f = .ok result <-> ∃ value, first = .ok value /\ f value = result := by
  cases first <;> simp [Except.map]

theorem mapError_eq_ok {ε' : Type} {f : ε -> ε'} {first : Except ε α} {result : α} :
    first.mapError f = .ok result <-> first = .ok result := by
  cases first <;> simp [Except.mapError]

theorem mapM_eq_ok {f : α -> Except ε β} {items : List α} {results : List β} :
    items.mapM f = .ok results <->
      List.Forall₂ (fun item result => f item = .ok result) items results := by
  induction items generalizing results with
  | nil => cases results <;> simp [pure, Except.pure]
  | cons item items ih =>
    rw [List.mapM_cons, bind_eq_ok]
    constructor
    next =>
      rintro ⟨value, first, rest⟩
      obtain ⟨values, later, same⟩ := bind_eq_ok.1 rest
      cases same
      exact .cons first (ih.1 later)
    next =>
      intro related
      cases related with
      | cons first later => exact ⟨_, first, bind_eq_ok.2 ⟨_, ih.2 later, rfl⟩⟩

theorem mapM_succeeds {f : α -> Except ε β} {items : List α} :
    (∃ results, items.mapM f = .ok results) <-> ∀ item ∈ items, ∃ result, f item = .ok result := by
  induction items with
  | nil => simp [pure, Except.pure]
  | cons item items ih =>
    rw [List.forall_mem_cons, ← ih]
    simp only [List.mapM_cons, bind_eq_ok]
    constructor
    next =>
      rintro ⟨_, result, first, results, later, _⟩
      exact ⟨⟨result, first⟩, results, later⟩
    next =>
      rintro ⟨⟨result, first⟩, results, later⟩
      exact ⟨result :: results, result, first, results, later, rfl⟩

theorem foldlM_keeps {σ : Type} (holds : σ -> Prop) (step : σ -> α -> Except ε σ) (items : List α)
    (each : ∀ state item next, item ∈ items -> holds state -> step state item = .ok next ->
      holds next)
    (start after : σ) (initially : holds start) (done : items.foldlM step start = .ok after) :
    holds after := by
  induction items generalizing start with
  | nil =>
    cases done
    exact initially
  | cons item rest ih =>
    rw [List.foldlM_cons] at done
    obtain ⟨next, first, later⟩ := bind_eq_ok.1 done
    refine ih (fun state other after member => each state other after (by simp [member])) next ?_ later
    exact each start item next (by simp) initially first

theorem foldlM_fixed {σ : Type} (step : σ -> α -> Except ε σ) (items : List α) (state : σ)
    (each : ∀ item ∈ items, step state item = .ok state) : items.foldlM step state = .ok state := by
  induction items with
  | nil => rfl
  | cons item rest ih =>
    rw [List.foldlM_cons, each item (by simp)]
    exact ih fun other member => each other (List.mem_cons_of_mem _ member)

theorem foldlM_mapError {σ ε' : Type} (f : ε -> ε') (step : σ -> α -> Except ε σ) (items : List α)
    (start : σ) :
    items.foldlM (fun state item => (step state item).mapError f) start =
      (items.foldlM step start).mapError f := by
  induction items generalizing start with
  | nil => rfl
  | cons item rest ih =>
    rw [List.foldlM_cons, List.foldlM_cons]
    cases step start item with
    | error error => rfl
    | ok next => exact ih next

theorem forall₂_mem_right {α β : Type} {R : α -> β -> Prop} (xs : List α) (ys : List β)
    (related : List.Forall₂ R xs ys) (y : β) (member : y ∈ ys) : ∃ x ∈ xs, R x y := by
  induction related with
  | nil => cases member
  | @cons x z xs ys here _ ih =>
    rcases List.mem_cons.1 member with rfl | later
    next => exact ⟨x, by simp, here⟩
    next =>
      obtain ⟨found, within, holds⟩ := ih later
      exact ⟨found, List.mem_cons_of_mem _ within, holds⟩

end BibEdit
