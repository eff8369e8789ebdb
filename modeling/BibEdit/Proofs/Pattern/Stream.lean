import BibEdit.Proofs.Pattern.Test

set_option autoImplicit false

/-! What a text with a match of a wildcard pattern has in it. -/

namespace BibEdit.Wildcard

open Regex Literal

def Part.stream : Part -> Stream
  | .letter c => [some c]
  | _ => [none]

section Fits

variable {text : Array Char} {allowed : Casing -> Bool} {casing : Casing}

theorem fits_part (part : Part) (cased : (part.node casing).cased allowed = true)
    (start stop : Nat) (spans : (part.node casing).Spans text start stop) :
    Fits text (Like allowed) part.stream start stop := by
  cases part with
  | letter c =>
    obtain ⟨rfl, code, here, same⟩ := spans
    exact ⟨⟨code, here, casing, cased, same⟩, rfl⟩
  | one => exact fits_gap text _ start stop
  | many => exact fits_gap text _ start stop

theorem fits_parts (ignoreCase : Bool) (parts : List Part)
    (cased : (nodes ignoreCase parts).all (Node.cased allowed) = true) (start stop : Nat)
    (spans : SpansAll text (nodes ignoreCase parts) start stop) :
    Fits text (Like allowed) (parts.flatMap Part.stream) start stop := by
  induction parts generalizing start with
  | nil => exact spans
  | cons part rest ih =>
    obtain ⟨casedPart, casedRest⟩ := Bool.and_eq_true_iff.1 cased
    obtain ⟨middle, here, later⟩ := spans
    rw [List.flatMap_cons, fits_append]
    exact ⟨middle, fits_part part casedPart start middle here, ih casedRest middle later⟩

end Fits

theorem ne_of_alnum {c d : Char} (letter : isAlnum c = true) (mark : isAlnum d = false) : c ≠ d := by
  rintro rfl
  rw [letter] at mark
  cases mark

theorem likeParts_alnum {c : Char} (rest : List Char) (letter : isAlnum c = true) :
    likeParts (c :: rest) = .letter c :: likeParts rest := by
  rw [likeParts]
  next => exact fun is _ => ne_of_alnum letter (by decide) is
  next => exact fun _ _ is _ => ne_of_alnum letter (by decide) is
  next => exact ne_of_alnum letter (by decide)
  next => exact ne_of_alnum letter (by decide)

variable {run : List Char} (alnum : ∀ c ∈ run, isAlnum c = true)

include alnum

theorem run_within_glob (pattern : List Char) (within : run <:+: pattern) :
    run.map some <:+: (globParts pattern).flatMap Part.stream := by
  have kept : (globParts run).flatMap Part.stream = run.map some := by
    clear within
    induction run with
    | nil => rfl
    | cons c rest ih =>
      have letter := alnum c (by simp)
      have star := ne_of_alnum letter (show isAlnum '*' = false by decide)
      have mark := ne_of_alnum letter (show isAlnum '?' = false by decide)
      have later := ih fun d member => alnum d (List.mem_cons_of_mem _ member)
      have part : globParts (c :: rest) = .letter c :: globParts rest := by
        simp [globParts, star, mark]
      rw [part, List.flatMap_cons, later]
      rfl
  obtain ⟨before, after, rfl⟩ := within
  refine ⟨(globParts before).flatMap Part.stream, (globParts after).flatMap Part.stream, ?_⟩
  rw [← kept]
  simp [globParts]

theorem run_starts_like (pattern : List Char) (starts : run <+: pattern) :
    run.map some <+: (likeParts pattern).flatMap Part.stream := by
  induction run generalizing pattern with
  | nil => exact List.nil_prefix
  | cons c run ih =>
    obtain ⟨rest, rfl⟩ := starts
    rw [List.cons_append, likeParts_alnum _ (alnum c (by simp))]
    exact (List.prefix_cons_inj _).2 (ih (fun d member => alnum d (List.mem_cons_of_mem _ member))
      _ (List.prefix_append _ _))

theorem run_within_like (pattern : List Char) (within : run <:+: pattern) :
    run.map some <:+: (likeParts pattern).flatMap Part.stream := by
  -- A run that starts with a mark of LIKE is empty.
  have skips {c : Char} {rest : List Char} (mark : isAlnum c = false)
      (within : run <:+: c :: rest) : run <:+: rest := by
    rcases List.infix_cons_iff.1 within with starts | later
    next =>
      cases run with
      | nil => exact List.nil_infix
      | cons d run =>
        exact absurd (List.cons_prefix_cons.1 starts).1 (ne_of_alnum (alnum d (by simp)) mark)
    next => exact later
  have here {c : Char} {rest : List Char} (starts : run <+: c :: rest) :
      run.map some <:+: some c :: (likeParts rest).flatMap Part.stream := by
    cases run with
    | nil => exact List.nil_infix
    | cons d run =>
      obtain ⟨rfl, _⟩ := List.cons_prefix_cons.1 starts
      have within := run_starts_like alnum _ starts
      rw [likeParts_alnum _ (alnum d (by simp))] at within
      exact within.isInfix
  fun_induction likeParts pattern with
  | case1 => simpa using within
  | case2 =>
    have nothing := skips (by decide) within
    rw [List.infix_nil.1 nothing]
    exact List.nil_infix
  | case3 c rest ih =>
    rcases List.infix_cons_iff.1 (skips (by decide) within) with starts | later
    next => exact here starts
    next => exact (ih later).trans (List.suffix_cons _ _).isInfix
  | case4 rest ih => exact (ih (skips (by decide) within)).trans (List.suffix_cons _ _).isInfix
  | case5 rest ih => exact (ih (skips (by decide) within)).trans (List.suffix_cons _ _).isInfix
  | case6 c rest _ _ _ _ ih =>
    rcases List.infix_cons_iff.1 within with starts | later
    next => exact here starts
    next => exact (ih later).trans (List.suffix_cons _ _).isInfix

end BibEdit.Wildcard
