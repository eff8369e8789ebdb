import BibEdit.Text.Basic

set_option autoImplicit false

/-! A text as the pieces around spans of it, with other texts put in the places of the spans; and
the spans where a needle occurs, which are those it is split at. -/

namespace BibEdit.Text

/-- Spans within a text of some size, none of which begins before the one before it ends. -/
def Apart (size : Nat) : Nat -> List (Nat × Nat) -> Prop
  | _, [] => True
  | pos, (start, stop) :: rest =>
    pos <= start /\ start <= stop /\ stop <= size /\ Apart size stop rest

/-- What lies around spans, from a position on: before the first, between each and the next, and
after the last. -/
def gaps (text : List Char) : Nat -> List (Nat × Nat) -> List (List Char)
  | pos, [] => [text.drop pos]
  | pos, (start, stop) :: rest => slice text pos start :: gaps text stop rest

/-- Pieces with a text put between each and the next. -/
def weave : List (List Char) -> List (List Char) -> List Char
  | piece :: pieces, text :: texts => piece ++ text ++ weave pieces texts
  | pieces, _ => pieces.flatten

@[simp] theorem weave_nil (pieces : List (List Char)) : weave pieces [] = pieces.flatten := by
  cases pieces <;> rfl

@[simp] theorem weave_cons (piece text : List Char) (pieces texts : List (List Char)) :
    weave (piece :: pieces) (text :: texts) = piece ++ text ++ weave pieces texts := rfl

@[simp] theorem gaps_length (text : List Char) (pos : Nat) (spans : List (Nat × Nat)) :
    (gaps text pos spans).length = spans.length + 1 := by
  induction spans generalizing pos with
  | nil => rfl
  | cons span rest ih => simp [gaps, ih]

theorem slice_append_drop (text : List Char) (start stop : Nat) (ordered : start <= stop) :
    slice text start stop ++ text.drop stop = text.drop start := by
  have rest : text.drop stop = (text.drop start).drop (stop - start) := by
    rw [List.drop_drop, Nat.add_sub_cancel' ordered]
  rw [rest, slice, List.take_append_drop]

theorem weave_slices (text : List Char) (pos : Nat) (spans : List (Nat × Nat))
    (apart : Apart text.length pos spans) :
    weave (gaps text pos spans) (spans.map fun span => slice text span.1 span.2) =
      text.drop pos := by
  induction spans generalizing pos with
  | nil => simp [gaps]
  | cons span rest ih =>
    obtain ⟨reached, ends, _, later⟩ := apart
    rw [List.map_cons, gaps, weave_cons, ih _ later, List.append_assoc,
      slice_append_drop _ _ _ ends, slice_append_drop _ _ _ reached]

theorem weave_length (pieces texts : List (List Char)) (between : pieces.length = texts.length + 1) :
    (weave pieces texts).length = pieces.flatten.length + texts.flatten.length := by
  induction texts generalizing pieces with
  | nil => simp
  | cons text texts ih =>
    cases pieces with
    | nil => cases between
    | cons piece pieces =>
      have later := ih pieces (by simpa using between)
      simp only [weave_cons, List.length_append, later, List.flatten_cons]
      omega

theorem join_eq_weave (separator piece : List Char) (pieces : List (List Char)) :
    join separator (piece :: pieces) =
      weave (piece :: pieces) (List.replicate pieces.length separator) := by
  induction pieces generalizing piece with
  | nil => simp [join, List.intercalate]
  | cons next rest ih =>
    rw [List.length_cons, List.replicate_succ, weave_cons, ← ih next]
    simp [join, List.intercalate]

theorem join_gaps (separator text : List Char) (pos : Nat) (spans : List (Nat × Nat)) :
    join separator (gaps text pos spans) =
      weave (gaps text pos spans) (List.replicate spans.length separator) := by
  have between := gaps_length text pos spans
  cases is : gaps text pos spans with
  | nil => simp [is] at between
  | cons piece pieces =>
    rw [is, List.length_cons, Nat.add_right_cancel_iff] at between
    rw [join_eq_weave, between]

/-- Where a needle occurs from a position on: each place is the first after the occurrence before
has ended, and there is none after the last. -/
def Occurs (needle text : List Char) : Nat -> List Nat -> Prop
  | pos, [] => ∀ start, pos <= start -> ¬ needle <+: text.drop start
  | pos, place :: rest =>
    pos <= place /\ needle <+: text.drop place /\
      (∀ start, pos <= start -> start < place -> ¬ needle <+: text.drop start) /\
      Occurs needle text (place + needle.length) rest

def occurrence (needle : List Char) (place : Nat) : Nat × Nat := (place, place + needle.length)

section Occurrences

variable {needle : List Char}

theorem slice_eq_needle {text : List Char} {place : Nat} (here : needle <+: text.drop place) :
    slice text place (place + needle.length) = needle := by
  rw [slice, Nat.add_sub_cancel_left]
  exact (List.prefix_iff_eq_take.1 here).symm

theorem slices_of_occurs (text : List Char) (pos : Nat) (places : List Nat)
    (occurs : Occurs needle text pos places) :
    (places.map (occurrence needle)).map (fun span => slice text span.1 span.2) =
      List.replicate places.length needle := by
  induction places generalizing pos with
  | nil => rfl
  | cons place rest ih =>
    obtain ⟨_, here, _, later⟩ := occurs
    rw [List.map_cons, List.map_cons, ih _ later]
    exact congrArg (· :: _) (slice_eq_needle here)

variable (filled : needle ≠ [])

include filled

theorem apart_of_occurs (text : List Char) (pos : Nat) (places : List Nat)
    (occurs : Occurs needle text pos places) :
    Apart text.length pos (places.map (occurrence needle)) := by
  induction places generalizing pos with
  | nil => trivial
  | cons place rest ih =>
    obtain ⟨reached, here, _, later⟩ := occurs
    have fits := here.length_le
    have someLength := List.length_pos_iff.2 filled
    rw [List.length_drop] at fits
    have ends : place + needle.length <= text.length := by omega
    exact ⟨reached, Nat.le_add_right _ _, ends, ih _ later⟩

omit filled in
theorem splitFrom_skip (skip : Nat) (piece text : List Char) :
    splitFrom needle skip piece text = splitFrom needle 0 piece (text.drop skip) := by
  induction skip generalizing text with
  | zero => rfl
  | succ skip ih =>
    cases text with
    | nil => rfl
    | cons c rest => exact ih rest

-- The piece under way is kept in reverse, so each lemma puts it before what is read next.
omit filled in
theorem splitFrom_of_none (piece text : List Char)
    (absent : ∀ start, ¬ needle <+: text.drop start) :
    splitFrom needle 0 piece text = [piece.reverse ++ text] := by
  induction text generalizing piece with
  | nil => simp [splitFrom]
  | cons c rest ih =>
    have other : needle.isPrefixOf (c :: rest) = false :=
      Bool.eq_false_iff.2 (mt List.isPrefixOf_iff_prefix.1 (absent 0))
    rw [splitFrom, other, if_neg Bool.false_ne_true, ih _ fun start => absent (start + 1)]
    simp

theorem splitFrom_of_first (place : Nat) (piece text : List Char) (here : needle <+: text.drop place)
    (first : ∀ start, start < place -> ¬ needle <+: text.drop start) :
    splitFrom needle 0 piece text = (piece.reverse ++ text.take place) ::
      splitFrom needle 0 [] (text.drop (place + needle.length)) := by
  induction place generalizing piece text with
  | zero =>
    cases text with
    | nil => exact absurd (by simpa using here) filled
    | cons c rest =>
      have width : needle.length = needle.length - 1 + 1 := by
        have someLength := List.length_pos_iff.2 filled
        omega
      rw [splitFrom, if_pos (by simpa using here), splitFrom_skip, Nat.zero_add, width]
      simp
  | succ place ih =>
    cases text with
    | nil => exact absurd (by simpa using here) filled
    | cons c rest =>
      have other : needle.isPrefixOf (c :: rest) = false :=
        Bool.eq_false_iff.2 (mt List.isPrefixOf_iff_prefix.1 (first 0 (by omega)))
      have later := ih (c :: piece) rest here fun start before => first (start + 1) (by omega)
      rw [splitFrom, other, if_neg Bool.false_ne_true, later, Nat.add_right_comm]
      simp

theorem splitFrom_of_occurs (text : List Char) (pos : Nat) (places : List Nat)
    (occurs : Occurs needle text pos places) :
    splitFrom needle 0 [] (text.drop pos) = gaps text pos (places.map (occurrence needle)) := by
  induction places generalizing pos with
  | nil =>
    refine (splitFrom_of_none [] _ fun start => ?_).trans rfl
    rw [List.drop_drop]
    exact occurs _ (Nat.le_add_right _ _)
  | cons place rest ih =>
    obtain ⟨reached, here, first, later⟩ := occurs
    obtain ⟨distance, rfl⟩ := Nat.exists_eq_add_of_le reached
    have split := splitFrom_of_first filled distance [] (text.drop pos) (by rwa [List.drop_drop])
      fun start before => by
        rw [List.drop_drop]
        exact first _ (Nat.le_add_right _ _) (by omega)
    rw [split, List.drop_drop, ← Nat.add_assoc, ih _ later, List.map_cons, occurrence, gaps, slice,
      Nat.add_sub_cancel_left]
    rfl

theorem split_of_occurs (text : List Char) (places : List Nat)
    (occurs : Occurs needle text 0 places) :
    split needle text = gaps text 0 (places.map (occurrence needle)) :=
  splitFrom_of_occurs filled text 0 places occurs

theorem count_of_occurs (text : List Char) (places : List Nat)
    (occurs : Occurs needle text 0 places) : count needle text = places.length := by
  rw [count, split_of_occurs filled text places occurs, gaps_length, List.length_map,
    Nat.add_sub_cancel]

end Occurrences

end BibEdit.Text
