import BibEdit.Proofs.Probe.Literal
import BibEdit.Proofs.Probe.Plan

set_option autoImplicit false

namespace BibEdit.Literal

theorem escapeWidth_pos (after : List Char) : 0 < escapeWidth after := by
  unfold escapeWidth
  cases after with
  | nil => decide
  | cons c rest => dsimp only; split_ifs <;> omega

theorem setWidth_pos (after : List Char) : 0 < setWidth after := by
  unfold setWidth
  split <;> omega

theorem quantifier?_pos {c : Char} {after : List Char} {quantifier : Quantifier}
    (read : quantifier? c after = .ok (some quantifier)) : 0 < quantifier.width := by
  unfold quantifier? at read
  split at read
  next =>
    cases read
    decide
  next =>
    split at read
    next =>
      cases read
      decide
    next =>
      rcases braces?_cases after with opensNone | ⟨text, low, high, comma, _, _, braces⟩
      next =>
        rw [opensNone] at read
        cases read
      next =>
        rw [braces] at read
        split at read
        next =>
          cases read
          exact Nat.succ_pos _
        next =>
          obtain ⟨least, _, same⟩ := map_eq_ok.1 read
          cases same
          exact Nat.succ_pos _

theorem nameHeader_pos {after : List Char} {width : Nat} {discarded : Bool}
    (opens : nameHeader after = .group width discarded) : 0 < width := by
  unfold nameHeader at opens
  split at opens
  next =>
    cases opens
    omega
  next => cases opens

theorem header_pos {after : List Char} {width : Nat} {discarded : Bool}
    (opens : header after = .group width discarded) : 0 < width := by
  unfold header at opens
  split at opens
  case h_2 | h_5 => exact nameHeader_pos opens
  case h_12 =>
    dsimp only at opens
    split_ifs at opens
    cases opens
    omega
  all_goals cases opens
  all_goals decide

/-- What a turn of the walk comes to: it gives up some of what it kept and leaves a gap behind the
rest, or it keeps a letter. It always gets on. -/
inductive Moves (walk : Walk) (c : Char) (next : Walk) (width : Nat) : Prop where
  | gap (part : Stream) (starts : part <+: walk.stream) (is : next.stream = part ++ [none])
    (passes : 0 < width)
  | letter (is : next.stream = walk.stream ++ [some c]) (passes : width = 1)

theorem Moves.pos {walk next : Walk} {c : Char} {width : Nat} (moves : Moves walk c next width) :
    0 < width := by
  cases moves with
  | gap _ _ _ passes => exact passes
  | letter _ passes => omega

theorem quantify_gap (walk : Walk) (optional : Bool) :
    ∃ part, part <+: walk.stream /\ (walk.quantify optional).stream = part ++ [none] := by
  unfold Walk.quantify
  cases optional with
  | false => exact ⟨_, List.prefix_refl _, rfl⟩
  | true =>
    cases walk.lastAtom with
    | none => exact ⟨_, List.prefix_refl _, rfl⟩
    | some position => exact ⟨_, List.take_prefix position _, rfl⟩

theorem moves_of_step {walk next : Walk} {c : Char} {after : List Char} {width : Nat}
    (stepped : step walk c after = .ok (some (next, width))) : Moves walk c next width := by
  have gap {lastAtom : Option Nat} {passed : Nat} (passes : 0 < passed) :
      Moves walk c (walk.breakHere lastAtom) passed :=
    .gap _ (List.prefix_refl _) rfl passes
  unfold step at stepped
  split at stepped
  next =>
    cases stepped
    exact gap (escapeWidth_pos after)
  split at stepped
  next =>
    cases stepped
    exact gap (setWidth_pos after)
  split at stepped
  next =>
    obtain ⟨quantifier?, read, moved⟩ := bind_eq_ok.1 stepped
    cases quantifier? with
    | none =>
      cases moved
      exact gap Nat.one_pos
    | some quantifier =>
      cases moved
      -- The mark behind a quantifier may add to its width.
      obtain ⟨part, starts, is⟩ := quantify_gap walk quantifier.optional
      exact .gap part starts is (Nat.add_pos_left (quantifier?_pos read) _)
  split at stepped
  next =>
    split at stepped
    next => cases stepped
    next =>
      cases stepped
      exact gap (Nat.add_pos_left Nat.one_pos _)
    next opens =>
      cases stepped
      exact .gap _ (List.prefix_refl _) rfl (header_pos opens)
  split at stepped
  next =>
    split at stepped
    next => cases stepped
    next start discarded groups _ =>
      cases stepped
      -- A look-around is given up with all that was kept since it was opened.
      cases discarded with
      | false => exact .gap _ (List.prefix_refl _) rfl Nat.one_pos
      | true => exact .gap _ (List.take_prefix start _) rfl Nat.one_pos
  split at stepped
  next =>
    cases stepped
    exact gap Nat.one_pos
  next =>
    cases stepped
    exact .letter rfl rfl

/-- How the walk over a pattern ends that goes on from a position: a turn passes over so many
characters, and where it stands behind the last one it is done. -/
inductive Ends (pattern : List Char) :
    Walk -> Nat -> Except Text.LongNumeral (Option Stream) -> Prop where
  | done {walk : Walk} {position : Nat} (past : pattern.length <= position) :
    Ends pattern walk position (.ok (some walk.stream))
  | turn {walk next : Walk} {position width : Nat} {c : Char} {after : List Char}
    {outcome : Except Text.LongNumeral (Option Stream)}
    (here : pattern.drop position = c :: after)
    (stepped : step walk c after = .ok (some (next, width)))
    (later : Ends pattern next (position + width) outcome) : Ends pattern walk position outcome
  | refused {walk : Walk} {position : Nat} {c : Char} {after : List Char}
    (here : pattern.drop position = c :: after) (stepped : step walk c after = .ok none) :
    Ends pattern walk position (.ok none)
  | failed {walk : Walk} {position : Nat} {c : Char} {after : List Char}
    {numeral : Text.LongNumeral} (here : pattern.drop position = c :: after)
    (stepped : step walk c after = .error numeral) : Ends pattern walk position (.error numeral)

section Walks

variable {pattern after : List Char} {walk next : Walk} {position width : Nat} {c : Char}
  {outcome : Except Text.LongNumeral (Option Stream)}

theorem walkFrom_turn (here : pattern.drop position = c :: after)
    (stepped : step walk c after = .ok (some (next, width))) :
    walkFrom walk 0 (pattern.drop position) = walkFrom next 0 (pattern.drop (position + width)) := by
  obtain ⟨less, rfl⟩ := Nat.exists_eq_add_of_lt (moves_of_step stepped).pos
  have moved : walkFrom walk 0 (c :: after) = walkFrom next (0 + less + 1 - 1) after := by
    simp only [walkFrom, stepped]
    rfl
  rw [here, moved, walkFrom_drop, ← List.drop_drop, here]
  simp

-- Each turn gets on, so that less and less of the pattern is left.
theorem ends_walkFrom (pattern : List Char) (walk : Walk) (position : Nat) :
    Ends pattern walk position (walkFrom walk 0 (pattern.drop position)) := by
  cases here : pattern.drop position with
  | nil => exact .done (List.drop_eq_nil_iff.1 here)
  | cons c after =>
    have room : position < pattern.length := by
      by_contra past
      rw [List.drop_of_length_le (Nat.le_of_not_lt past)] at here
      cases here
    cases stepped : step walk c after with
    | error numeral =>
      simp only [walkFrom, stepped]
      exact .failed here stepped
    | ok moved =>
      cases moved with
      | none =>
        simp only [walkFrom, stepped]
        exact .refused here stepped
      | some moved =>
        have pos := (moves_of_step stepped).pos
        rw [← here, walkFrom_turn here stepped]
        exact .turn here stepped (ends_walkFrom pattern moved.1 (position + moved.2))
termination_by pattern.length - position
decreasing_by omega

theorem ends_iff :
    Ends pattern walk position outcome <-> walkFrom walk 0 (pattern.drop position) = outcome := by
  constructor
  next =>
    intro ends
    induction ends with
    | done past => rw [List.drop_of_length_le past, walkFrom]
    | turn here stepped _ ih => rw [walkFrom_turn here stepped, ih]
    | refused here stepped =>
      rw [here]
      simp only [walkFrom, stepped]
      rfl
    | failed here stepped =>
      rw [here]
      simp only [walkFrom, stepped]
      rfl
  next =>
    rintro rfl
    exact ends_walkFrom pattern walk position

end Walks

/-- Letters side by side in what was kept are so in what was passed over, and those at its end are at
the end of that. -/
structure Kept (stream : Stream) (passed : List Char) : Prop where
  within : ∀ run : List Char, run.map some <:+: stream -> run <:+: passed
  atEnd : ∀ run : List Char, run.map some <:+ stream -> run <:+ passed

theorem kept_nil (passed : List Char) : Kept [] passed where
  within run found := by
    rw [List.map_eq_nil_iff.1 (List.infix_nil.1 found)]
    exact List.nil_infix
  atEnd run found := by
    rw [List.map_eq_nil_iff.1 (List.suffix_nil.1 found)]
    exact List.nil_suffix

-- No run of letters reaches over a gap, so that more may be passed over behind one.
theorem Kept.gap {stream part : Stream} {passed further : List Char} (kept : Kept stream passed)
    (starts : part <+: stream) (grows : passed <+: further) : Kept (part ++ [none]) further := by
  have noneEnds (run : List Char) (found : run.map some <:+ part ++ [none]) : run = [] := by
    rcases List.suffix_concat_iff.1 found with empty | ⟨before, is, _⟩
    next => exact List.map_eq_nil_iff.1 empty
    next =>
      have gap : none ∈ run.map some := by simp [is]
      simp at gap
  refine ⟨fun run found => ?_, fun run found => ?_⟩
  next =>
    rcases List.infix_concat_iff.1 found with atEnd | inside
    next =>
      rw [noneEnds run atEnd]
      exact List.nil_infix
    next => exact (kept.within run (inside.trans starts.isInfix)).trans grows.isInfix
  next =>
    rw [noneEnds run found]
    exact List.nil_suffix

theorem Kept.letter {stream : Stream} {passed : List Char} (kept : Kept stream passed) (c : Char) :
    Kept (stream ++ [some c]) (passed ++ [c]) := by
  have atEnd (run : List Char) (found : run.map some <:+ stream ++ [some c]) :
      run <:+ passed ++ [c] := by
    rcases List.suffix_concat_iff.1 found with empty | ⟨before, is, ends⟩
    next =>
      rw [List.map_eq_nil_iff.1 empty]
      exact List.nil_suffix
    next =>
      obtain ⟨front, last, rfl, rfl, lastIs⟩ := List.map_eq_append_iff.1 is
      obtain ⟨d, rfl, same⟩ := List.map_eq_singleton_iff.1 lastIs
      cases same
      -- The letters before the last one were at the end already.
      obtain ⟨earlier, rfl⟩ := kept.atEnd front ends
      exact ⟨earlier, (List.append_assoc _ _ _).symm⟩
  refine ⟨fun run found => ?_, atEnd⟩
  rcases List.infix_concat_iff.1 found with ends | inside
  next => exact (atEnd run ends).isInfix
  next => exact (kept.within run inside).trans (List.prefix_append _ _).isInfix

theorem Kept.move {pattern after : List Char} {walk next : Walk} {position width : Nat} {c : Char}
    (kept : Kept walk.stream (pattern.take position)) (here : pattern.drop position = c :: after)
    (moves : Moves walk c next width) : Kept next.stream (pattern.take (position + width)) := by
  cases moves with
  | gap part starts is _ =>
    rw [is]
    exact kept.gap starts (List.take_prefix_take_left (Nat.le_add_right _ _))
  | letter is passes =>
    rw [is, passes, List.take_add, here]
    exact kept.letter c

theorem Ends.kept {pattern : List Char} {walk : Walk} {position : Nat}
    {outcome : Except Text.LongNumeral (Option Stream)} (ends : Ends pattern walk position outcome)
    (kept : Kept walk.stream (pattern.take position)) {stream : Stream}
    (is : outcome = .ok (some stream)) : ∃ stop, Kept stream (pattern.take stop) := by
  induction ends with
  | done =>
    cases is
    exact ⟨_, kept⟩
  | turn here stepped _ ih => exact ih (kept.move here (moves_of_step stepped)) is
  | refused => cases is
  | failed => cases is

theorem extract_within {pattern literal : List Char}
    (extracted : extract pattern = .ok (some literal)) : literal <:+: pattern := by
  obtain ⟨stream, walked, longest⟩ := extract_eq_some extracted
  obtain ⟨stop, kept⟩ := (ends_iff.2 walked : Ends pattern .start 0 _).kept (kept_nil _) rfl
  have within := (longestRun?_within stream literal longest).1
  exact (kept.within literal within).trans (List.take_prefix _ _).isInfix

/-- The walk over a pattern comes to an end, in one way, and gives a literal or none, whatever the
pattern is, unless it has a count that is too long to be read. A literal is two letters or digits or
more that stand side by side in the pattern. -/
theorem extract_total (pattern : List Char) (readable : ¬ LongCount pattern) :
    (∃ stream?, (∀ outcome, Ends pattern .start 0 outcome <-> outcome = .ok stream?) /\
      extract pattern = .ok (stream?.bind longestRun?)) /\
    ∀ literal, extract pattern = .ok (some literal) ->
      2 <= literal.length /\ (∀ c ∈ literal, c.isAlphanum = true) /\ literal <:+: pattern := by
  refine ⟨?_, fun literal extracted => ?_⟩
  next =>
    cases walked : walkFrom .start 0 pattern with
    | error numeral => exact absurd (longCount_of_walkFrom walked) readable
    | ok stream? =>
      refine ⟨stream?, fun outcome => ?_, ?_⟩
      next => rw [ends_iff, List.drop_zero, walked, eq_comm]
      next =>
        unfold extract
        rw [walked]
        cases stream? <;> rfl
  next =>
    obtain ⟨stream, _, longest⟩ := extract_eq_some extracted
    obtain ⟨_, alnum, long⟩ := longestRun?_within stream literal longest
    exact ⟨long, fun c member => (isAlnum_eq c).symm.trans (alnum c member), extract_within extracted⟩

theorem not_longCount_of_short {pattern : List Char} (short : pattern.length <= Text.numeralLimit) :
    ¬ LongCount pattern := by
  rintro ⟨text, low, high, comma, count, found, exceeds⟩
  have within := found.length_le
  rw [count.is] at within
  simp only [List.length_cons, List.length_append] at within
  omega

def unclosed : List Char := "ab(cd)?efg\x7b2,\x7d(hi[jkl".toList

theorem extract_total_unclosed :
    ¬ LongCount unclosed /\ extract unclosed = .ok (some "efg".toList) /\
      (∃ stream?, (∀ outcome, Ends unclosed .start 0 outcome <-> outcome = .ok stream?) /\
        extract unclosed = .ok (stream?.bind longestRun?)) /\
      2 <= "efg".length /\ (∀ c ∈ "efg".toList, c.isAlphanum = true) /\
      "efg".toList <:+: unclosed := by
  have readable : ¬ LongCount unclosed := not_longCount_of_short (by decide)
  have extracted : extract unclosed = .ok (some "efg".toList) := eq_ok_of_toOption (by decide)
  obtain ⟨ends, literals⟩ := extract_total unclosed readable
  exact ⟨readable, extracted, ends, literals _ extracted⟩

end BibEdit.Literal
