import BibEdit.Proofs.Pattern.Language
import BibEdit.Proofs.Revision.Splice

set_option autoImplicit false

namespace BibEdit

namespace Regex

section Needle

variable {regex : Regex} {needle text : List Char}
  (root : regex.root.Matches fun part => part = needle) (filled : needle ≠ [])

include root filled

theorem matchAt_needle {pos : Nat} {refuseEmpty : Bool} (found : Match)
    (matched : matchAt regex text.toArray pos refuseEmpty = some found) :
    needle <+: text.drop pos /\ found.stop = pos + needle.length := by
  obtain ⟨_, rfl, stands, stop⟩ := matchAt_sound root matched
  exact ⟨stands, stop⟩

theorem not_prefix_of_matchAt {pos : Nat} {refuseEmpty : Bool}
    (missed : matchAt regex text.toArray pos refuseEmpty = none) : ¬ needle <+: text.drop pos := by
  intro stands
  have matched := matchAt_complete root refuseEmpty rfl stands fun _ => filled
  rw [missed] at matched
  cases matched

theorem occurs_of_leftmost (pos : Nat) (refuseEmpty : Bool) (finds : List Match)
    (leftmost : Leftmost regex text.toArray pos refuseEmpty finds) :
    Text.Occurs needle text pos (finds.map Match.start) /\
      finds.map Match.span = (finds.map Match.start).map (Text.occurrence needle) := by
  induction finds generalizing pos refuseEmpty with
  | nil =>
    refine ⟨fun start reached stands => ?_, rfl⟩
    rcases Nat.lt_or_ge text.length start with outside | inside
    next =>
      rw [List.drop_eq_nil_of_le outside.le] at stands
      exact filled (List.prefix_nil.1 stands)
    next => exact not_prefix_of_matchAt root filled (leftmost start reached (by simpa)) stands
  | cons found rest ih =>
    obtain ⟨first, later⟩ := leftmost
    obtain ⟨stands, stop⟩ := matchAt_needle root filled found first.matched
    obtain ⟨occurs, spans⟩ := ih _ _ later
    refine ⟨⟨first.reached, stands, fun start reached before => ?_, stop ▸ occurs⟩, ?_⟩
    next => exact not_prefix_of_matchAt root filled (first.earliest start reached before)
    next => rw [List.map_cons, List.map_cons, List.map_cons, spans, Match.span, stop, Text.occurrence]

end Needle

end Regex

namespace Revision

open Regex

def replacedAt (needle replacement value : List Char) (places : List Nat) : List Char :=
  Text.weave (Text.gaps value 0 (places.map (Text.occurrence needle)))
    (List.replicate places.length replacement)

theorem replacedAt_length (needle replacement value : List Char) (places : List Nat)
    (filled : needle ≠ []) (occurs : Text.Occurs needle value 0 places) :
    (replacedAt needle replacement value places).length + places.length * needle.length =
      value.length + places.length * replacement.length := by
  have whole := Text.weave_slices value 0 _ (Text.apart_of_occurs filled value 0 places occurs)
  rw [Text.slices_of_occurs value 0 places occurs, List.drop_zero] at whole
  have woven (text : List Char) :=
    Text.weave_length (Text.gaps value 0 (places.map (Text.occurrence needle)))
      (List.replicate places.length text) (by simp)
  have before := woven needle
  have after := woven replacement
  rw [whole] at before
  simp only [List.length_flatten, List.map_replicate, List.sum_replicate_nat] at before after
  rw [replacedAt]
  omega

theorem replaceText_template (search text value : String) (places : List Nat)
    (filled : search.toList ≠ []) (occurs : Text.Occurs search.toList value.toList 0 places) :
    replaceText search (.template text) value =
      .ok ⟨String.ofList (replacedAt search.toList text.toList value.toList places),
        places.length⟩ := by
  have split := Text.split_of_occurs filled value.toList places occurs
  have count := Text.count_of_occurs filled value.toList places occurs
  unfold replaceText
  dsimp only
  rw [split, count, Text.join_gaps, List.length_map, replacedAt]
  rfl

theorem replaceText_computed (search text value : String) (places : List Nat) {regex : Regex}
    (filled : search.toList ≠ []) (occurs : Text.Occurs search.toList value.toList 0 places)
    (compiled : Pattern.compile search .contains true = .ok regex)
    (spans : (regex.findAll value.toList).map Match.span =
      places.map (Text.occurrence search.toList)) :
    replaceText search (.computed fun _ _ => .ok text.toList) value =
      .ok ⟨String.ofList (replacedAt search.toList text.toList value.toList places),
        places.length⟩ := by
  have count := Text.count_of_occurs filled value.toList places occurs
  have sameNumber : (regex.findAll value.toList).length = places.length := by
    simpa using congrArg List.length spans
  have texts : (regex.findAll value.toList).mapM (fun _ => (.ok text.toList : Except Fault _)) =
      .ok (List.replicate places.length text.toList) := by
    rw [← sameNumber, ← List.map_const']
    exact List.mapM_pure
  unfold replaceText
  dsimp only
  rw [mapError_eq_ok.2 compiled, ok_bind, count, substitute_eq, texts, spans]
  rfl

theorem exists_occurs (search value : String) (filled : search.toList ≠ []) :
    ∃ regex places, Pattern.compile search .contains true = .ok regex /\
      Text.Occurs search.toList value.toList 0 places /\
      (regex.findAll value.toList).map Match.span =
        places.map (Text.occurrence search.toList) := by
  obtain ⟨regex, compiled, root⟩ := Pattern.compile_contains_exact search
  obtain ⟨occurs, spans⟩ := occurs_of_leftmost root filled 0 false _
    (findAll_leftmost regex value.toList)
  exact ⟨regex, _, compiled, occurs, spans⟩

/-- A text replaced by a text, and by one that is computed and always the same, gives the same
result. It is counted where it first occurs after the occurrence before, with regard to case; the
result is longer or shorter by what the replacement is, so many times; and a value in which it does
not occur stays as it is. -/
theorem apply_literal (search : String) (someText : search ≠ "") (kind : PatternKind)
    (noRegex : kind ≠ .regex) (caseSensitive : Bool) (text value : String) :
    ∃ places result,
      Text.Occurs search.toList value.toList 0 places /\
      result = String.ofList (replacedAt search.toList text.toList value.toList places) /\
      apply ⟨search, .template text, kind, caseSensitive⟩ value = .ok ⟨result, places.length⟩ /\
      apply ⟨search, .computed fun _ _ => .ok text.toList, kind, caseSensitive⟩ value =
        .ok ⟨result, places.length⟩ /\
      (result.length : Int) =
        value.length + places.length * ((text.length : Int) - search.length) /\
      (¬ search.toList <:+: value.toList -> result = value) := by
  -- Counting, splitting and searching go over the value each for itself, so all of them are compared
  -- with one list of places.
  have filled : search.toList ≠ [] := by simpa using someText
  obtain ⟨regex, places, compiled, occurs, spans⟩ := exists_occurs search value filled
  have applied (replacement : Replacement) :
      apply ⟨search, replacement, kind, caseSensitive⟩ value =
        replaceText search replacement value := by
    unfold apply
    rw [if_neg (by simpa using noRegex), if_neg (by simpa using someText)]
  refine ⟨places, _, occurs, rfl, ?_, ?_, ?_, ?_⟩
  next => exact (applied _).trans (replaceText_template search text value places filled occurs)
  next =>
    exact (applied _).trans
      (replaceText_computed search text value places filled occurs compiled spans)
  next =>
    have width := replacedAt_length search.toList text.toList value.toList places filled occurs
    simp only [String.length_toList] at width
    rw [String.length_ofList, Int.mul_sub]
    omega
  next =>
    intro absent
    cases places with
    | nil => simp [replacedAt, Text.gaps]
    | cons place rest =>
      obtain ⟨_, here, _⟩ := occurs
      exact absurd (here.isInfix.trans (List.drop_suffix _ _).isInfix) absent

theorem apply_literal_overlapping :
    "aba" ≠ "" /\ PatternKind.contains ≠ .regex /\
      apply ⟨"aba", .template "x", .contains, false⟩ "ababaaba" = .ok ⟨"xbax", 2⟩ /\
      apply ⟨"aba", .computed fun _ _ => .ok "x".toList, .contains, false⟩ "ababaaba" =
        .ok ⟨"xbax", 2⟩ := by
  obtain ⟨places, result, _, _, byText, computed, _⟩ :=
    apply_literal "aba" (by decide) .contains (by decide) false "x" "ababaaba"
  have replaced : apply ⟨"aba", .template "x", .contains, false⟩ "ababaaba" = .ok ⟨"xbax", 2⟩ :=
    eq_ok_of_toOption (by decide)
  exact ⟨by decide, by decide, replaced, computed.trans (byText.symm.trans replaced)⟩

end Revision

end BibEdit
