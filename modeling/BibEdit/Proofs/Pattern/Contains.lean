import BibEdit.Proofs.Pattern.Language
import BibEdit.Proofs.Probe.Term
import Mathlib.Algebra.Order.BigOperators.Group.List
import Mathlib.Algebra.Order.Group.Nat

set_option autoImplicit false

namespace BibEdit

namespace Regex

def letterNodes (casing : Casing) (letters : List Char) : List Node :=
  letters.map fun c => .literal false c.toNat casing

/-- Characters that compare equal to letters, one by one. -/
def Equals (casing : Casing) (letters part : List Char) : Prop :=
  List.Forall₂ (fun c d => casing.same c.toNat d.toNat = true) letters part

theorem matches_letters (casing : Casing) (letters : List Char) :
    (Node.ofList (letterNodes casing letters)).Matches (Equals casing letters) := by
  induction letters with
  | nil => exact matches_empty.congr fun _ => List.forall₂_nil_left_iff.symm
  | cons c rest ih =>
    refine (matches_cons (matches_literal casing c) ih).congr fun part => ?_
    rw [Equals, List.forall₂_cons_left_iff]
    constructor
    next =>
      rintro ⟨_, later, ⟨d, same, rfl⟩, equals, rfl⟩
      exact ⟨d, later, same, equals, rfl⟩
    next =>
      rintro ⟨d, later, same, equals, rfl⟩
      exact ⟨[d], later, ⟨d, same, rfl⟩, equals, rfl⟩

end Regex

namespace Pattern

open Regex Wildcard

/-- A text passes a test for a part exactly if it has the letters of the term in a row, each
compared as the test compares them. -/
theorem test_contains_iff (value term : String) (caseSensitive : Bool) :
    (∃ hit, test value term .contains caseSensitive = .ok (some hit)) <->
      ∃ part, Equals (casingOf (!caseSensitive)) term.toList part /\ part <:+: value.toList := by
  obtain ⟨regex, compiled, rootIs⟩ := compile_contains term caseSensitive
  have nodesAre : nodes (!caseSensitive) (term.toList.map Part.letter) =
      letterNodes (casingOf (!caseSensitive)) term.toList := by
    unfold nodes letterNodes
    rw [List.map_map]
    rfl
  rw [nodesAre] at rootIs
  have root := rootIs ▸ matches_letters (casingOf (!caseSensitive)) term.toList
  rw [← search_isSome_iff root, test_of_compile (by decide) rfl compiled, Option.isSome_iff_exists]
  simp [Option.map_eq_some_iff]

end Pattern

namespace Unicode

def swapDotted (other c : Char) : Char := if c.toNat ∈ dottedCodes then other else c

-- The mark stands in the folds of some letters i but not in that of the one put in their place, so
-- that it is lost there and kept where other letters have it.
theorem count_fold_swapDotted (mark other : Char) (unmarked : (foldChar other).count mark = 0)
    (text : List Char) (c : Char) (member : c ∈ text) (dotted : c.toNat ∈ dottedCodes)
    (marked : 0 < (foldChar c).count mark) :
    (fold (text.map (swapDotted other))).count mark < (fold text).count mark := by
  have each (d : Char) : (foldChar (swapDotted other d)).count mark <= (foldChar d).count mark := by
    unfold swapDotted
    split
    next => omega
    next => exact le_rfl
  have here : (foldChar (swapDotted other c)).count mark < (foldChar c).count mark := by
    rw [swapDotted, if_pos dotted]
    omega
  unfold fold
  rw [List.flatMap_map, List.count_flatMap, List.count_flatMap]
  exact List.sum_lt_sum _ _ (fun d _ => each d) ⟨c, member, here⟩

end Unicode

namespace Regex

open Unicode

theorem Casing.same_self (casing : Casing) (code : Nat) : casing.same code code = true := by
  unfold Casing.same
  split <;> simp

theorem same_of_dotted : ∀ letter ∈ dottedCodes, ∀ code ∈ dottedCodes,
    Casing.unicode.same letter code = true := by
  decide

theorem equals_swapDotted (other : Char) (dotted : other.toNat ∈ dottedCodes) (text : List Char) :
    Equals .unicode text (text.map (swapDotted other)) := by
  unfold Equals
  rw [List.forall₂_map_right_iff, List.forall₂_same]
  intro c _
  unfold swapDotted
  split
  next letter => exact same_of_dotted _ letter _ dotted
  next => exact Casing.same_self _ _

theorem exists_unfolded (term : List Char) (c : Char) (member : c ∈ term)
    (dotted : c.toNat ∈ dottedCodes) :
    ∃ twin, Equals .unicode term twin /\ ¬ fold term <:+: fold twin := by
  have loses (mark other : Char) (unmarked : (foldChar other).count mark = 0)
      (otherDotted : other.toNat ∈ dottedCodes) (marked : 0 < (foldChar c).count mark) :
      ∃ twin, Equals .unicode term twin /\ ¬ fold term <:+: fold twin := by
    refine ⟨term.map (swapDotted other), equals_swapDotted other otherDotted term, fun within => ?_⟩
    have fewer := count_fold_swapDotted mark other unmarked term c member dotted marked
    have enough := within.sublist.count_le mark
    omega
  -- All but the dotless letter fold to one with a dot.
  by_cases dotless : c.toNat = 0x131
  next =>
    refine loses '\u0131' 'i' (by decide) (by decide) ?_
    rw [foldChar, dotless]
    decide
  next =>
    refine loses 'i' '\u0131' (by decide) (by decide) ?_
    simp only [dottedCodes, List.mem_cons, List.not_mem_nil, or_false] at dotted
    rw [foldChar]
    obtain is | is | is := show c.toNat = 0x49 \/ c.toNat = 0x69 \/ c.toNat = 0x130 by omega
    next => rw [is]; decide
    next => rw [is]; decide
    next => rw [is]; decide

theorem fold_of_equals (casing : Casing) (term part : List Char) (equals : Equals casing term part)
    (alike : ∀ c ∈ term, ∀ d ∈ part, c.toNat ∈ dottedCodes -> d.toNat ∈ dottedCodes ->
      foldCode d.toNat = foldCode c.toNat) : fold part = fold term := by
  refine Literal.fold_forall₂ term part ?_
  induction equals with
  | nil => exact .nil
  | @cons c d term part same _ ih =>
    refine .cons ?_ (ih fun c cMember d dMember =>
      alike c (List.mem_cons_of_mem _ cMember) d (List.mem_cons_of_mem _ dMember))
    by_cases dotted : c.toNat ∈ dottedCodes
    next => exact alike c (by simp) d (by simp) dotted (casing.dotted_of_same _ _ dotted same)
    next => exact casing.foldCode_of_same _ _ (.inr dotted) same

end Regex

namespace Pattern

open Regex Unicode

/-- The index finds a term wherever the matcher does that ignores case, for all values, exactly if
the term has no letter i. Where it has, a value's letters i have to fold as the term's do. -/
theorem contains_folds_iff (term : String) :
    ((∀ value hit, test value term .contains false = .ok (some hit) ->
        Library.holds term value = true) <-> ∀ c ∈ term.toList, c.toNat ∉ dottedCodes) /\
      ∀ value hit, test value term .contains false = .ok (some hit) ->
        (∀ c ∈ term.toList, ∀ d ∈ value.toList, c.toNat ∈ dottedCodes -> d.toNat ∈ dottedCodes ->
          foldCode d.toNat = foldCode c.toNat) ->
        Library.holds term value = true := by
  have holdsOfAlike (value : String) (hit : Hit)
      (tested : test value term .contains false = .ok (some hit))
      (alike : ∀ c ∈ term.toList, ∀ d ∈ value.toList, c.toNat ∈ dottedCodes ->
        d.toNat ∈ dottedCodes -> foldCode d.toNat = foldCode c.toNat) :
      Library.holds term value = true := by
    obtain ⟨part, equals, within⟩ := (test_contains_iff value term false).1 ⟨hit, tested⟩
    have folds := fold_of_equals _ _ _ equals fun c cMember d dMember =>
      alike c cMember d (within.subset dMember)
    unfold Library.holds Library.folded
    rw [Text.contains_iff, ← folds]
    exact Literal.fold_within part value.toList within
  refine ⟨⟨fun covers c member dotted => ?_, fun plain value hit tested => ?_⟩, holdsOfAlike⟩
  next =>
    obtain ⟨twin, equals, unfolded⟩ := exists_unfolded term.toList c member dotted
    have found : ∃ hit, test (String.ofList twin) term .contains false = .ok (some hit) := by
      rw [test_contains_iff, String.toList_ofList]
      exact ⟨twin, equals, List.infix_refl _⟩
    obtain ⟨hit, tested⟩ := found
    have held := covers _ hit tested
    unfold Library.holds Library.folded at held
    rw [Text.contains_iff, String.toList_ofList] at held
    exact unfolded held
  next =>
    exact holdsOfAlike value hit tested fun c member _ _ dotted => absurd dotted (plain c member)

theorem contains_finds_dotless :
    test "\u0131ce" "ice" .contains false = .ok (some ⟨['\u0131', 'c', 'e'], 0⟩) /\
      Library.holds "ice" "\u0131ce" = false :=
  ⟨eq_ok_of_toOption (by decide), by decide⟩

end Pattern

end BibEdit
