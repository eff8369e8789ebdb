import BibEdit.Text.Numeral
import Mathlib.Algebra.Group.Nat.Defs
import Mathlib.Tactic.Common

set_option autoImplicit false

/-! Integers are read back from the decimal digits they are written with. -/

namespace BibEdit.Text

theorem digit_bounds (c : Char) (digit : c.isDigit = true) :
    0x30 <= c.toNat /\ c.toNat <= 0x39 := by
  simpa [Char.isDigit, UInt32.le_iff_toNat_le] using digit

theorem decimal?_of_isDigit (c : Char) (digit : c.isDigit = true) :
    Unicode.decimal? c.toNat = some (c.toNat - '0'.toNat) := by
  have bounds := digit_bounds c digit
  have ascii : c.toNat < 0x80 := by omega
  unfold Unicode.decimal?
  rw [if_pos ascii, if_pos (by simpa using bounds)]
  rfl

theorem groupedDigits?_digits (digits : List Char) (given : digits ≠ [])
    (each : ∀ c ∈ digits, c.isDigit = true) :
    groupedDigits? digits = some (digits.map fun c => c.toNat - '0'.toNat) := by
  fun_induction groupedDigits? digits with
  | case1 => exact absurd rfl given
  | case2 c => simp [decimal?_of_isDigit c (each c (by simp))]
  | case3 c rest => exact absurd (each '_' (by simp)) (by decide)
  | case4 c d rest _ ih =>
    have later := ih (by simp) fun e member => each e (List.mem_cons_of_mem _ member)
    rw [decimal?_of_isDigit c (each c (by simp)), later]
    rfl

theorem natural?_toDigits (n : Nat) (short : n < 10 ^ numeralLimit) :
    natural? (Nat.toDigits 10 n) = some n := by
  have digits (c : Char) (member : c ∈ Nat.toDigits 10 n) : c.isDigit = true :=
    Nat.isDigit_of_mem_toDigits (by decide) (by decide) member
  have within : (Nat.toDigits 10 n).length <= numeralLimit :=
    (Nat.length_toDigits_le_iff (by decide) (by decide)).2 short
  have value : digitsValue ((Nat.toDigits 10 n).map fun c => c.toNat - '0'.toNat) = n := by
    rw [digitsValue, List.foldl_map]
    exact Nat.ofDigitChars_ten_toDigits
  unfold natural?
  rw [groupedDigits?_digits _ Nat.toDigits_ne_nil digits]
  simpa [within] using value

theorem trimWith_eq_self (strip : Char -> Bool) (text : List Char)
    (kept : ∀ c ∈ text, strip c = false) : trimWith strip text = text := by
  have noneStripped (chars : List Char) (all : ∀ c ∈ chars, strip c = false) :
      chars.dropWhile strip = chars := by
    cases chars with
    | nil => rfl
    | cons c rest => rw [List.dropWhile_cons_of_neg (by simp [all c])]
  rw [trimWith, noneStripped text kept, noneStripped text.reverse (by simpa using kept),
    List.reverse_reverse]

-- Neither digits nor signs are white space, so that nothing is trimmed.
theorem wholeNumber?_unpadded (text : List Char)
    (each : ∀ c ∈ text, c = '-' \/ c.isDigit = true) : wholeNumber? text = integer? text := by
  have plain (c : Char) (member : c ∈ text) : isNumeralBlank c = false := by
    rcases each c member with rfl | digit
    next => decide
    next =>
      have bounds := digit_bounds c digit
      simp only [isNumeralBlank, isAsciiBlank, Bool.or_eq_false_iff, beq_eq_false_iff_ne,
        Bool.and_eq_false_iff, decide_eq_false_iff_not, Char.le_def, UInt32.le_iff_toNat_le]
      refine ⟨⟨?_, .inr ?_⟩, .inl (by omega)⟩
      next =>
        rintro rfl
        exact absurd bounds (by decide)
      next =>
        show ¬ c.toNat <= 0xd
        omega
  rw [wholeNumber?, trimWith_eq_self _ _ plain]

theorem integer?_digits (digits : List Char) (each : ∀ c ∈ digits, c.isDigit = true) :
    integer? digits = (natural? digits).map Int.ofNat := by
  unfold integer?
  split
  next rest => exact absurd (each '+' (by simp)) (by decide)
  next rest => exact absurd (each '-' (by simp)) (by decide)
  next => rfl

theorem wholeNumber?_toString (n : Int) (short : n.natAbs < 10 ^ numeralLimit) :
    wholeNumber? (toString n).toList = some n := by
  have digits (m : Nat) (c : Char) (member : c ∈ Nat.toDigits 10 m) : c.isDigit = true :=
    Nat.isDigit_of_mem_toDigits (by decide) (by decide) member
  -- The sign stands apart from the digits, and only a negative integer has one.
  cases n with
  | ofNat m =>
    have text : (toString (Int.ofNat m)).toList = Nat.toDigits 10 m := by
      rw [Int.toString_eq_repr, Int.repr, Nat.repr_eq_ofList_toDigits, String.toList_ofList]
    rw [text, wholeNumber?_unpadded _ fun c member => .inr (digits m c member),
      integer?_digits _ (digits m), natural?_toDigits m short]
    rfl
  | negSucc m =>
    have text : (toString (Int.negSucc m)).toList = '-' :: Nat.toDigits 10 (m + 1) := by
      simp [Int.toString_eq_repr, Int.repr, Nat.repr_eq_ofList_toDigits]
    have each (c : Char) (member : c ∈ '-' :: Nat.toDigits 10 (m + 1)) :
        c = '-' \/ c.isDigit = true :=
      (List.mem_cons.1 member).imp_right (digits (m + 1) c)
    rw [text, wholeNumber?_unpadded _ each, integer?, natural?_toDigits (m + 1) short]
    rfl

end BibEdit.Text
