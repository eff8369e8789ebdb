import BibEdit.Regex.Charset
import BibEdit.Unicode.CaseFold

set_option autoImplicit false

/-! Letters that compare equal fold to the same text, but for the letters i. -/

namespace BibEdit.Unicode

-- The codes of a list as the bits of one number, for numbers are compared at once.
def mask (codes : List Nat) : Nat := codes.foldr (fun code bits => 1 <<< code ||| bits) 0

theorem testBit_mask (codes : List Nat) (code : Nat) :
    (mask codes).testBit code = true <-> code ∈ codes := by
  induction codes with
  | nil => simp [mask]
  | cons first rest ih =>
    show ((1 <<< first) ||| mask rest).testBit code = true <-> _
    rw [Nat.testBit_or, Bool.or_eq_true, ih, Nat.one_shiftLeft, Nat.testBit_two_pow,
      decide_eq_true_eq, List.mem_cons, eq_comm]

theorem not_mem_of_masks {first second : List Nat} (apart : mask first &&& mask second = 0)
    {code : Nat} (member : code ∈ first) : code ∉ second := by
  intro other
  have both : (mask first &&& mask second).testBit code = true := by
    rw [Nat.testBit_and, (testBit_mask first code).2 member, (testBit_mask second code).2 other]
    rfl
  rw [apart, Nat.zero_testBit] at both
  cases both

def Shift.codes (shift : Shift) : List Nat :=
  (List.range ((shift.last - shift.first) / shift.step + 1)).map fun index =>
    shift.first + index * shift.step

def Shift.images (shift : Shift) : List Nat :=
  shift.codes.map fun code => shift.target + (code - shift.first)

def foldedCodes : List Nat := longFolds.map Prod.fst ++ foldShifts.flatMap Shift.codes

/-- Whether neither what a shift moves nor its images fold to anything but their lower case. -/
def Shift.isRegular (shift : Shift) : Bool :=
  mask shift.codes &&& mask foldedCodes == 0 &&
    mask shift.images &&& mask (foldedCodes ++ lowerShifts.flatMap Shift.codes) == 0 &&
    Nat.ble 0x80 shift.target

theorem covers_iff (shift : Shift) (code : Nat) :
    shift.covers code = true <->
      shift.first <= code /\ code <= shift.last /\ (code - shift.first) % shift.step = 0 := by
  simp [Shift.covers, and_assoc]

theorem mem_codes (shift : Shift) (code : Nat) (covered : shift.covers code = true) :
    code ∈ shift.codes := by
  obtain ⟨above, below, multiple⟩ := (covers_iff shift code).1 covered
  have exactSteps := Nat.div_add_mod (code - shift.first) shift.step
  have fewer : (code - shift.first) / shift.step <= (shift.last - shift.first) / shift.step :=
    Nat.div_le_div_right (by omega)
  rw [multiple, Nat.mul_comm] at exactSteps
  refine List.mem_map.2 ⟨(code - shift.first) / shift.step, List.mem_range.2 (by omega), ?_⟩
  omega

theorem mem_images (shift : Shift) (code : Nat) (covered : shift.covers code = true) :
    shift.target + (code - shift.first) ∈ shift.images :=
  List.mem_map.2 ⟨code, mem_codes shift code covered, rfl⟩

theorem none_covers (shifts : List Shift) (code : Nat) (free : code ∉ shifts.flatMap Shift.codes) :
    shifts.find? (fun shift => shift.covers code) = none := by
  rw [List.find?_eq_none]
  intro shift member covered
  exact free (List.mem_flatMap.2 ⟨shift, member, mem_codes shift code covered⟩)

theorem lowerShifts_fold : (lowerShifts.all fun shift =>
    shift.isRegular || (shift.first == 0x130 && shift.last == 0x130) || shift.codes.all fun code =>
      foldCode (shift.target + (code - shift.first)) == foldCode code) = true := by
  decide +kernel

theorem foldCode_plain (code : Nat) (high : 0x80 <= code) (free : code ∉ foldedCodes) :
    foldCode code = [lower code] := by
  have notAscii : ¬ code < 0x80 := by omega
  rw [foldedCodes, List.mem_append, not_or] at free
  have noEntry : longFolds.lookup code = none := by
    rw [List.lookup_eq_none_iff]
    intro entry member
    exact bne_iff_ne.2 fun same => free.1 (List.mem_map.2 ⟨entry, member, same.symm⟩)
  unfold foldCode
  rw [if_neg notAscii, noEntry, none_covers foldShifts code free.2]

theorem foldCode_regular (shift : Shift) (regular : shift.isRegular = true) (code : Nat)
    (high : 0x80 <= code) (covered : shift.covers code = true)
    (lowerIs : lower code = shift.target + (code - shift.first)) :
    foldCode (lower code) = foldCode code := by
  simp only [Shift.isRegular, Bool.and_eq_true, beq_iff_eq, Nat.ble_eq] at regular
  obtain ⟨⟨apart, apartImages⟩, targetHigh⟩ := regular
  have here := foldCode_plain code high (not_mem_of_masks apart (mem_codes shift code covered))
  have image : lower code ∈ shift.images := by
    rw [lowerIs]
    exact mem_images shift code covered
  have free := not_mem_of_masks apartImages image
  rw [List.mem_append, not_or] at free
  have imageHigh : 0x80 <= lower code := by omega
  have there := foldCode_plain (lower code) imageHigh free.1
  have settled : lower (lower code) = lower code := by
    have notAscii : ¬ lower code < 0x80 := by omega
    rw [lower, if_neg notAscii, shifted, none_covers lowerShifts _ free.2]
  rw [here, there, settled]

theorem asciiLower_idem (code : Nat) : asciiLower (asciiLower code) = asciiLower code := by
  simp only [asciiLower, Bool.and_eq_true, decide_eq_true_eq]
  split
  next => split <;> omega
  next => rfl

theorem asciiLower_lt (code : Nat) : asciiLower code < 0x80 <-> code < 0x80 := by
  simp only [asciiLower, Bool.and_eq_true, decide_eq_true_eq]
  split <;> omega

theorem foldCode_lower (code : Nat) (undotted : code ≠ 0x130) :
    foldCode (lower code) = foldCode code := by
  by_cases ascii : code < 0x80
  next =>
    have low := (asciiLower_lt code).2 ascii
    rw [lower, if_pos ascii, foldCode, if_pos low, asciiLower_idem, foldCode, if_pos ascii]
  next =>
    have lowerIs : lower code = shifted lowerShifts code := by rw [lower, if_neg ascii]
    cases found : lowerShifts.find? fun shift => shift.covers code with
    | none => rw [lowerIs, shifted, found]
    | some shift =>
      have covered := List.find?_some found
      have member := List.mem_of_find?_eq_some found
      have image : lower code = shift.target + (code - shift.first) := by
        rw [lowerIs, shifted, found]
      have folds := List.all_eq_true.1 lowerShifts_fold shift member
      simp only [Bool.or_eq_true, Bool.and_eq_true, beq_iff_eq, List.all_eq_true] at folds
      rcases folds with (regular | ⟨first, last⟩) | same
      next => exact foldCode_regular shift regular code (by omega) covered image
      next =>
        obtain ⟨above, below, _⟩ := (covers_iff shift code).1 covered
        omega
      next =>
        rw [image]
        exact same code (mem_codes shift code covered)

/-- The letters i with and without a dot, whose cases do not fold to one another. -/
def dottedCodes : List Nat := [0x49, 0x69, 0x130, 0x131]

theorem lowerShifts_dotted : (lowerShifts.all fun shift =>
    Nat.blt shift.last 0x80 || (shift.first == 0x130 && shift.last == 0x130) ||
      shift.images.all fun code => code != 0x69 && code != 0x131) = true := by
  decide +kernel

theorem variants_fold : (caseVariants.all fun entry =>
    entry.1 == 0x69 || entry.1 == 0x131 ||
      entry.2.all fun code => code != 0x69 && foldCode code == foldCode entry.1) = true := by
  decide +kernel

theorem dotted_of_lower (code : Nat) (dotted : lower code = 0x69 \/ lower code = 0x131) :
    code ∈ dottedCodes := by
  simp only [dottedCodes, List.mem_cons, List.not_mem_nil, or_false]
  by_cases ascii : code < 0x80
  next =>
    rw [lower, if_pos ascii, asciiLower] at dotted
    simp only [Bool.and_eq_true, decide_eq_true_eq] at dotted
    split at dotted <;> omega
  next =>
    rw [lower, if_neg ascii, shifted] at dotted
    split at dotted
    next shift found =>
      have covered := List.find?_some found
      have member := List.mem_of_find?_eq_some found
      obtain ⟨above, below, _⟩ := (covers_iff shift code).1 covered
      have outside := List.all_eq_true.1 lowerShifts_dotted shift member
      simp only [Bool.or_eq_true, Bool.and_eq_true, beq_iff_eq, Nat.blt_eq, List.all_eq_true,
        bne_iff_ne] at outside
      rcases outside with outside | others
      next => omega
      next =>
        have differs := others _ (mem_images shift code covered)
        omega
    next => omega

end BibEdit.Unicode

namespace BibEdit.Regex

open Unicode

theorem lt_of_same_ascii {letter code : Nat} (cased : isAsciiLetter letter = true)
    (equal : asciiLower code = asciiLower letter) : letter < 0x80 /\ code < 0x80 := by
  have letterLow : letter < 0x80 := by
    simp only [isAsciiLetter, Bool.or_eq_true, Bool.and_eq_true, decide_eq_true_eq] at cased
    omega
  refine ⟨letterLow, ?_⟩
  rw [← asciiLower_lt, equal, asciiLower_lt]
  exact letterLow

theorem Casing.foldCode_of_same (casing : Casing) (letter code : Nat)
    (plain : casing = .exact \/ letter ∉ dottedCodes) (same : casing.same letter code = true) :
    foldCode code = foldCode letter := by
  unfold Casing.same at same
  split at same
  next cased =>
    cases casing with
    | exact => cases cased
    | ascii =>
      have equal : asciiLower code = asciiLower letter := by
        simpa [Casing.lower, Casing.variants] using same
      obtain ⟨letterLow, codeLow⟩ := lt_of_same_ascii cased equal
      rw [foldCode, if_pos codeLow, foldCode, if_pos letterLow, equal]
    | unicode =>
      have undotted : letter ∉ dottedCodes := plain.resolve_left (by decide)
      have letterFold : foldCode (Unicode.lower letter) = foldCode letter :=
        foldCode_lower letter fun dotted => undotted (by rw [dotted]; decide)
      have notSmall : Unicode.lower letter ≠ 0x69 := fun dotted =>
        undotted (dotted_of_lower letter (.inl dotted))
      have notDotless : Unicode.lower letter ≠ 0x131 := fun dotted =>
        undotted (dotted_of_lower letter (.inr dotted))
      have codeFold (apart : Unicode.lower code ≠ 0x69) :
          foldCode (Unicode.lower code) = foldCode code :=
        foldCode_lower code fun dotted => apart (by rw [dotted]; decide +kernel)
      simp only [Casing.lower, Casing.variants, Bool.or_eq_true, beq_iff_eq,
        List.contains_iff_mem] at same
      rcases same with equal | variant
      next => rw [← codeFold (by rwa [equal]), equal, letterFold]
      next =>
        unfold Unicode.variants at variant
        cases found : caseVariants.lookup (Unicode.lower letter) with
        | none =>
          rw [found] at variant
          cases variant
        | some codes =>
          rw [found] at variant
          obtain ⟨before, after, split, _⟩ := List.lookup_eq_some_iff.1 found
          have member : (Unicode.lower letter, codes) ∈ caseVariants := by
            rw [split]
            simp
          have folds := List.all_eq_true.1 variants_fold _ member
          simp only [Bool.or_eq_true, Bool.and_eq_true, beq_iff_eq, bne_iff_ne,
            List.all_eq_true] at folds
          rcases folds with (small | dotless) | each
          next => exact absurd small notSmall
          next => exact absurd dotless notDotless
          next =>
            obtain ⟨differs, equal⟩ := each (Unicode.lower code) variant
            rw [← codeFold differs, equal, letterFold]
  next => rw [eq_of_beq same]

theorem Casing.dotted_of_same (casing : Casing) (letter code : Nat) (dotted : letter ∈ dottedCodes)
    (same : casing.same letter code = true) : code ∈ dottedCodes := by
  have lowers : ∀ letter ∈ dottedCodes, Unicode.lower letter = 0x69 \/
      Unicode.lower letter = 0x131 := by
    decide +kernel
  have low := lowers letter dotted
  unfold Casing.same at same
  split at same
  next cased =>
    cases casing with
    | exact => cases cased
    | ascii =>
      have equal : asciiLower code = asciiLower letter := by
        simpa [Casing.lower, Casing.variants] using same
      obtain ⟨letterLow, codeLow⟩ := lt_of_same_ascii cased equal
      have sameLower : Unicode.lower code = Unicode.lower letter := by
        rw [Unicode.lower, if_pos codeLow, equal, Unicode.lower, if_pos letterLow]
      apply dotted_of_lower
      rwa [sameLower]
    | unicode =>
      apply dotted_of_lower
      simp only [Casing.lower, Casing.variants, Bool.or_eq_true, beq_iff_eq,
        List.contains_iff_mem] at same
      rcases same with equal | variant
      next => rwa [equal]
      next =>
        rcases low with small | dotless
        next =>
          rw [small] at variant
          exact .inr (List.mem_singleton.1 variant)
        next =>
          rw [dotless] at variant
          exact .inl (List.mem_singleton.1 variant)
  next =>
    rw [eq_of_beq same]
    exact dotted

end BibEdit.Regex
