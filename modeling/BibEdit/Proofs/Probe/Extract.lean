import BibEdit.Proofs.Probe.Walk
import BibEdit.Proofs.Regex.Exact

set_option autoImplicit false

namespace BibEdit.Literal

open Regex

theorem run_of_fits (value run : List Char) (start stop : Nat)
    (fits : Fits value.toArray (Like (· == .exact)) (run.map some) start stop) : run <:+: value := by
  obtain ⟨part, each, here⟩ := fits_run _ value run start stop fits
  have same : run = part := by
    clear here fits
    induction each with
    | nil => rfl
    | @cons c d _ _ alike _ ih =>
      obtain ⟨casing, exact, equal⟩ := alike
      rw [eq_of_beq exact] at equal
      have code : d.toNat = c.toNat := by simpa [Casing.same, Casing.isCased] using equal
      rw [ih, Char.toNat_inj.1 code]
  rw [same]
  exact here.isInfix.trans (List.drop_suffix _ _).isInfix

/-- A pattern that is read as it is meant, and compares what it is sure of exactly, has a literal
only if every text with a match has the literal in it. -/
theorem extract_sound {pattern : List Char} {regex : Regex}
    (compiled : compile pattern false = .ok regex) (aligned : Aligned (tokenize pattern).1)
    (keeps : KeepsCase (tokenize pattern).1 \/ regex.root.exact = true) :
    ∃ literal?, extract pattern = .ok literal? /\ ∀ literal, literal? = some literal ->
      ∀ (value : List Char) (found : Match), regex.search value = some found ->
        literal <:+: value := by
  have exact : regex.root.exact = true := by
    rcases keeps with keeps | exact
    next => exact compile_exact compiled keeps aligned.noBar
    next => exact exact
  obtain ⟨literal?, extracted, fits⟩ := extract_fits compiled aligned exact
  refine ⟨literal?, extracted, fun literal is value found search => ?_⟩
  obtain ⟨start, stop, fits⟩ := fits literal is value found search
  exact run_of_fits value literal start stop fits

def deepLearning : List Char := "(?:deep )+learning(?#of any kind)s?".toList

theorem aligned_deepLearning : Aligned (tokenize deepLearning).1 where
  noBar := by decide
  counts := by decide +kernel
  digits _ _ within := absurd (within.subset (List.mem_cons_self)) (by decide)
  comments inner c _ known within := by
    have closed : [')', c].map Token.plain <:+: (tokenize deepLearning).1 :=
      (List.suffix_append _ _).isInfix.trans within
    simp only [List.mem_cons, List.not_mem_nil, or_false] at known
    rcases known with rfl | rfl | rfl
    all_goals exact absurd closed (by decide +kernel)
  templates before between _ within := by
    have verbose : Token.plain 'x' ∈ (tokenize deepLearning).1 := within.subset (by simp)
    exact absurd verbose (by decide)

theorem keeps_deepLearning : KeepsCase (tokenize deepLearning).1 := by
  intro letters all within
  -- What follows a question mark here is no letter of a flag.
  have opened : ∃ c ∈ flagLetters, ['(', '?', c].map Token.plain <:+: (tokenize deepLearning).1 := by
    cases letters with
    | nil => exact ⟨'i', by decide, within⟩
    | cons c letters =>
      refine ⟨c, all c List.mem_cons_self,
        List.IsInfix.trans ⟨[], (letters ++ ['i']).map .plain, ?_⟩ within⟩
      simp
  have unopened : (flagLetters.any fun c =>
      ['(', '?', c].map Token.plain <:+: (tokenize deepLearning).1) = false := by decide +kernel
  obtain ⟨c, flag, opens⟩ := opened
  exact absurd (decide_eq_true opens) (List.any_eq_false.1 unopened c flag)

theorem exists_found {pattern value : List Char}
    (found : ((compile pattern false).toOption.bind (·.search value)).isSome = true) :
    ∃ regex found, compile pattern false = .ok regex /\ regex.search value = some found := by
  obtain ⟨found, search⟩ := Option.isSome_iff_exists.1 found
  obtain ⟨regex, compiled, search⟩ := Option.bind_eq_some_iff.1 search
  exact ⟨regex, found, eq_ok_of_toOption compiled, search⟩

theorem extract_sound_deepLearning :
    extract deepLearning = .ok (some "learning".toList) /\
      "learning".toList <:+: "On deep learning".toList := by
  obtain ⟨regex, found, compiled, search⟩ : ∃ regex found, compile deepLearning false = .ok regex /\
      regex.search "On deep learning".toList = some found := exists_found (by decide +kernel)
  obtain ⟨literal?, extracted, sound⟩ :=
    extract_sound compiled aligned_deepLearning (.inl keeps_deepLearning)
  have literalIs : extract deepLearning = .ok (some "learning".toList) :=
    eq_ok_of_toOption (by decide)
  cases literalIs.symm.trans extracted
  exact ⟨literalIs, sound _ rfl _ found search⟩

structure Trap where
  pattern : List Char
  value : List Char
  literal : List Char

/-- A count without digits, a quantifier behind a comment, a flag x behind a flag t, and digits
in a count that are not the ASCII ones. -/
def traps : List Trap := [
  ⟨"(abc)\x7b,\x7d".toList, [], "abc".toList⟩,
  ⟨"ab(?#x)*cd".toList, "acd".toList, "ab".toList⟩,
  ⟨"(?tx)a#bcd".toList, "a".toList, "bcd".toList⟩,
  ⟨"z(((((\x7b\u0660\x7dabcd)?))))".toList, "z".toList, "abcd".toList⟩]

theorem extract_misses :
    traps.Forall fun trap => '|' ∉ trap.pattern /\ 'i' ∉ trap.pattern /\
      (∃ regex found, compile trap.pattern false = .ok regex /\
        regex.search trap.value = some found) /\
      extract trap.pattern = .ok (some trap.literal) /\ ¬ trap.literal <:+: trap.value := by
  simp only [traps, List.forall_cons, List.Forall]
  refine ⟨⟨by decide, by decide, exists_found ?_, eq_ok_of_toOption ?_, ?_⟩,
    ⟨by decide, by decide, exists_found ?_, eq_ok_of_toOption ?_, ?_⟩,
    ⟨by decide, by decide, exists_found ?_, eq_ok_of_toOption ?_, ?_⟩,
    ⟨by decide, by decide, exists_found ?_, eq_ok_of_toOption ?_, ?_⟩⟩
  all_goals decide +kernel

end BibEdit.Literal
