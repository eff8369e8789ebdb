import BibEdit.Library.Query
import BibEdit.Proofs.Regex.Spans
import BibEdit.Proofs.Success
import BibEdit.Proofs.Unicode.Fold
import Mathlib.Data.List.Forall2

set_option autoImplicit false

/-! Streams of characters that a match must contain, and the runs taken from them. -/

namespace BibEdit

open Unicode

namespace Literal

theorem isAlnum_eq (c : Char) : isAlnum c = c.isAlphanum := by
  have underscore : c = '_' <-> c.toNat = 0x5f := Char.toNat_inj.symm
  have upper : c.isUpper = decide (65 <= c.val /\ c.val <= 90) := rfl
  have lower : c.isLower = (decide (97 <= c.val) && decide (c.val <= 122)) := rfl
  have digit : c.isDigit = (decide (48 <= c.val) && decide (c.val <= 57)) := rfl
  have alphanum : c.isAlphanum = (c.isUpper || c.isLower || c.isDigit) := rfl
  rw [Bool.eq_iff_iff, alphanum, upper, lower, digit]
  simp only [isAlnum, Regex.isAsciiWord, Bool.and_eq_true, Bool.or_eq_true, decide_eq_true_eq,
    beq_iff_eq, bne_iff_ne, ne_eq, underscore, UInt32.le_iff_toNat_le]
  show _ <-> ((65 <= c.toNat /\ c.toNat <= 90) \/ (97 <= c.toNat /\ c.toNat <= 122)) \/
    (48 <= c.toNat /\ c.toNat <= 57)
  omega

theorem word_of_alnum {c : Char} (alnum : isAlnum c = true) : Regex.isAsciiWord c.toNat = true :=
  (Bool.and_eq_true_iff.1 alnum).1

theorem ascii_of_alnum {c : Char} (alnum : isAlnum c = true) : c.toNat < 0x80 := by
  have word := word_of_alnum alnum
  simp only [Regex.isAsciiWord, Bool.or_eq_true, Bool.and_eq_true, decide_eq_true_eq,
    beq_iff_eq] at word
  omega

theorem alnumRuns_within (run : List Char) (stream : Stream) (alnum : ∀ c ∈ run, isAlnum c = true)
    (found : List Char) (member : found ∈ alnumRuns run stream) :
    found.map some <:+: run.reverse.map some ++ stream /\ ∀ c ∈ found, isAlnum c = true := by
  induction stream generalizing run with
  | nil =>
    rw [List.mem_singleton.1 member]
    exact ⟨by simp, by simpa using alnum⟩
  | cons item rest ih =>
    have later (other : found ∈ alnumRuns [] rest) :
        found.map some <:+: run.reverse.map some ++ item :: rest /\
          ∀ c ∈ found, isAlnum c = true := by
      obtain ⟨within, all⟩ := ih [] (by simp) other
      refine ⟨within.trans ?_, all⟩
      exact ((List.suffix_cons item rest).trans (List.suffix_append _ _)).isInfix
    have here (is : found = run.reverse) :
        found.map some <:+: run.reverse.map some ++ item :: rest /\
          ∀ c ∈ found, isAlnum c = true := by
      rw [is]
      exact ⟨(List.prefix_append _ _).isInfix, by simpa using alnum⟩
    cases item with
    | none => exact (List.mem_cons.1 member).elim here later
    | some c =>
      unfold alnumRuns at member
      split at member
      next letter =>
        have grown : ∀ d ∈ c :: run, isAlnum d = true := by
          intro d among
          rcases List.mem_cons.1 among with rfl | old
          next => exact letter
          next => exact alnum d old
        obtain ⟨within, all⟩ := ih (c :: run) grown member
        exact ⟨by simpa using within, all⟩
      next => exact (List.mem_cons.1 member).elim here later

theorem foldl_longer (runs : List (List Char)) (best : List Char) :
    runs.foldl longer best = best \/ runs.foldl longer best ∈ runs := by
  induction runs generalizing best with
  | nil => exact .inl rfl
  | cons run rest ih =>
    rw [List.foldl_cons]
    rcases ih (longer best run) with same | member
    next =>
      rw [same]
      unfold longer
      split
      next => exact .inr (by simp)
      next => exact .inl rfl
    next => exact .inr (List.mem_cons_of_mem _ member)

theorem longestRun?_within (stream : Stream) (run : List Char)
    (found : longestRun? stream = some run) :
    run.map some <:+: stream /\ (∀ c ∈ run, isAlnum c = true) /\ 2 <= run.length := by
  unfold longestRun? at found
  dsimp only at found
  split at found
  next long =>
    have is := Option.some.inj found
    rw [is] at long
    rcases foldl_longer (alnumRuns [] stream) [] with empty | member
    next =>
      rw [← is, empty] at long
      exact absurd long (by decide)
    next =>
      rw [is] at member
      obtain ⟨within, all⟩ := alnumRuns_within [] stream (by simp) run member
      exact ⟨by simpa using within, all, long⟩
  next => cases found

theorem longestAlnumRun?_within (text run : List Char)
    (found : longestAlnumRun? text = some run) :
    run <:+: text /\ (∀ c ∈ run, isAlnum c = true) /\ 2 <= run.length := by
  obtain ⟨within, all, long⟩ := longestRun?_within _ run found
  refine ⟨?_, all, long⟩
  obtain ⟨before, after, split⟩ := within
  obtain ⟨first, last, is, firstIs, _⟩ := List.append_eq_map_iff.1 split
  obtain ⟨front, middle, isFirst, _, middleIs⟩ := List.append_eq_map_iff.1 firstIs.symm
  have same : middle = run := (List.map_inj_right fun _ _ => Option.some.inj).1 middleIs
  exact ⟨front, last, by rw [is, isFirst, same]⟩

theorem walkFrom_drop (walk : Walk) (skip : Nat) (rest : List Char) :
    walkFrom walk skip rest = walkFrom walk 0 (rest.drop skip) := by
  induction rest generalizing skip with
  | nil => cases skip <;> rfl
  | cons c rest ih =>
    cases skip with
    | zero => rfl
    | succ skip => exact ih skip

theorem extract_eq_some {pattern literal : List Char}
    (extracted : extract pattern = .ok (some literal)) :
    ∃ stream, walkFrom .start 0 pattern = .ok (some stream) /\ longestRun? stream = some literal := by
  obtain ⟨stream?, walked, found⟩ := bind_eq_ok.1 extracted
  cases stream? with
  | none => cases found
  | some stream => exact ⟨stream, walked, Except.ok.inj found⟩

/-- Whether the stretch from one position to another has the characters that a stream asks for,
each like the one that is asked for. -/
def Fits (text : Array Char) (like : Char -> Nat -> Prop) : Stream -> Nat -> Nat -> Prop
  | [], start, stop => start = stop
  | none :: rest, _, stop => ∃ middle, Fits text like rest middle stop
  | some c :: rest, start, stop =>
    (∃ code, Regex.codeAt text start = some code /\ like c code) /\
      Fits text like rest (start + 1) stop

variable (text : Array Char) (like : Char -> Nat -> Prop)

theorem fits_append (first second : Stream) (start stop : Nat) :
    Fits text like (first ++ second) start stop <->
      ∃ middle, Fits text like first start middle /\ Fits text like second middle stop := by
  induction first generalizing start with
  | nil => simp [Fits]
  | cons item rest ih =>
    cases item with
    | none =>
      simp only [List.cons_append, Fits, ih]
      constructor
      next =>
        rintro ⟨next, middle, before, after⟩
        exact ⟨middle, ⟨next, before⟩, after⟩
      next =>
        rintro ⟨middle, ⟨next, before⟩, after⟩
        exact ⟨next, middle, before, after⟩
    | some c =>
      simp only [List.cons_append, Fits, ih]
      constructor
      next =>
        rintro ⟨here, middle, before, after⟩
        exact ⟨middle, ⟨here, before⟩, after⟩
      next =>
        rintro ⟨middle, ⟨here, before⟩, after⟩
        exact ⟨here, middle, before, after⟩

theorem fits_gap (start stop : Nat) : Fits text like [none] start stop := ⟨stop, rfl⟩

theorem fits_within (part stream : Stream) (within : part <:+: stream) (start stop : Nat)
    (fits : Fits text like stream start stop) : ∃ first last, Fits text like part first last := by
  obtain ⟨before, after, rfl⟩ := within
  obtain ⟨last, left, _⟩ := (fits_append text like _ _ _ _).1 fits
  obtain ⟨first, _, middle⟩ := (fits_append text like _ _ _ _).1 left
  exact ⟨first, last, middle⟩

theorem fits_run (text : List Char) (run : List Char) (start stop : Nat)
    (fits : Fits text.toArray like (run.map some) start stop) :
    ∃ part, List.Forall₂ (fun c d => like c d.toNat) run part /\ part <+: text.drop start := by
  induction run generalizing start with
  | nil => exact ⟨[], .nil, List.nil_prefix⟩
  | cons c rest ih =>
    obtain ⟨⟨code, here, alike⟩, later⟩ := fits
    obtain ⟨part, each, atStart⟩ := ih (start + 1) later
    unfold Regex.codeAt at here
    obtain ⟨d, found, rfl⟩ := Option.map_eq_some_iff.1 here
    rw [List.getElem?_toArray] at found
    obtain ⟨within, is⟩ := List.getElem?_eq_some_iff.1 found
    refine ⟨d :: part, .cons alike each, ?_⟩
    rw [List.drop_eq_getElem_cons within, is]
    exact List.prefix_cons_inj d |>.2 atStart

theorem fold_forall₂ (run part : List Char)
    (each : List.Forall₂ (fun c d => foldCode d.toNat = foldCode c.toNat) run part) :
    fold part = fold run := by
  induction each with
  | nil => rfl
  | @cons c d run part here _ ih =>
    have folded : foldChar d = foldChar c := by rw [foldChar, here, foldChar]
    show foldChar d ++ fold part = foldChar c ++ fold run
    rw [folded, ih]

theorem fold_within (part text : List Char) (within : part <:+: text) :
    fold part <:+: fold text := by
  obtain ⟨before, after, rfl⟩ := within
  exact ⟨fold before, fold after, by simp⟩

theorem holds_of_fits (run : List Char) (value : String) (start stop : Nat)
    (folds : ∀ c ∈ run, ∀ d ∈ value.toList, like c d.toNat -> foldCode d.toNat = foldCode c.toNat)
    (fits : Fits value.toList.toArray like (run.map some) start stop) :
    Library.holds (String.ofList run) value = true := by
  obtain ⟨part, each, here⟩ := fits_run like value.toList run start stop fits
  have within : part <:+: value.toList := here.isInfix.trans (List.drop_suffix _ _).isInfix
  have alike : List.Forall₂ (fun c d => foldCode d.toNat = foldCode c.toNat) run part := by
    have inside : ∀ d ∈ part, d ∈ value.toList := fun _ member => within.subset member
    clear here fits within
    induction each with
    | nil => exact .nil
    | cons first _ ih =>
      apply List.Forall₂.cons
      next => exact folds _ (by simp) _ (inside _ (by simp)) first
      next =>
        apply ih
        next => exact fun c member => folds c (List.mem_cons_of_mem _ member)
        next => exact fun d member => inside d (List.mem_cons_of_mem _ member)
  unfold Library.holds Library.folded
  rw [Text.contains_iff, String.toList_ofList, ← fold_forall₂ run part alike]
  exact fold_within part value.toList within

end Literal

end BibEdit
