import BibEdit.Proofs.Pattern.Stream
import BibEdit.Proofs.Probe.Walk

set_option autoImplicit false

/-! The terms that stand for patterns, and the texts that have a match. -/

namespace BibEdit

open Regex Literal

theorem cased_anyhow (node : Node) : node.cased (fun _ => true) = true := by
  induction node with
  | literal negated code casing => cases negated <;> rfl
  | seq first rest ihFirst ihRest => rw [Node.cased, ihFirst, ihRest, Bool.and_self]
  | group _ body ih | scope body ih | atomic body ih | rep _ _ _ body ih => exact ih
  | _ => rfl

namespace Condition

/-- Whether every text with a match has the run in it, but for how its letters are compared. -/
def Ensures (condition : Condition) (run : List Char) : Prop :=
  ∀ allowed regex, Pattern.compile condition.pattern condition.kind condition.caseSensitive =
    .ok regex -> regex.root.cased allowed = true ->
      ∀ (value : List Char) (found : Match), regex.search value = some found ->
        ∃ start stop, Fits value.toArray (Like allowed) (run.map some) start stop

variable {condition : Condition} {run : List Char}

-- What stands before the parts and after them says nothing of the text between.
theorem ensures_of_parts (front back : List Node) {regex : Regex} {parts : List Wildcard.Part}
    (compiled : Pattern.compile condition.pattern condition.kind condition.caseSensitive = .ok regex)
    (rootIs : regex.root = Node.ofList
      (front ++ Wildcard.nodes (!condition.caseSensitive) parts ++ back))
    (within : run.map some <:+: parts.flatMap Wildcard.Part.stream) : condition.Ensures run := by
  intro allowed other compiledToo cased value found search
  cases compiled.symm.trans compiledToo
  obtain ⟨start, stop, spans⟩ := search_spans regex value found search
  rw [rootIs, spans_ofList, spansAll_append] at spans
  obtain ⟨last, before, _⟩ := spans
  obtain ⟨first, _, inside⟩ := (spansAll_append _ _ _ _ _).1 before
  rw [rootIs, cased_ofList, List.all_append, List.all_append] at cased
  simp only [Bool.and_eq_true] at cased
  exact fits_within _ _ _ _ within first last
    (Wildcard.fits_parts _ _ cased.1.2 first last inside)

theorem ensures_contains (kindIs : condition.kind = .contains)
    (within : run <:+: condition.pattern.toList) : condition.Ensures run := by
  obtain ⟨regex, compiled, rootIs⟩ :=
    Pattern.compile_contains condition.pattern condition.caseSensitive
  rw [← kindIs] at compiled
  apply ensures_of_parts [] [] compiled (by simpa using rootIs)
  rw [List.flatMap_map]
  have letters := within.map some
  rwa [List.map_eq_flatMap (l := condition.pattern.toList)] at letters

theorem ensures_like (kindIs : condition.kind = .like)
    (found : longestAlnumRun? condition.pattern.toList = some run) : condition.Ensures run := by
  obtain ⟨regex, compiled, rootIs⟩ :=
    Pattern.compile_like condition.pattern condition.caseSensitive
  rw [← kindIs] at compiled
  obtain ⟨within, alnum, _⟩ := longestAlnumRun?_within _ _ found
  exact ensures_of_parts [] [] compiled (by simpa using rootIs)
    (Wildcard.run_within_like alnum _ within)

theorem ensures_glob (kindIs : condition.kind = .glob)
    (found : longestAlnumRun? condition.pattern.toList = some run) : condition.Ensures run := by
  obtain ⟨regex, compiled, rootIs⟩ :=
    Pattern.compile_glob condition.pattern condition.caseSensitive
  rw [← kindIs] at compiled
  obtain ⟨within, alnum, _⟩ := longestAlnumRun?_within _ _ found
  exact ensures_of_parts [.anchor .textStart] [.anchor .textEnd] compiled rootIs
    (Wildcard.run_within_glob alnum _ within)

theorem ensures_regex (kindIs : condition.kind = .regex)
    (aligned : Aligned (Regex.tokenize condition.pattern.toList).1)
    (found : extract condition.pattern.toList = .ok (some run)) : condition.Ensures run := by
  intro allowed regex compiled cased value hit search
  rw [kindIs] at compiled
  obtain ⟨literal?, extracted, fits⟩ :=
    extract_fits (Pattern.compile_regex_eq_ok compiled) aligned cased
  cases found.symm.trans extracted
  exact fits run rfl value hit search

/-- Whether letters that every match has are compared with their case. -/
def CaseCounts (condition : Condition) : Prop :=
  ∀ regex, Pattern.compile condition.pattern condition.kind condition.caseSensitive = .ok regex ->
    regex.root.cased (· == .exact) = true

/-- Whether letters of a value that compare equal to those of a term fold alike: the index keeps
the letters i with and without a dot apart, comparison without case does not. -/
def Tells (condition : Condition) (term value : List Char) : Prop :=
  condition.CaseCounts \/ ∀ c ∈ term, ∀ d ∈ value, c.toNat ∈ Unicode.dottedCodes ->
    d.toNat ∈ Unicode.dottedCodes -> Unicode.foldCode d.toNat = Unicode.foldCode c.toNat

theorem Tells.mono {term value part piece : List Char} (tells : condition.Tells term value)
    (withinTerm : part ⊆ term) (withinValue : piece ⊆ value) : condition.Tells part piece :=
  tells.imp_right fun alike c cMember d dMember =>
    alike c (withinTerm cMember) d (withinValue dMember)

def isPlain (c : Char) : Bool := c != '\u0130' && c != '\u0131'

theorem tells_of_plain (condition : Condition) (term value : List Char)
    (plain : (term ++ value).all isPlain = true) : condition.Tells term value := by
  have folds (c : Char) (member : c ∈ term ++ value) (dotted : c.toNat ∈ Unicode.dottedCodes) :
      Unicode.foldCode c.toNat = [0x69] := by
    have plainHere := List.all_eq_true.1 plain c member
    simp only [isPlain, Bool.and_eq_true, bne_iff_ne, ne_eq, ← Char.toNat_inj] at plainHere
    simp only [Unicode.dottedCodes, List.mem_cons, List.not_mem_nil, or_false] at dotted
    rcases dotted with is | is | is | is
    next => rw [is]; rfl
    next => rw [is]; rfl
    next => exact absurd is plainHere.1
    next => exact absurd is plainHere.2
  right
  intro c cMember d dMember cDotted dDotted
  rw [folds c (List.mem_append_left _ cMember) cDotted,
    folds d (List.mem_append_right _ dMember) dDotted]

/-- Whether the index finds the run in every value that satisfies the condition. -/
def Requires (condition : Condition) (run : List Char) : Prop :=
  ∀ value hit, condition.test value = .ok (some hit) -> condition.Tells run value.toList ->
    Library.holds (String.ofList run) value = true

theorem test_in_part (inPart : condition.kind ≠ .exact) {value : String} {hit : Pattern.Hit}
    (tested : condition.test value = .ok (some hit)) :
    ∃ regex found, Pattern.compile condition.pattern condition.kind condition.caseSensitive =
      .ok regex /\ regex.search value.toList = some found := by
  have tested := mapError_eq_ok.1 tested
  unfold Pattern.test at tested
  rw [if_neg (by simpa using inPart)] at tested
  split at tested
  next => cases tested
  next =>
    obtain ⟨regex, compiled, same⟩ := map_eq_ok.1 tested
    obtain ⟨found, search, _⟩ := Option.map_eq_some_iff.1 same
    exact ⟨regex, found, compiled, search⟩

theorem Ensures.requires (ensures : condition.Ensures run) (inPart : condition.kind ≠ .exact) :
    condition.Requires run := by
  intro value hit tested tells
  obtain ⟨regex, found, compiled, search⟩ := test_in_part inPart tested
  rcases tells with counts | alike
  next =>
    -- Letters that are compared with case are the same, so they fold alike.
    obtain ⟨start, stop, fits⟩ := ensures _ regex compiled (counts regex compiled) _ found search
    refine holds_of_fits _ run value start stop (fun c _ d _ like => ?_) fits
    obtain ⟨casing, isExact, same⟩ := like
    exact casing.foldCode_of_same _ _ (.inl (eq_of_beq isExact)) same
  next =>
    obtain ⟨start, stop, fits⟩ := ensures _ regex compiled (cased_anyhow _) _ found search
    refine holds_of_fits _ run value start stop (fun c cMember d dMember like => ?_) fits
    obtain ⟨casing, _, same⟩ := like
    -- Only the letters i compare equal to letters that fold otherwise, and those are i too.
    by_cases dotted : c.toNat ∈ Unicode.dottedCodes
    next => exact alike c cMember d dMember dotted (casing.dotted_of_same _ _ dotted same)
    next => exact casing.foldCode_of_same _ _ (.inr dotted) same

theorem equals_of_test (whole : condition.kind = .exact) {value : String} {hit : Pattern.Hit}
    (tested : condition.test value = .ok (some hit)) :
    Library.equals condition.pattern value = true := by
  have tested := mapError_eq_ok.1 tested
  unfold Pattern.test at tested
  rw [if_pos (by simpa using whole)] at tested
  split at tested
  next same =>
    unfold Pattern.sameText at same
    simp only [Library.equals, Library.folded, beq_iff_eq]
    split at same
    next => rw [eq_of_beq same]
    next => exact eq_of_beq same
  next => cases tested

theorem requires_exact (whole : condition.kind = .exact)
    (within : run <:+: condition.pattern.toList) : condition.Requires run := by
  intro value hit tested _
  have equal := equals_of_test whole tested
  simp only [Library.equals, Library.folded, beq_iff_eq] at equal
  unfold Library.holds Library.folded
  rw [Text.contains_iff, equal, String.toList_ofList]
  exact fold_within _ _ within

end Condition

namespace Probe

variable {condition : Condition}

theorem longestRunText?_eq_some {text term : String} (found : longestRunText? text = some term) :
    longestAlnumRun? text.toList = some term.toList := by
  obtain ⟨run, isRun, rfl⟩ := Option.map_eq_some_iff.1 found
  rw [isRun, String.toList_ofList]

theorem longestRunText?_within {text term : String} (found : longestRunText? text = some term) :
    term.toList <:+: text.toList /\ ∀ c ∈ term.toList, isAlnum c = true := by
  obtain ⟨within, alnum, _⟩ := longestAlnumRun?_within _ _ (longestRunText?_eq_some found)
  exact ⟨within, alnum⟩

section Requirements

variable (aligned : condition.kind = .regex ->
    Aligned (Regex.tokenize condition.pattern.toList).1) {term : String}

include aligned

theorem requires_term? (found : term? condition = .ok (some term)) :
    condition.Requires term.toList := by
  unfold term? at found
  cases kindIs : condition.kind with
  | exact =>
    rw [kindIs] at found
    cases found
    exact Condition.requires_exact kindIs List.infix_rfl
  | contains =>
    rw [kindIs] at found
    cases found
    exact (Condition.ensures_contains kindIs List.infix_rfl).requires (by simp [kindIs])
  | regex =>
    rw [kindIs] at found
    dsimp only at found
    split at found
    next literal extracted =>
      obtain ⟨run, rfl, rfl⟩ := Option.map_eq_some_iff.1 (Except.ok.inj found)
      rw [String.toList_ofList]
      exact (Condition.ensures_regex kindIs (aligned kindIs) extracted).requires (by simp [kindIs])
    next => cases found
  | like =>
    rw [kindIs] at found
    have run := longestRunText?_eq_some (Except.ok.inj found)
    exact (Condition.ensures_like kindIs run).requires (by simp [kindIs])
  | glob =>
    rw [kindIs] at found
    have run := longestRunText?_eq_some (Except.ok.inj found)
    exact (Condition.ensures_glob kindIs run).requires (by simp [kindIs])
  | other name =>
    -- No value is tested for such a pattern.
    intro value hit tested
    have tested := mapError_eq_ok.1 tested
    rw [kindIs] at tested
    cases tested

theorem requires_creatorTerm? (found : creatorTerm? condition = .ok (some term)) :
    condition.Requires term.toList := by
  unfold creatorTerm? at found
  cases kindIs : condition.kind with
  | exact =>
    rw [kindIs] at found
    exact Condition.requires_exact kindIs (longestRunText?_within (Except.ok.inj found)).1
  | contains =>
    rw [kindIs] at found
    have within := (longestRunText?_within (Except.ok.inj found)).1
    exact (Condition.ensures_contains kindIs within).requires (by simp [kindIs])
  | _ =>
    rw [kindIs] at found
    exact requires_term? aligned found

end Requirements

theorem alnum_extract {pattern run : List Char} (extracted : extract pattern = .ok (some run)) :
    ∀ c ∈ run, isAlnum c = true := by
  obtain ⟨stream, _, longest⟩ := extract_eq_some extracted
  exact (longestRun?_within stream run longest).2.1

theorem alnum_creatorTerm? {term : String} (found : creatorTerm? condition = .ok (some term)) :
    ∀ c ∈ term.toList, isAlnum c = true := by
  unfold creatorTerm? term? at found
  cases kindIs : condition.kind with
  | regex =>
    rw [kindIs] at found
    dsimp only at found
    split at found
    next literal extracted =>
      obtain ⟨run, rfl, rfl⟩ := Option.map_eq_some_iff.1 (Except.ok.inj found)
      rw [String.toList_ofList]
      exact alnum_extract extracted
    next => cases found
  | _ =>
    rw [kindIs] at found
    exact (longestRunText?_within (Except.ok.inj found)).2

theorem term?_of_valid (valid : Pattern.validate condition.pattern condition.kind = .ok ())
    (aligned : condition.kind = .regex -> Aligned (Regex.tokenize condition.pattern.toList).1) :
    ∃ term, term? condition = .ok term := by
  unfold term?
  cases kindIs : condition.kind with
  | regex =>
    rw [kindIs] at valid
    obtain ⟨regex, compiled⟩ := Pattern.compile_of_valid valid (by decide) true
    obtain ⟨literal?, extracted, _⟩ := extract_fits
      (Pattern.compile_regex_eq_ok compiled) (aligned kindIs) (cased_anyhow _)
    exact ⟨_, by rw [extracted]⟩
  | _ => exact ⟨_, rfl⟩

theorem creatorTerm?_of_valid (valid : Pattern.validate condition.pattern condition.kind = .ok ())
    (aligned : condition.kind = .regex -> Aligned (Regex.tokenize condition.pattern.toList).1) :
    ∃ term, creatorTerm? condition = .ok term := by
  unfold creatorTerm?
  split
  next => exact ⟨_, rfl⟩
  next => exact ⟨_, rfl⟩
  next => exact term?_of_valid valid aligned

end Probe

namespace Text

theorem infix_of_separated {α : Type} {run first last : List α} {separator : α}
    (apart : separator ∉ run) (within : run <:+: first ++ separator :: last) :
    run <:+: first \/ run <:+: last := by
  obtain ⟨before, after, split⟩ := within
  rw [List.append_assoc, List.append_eq_append_iff] at split
  -- The run begins before the separator or after it, and it cannot reach over it.
  rcases split with ⟨middle, firstIs, restIs⟩ | ⟨middle, beforeIs, restIs⟩
  next =>
    left
    rcases List.append_eq_append_iff.1 restIs with ⟨behind, middleIs, _⟩ | ⟨behind, runIs, tail⟩
    next => exact ⟨before, behind, by rw [firstIs, middleIs, List.append_assoc]⟩
    next =>
      cases behind with
      | nil => exact ⟨before, [], by simp [firstIs, runIs]⟩
      | cons item behind =>
        cases tail
        exact absurd (by simp [runIs]) apart
  next =>
    cases middle with
    | nil =>
      cases run with
      | nil => exact .inl List.nil_infix
      | cons item run =>
        cases restIs
        exact absurd (by simp) apart
    | cons item middle =>
      cases restIs
      exact .inr ⟨middle, after, by simp⟩

theorem trim_infix (text : List Char) : trim text <:+: text := by
  unfold trim trimWith
  have front := List.dropWhile_suffix (fun c : Char => Unicode.isBlank c.toNat) (l := text)
  refine List.IsInfix.trans (List.IsPrefix.isInfix ?_) front.isInfix
  rw [← List.reverse_suffix, List.reverse_reverse]
  exact List.dropWhile_suffix _

end Text

namespace Creator

theorem blank_notMem_fold {run : List Char} (alnum : ∀ c ∈ run, isAlnum c = true) :
    ' ' ∉ Unicode.fold run := by
  have small : ∀ code < 0x80, isAsciiWord code = true ->
      ' ' ∉ (Unicode.foldCode code).map Char.ofNat := by
    decide +kernel
  intro member
  obtain ⟨c, within, folded⟩ := List.mem_flatMap.1 member
  have letter := alnum c within
  exact small c.toNat (ascii_of_alnum letter) (word_of_alnum letter) folded

theorem creatorHolds_of_get {term : String} (alnum : ∀ c ∈ term.toList, isAlnum c = true)
    (creator : Creator) (part : NamePart) (held : Library.holds term (creator.get part) = true) :
    Library.creatorHolds term creator = true := by
  unfold Library.creatorHolds
  simp only [List.any_cons, List.any_nil, Bool.or_false, Bool.or_eq_true]
  cases part with
  | firstName => exact .inl held
  | lastName => exact .inr (.inl held)
  | fullName =>
    by_cases full : creator.fullName = ""
    next =>
      have displayed : creator.get .fullName =
          String.ofList (Text.trim (creator.firstName.toList ++ ' ' :: creator.lastName.toList)) := by
        simp [get, displayName, full]
      rw [displayed] at held
      unfold Library.holds Library.folded at held ⊢
      rw [Text.contains_iff, String.toList_ofList] at held
      -- A word that is found in both names with a blank between them lies in one of the two.
      have within := held.trans (fold_within _ _ (Text.trim_infix _))
      rw [Unicode.fold_append] at within
      rw [Text.contains_iff, Text.contains_iff]
      exact (Text.infix_of_separated (blank_notMem_fold alnum) within).imp_right .inl
    next =>
      have displayed : creator.get .fullName = creator.fullName := by
        simp [get, displayName, full]
      rw [displayed] at held
      exact .inr (.inr held)

end Creator

end BibEdit
