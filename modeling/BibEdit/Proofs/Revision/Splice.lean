import BibEdit.Proofs.Pattern.Test
import BibEdit.Proofs.Regex.Leftmost
import BibEdit.Revision

set_option autoImplicit false

namespace BibEdit

namespace Template

/-- No dollar sign of a template stands before more digits than a numeral may have. -/
def Brief (template : List Char) : Prop :=
  ∀ before after, template = before ++ '$' :: after ->
    (numberedContent after).length <= Text.numeralLimit

theorem brief_of_length (template : List Char) (short : template.length <= Text.numeralLimit) :
    Brief template := by
  rintro before after rfl
  have within : (numberedContent after).length <= after.length := (List.takeWhile_sublist _).length_le
  simp only [List.length_append, List.length_cons] at short
  omega

theorem placeholder_of_parts (content : List Char -> List Char) (margin skip : Nat)
    (template written inner : List Char)
    (member : .placeholder written inner ∈ partsFrom content margin skip template) :
    ∃ before after, template = before ++ '$' :: after /\ inner = content after := by
  have further {c : Char} {rest : List Char} :
      (∃ before after, rest = before ++ '$' :: after /\ inner = content after) ->
        ∃ before after, c :: rest = before ++ '$' :: after /\ inner = content after := by
    rintro ⟨before, after, rfl, is⟩
    exact ⟨c :: before, after, rfl, is⟩
  fun_induction partsFrom content margin skip template with
  | case1 => cases member
  | case2 skip c rest ih => exact further (ih member)
  | case3 c rest dollar width ih =>
    rcases List.mem_cons.1 member with here | later
    next =>
      cases here
      have sign : c = '$' := by
        simp only [Bool.and_eq_true, beq_iff_eq] at dollar
        exact dollar.1
      exact ⟨[], rest, by rw [sign]; rfl, rfl⟩
    next => exact further (ih later)
  | case4 c rest _ ih =>
    rcases List.mem_cons.1 member with here | later
    next => cases here
    next => exact further (ih later)

theorem fillNumbered_succeeds (groups : List (Option (List Char))) (parts : List Part)
    (short : ∀ written digits, .placeholder written digits ∈ parts ->
      digits.length <= Text.numeralLimit) :
    ∃ text, fillNumbered groups parts = .ok text := by
  induction parts with
  | nil => exact ⟨[], rfl⟩
  | cons part rest ih =>
    obtain ⟨tail, filled⟩ := ih fun written digits member =>
      short written digits (List.mem_cons_of_mem _ member)
    cases part with
    | text c => exact ⟨c :: tail, by rw [fillNumbered, filled]; rfl⟩
    | placeholder written digits =>
      have value : Text.runValue digits = .ok _ := if_pos (short written digits (by simp))
      exact ⟨_, by rw [fillNumbered, value, filled]; rfl⟩

theorem replacer_succeeds (template : List Char) (brief : Brief template) (subject : List Char)
    (found : Regex.Match) : ∃ text, replacer template subject found = .ok text := by
  obtain ⟨numbered, filled⟩ := fillNumbered_succeeds (found.groupTexts subject)
    (numberedParts template) fun written digits member => by
      obtain ⟨before, after, split, rfl⟩ := placeholder_of_parts _ _ _ _ _ _ member
      exact brief before after split
  unfold replacer
  split_ifs
  next => exact ⟨_, rfl⟩
  next => exact ⟨_, rfl⟩
  next => exact ⟨_, rfl⟩
  next => exact ⟨_, rfl⟩
  next => exact ⟨_, rfl⟩
  next => exact ⟨numbered, filled⟩
  next => split <;> exact ⟨_, rfl⟩
  next => exact ⟨_, rfl⟩

end Template

namespace Revision

open Regex

theorem texts_eq_slices (text : List Char) (finds : List Match) :
    finds.map (fun found => found.text text) =
      (finds.map Match.span).map fun span => Text.slice text span.1 span.2 := by
  rw [List.map_map]
  rfl

/-- Replacing the matches of a regex: there is a replacement for each of them, and these stand between
the pieces around the matches. -/
theorem replaceMatches_eq_ok {regex : Regex} {replacer : Replacer} {value : String}
    {replaced : Replaced} :
    replaceMatches regex replacer value = .ok replaced <->
      ∃ texts, List.Forall₂ (fun found text => replacer value.toList found = .ok text)
          (regex.findAll value.toList) texts /\
        replaced = ⟨String.ofList (Text.weave (Text.gaps value.toList 0
          ((regex.findAll value.toList).map Match.span)) texts),
          (regex.findAll value.toList).length⟩ := by
  have woven : replaceMatches regex replacer value =
      ((regex.findAll value.toList).mapM (replacer value.toList)).map fun texts =>
        ⟨String.ofList (Text.weave (Text.gaps value.toList 0
          ((regex.findAll value.toList).map Match.span)) texts),
          (regex.findAll value.toList).length⟩ := by
    unfold replaceMatches
    dsimp only
    rw [substitute_eq]
    cases (regex.findAll value.toList).mapM (replacer value.toList) <;> rfl
  rw [woven, map_eq_ok]
  exact exists_congr fun _ => and_congr mapM_eq_ok eq_comm

theorem apply_regex {search : String} {caseSensitive : Bool} {regex : Regex}
    (compiled : Pattern.compile search .regex caseSensitive = .ok regex)
    (replacement : Replacement) (value : String) :
    apply ⟨search, replacement, .regex, caseSensitive⟩ value =
      replaceMatches regex replacement.replacer value := by
  unfold apply
  rw [if_pos (by rfl), compiled]
  rfl

/-- The matches of a regex in a value lie apart, from left to right, each the first after the one
before. The value is the pieces around them with their texts between, and a revision gives the same
pieces with the replacements between, just when there is one for each match. For a template without
very long numerals there is. -/
theorem apply_splices (search : String) (valid : Pattern.validate search .regex = .ok ())
    (caseSensitive : Bool) (replacement : Replacement) (value : String) :
    ∃ regex finds pieces,
      Pattern.compile search .regex caseSensitive = .ok regex /\
      finds = regex.findAll value.toList /\
      Leftmost regex value.toList.toArray 0 false finds /\
      Text.Apart value.length 0 (finds.map Match.span) /\
      pieces = Text.gaps value.toList 0 (finds.map Match.span) /\
      Text.weave pieces (finds.map fun found => found.text value.toList) = value.toList /\
      (∀ replaced, apply ⟨search, replacement, .regex, caseSensitive⟩ value = .ok replaced <->
        ∃ texts, List.Forall₂
            (fun found text => replacement.replacer value.toList found = .ok text) finds texts /\
          replaced = ⟨String.ofList (Text.weave pieces texts), finds.length⟩) /\
      (∀ replaced, apply ⟨search, replacement, .regex, caseSensitive⟩ value = .ok replaced ->
        replaced.count = 0 -> replaced.result = value) /\
      ∀ template, replacement = .template template -> Template.Brief template.toList ->
        ∀ found, ∃ text, replacement.replacer value.toList found = .ok text := by
  obtain ⟨regex, compiled⟩ := Pattern.compile_of_valid valid (by simp) caseSensitive
  have applied := apply_regex compiled replacement value
  have apart := findAll_apart regex value.toList
  have whole := Text.weave_slices value.toList 0 _ apart
  refine ⟨regex, _, _, compiled, rfl, findAll_leftmost regex value.toList, apart, rfl, ?_, ?_, ?_, ?_⟩
  next => rw [texts_eq_slices, whole, List.drop_zero]
  next =>
    intro replaced
    rw [applied]
    exact replaceMatches_eq_ok
  next =>
    intro replaced done none
    rw [applied] at done
    obtain ⟨texts, given, rfl⟩ := replaceMatches_eq_ok.1 done
    have noMatch : regex.findAll value.toList = [] := List.length_eq_zero_iff.1 none
    rw [noMatch] at given whole
    cases given
    dsimp only
    rw [noMatch]
    simpa using congrArg String.ofList whole
  next =>
    rintro template rfl brief found
    exact Template.replacer_succeeds _ brief _ _

theorem apply_splices_next_to_empty :
    Pattern.validate "(x*)" .regex = .ok () /\
      apply ⟨"(x*)", .template "<$1>", .regex, true⟩ "axxb" = .ok ⟨"<>a<xx><>b<>", 4⟩ /\
      ∀ found, ∃ text, (Replacement.template "<$1>").replacer "axxb".toList found = .ok text := by
  have valid : Pattern.validate "(x*)" .regex = .ok () := eq_ok_of_toOption (by decide +kernel)
  obtain ⟨regex, finds, pieces, compiled, rfl, _, _, rfl, _, spliced, _, fills⟩ :=
    apply_splices "(x*)" valid true (.template "<$1>") "axxb"
  have tree : Pattern.compile "(x*)" .regex true =
      .ok ⟨.group 1 (.rep .greedy 0 none (.literal false 0x78 .exact)), 1, []⟩ := rfl
  cases compiled.symm.trans tree
  have found : findAll ⟨.group 1 (.rep .greedy 0 none (.literal false 0x78 .exact)), 1, []⟩
      "axxb".toList = [⟨0, 0, [some (0, 0)]⟩, ⟨1, 3, [some (1, 3)]⟩, ⟨3, 3, [some (3, 3)]⟩,
        ⟨4, 4, [some (4, 4)]⟩] := by decide +kernel
  rw [found] at spliced
  refine ⟨valid, (spliced _).2 ⟨["<>".toList, "<xx>".toList, "<>".toList, "<>".toList], ?_, rfl⟩,
    fills _ rfl (Template.brief_of_length _ (by decide))⟩
  exact .cons (eq_ok_of_toOption (by decide +kernel)) <|
    .cons (eq_ok_of_toOption (by decide +kernel)) <|
    .cons (eq_ok_of_toOption (by decide +kernel)) <|
    .cons (eq_ok_of_toOption (by decide +kernel)) .nil

end Revision

end BibEdit
