import BibEdit.Proofs.Pattern.Test
import BibEdit.Proofs.Regex.Language

set_option autoImplicit false

namespace BibEdit.Wildcard

open Regex

def Part.Takes : Part -> List Char -> Prop
  | .letter c, text => text = [c]
  | .one, text => ∃ c, c ≠ '\n' /\ text = [c]
  | .many, text => '\n' ∉ text

/-- A text that is made of what the parts stand for, one after the other. -/
def Covers : List Part -> List Char -> Prop
  | [], text => text = []
  | part :: rest, text => ∃ first later, part.Takes first /\ Covers rest later /\ text = first ++ later

theorem covers_letters (letters text : List Char) :
    Covers (letters.map Part.letter) text <-> text = letters := by
  induction letters generalizing text with
  | nil => rfl
  | cons c rest ih =>
    simp only [List.map_cons, Covers, Part.Takes, ih]
    constructor
    next =>
      rintro ⟨_, _, rfl, rfl, rfl⟩
      rfl
    next =>
      rintro rfl
      exact ⟨[c], rest, rfl, rfl, rfl⟩

theorem matches_letter (c : Char) :
    ((Part.letter c).node (casingOf false)).Matches (Part.letter c).Takes := by
  have same (d : Char) : (casingOf false).same c.toNat d.toNat = true <-> d = c :=
    beq_iff_eq.trans Char.toNat_inj
  exact (matches_literal _ c).congr fun part => by simp [same, Part.Takes]

theorem matches_one : (Part.one.node (casingOf false)).Matches Part.one.Takes := by
  have decides (d : Char) : (false || d.toNat != 0xa) = true <-> d ≠ '\n' := by
    rw [Bool.false_or, bne_iff_ne]
    exact not_congr (Char.toNat_inj (d := '\n'))
  exact matches_step _ decides fun _ _ _ => rfl

theorem matches_many : (Part.many.node (casingOf false)).Matches Part.many.Takes :=
  (matches_rep matches_one).congr fun _ =>
    ⟨fun all member => all _ member rfl, fun free _ member same => free (same ▸ member)⟩

theorem matches_part (part : Part) : (part.node (casingOf false)).Matches part.Takes := by
  cases part with
  | letter c => exact matches_letter c
  | one => exact matches_one
  | many => exact matches_many

theorem matches_parts (parts : List Part) :
    (Node.ofList (nodes false parts)).Matches (Covers parts) := by
  induction parts with
  | nil => exact matches_empty
  | cons part rest ih => exact matches_cons (matches_part part) ih

/-- The texts that a LIKE pattern stands for. -/
inductive LikeLanguage : List Char -> List Char -> Prop where
  | done : LikeLanguage [] []
  | many {pattern run text : List Char} (free : '\n' ∉ run)
    (rest : LikeLanguage pattern text) : LikeLanguage ('%' :: pattern) (run ++ text)
  | one {pattern text : List Char} {c : Char} (other : c ≠ '\n')
    (rest : LikeLanguage pattern text) : LikeLanguage ('_' :: pattern) (c :: text)
  | escaped {pattern text : List Char} {c : Char}
    (rest : LikeLanguage pattern text) : LikeLanguage ('\\' :: c :: pattern) (c :: text)
  -- Nothing is left for a backslash at the end to escape.
  | backslash : LikeLanguage ['\\'] ['\\']
  | letter {pattern text : List Char} {c : Char} (plain : c ∉ ['%', '_', '\\'])
    (rest : LikeLanguage pattern text) : LikeLanguage (c :: pattern) (c :: text)

theorem likeParts_letter {c : Char} (plain : c ∉ ['%', '_', '\\']) (pattern : List Char) :
    likeParts (c :: pattern) = .letter c :: likeParts pattern := by
  simp only [List.mem_cons, List.not_mem_nil, or_false, not_or] at plain
  rw [likeParts]
  next => exact fun is _ => plain.2.2 is
  next => exact fun _ _ is _ => plain.2.2 is
  next => exact plain.1
  next => exact plain.2.1

theorem covers_of_like {pattern text : List Char} (belongs : LikeLanguage pattern text) :
    Covers (likeParts pattern) text := by
  induction belongs with
  | done => rfl
  | many free _ ih => exact ⟨_, _, free, ih, rfl⟩
  | one other _ ih => exact ⟨[_], _, ⟨_, other, rfl⟩, ih, rfl⟩
  | escaped _ ih => exact ⟨[_], _, rfl, ih, rfl⟩
  | backslash => exact ⟨['\\'], [], rfl, rfl, rfl⟩
  | letter plain _ ih =>
    rw [likeParts_letter plain]
    exact ⟨[_], _, rfl, ih, rfl⟩

theorem like_of_covers (pattern text : List Char) (covers : Covers (likeParts pattern) text) :
    LikeLanguage pattern text := by
  fun_induction likeParts pattern generalizing text with
  | case1 =>
    cases covers
    exact .done
  | case2 =>
    obtain ⟨_, _, rfl, rfl, rfl⟩ := covers
    exact .backslash
  | case3 c rest ih =>
    obtain ⟨_, later, rfl, behind, rfl⟩ := covers
    exact .escaped (ih later behind)
  | case4 rest ih =>
    obtain ⟨run, later, free, behind, rfl⟩ := covers
    exact .many free (ih later behind)
  | case5 rest ih =>
    obtain ⟨_, later, ⟨c, other, rfl⟩, behind, rfl⟩ := covers
    exact .one other (ih later behind)
  | case6 c rest noEnd noEscape noMany noOne ih =>
    obtain ⟨_, later, rfl, behind, rfl⟩ := covers
    refine .letter ?_ (ih later behind)
    simp only [List.mem_cons, List.not_mem_nil, or_false, not_or]
    refine ⟨noMany, noOne, fun is => ?_⟩
    cases rest with
    | nil => exact noEnd is rfl
    | cons d others => exact noEscape d others is rfl

theorem like_iff (pattern text : List Char) :
    LikeLanguage pattern text <-> Covers (likeParts pattern) text :=
  ⟨covers_of_like, like_of_covers pattern text⟩

end BibEdit.Wildcard

namespace BibEdit.Pattern

open Regex Wildcard

variable {pattern value : String} {kind : PatternKind} {caseSensitive : Bool} {regex : Regex}

theorem test_of_compile (inPart : kind ≠ .exact) (known : kind.isKnown = true)
    (compiled : compile pattern kind caseSensitive = .ok regex) :
    test value pattern kind caseSensitive =
      .ok ((regex.search value.toList).map (hitOf value.toList)) := by
  unfold test
  rw [if_neg (by simpa using inPart), known, compiled]
  rfl

/-- A hit is a stretch of a value that belongs to a language, and none begins before it. -/
structure Hit.Earliest (hit : Hit) (language : List Char -> Prop) (value : List Char) : Prop where
  belongs : language hit.text
  within : hit.start + hit.length <= value.length
  stands : hit.text = Text.slice value hit.start (hit.start + hit.length)
  earliest : ∀ start part, language part -> part <+: value.drop start -> hit.start <= start

theorem hit_earliest {language : List Char -> Prop} (root : regex.root.Matches language)
    {text : List Char} {found : Match} (searched : regex.search text = some found) :
    (hitOf text found).Earliest language text := by
  obtain ⟨ends, inside, belongs, earliest⟩ := search_some root searched
  have width : (hitOf text found).length = found.stop - found.start :=
    Text.slice_length text found.start found.stop inside
  have stop : found.start + (hitOf text found).length = found.stop := by omega
  exact ⟨belongs, stop.trans_le inside, congrArg (Text.slice text found.start) stop.symm, earliest⟩

theorem eq_some_iff_of_unique {α : Type} {answer : Option α} {right : α -> Prop}
    (sound : ∀ one, answer = some one -> right one)
    (complete : ∀ one, right one -> answer.isSome = true)
    (unique : ∀ one other, right one -> right other -> one = other) (one : α) :
    answer = some one <-> right one := by
  refine ⟨sound one, fun stands => ?_⟩
  obtain ⟨found, is⟩ := Option.isSome_iff_exists.1 (complete one stands)
  rw [is, unique found one (sound found is) stands]

/-- A LIKE pattern can always be compiled. A test for it that looks at case finds the first place in
a value where a text of the pattern stands, and such a text there, if there is one at all. -/
theorem test_like (pattern value : String) :
    (∀ caseSensitive, ∃ regex, compile pattern .like caseSensitive = .ok regex) /\
      ∃ outcome, test value pattern .like true = .ok outcome /\
        (outcome.isSome = true <->
          ∃ part, LikeLanguage pattern.toList part /\ part <:+: value.toList) /\
        ∀ hit, outcome = some hit -> hit.Earliest (LikeLanguage pattern.toList) value.toList := by
  refine ⟨fun caseSensitive => (compile_like pattern caseSensitive).imp fun _ => And.left, ?_⟩
  obtain ⟨regex, compiled, rootIs⟩ := compile_like pattern true
  have root : regex.root.Matches (LikeLanguage pattern.toList) := by
    rw [rootIs]
    exact (matches_parts _).congr fun part => (like_iff _ part).symm
  refine ⟨_, test_of_compile (by decide) rfl compiled, ?_, fun hit is => ?_⟩
  next =>
    rw [Option.isSome_map]
    exact search_isSome_iff root
  next =>
    obtain ⟨found, searched, rfl⟩ := Option.map_eq_some_iff.1 is
    exact hit_earliest root searched

-- An escaped sign stands for itself, an open one for any text up to the end of the line.
example : test "so 100% _sure_" "\\%%\\_s" .like true = .ok (some ⟨"% _s".toList, 6⟩) :=
  eq_ok_of_toOption (by decide)

theorem compile_contains_exact (search : String) :
    ∃ regex, compile search .contains true = .ok regex /\
      regex.root.Matches fun part => part = search.toList := by
  obtain ⟨regex, compiled, rootIs⟩ := compile_contains search true
  refine ⟨regex, compiled, ?_⟩
  rw [rootIs]
  exact (matches_parts _).congr (covers_letters _)

/-- A text occurs at a place of another, and at none before it. -/
structure FirstAt (needle text : List Char) (place : Nat) : Prop where
  stands : needle <+: text.drop place
  earliest : ∀ start, needle <+: text.drop start -> place <= start

theorem FirstAt.infix {needle text : List Char} {place : Nat} (first : FirstAt needle text place) :
    needle <:+: text :=
  first.stands.isInfix.trans (List.drop_suffix _ _).isInfix

theorem FirstAt.unique {needle text : List Char} {place other : Nat}
    (first : FirstAt needle text place) (otherFirst : FirstAt needle text other) : place = other :=
  Nat.le_antisymm (first.earliest other otherFirst.stands) (otherFirst.earliest place first.stands)

/-- A text to be contained can always be compiled, whatever signs are in it. A test for it that looks
at case finds its first occurrence in a value, if it has one at all. -/
theorem test_contains (pattern value : String) :
    (∀ caseSensitive, ∃ regex, compile pattern .contains caseSensitive = .ok regex) /\
      ∃ outcome, test value pattern .contains true = .ok outcome /\
        (outcome.isSome = true <-> pattern.toList <:+: value.toList) /\
        ∀ hit, outcome = some hit <->
          FirstAt pattern.toList value.toList hit.start /\ hit.text = pattern.toList /\
            hit.length = pattern.length := by
  refine ⟨fun caseSensitive => (compile_contains pattern caseSensitive).imp fun _ => And.left, ?_⟩
  obtain ⟨regex, compiled, root⟩ := compile_contains_exact pattern
  have occurs : (regex.search value.toList).isSome = true <-> pattern.toList <:+: value.toList := by
    rw [search_isSome_iff root]
    simp
  refine ⟨_, test_of_compile (by decide) rfl compiled, ?_,
    eq_some_iff_of_unique (fun hit is => ?_) ?_ ?_⟩
  next => rw [Option.isSome_map, occurs]
  next =>
    obtain ⟨found, searched, rfl⟩ := Option.map_eq_some_iff.1 is
    have earliest := hit_earliest root searched
    refine ⟨⟨?_, fun start => earliest.earliest start _ rfl⟩, earliest.belongs,
      congrArg List.length earliest.belongs⟩
    rw [← earliest.belongs, earliest.stands]
    exact List.take_prefix _ _
  next =>
    rintro hit ⟨first, _⟩
    rw [Option.isSome_map]
    exact occurs.2 first.infix
  next =>
    rintro hit other ⟨first, text, _⟩ ⟨otherFirst, otherText, _⟩
    exact congrArg₂ Hit.mk (text.trans otherText.symm) (first.unique otherFirst)

-- Signs that mean something elsewhere in a pattern are looked for as they are.
example : test "see (a.b)*, (a.b)*" "(a.b)*" .contains true = .ok (some ⟨"(a.b)*".toList, 4⟩) :=
  eq_ok_of_toOption (by decide +kernel)

end BibEdit.Pattern
