import BibEdit.Proofs.Revision.Splice
import Mathlib.Data.Nat.Digits.Defs

set_option autoImplicit false

namespace BibEdit.Template

/-- A dollar sign and all the digits that follow it. -/
def NumberedSign (written digits after : List Char) : Prop :=
  digits ≠ [] /\ (∀ d ∈ digits, Text.isDecimalDigit d = true) /\
    (∀ d ∈ after.head?, Text.isDecimalDigit d = false) /\ written = '$' :: digits

/-- A dollar sign and a name in braces. -/
def NamedSign (written name _after : List Char) : Prop :=
  name ≠ [] /\ '\x7d' ∉ name /\ written = '$' :: '\x7b' :: (name ++ ['\x7d'])

def Numbers (digits : List Char) (number : Nat) : Prop :=
  ∃ values, List.Forall₂ (fun c value => Unicode.decimal? c.toNat = some value) digits values /\
    number = Nat.ofDigits 10 values.reverse

def TookPart (groups : List (Option (List Char))) (number : Nat) (text : List Char) : Prop :=
  1 <= number /\ groups[number - 1]? = some (some text)

/-- A numbered placeholder stands for its group, and for itself if that took no part. -/
def NumberedText (groups : List (Option (List Char))) (written digits text : List Char) : Prop :=
  ∃ number, Numbers digits number /\
    (TookPart groups number text \/ (∀ other, ¬ TookPart groups number other) /\ text = written)

section Signs

variable (sign gives : List Char -> List Char -> List Char -> Prop)

def HasSign (template : List Char) : Prop :=
  ∃ before written inner after, template = before ++ (written ++ after) /\ sign written inner after

/-- A template with texts in the place of its placeholders. What is put in is not looked at again, and
whatever is no placeholder stays. -/
inductive WrittenOut : List Char -> List Char -> Prop where
  | done : WrittenOut [] []
  | placeholder {written inner after text result : List Char} (stands : sign written inner after)
    (given : gives written inner text) (later : WrittenOut after result) :
    WrittenOut (written ++ after) (text ++ result)
  | kept {c : Char} {after result : List Char}
    (plain : ∀ written inner behind, c :: after = written ++ behind -> ¬ sign written inner behind)
    (later : WrittenOut after result) : WrittenOut (c :: after) (c :: result)

end Signs

section Reading

variable {content : List Char -> List Char} {margin : Nat}
  {sign gives : List Char -> List Char -> List Char -> Prop} {template : List Char}

structure Marks (content : List Char -> List Char) (margin : Nat)
    (sign : List Char -> List Char -> List Char -> Prop) : Prop where
  found : ∀ rest, content rest ≠ [] -> sign ('$' :: rest.take ((content rest).length + margin))
    (content rest) (rest.drop ((content rest).length + margin))
  shape : ∀ written inner after, sign written inner after -> ∃ rest,
    written ++ after = '$' :: rest /\ content rest = inner /\ inner ≠ [] /\
      written = '$' :: rest.take (inner.length + margin)

theorem Marks.unique (marks : Marks content margin sign) {written inner after otherWritten
    otherInner otherAfter : List Char} (stands : sign written inner after)
    (otherStands : sign otherWritten otherInner otherAfter)
    (same : written ++ after = otherWritten ++ otherAfter) :
    written = otherWritten /\ inner = otherInner /\ after = otherAfter := by
  obtain ⟨rest, split, rfl, _, is⟩ := marks.shape _ _ _ stands
  obtain ⟨otherRest, otherSplit, rfl, _, otherIs⟩ := marks.shape _ _ _ otherStands
  obtain rfl : rest = otherRest := by
    rw [split, otherSplit] at same
    exact (List.cons.inj same).2
  have one : written = otherWritten := is.trans otherIs.symm
  subst one
  exact ⟨rfl, rfl, List.append_cancel_left same⟩

-- Along the first way to write it out: where a placeholder stands the second way can only replace the
-- same one, and where none stands it can only keep the character.
theorem WrittenOut.unique (marks : Marks content margin sign)
    (functional : ∀ written inner after one other, sign written inner after ->
      gives written inner one -> gives written inner other -> one = other)
    {one other : List Char} (first : WrittenOut sign gives template one)
    (second : WrittenOut sign gives template other) : one = other := by
  induction first generalizing other with
  | done =>
    generalize nothing : [] = template at second
    cases second with
    | done => rfl
    | placeholder stands given later =>
      obtain ⟨rest, split, _⟩ := marks.shape _ _ _ stands
      rw [← nothing] at split
      cases split
    | kept plain later => cases nothing
  | @placeholder written inner after text result stands given later ih =>
    generalize templateIs : written ++ after = template at second
    cases second with
    | done =>
      obtain ⟨rest, split, _⟩ := marks.shape _ _ _ stands
      rw [templateIs] at split
      cases split
    | placeholder otherStands otherGiven otherLater =>
      obtain ⟨rfl, rfl, rfl⟩ := marks.unique stands otherStands templateIs
      rw [functional _ _ _ _ _ stands given otherGiven, ih otherLater]
    | kept plain otherLater => exact absurd stands (plain _ _ _ templateIs.symm)
  | @kept c after result plain later ih =>
    generalize templateIs : c :: after = template at second
    cases second with
    | done => cases templateIs
    | placeholder stands given otherLater => exact absurd stands (plain _ _ _ templateIs)
    | kept _ otherLater =>
      obtain ⟨rfl, rfl⟩ := List.cons.inj templateIs
      rw [ih otherLater]

theorem WrittenOut.iff_eq (marks : Marks content margin sign)
    (functional : ∀ written inner after one other, sign written inner after ->
      gives written inner one -> gives written inner other -> one = other)
    {result : List Char} (written : WrittenOut sign gives template result) (text : List Char) :
    WrittenOut sign gives template text <-> text = result := by
  constructor
  next => exact fun other => other.unique marks functional written
  next =>
    rintro rfl
    exact written

def Part.Comes (gives : List Char -> List Char -> List Char -> Prop) : Part -> List Char -> Prop
  | .text c, result => result = [c]
  | .placeholder written inner, result => gives written inner result

theorem writtenOut_of_parts (marks : Marks content margin sign) (skip : Nat)
    (texts : List (List Char))
    (given : List.Forall₂ (Part.Comes gives) (partsFrom content margin skip template) texts) :
    WrittenOut sign gives (template.drop skip) texts.flatten := by
  -- What is still to be skipped is the rest of a placeholder that has been written out.
  fun_induction partsFrom content margin skip template generalizing texts with
  | case1 =>
    cases given
    rw [List.drop_nil]
    exact .done
  | case2 skip c rest ih => exact ih texts given
  | case3 c rest dollar width ih =>
    rw [Bool.and_eq_true, beq_iff_eq, Bool.not_eq_true', List.isEmpty_eq_false_iff] at dollar
    obtain ⟨rfl, someContent⟩ := dollar
    cases given with
    | @cons _ text _ texts here later =>
      have split : ('$' :: rest).drop 0 = '$' :: rest.take width ++ rest.drop width := by simp
      rw [split]
      exact .placeholder (marks.found rest someContent) here (ih texts later)
  | case4 c rest dollar ih =>
    cases given with
    | @cons _ text _ texts here later =>
      obtain rfl : text = [c] := here
      refine .kept (fun written inner behind split stands => dollar ?_) (ih texts later)
      obtain ⟨tail, is, rfl, someContent, _⟩ := marks.shape _ _ _ stands
      obtain ⟨rfl, rfl⟩ := List.cons.inj (split.trans is)
      simpa using someContent

theorem any_placeholder_iff (marks : Marks content margin sign) :
    (partsFrom content margin 0 template).any Part.isPlaceholder = true <-> HasSign sign template := by
  induction template with
  | nil =>
    constructor
    next => simp [partsFrom]
    next =>
      rintro ⟨before, written, inner, after, split, stands⟩
      obtain ⟨rest, is, _⟩ := marks.shape _ _ _ stands
      simp [is] at split
  | cons c rest ih =>
    rw [partsFrom]
    by_cases dollar : c = '$' /\ content rest ≠ []
    next =>
      -- What stands behind the placeholder does not matter.
      obtain ⟨rfl, someContent⟩ := dollar
      have here : HasSign sign ('$' :: rest) :=
        ⟨[], _, _, _, by simp, marks.found rest someContent⟩
      simp [someContent, here, Part.isPlaceholder]
    next =>
      have plain : (c == '$' && !(content rest).isEmpty) = false := by
        simpa [Bool.eq_false_iff] using dollar
      rw [plain, if_neg Bool.false_ne_true, List.any_cons, Part.isPlaceholder, Bool.false_or, ih]
      constructor
      next =>
        rintro ⟨before, written, inner, after, rfl, stands⟩
        exact ⟨c :: before, written, inner, after, rfl, stands⟩
      next =>
        rintro ⟨before, written, inner, after, split, stands⟩
        cases before with
        | nil =>
          obtain ⟨tail, is, rfl, someContent, _⟩ := marks.shape _ _ _ stands
          obtain ⟨rfl, rfl⟩ := List.cons.inj (split.trans is)
          exact absurd ⟨rfl, someContent⟩ dollar
        | cons d before =>
          obtain ⟨rfl, rfl⟩ := List.cons.inj split
          exact ⟨before, written, inner, after, rfl, stands⟩

end Reading

theorem marks_numbered : Marks numberedContent 0 NumberedSign where
  found rest someDigits := by
    have first : rest.take (numberedContent rest).length = numberedContent rest :=
      (List.prefix_iff_eq_take.1 (List.takeWhile_prefix _)).symm
    have behind : rest.drop (numberedContent rest).length = rest.dropWhile Text.isDecimalDigit := by
      have split := List.takeWhile_append_dropWhile (p := Text.isDecimalDigit) (l := rest)
      calc rest.drop (numberedContent rest).length
        _ = (numberedContent rest ++ rest.dropWhile Text.isDecimalDigit).drop
            (numberedContent rest).length := by rw [numberedContent, split]
        _ = rest.dropWhile Text.isDecimalDigit := List.drop_left
    rw [Nat.add_zero, first, behind]
    refine ⟨someDigits, fun d member => List.mem_takeWhile_imp member, fun d member => ?_, rfl⟩
    have stops := List.head?_dropWhile_not Text.isDecimalDigit rest
    rwa [Option.mem_def.1 member] at stops
  shape written digits after stands := by
    obtain ⟨someDigits, decimal, stops, rfl⟩ := stands
    have noneBehind : after.takeWhile Text.isDecimalDigit = [] := by
      cases after with
      | nil => rfl
      | cons d after => exact List.takeWhile_cons_of_neg (by simp [stops d rfl])
    have content : numberedContent (digits ++ after) = digits := by
      rw [numberedContent, List.takeWhile_append_of_pos decimal, noneBehind, List.append_nil]
    exact ⟨digits ++ after, rfl, content, someDigits, by simp⟩

theorem namedContent_closed (name after : List Char) (closed : '\x7d' ∉ name) :
    namedContent ('\x7b' :: (name ++ '\x7d' :: after)) = name := by
  have inner (c : Char) (member : c ∈ name) : (c != '\x7d') = true :=
    bne_iff_ne.2 fun same => closed (same ▸ member)
  have whole : (name ++ '\x7d' :: after).takeWhile (· != '\x7d') = name := by
    rw [List.takeWhile_append_of_pos inner]
    simp
  simp only [namedContent, whole]
  exact if_pos (by simp)

theorem namedContent_split (rest : List Char) (someName : namedContent rest ≠ []) :
    '\x7d' ∉ namedContent rest /\
      ∃ after, rest = '\x7b' :: (namedContent rest ++ '\x7d' :: after) := by
  unfold namedContent at someName ⊢
  split at someName
  next tail =>
    dsimp only at someName ⊢
    split at someName
    next closes =>
      obtain ⟨c, after, split, stop⟩ := Regex.Reader.takeWhile_stops (· != '\x7d') tail closes
      obtain rfl : c = '\x7d' := by simpa using stop
      rw [if_pos closes]
      exact ⟨fun member => by simpa using List.mem_takeWhile_imp member, after, congrArg _ split⟩
    next => exact absurd rfl someName
  next => exact absurd rfl someName

theorem marks_named : Marks namedContent 2 NamedSign where
  found rest someName := by
    obtain ⟨closed, after, split⟩ := namedContent_split rest someName
    refine ⟨someName, closed, ?_⟩
    generalize namedContent rest = name at split
    rw [split]
    simp [List.take_length_add_append]
  shape written name after stands := by
    obtain ⟨someName, closed, rfl⟩ := stands
    exact ⟨'\x7b' :: (name ++ '\x7d' :: after), by simp, namedContent_closed name after closed,
      someName, by simp [List.take_length_add_append]⟩

theorem digitsValue_eq (values : List Nat) :
    Text.digitsValue values = Nat.ofDigits 10 values.reverse := by
  rw [Nat.ofDigits_eq_foldr, List.foldr_reverse, Text.digitsValue]
  congr 1
  funext value digit
  exact Nat.add_comm _ _

theorem values_of_read {digits : List Char} {values : List Nat}
    (read : List.Forall₂ (fun c value => Unicode.decimal? c.toNat = some value) digits values) :
    values = digits.filterMap fun c => Unicode.decimal? c.toNat := by
  induction read with
  | nil => rfl
  | @cons c value digits values is _ ih =>
    rw [List.filterMap_cons_some (f := fun c : Char => Unicode.decimal? c.toNat) is, ← ih]

theorem read_of_decimal (digits : List Char)
    (decimal : ∀ d ∈ digits, Text.isDecimalDigit d = true) :
    List.Forall₂ (fun c value => Unicode.decimal? c.toNat = some value) digits
      (digits.filterMap fun c => Unicode.decimal? c.toNat) := by
  induction digits with
  | nil => exact .nil
  | cons d digits ih =>
    obtain ⟨value, is⟩ := Option.isSome_iff_exists.1 (decimal d (by simp))
    rw [List.filterMap_cons_some (f := fun c : Char => Unicode.decimal? c.toNat) is]
    exact .cons is (ih fun e member => decimal e (List.mem_cons_of_mem _ member))

theorem numbers_iff {digits : List Char} {number : Nat}
    (decimal : ∀ d ∈ digits, Text.isDecimalDigit d = true) :
    Numbers digits number <->
      number = Text.digitsValue (digits.filterMap fun c => Unicode.decimal? c.toNat) := by
  rw [digitsValue_eq]
  constructor
  next =>
    rintro ⟨values, read, rfl⟩
    rw [values_of_read read]
  next => exact fun is => ⟨_, read_of_decimal digits decimal, is⟩

theorem group?_eq_some {groups : List (Option (List Char))} {number : Nat} {text : List Char} :
    group? groups number = some text <-> TookPart groups number text := by
  unfold group? TookPart
  split
  next zero => simp [zero]
  next other => simp [Option.join_eq_some_iff, Nat.one_le_iff_ne_zero.2 other]

theorem TookPart.unique {groups : List (Option (List Char))} {number : Nat} {one other : List Char}
    (first : TookPart groups number one) (second : TookPart groups number other) : one = other :=
  Option.some.inj ((group?_eq_some.2 first).symm.trans (group?_eq_some.2 second))

theorem NumberedSign.text_unique {groups : List (Option (List Char))} {written digits after one other :
    List Char} (sign : NumberedSign written digits after)
    (first : NumberedText groups written digits one)
    (second : NumberedText groups written digits other) : one = other := by
  obtain ⟨number, numbers, text⟩ := first
  obtain ⟨otherNumber, otherNumbers, otherText⟩ := second
  rw [numbers_iff sign.2.1] at numbers otherNumbers
  subst numbers otherNumbers
  rcases text with took | ⟨noneTook, rfl⟩
  next =>
    rcases otherText with otherTook | ⟨noneTook, _⟩
    next => exact took.unique otherTook
    next => exact absurd took (noneTook one)
  next =>
    rcases otherText with otherTook | ⟨_, rfl⟩
    next => exact absurd otherTook (noneTook other)
    next => rfl

theorem numberedText_getD (groups : List (Option (List Char))) (written digits : List Char)
    (number : Nat) (numbers : Numbers digits number) :
    NumberedText groups written digits ((group? groups number).getD written) := by
  refine ⟨number, numbers, ?_⟩
  cases found : group? groups number with
  | some text => exact .inl (group?_eq_some.1 found)
  | none =>
    refine .inr ⟨fun other took => ?_, rfl⟩
    rw [group?_eq_some.2 took] at found
    cases found

theorem fillNumbered_comes (groups : List (Option (List Char))) (parts : List Part)
    (result : List Char) (filled : fillNumbered groups parts = .ok result)
    (decimal : ∀ written digits, .placeholder written digits ∈ parts ->
      ∀ d ∈ digits, Text.isDecimalDigit d = true) :
    ∃ texts, List.Forall₂ (Part.Comes (NumberedText groups)) parts texts /\
      result = texts.flatten := by
  induction parts generalizing result with
  | nil =>
    cases filled
    exact ⟨[], .nil, rfl⟩
  | cons part parts ih =>
    have later := fun result filled => ih result filled fun written digits member =>
      decimal written digits (List.mem_cons_of_mem _ member)
    cases part with
    | text c =>
      obtain ⟨tail, filledTail, same⟩ := bind_eq_ok.1 filled
      cases same
      obtain ⟨texts, come, rfl⟩ := later tail filledTail
      exact ⟨[c] :: texts, .cons rfl come, rfl⟩
    | placeholder written digits =>
      unfold fillNumbered at filled
      split at filled
      next => cases filled
      next number value =>
        obtain ⟨tail, filledTail, same⟩ := bind_eq_ok.1 filled
        cases same
        obtain ⟨texts, come, rfl⟩ := later tail filledTail
        have numbers : Numbers digits number := by
          rw [numbers_iff (decimal written digits (by simp))]
          unfold Text.runValue at value
          split at value
          next => exact (Except.ok.inj value).symm
          next => cases value
        exact ⟨_, .cons (numberedText_getD groups written digits number numbers) come, rfl⟩

theorem fillNamed_comes (value : List Char) (parts : List Part) :
    ∃ texts, List.Forall₂ (Part.Comes fun _ _ text => text = value) parts texts /\
      fillNamed value parts = texts.flatten := by
  induction parts with
  | nil => exact ⟨[], .nil, rfl⟩
  | cons part parts ih =>
    obtain ⟨texts, come, is⟩ := ih
    cases part with
    | text c => exact ⟨[c] :: texts, .cons rfl come, by rw [fillNamed, is]; rfl⟩
    | placeholder written name => exact ⟨value :: texts, .cons rfl come, by rw [fillNamed, is]; rfl⟩

theorem numbered_writtenOut (groups : List (Option (List Char))) (template result : List Char)
    (filled : fillNumbered groups (numberedParts template) = .ok result) :
    WrittenOut NumberedSign (NumberedText groups) template result := by
  obtain ⟨texts, come, rfl⟩ := fillNumbered_comes groups _ result filled
    fun written digits member d among => by
      obtain ⟨before, after, split, rfl⟩ := placeholder_of_parts _ _ _ _ _ _ member
      exact List.mem_takeWhile_imp among
  exact writtenOut_of_parts marks_numbered 0 texts come

theorem named_writtenOut (value template : List Char) :
    WrittenOut NamedSign (fun _ _ text => text = value) template
      (fillNamed value (namedParts template)) := by
  obtain ⟨texts, come, is⟩ := fillNamed_comes value (namedParts template)
  rw [is]
  exact writtenOut_of_parts marks_named 0 texts come

/-- The placeholders that stand for all of what a template gives, whatever else is in it. -/
def wholeSigns : List (List Char) := [['$', '&'], ['$', '\x27'], ['$', '\x60'], ['$', '+']]

theorem hasNumbered_iff (template : List Char) :
    hasNumbered template = true <-> HasSign NumberedSign template :=
  any_placeholder_iff marks_numbered

theorem hasNamed_iff (template : List Char) :
    hasNamed template = true <-> HasSign NamedSign template :=
  any_placeholder_iff marks_named

theorem opened_of_named (template : List Char) (named : HasSign NamedSign template) :
    has ['$', '\x7b'] template = true := by
  obtain ⟨before, written, name, after, rfl, _, _, rfl⟩ := named
  exact (Text.contains_iff _ _).2 ⟨before, name ++ ['\x7d'] ++ after, by simp⟩

theorem replacer_of_plain (template subject : List Char) (found : Regex.Match)
    (plain : ∀ sign ∈ wholeSigns, ¬ sign <:+: template) :
    replacer template subject found =
      if hasNumbered template then fillNumbered (found.groupTexts subject) (numberedParts template)
      else if hasNamed template then
        .ok (((group? (found.groupTexts subject) 2).map fun second =>
          fillNamed second (namedParts template)).getD template)
      else .ok template := by
  have absent (sign : List Char) (member : sign ∈ wholeSigns) : has sign template = false :=
    Bool.eq_false_iff.2 fun present => plain sign member ((Text.contains_iff _ _).1 present)
  unfold replacer
  rw [absent ['$', '&'] (by decide), absent ['$', '\x27'] (by decide),
    absent ['$', '\x60'] (by decide), absent ['$', '+'] (by decide)]
  simp only [Bool.false_eq_true, if_false]
  by_cases any : hasPlaceholders template = true
  next =>
    -- Past the other kinds, the two sides are the same but for how the second group is asked for.
    rw [any, Bool.not_true, if_neg Bool.false_ne_true]
    cases group? (found.groupTexts subject) 2 <;> rfl
  next =>
    have noNumbered : hasNumbered template = false := by
      simp_all [hasPlaceholders]
    have noNamed : hasNamed template = false := by
      refine Bool.eq_false_iff.2 fun named => any ?_
      simp [hasPlaceholders, opened_of_named template ((hasNamed_iff template).1 named)]
    rw [noNumbered, noNamed, if_pos (by simpa using any)]
    rfl

/-- A template without a placeholder that stands for all of what it gives is written out once. If
there are numbered placeholders in it, each gives way to its group, if that took part in the match,
and all others stay. If there are only named ones, all give way to the second group; if that took no
part, or there are none, the template is what it gives. -/
theorem replacer_writes_out (template : String) (subject : List Char) (found : Regex.Match)
    (plain : ∀ sign ∈ wholeSigns, ¬ sign <:+: template.toList) (brief : Brief template.toList) :
    ∃ result, (Replacement.template template).replacer subject found = .ok result /\
      (HasSign NumberedSign template.toList -> ∀ text,
        WrittenOut NumberedSign (NumberedText (found.groupTexts subject)) template.toList text <->
          text = result) /\
      (¬ HasSign NumberedSign template.toList ->
        (HasSign NamedSign template.toList ->
          ∀ second, TookPart (found.groupTexts subject) 2 second -> ∀ text,
            WrittenOut NamedSign (fun _ _ text => text = second) template.toList text <->
              text = result) /\
        (¬ HasSign NamedSign template.toList \/
            (∀ second, ¬ TookPart (found.groupTexts subject) 2 second) ->
          result = template.toList)) := by
  obtain ⟨result, given⟩ := replacer_succeeds template.toList brief subject found
  refine ⟨result, given, fun numbered => ?_, fun notNumbered =>
    ⟨fun named second took => ?_, fun nothing => ?_⟩⟩
  all_goals rw [replacer_of_plain _ subject found plain] at given
  next =>
    rw [if_pos ((hasNumbered_iff _).2 numbered)] at given
    exact (numbered_writtenOut _ _ _ given).iff_eq marks_numbered
      fun _ _ _ _ _ stands oneIs otherIs => stands.text_unique oneIs otherIs
  next =>
    rw [if_neg (notNumbered ∘ (hasNumbered_iff _).1), if_pos ((hasNamed_iff _).2 named),
      group?_eq_some.2 took] at given
    cases given
    exact (named_writtenOut second _).iff_eq marks_named
      fun _ _ _ _ _ _ oneIs otherIs => oneIs.trans otherIs.symm
  next =>
    rw [if_neg (notNumbered ∘ (hasNumbered_iff _).1)] at given
    by_cases named : HasSign NamedSign template.toList
    next =>
      have noneTook : group? (found.groupTexts subject) 2 = none :=
        Option.eq_none_iff_forall_ne_some.2 fun second is =>
          nothing.resolve_left (not_not_intro named) second (group?_eq_some.1 is)
      rw [if_pos ((hasNamed_iff _).2 named), noneTook] at given
      cases given
      rfl
    next =>
      rw [if_neg (named ∘ (hasNamed_iff _).1)] at given
      cases given
      rfl

theorem replacer_writes_out_once :
    (∀ sign ∈ wholeSigns, ¬ sign <:+: "$1$3$$2".toList) /\ Brief "$1$3$$2".toList /\
      HasSign NumberedSign "$1$3$$2".toList /\
      WrittenOut NumberedSign (NumberedText [some "$2".toList, some "x".toList])
        "$1$3$$2".toList "$2$3$x".toList := by
  have plain : ∀ sign ∈ wholeSigns, ¬ sign <:+: "$1$3$$2".toList := by decide +kernel
  have brief : Brief "$1$3$$2".toList := brief_of_length _ (by decide)
  have numbered : HasSign NumberedSign "$1$3$$2".toList := (hasNumbered_iff _).1 (by decide +kernel)
  obtain ⟨result, given, written, _⟩ :=
    replacer_writes_out "$1$3$$2" "$2x".toList ⟨0, 3, [some (0, 2), some (2, 3)]⟩ plain brief
  have computed : (Replacement.template "$1$3$$2").replacer "$2x".toList
      ⟨0, 3, [some (0, 2), some (2, 3)]⟩ = .ok "$2$3$x".toList :=
    eq_ok_of_toOption (by decide +kernel)
  have same : "$2$3$x".toList = result := Except.ok.inj (computed.symm.trans given)
  have groups : Regex.Match.groupTexts ⟨0, 3, [some (0, 2), some (2, 3)]⟩ "$2x".toList =
      [some "$2".toList, some "x".toList] := by decide +kernel
  refine ⟨plain, brief, numbered, ?_⟩
  rw [← groups]
  exact (written numbered _).2 same

end BibEdit.Template
