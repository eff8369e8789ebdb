import BibEdit.Proofs.Pattern.Language

set_option autoImplicit false

namespace BibEdit

namespace Regex

theorem run_ofList_append (text : Array Char) (first later : List Node) (goal : Goal)
    (cursor : Cursor) :
    run text (Node.ofList (first ++ later)) goal cursor =
      run text (Node.ofList first) (run text (Node.ofList later) goal) cursor := by
  induction first generalizing cursor with
  | nil => rfl
  | cons node rest ih => rw [List.cons_append, run_ofList_cons, run_ofList_cons, funext ih]

/-- A stretch is all of a text, or all but the line break that ends it. -/
def UpToEnd (part text : List Char) : Prop := text = part \/ text = part ++ ['\n']

theorem UpToEnd.starts {part text : List Char} (toEnd : UpToEnd part text) : part <+: text := by
  rcases toEnd with rfl | rfl
  next => exact List.prefix_refl _
  next => exact List.prefix_append _ _

theorem upToEnd_iff {part text : List Char} (starts : part <+: text) :
    UpToEnd part text <-> Anchor.textEnd.holds text.toArray part.length = true := by
  obtain ⟨rest, rfl⟩ := starts
  rcases rest with _ | ⟨c, _ | ⟨d, rest⟩⟩ <;>
    simp [UpToEnd, Anchor.holds, isLineBreak]

def anchored (inner : List Node) : List Node :=
  .anchor .textStart :: inner ++ [.anchor .textEnd]

theorem run_anchored (text : Array Char) (inner : List Node) (goal : Goal) (cursor : Cursor) :
    run text (Node.ofList (anchored inner)) goal cursor =
      if cursor.pos == 0 then
        run text (Node.ofList inner)
          (fun after => if Anchor.textEnd.holds text after.pos then goal after else none) cursor
      else none := by
  rw [anchored, List.cons_append, run_ofList_cons]
  show (if cursor.pos == 0 then run text (Node.ofList (inner ++ _)) goal cursor else none) = _
  rw [run_ofList_append]
  rfl

section Anchored

variable {regex : Regex} {inner : List Node} {language : List Char -> Prop} {text : List Char}
  (rootIs : regex.root = Node.ofList (anchored inner))
  (middle : (Node.ofList inner).Matches language)

include rootIs middle

theorem matchAt_anchored {pos : Nat} {refuseEmpty : Bool} {found : Match}
    (matched : matchAt regex text.toArray pos refuseEmpty = some found) :
    found.start = 0 /\ language (found.text text) /\ UpToEnd (found.text text) text := by
  obtain ⟨cursor, ran, rfl⟩ := Option.map_eq_some_iff.1 matched
  rw [rootIs, run_anchored] at ran
  split at ran
  next start =>
    obtain rfl : pos = 0 := by simpa using start
    obtain ⟨part, ofLanguage, stands, ended⟩ := middle.sound _ _ _ _ ran
    split at ended
    next ends =>
      split at ended
      next => cases ended
      next =>
        cases ended
        have whole := (upToEnd_iff stands).2 (by simpa [Cursor.past] using ends)
        show 0 = 0 /\ language (Text.slice text 0 (0 + part.length)) /\
          UpToEnd (Text.slice text 0 (0 + part.length)) text
        rw [Text.slice_eq_needle stands]
        exact ⟨rfl, ofLanguage, whole⟩
    next => cases ended
  next => cases ran

theorem matchAt_upToEnd {part : List Char} (ofLanguage : language part) (toEnd : UpToEnd part text) :
    (matchAt regex text.toArray 0 false).isSome = true := by
  unfold matchAt
  rw [Option.isSome_map, rootIs, run_anchored]
  refine middle.complete _ _ _ part ofLanguage toEnd.starts ?_
  have holds := (upToEnd_iff toEnd.starts).1 toEnd
  simp [Cursor.past, holds]

theorem search_anchored {found : Match} (searched : regex.search text = some found) :
    found.start = 0 /\ language (found.text text) /\ UpToEnd (found.text text) text :=
  matchAt_anchored rootIs middle (matchFrom_eq_some searched).matched

theorem search_upToEnd {part : List Char} (ofLanguage : language part) (toEnd : UpToEnd part text) :
    (regex.search text).isSome = true := by
  have matched := matchAt_upToEnd rootIs middle ofLanguage toEnd
  cases searched : regex.search text with
  | some found => rfl
  | none =>
    have nowhere := matchFrom_eq_none searched 0 (Nat.le_refl 0) (Nat.zero_le _)
    rw [Bool.false_and] at nowhere
    rw [nowhere] at matched
    cases matched

end Anchored

end Regex

namespace Wildcard

/-- The texts that a GLOB pattern stands for. -/
inductive GlobLanguage : List Char -> List Char -> Prop where
  | done : GlobLanguage [] []
  | many {pattern run text : List Char} (free : '\n' ∉ run)
    (rest : GlobLanguage pattern text) : GlobLanguage ('*' :: pattern) (run ++ text)
  | one {pattern text : List Char} {c : Char} (other : c ≠ '\n')
    (rest : GlobLanguage pattern text) : GlobLanguage ('?' :: pattern) (c :: text)
  | letter {pattern text : List Char} {c : Char} (plain : c ∉ ['*', '?'])
    (rest : GlobLanguage pattern text) : GlobLanguage (c :: pattern) (c :: text)

theorem globParts_letter {c : Char} (plain : c ∉ ['*', '?']) (pattern : List Char) :
    globParts (c :: pattern) = .letter c :: globParts pattern := by
  simp only [List.mem_cons, List.not_mem_nil, or_false, not_or] at plain
  simp [globParts, plain]

theorem covers_of_glob {pattern text : List Char} (belongs : GlobLanguage pattern text) :
    Covers (globParts pattern) text := by
  induction belongs with
  | done => rfl
  | many free _ ih => exact ⟨_, _, free, ih, rfl⟩
  | one other _ ih => exact ⟨[_], _, ⟨_, other, rfl⟩, ih, rfl⟩
  | letter plain _ ih =>
    rw [globParts_letter plain]
    exact ⟨[_], _, rfl, ih, rfl⟩

theorem glob_of_covers (pattern text : List Char) (covers : Covers (globParts pattern) text) :
    GlobLanguage pattern text := by
  induction pattern generalizing text with
  | nil =>
    cases covers
    exact .done
  | cons c rest ih =>
    by_cases plain : c ∈ ['*', '?']
    next =>
      simp only [List.mem_cons, List.not_mem_nil, or_false] at plain
      rcases plain with rfl | rfl
      next =>
        obtain ⟨run, later, free, behind, rfl⟩ := covers
        exact .many free (ih later behind)
      next =>
        obtain ⟨_, later, ⟨c, other, rfl⟩, behind, rfl⟩ := covers
        exact .one other (ih later behind)
    next =>
      rw [globParts_letter plain] at covers
      obtain ⟨_, later, rfl, behind, rfl⟩ := covers
      exact .letter plain (ih later behind)

theorem glob_iff (pattern text : List Char) :
    GlobLanguage pattern text <-> Covers (globParts pattern) text :=
  ⟨covers_of_glob, glob_of_covers pattern text⟩

theorem GlobLanguage.count_lines {pattern text : List Char} (belongs : GlobLanguage pattern text) :
    text.count '\n' = pattern.count '\n' := by
  induction belongs with
  | done => rfl
  | many free _ ih => rw [List.count_append, List.count_eq_zero_of_not_mem free, ih]; simp
  | one other _ ih => rw [List.count_cons_of_ne other, ih]; simp
  | letter _ _ ih => rw [List.count_cons, List.count_cons, ih]

-- A value and what is left of it without the line break at its end differ by a line break, which only
-- the pattern itself can spell out.
theorem glob_unique {pattern value one other : List Char}
    (belongs : GlobLanguage pattern one) (toEnd : Regex.UpToEnd one value)
    (otherBelongs : GlobLanguage pattern other) (otherToEnd : Regex.UpToEnd other value) :
    one = other := by
  have lines := belongs.count_lines.trans otherBelongs.count_lines.symm
  rcases toEnd with rfl | rfl
  next =>
    rcases otherToEnd with same | rfl
    next => exact same
    next => simp at lines
  next =>
    rcases otherToEnd with rfl | same
    next => simp at lines
    next => exact List.append_cancel_right same

end Wildcard

namespace Pattern

open Regex Wildcard

theorem matches_glob (pattern : List Char) :
    (Node.ofList (nodes false (globParts pattern))).Matches (GlobLanguage pattern) :=
  (matches_parts _).congr fun part => (glob_iff pattern part).symm

/-- What a test for a GLOB pattern finds is a text of the pattern from the start of the value to its
end, and if there is one it is found. -/
theorem test_glob (pattern value : String) :
    ∃ outcome, test value pattern .glob true = .ok outcome /\
      ∀ hit, outcome = some hit <-> hit.start = 0 /\ GlobLanguage pattern.toList hit.text /\
        UpToEnd hit.text value.toList := by
  obtain ⟨regex, compiled, rootIs⟩ := compile_glob pattern true
  have middle := matches_glob pattern.toList
  refine ⟨_, test_of_compile (by decide) rfl compiled,
    eq_some_iff_of_unique (fun hit is => ?_) ?_ ?_⟩
  next =>
    obtain ⟨found, searched, rfl⟩ := Option.map_eq_some_iff.1 is
    exact search_anchored rootIs middle searched
  next =>
    rintro hit ⟨_, belongs, toEnd⟩
    rw [Option.isSome_map]
    exact search_upToEnd rootIs middle belongs toEnd
  next =>
    rintro hit other ⟨start, belongs, toEnd⟩ ⟨otherStart, otherBelongs, otherToEnd⟩
    exact congrArg₂ Hit.mk (glob_unique belongs toEnd otherBelongs otherToEnd)
      (start.trans otherStart.symm)

/-- A GLOB pattern can always be compiled. A test for it that looks at case finds a text of the
pattern that is the value, or all of it but a line break at its end; there is one such text at most.
So it is a test of the whole value exactly if none stands before a line break at the end. -/
theorem glob_covers_whole_iff (pattern value : String) :
    (∀ caseSensitive, ∃ regex, compile pattern .glob caseSensitive = .ok regex) /\
      ∃ outcome, test value pattern .glob true = .ok outcome /\
        (∀ hit, outcome = some hit <-> hit.start = 0 /\ GlobLanguage pattern.toList hit.text /\
          UpToEnd hit.text value.toList) /\
        (((outcome.isSome = true <-> GlobLanguage pattern.toList value.toList) /\
            ∀ hit, outcome = some hit -> hit.start = 0 /\ hit.length = value.length) <->
          ¬ ∃ line, GlobLanguage pattern.toList line /\ value.toList = line ++ ['\n']) := by
  obtain ⟨outcome, tested, hits⟩ := test_glob pattern value
  refine ⟨fun caseSensitive => (compile_glob pattern caseSensitive).imp fun _ => And.left,
    outcome, tested, hits, fun whole => ?_, fun noLine => ?_⟩
  next =>
    rintro ⟨line, belongs, ends⟩
    have short := (whole.2 _ ((hits ⟨line, 0⟩).2 ⟨rfl, belongs, .inr ends⟩)).2
    rw [← String.length_toList, ends, List.length_append] at short
    exact absurd short (by simp [Hit.length])
  next =>
    have whole (hit : Hit) (is : outcome = some hit) : hit.start = 0 /\ value.toList = hit.text := by
      obtain ⟨start, belongs, whole | ends⟩ := (hits hit).1 is
      next => exact ⟨start, whole⟩
      next => exact absurd ⟨_, belongs, ends⟩ noLine
    refine ⟨⟨fun someHit => ?_, fun belongs => ?_⟩, fun hit is => ?_⟩
    next =>
      obtain ⟨hit, is⟩ := Option.isSome_iff_exists.1 someHit
      rw [(whole hit is).2]
      exact ((hits hit).1 is).2.1
    next =>
      rw [(hits ⟨value.toList, 0⟩).2 ⟨rfl, belongs, .inl rfl⟩]
      rfl
    next =>
      obtain ⟨start, text⟩ := whole hit is
      rw [← String.length_toList, text]
      exact ⟨start, rfl⟩

theorem glob_passes_line_break :
    test "report.pdf\n" "*.pdf" .glob true = .ok (some ⟨"report.pdf".toList, 0⟩) /\
      ¬ GlobLanguage "*.pdf".toList "report.pdf\n".toList := by
  refine ⟨eq_ok_of_toOption (by decide +kernel), fun belongs => ?_⟩
  exact absurd belongs.count_lines (by decide)

end Pattern

end BibEdit
