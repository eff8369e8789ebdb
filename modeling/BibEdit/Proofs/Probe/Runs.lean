import BibEdit.Proofs.Pattern.Glob
import BibEdit.Proofs.Pattern.Stream

set_option autoImplicit false

namespace BibEdit

namespace Literal

/-- A stretch of letters and digits with none of them beside it. -/
structure MaximalRun (text before run after : List Char) : Prop where
  split : text = before ++ run ++ after
  alnum : ∀ c ∈ run, c.isAlphanum = true
  starts : ∀ c ∈ before.getLast?, c.isAlphanum = false
  stops : ∀ c ∈ after.head?, c.isAlphanum = false

/-- The first of the longest maximal runs. -/
structure LeadingRun (text before run after : List Char) : Prop
    extends MaximalRun text before run after where
  longest : ∀ front other back, MaximalRun text front other back -> other.length <= run.length
  first : ∀ front other back, MaximalRun text front other back -> other.length = run.length ->
    before.length <= front.length

theorem LeadingRun.unique {text before run after front other back : List Char}
    (leading : LeadingRun text before run after) (otherLeading : LeadingRun text front other back) :
    run = other := by
  -- Neither is longer than the other or begins before it, so they begin at one place.
  have longer := otherLeading.longest _ _ _ leading.toMaximalRun
  have shorter := leading.longest _ _ _ otherLeading.toMaximalRun
  have lengths : run.length = other.length := by omega
  have later := otherLeading.first _ _ _ leading.toMaximalRun lengths
  have earlier := leading.first _ _ _ otherLeading.toMaximalRun lengths.symm
  have split := leading.split.symm.trans otherLeading.split
  rw [List.append_assoc, List.append_assoc] at split
  obtain ⟨_, rest⟩ := List.append_inj split (by omega)
  exact (List.append_inj rest lengths).1

section Runs

variable {run : List Char} (alnum : ∀ c ∈ run, c.isAlphanum = true)

include alnum

theorem eq_nil_of_starts {before rest : List Char} (within : run = before ++ rest)
    (starts : ∀ c ∈ before.getLast?, c.isAlphanum = false) : before = [] := by
  rcases List.eq_nil_or_concat before with empty | ⟨front, c, rfl⟩
  next => exact empty
  next =>
    have other := starts c (by simp)
    rw [alnum c (by simp [within])] at other
    cases other

theorem maximalRun_whole (before found after : List Char) :
    MaximalRun run before found after <-> before = [] /\ found = run /\ after = [] := by
  constructor
  next =>
    intro maximal
    have split := maximal.split
    rw [List.append_assoc] at split
    obtain rfl := eq_nil_of_starts alnum split maximal.starts
    cases after with
    | nil => exact ⟨rfl, by simpa using split.symm, rfl⟩
    | cons c back =>
      have other := maximal.stops c rfl
      rw [alnum c (by simp [split])] at other
      cases other
  next =>
    rintro ⟨rfl, rfl, rfl⟩
    exact ⟨by simp, alnum, by simp, by simp⟩

theorem maximalRun_cons {c : Char} (other : c.isAlphanum = false)
    (rest before found after : List Char) :
    MaximalRun (run ++ c :: rest) before found after <->
      (before = [] /\ found = run /\ after = c :: rest) \/
        ∃ front, before = run ++ c :: front /\ MaximalRun rest front found after := by
  constructor
  next =>
    intro maximal
    -- What begins within the letters and digits at the start is all of them.
    have here (middle : List Char) (runIs : run = before ++ middle)
        (restIs : found ++ after = middle ++ c :: rest) :
        before = [] /\ found = run /\ after = c :: rest := by
      obtain rfl := eq_nil_of_starts alnum runIs maximal.starts
      obtain rfl : run = middle := runIs
      rcases List.append_eq_append_iff.1 restIs with ⟨inner, runIs, afterIs⟩ | ⟨inner, is, tail⟩
      next =>
        cases inner with
        | nil => exact ⟨rfl, by simp [runIs], afterIs⟩
        | cons d inner =>
          have stops := maximal.stops d (by simp [afterIs])
          rw [alnum d (by simp [runIs])] at stops
          cases stops
      next =>
        cases inner with
        | nil => exact ⟨rfl, by simp [is], tail.symm⟩
        | cons d inner =>
          cases tail
          rw [maximal.alnum c (by simp [is])] at other
          cases other
    have split := maximal.split
    rw [List.append_assoc, List.append_eq_append_iff] at split
    rcases split with ⟨middle, beforeIs, restIs⟩ | ⟨middle, runIs, restIs⟩
    next =>
      cases middle with
      | nil => exact .inl (here [] (by simp [beforeIs]) restIs.symm)
      | cons d front =>
        obtain ⟨rfl, behind⟩ := List.cons.inj restIs
        refine .inr ⟨front, beforeIs, by simp [behind], maximal.alnum, fun d last => ?_, maximal.stops⟩
        refine maximal.starts d ?_
        rw [beforeIs, Option.mem_def, List.getLast?_append, List.getLast?_cons, last]
        rfl
    next => exact .inl (here middle runIs restIs)
  next =>
    rintro (⟨rfl, rfl, rfl⟩ | ⟨front, rfl, maximal⟩)
    next => exact ⟨rfl, alnum, by simp, by simpa using other⟩
    next =>
      refine ⟨by simp [maximal.split], maximal.alnum, fun d last => ?_, maximal.stops⟩
      rw [Option.mem_def, List.getLast?_append, List.getLast?_cons] at last
      cases endIs : front.getLast? with
      | none =>
        rw [endIs] at last
        cases last
        exact other
      | some e =>
        rw [endIs] at last
        cases last
        exact maximal.starts _ endIs

end Runs

theorem length_longer (best run : List Char) :
    best.length <= (longer best run).length /\ run.length <= (longer best run).length := by
  unfold longer
  split <;> omega

inductive Winner (text best : List Char) : List Char -> Prop where
  | kept (short : ∀ before run after, MaximalRun text before run after ->
      run.length <= best.length) : Winner text best best
  | beaten {before run after : List Char} (longer : best.length < run.length)
      (leading : LeadingRun text before run after) : Winner text best run

theorem winner_longer {text run after best : List Char} (maximal : MaximalRun text [] run after)
    (short : ∀ front other back, MaximalRun text front other back ->
      other.length <= (longer best run).length) : Winner text best (longer best run) := by
  by_cases beats : best.length < run.length
  next =>
    rw [longer, if_pos beats] at short ⊢
    exact .beaten beats ⟨maximal, short, fun _ _ _ _ _ => Nat.zero_le _⟩
  next =>
    rw [longer, if_neg beats] at short ⊢
    exact .kept short

section Winner

variable {run : List Char} (alnum : ∀ c ∈ run, c.isAlphanum = true)

include alnum

theorem winner_whole (best : List Char) : Winner run best (longer best run) := by
  refine winner_longer ((maximalRun_whole alnum [] run []).2 ⟨rfl, rfl, rfl⟩)
    fun front other back found => ?_
  rw [((maximalRun_whole alnum _ _ _).1 found).2.1]
  exact (length_longer best run).2

theorem winner_cons {c : Char} (other : c.isAlphanum = false) {rest best found : List Char}
    (later : Winner rest (longer best run) found) : Winner (run ++ c :: rest) best found := by
  have runs := maximalRun_cons alnum other rest
  obtain ⟨bestShorter, runShorter⟩ := length_longer best run
  cases later with
  | kept short =>
    -- No later run is longer than the better of the best and this one.
    refine winner_longer ((runs [] run (c :: rest)).2 (.inl ⟨rfl, rfl, rfl⟩))
      fun front other back maximal => ?_
    rcases (runs _ _ _).1 maximal with ⟨_, rfl, _⟩ | ⟨_, _, behind⟩
    next => exact runShorter
    next => exact short _ _ _ behind
  | @beaten before _ after beats leading =>
    have maximal := (runs _ _ _).2 (.inr ⟨before, rfl, leading.toMaximalRun⟩)
    refine .beaten (by omega) ⟨maximal, fun front other back maximal => ?_,
      fun front other back maximal same => ?_⟩
    next =>
      rcases (runs _ _ _).1 maximal with ⟨_, rfl, _⟩ | ⟨_, _, behind⟩
      next => omega
      next => exact leading.longest _ _ _ behind
    next =>
      rcases (runs _ _ _).1 maximal with ⟨_, rfl, _⟩ | ⟨_, rfl, behind⟩
      next => omega
      next =>
        have earlier := leading.first _ _ _ behind same
        simp only [List.length_append, List.length_cons]
        omega

end Winner

-- The run that is being read stands before the text.
theorem winner_foldl (text run best : List Char) (alnum : ∀ c ∈ run, c.isAlphanum = true) :
    Winner (run.reverse ++ text) best ((alnumRuns run (text.map some)).foldl longer best) := by
  induction text generalizing run best with
  | nil =>
    rw [List.append_nil]
    exact winner_whole (by simpa using alnum) best
  | cons c rest ih =>
    rw [List.map_cons, alnumRuns, isAlnum_eq]
    split
    next letter =>
      have longerRun := ih (c :: run) best (List.forall_mem_cons.2 ⟨letter, alnum⟩)
      simpa using longerRun
    next other =>
      rw [List.foldl_cons]
      exact winner_cons (by simpa using alnum) (by simpa using other) (ih [] _ (by simp))

theorem longestAlnumRun?_winner (text : List Char) :
    ∃ best, Winner text [] best /\
      longestAlnumRun? text = if 2 <= best.length then some best else none :=
  ⟨_, winner_foldl text [] [] (by simp), rfl⟩

theorem longestAlnumRun?_eq_some_iff (text run : List Char) :
    longestAlnumRun? text = some run <->
      2 <= run.length /\ ∃ before after, LeadingRun text before run after := by
  obtain ⟨best, winner, is⟩ := longestAlnumRun?_winner text
  rw [is]
  constructor
  next =>
    intro found
    split at found
    next long =>
      cases found
      cases winner with
      | kept => exact absurd long (by decide)
      | beaten _ leading => exact ⟨long, _, _, leading⟩
    next => cases found
  next =>
    rintro ⟨long, before, after, leading⟩
    cases winner with
    | kept short =>
      have noneLonger := short _ _ _ leading.toMaximalRun
      exact absurd (long.trans noneLonger) (by decide)
    | beaten _ bestLeading =>
      rw [leading.unique bestLeading] at long ⊢
      exact if_pos long

theorem longestAlnumRun?_eq_none_iff (text : List Char) :
    longestAlnumRun? text = none <->
      ∀ before run after, MaximalRun text before run after -> run.length < 2 := by
  obtain ⟨best, winner, is⟩ := longestAlnumRun?_winner text
  rw [is]
  constructor
  next =>
    intro nothingFound before run after maximal
    have short : best.length < 2 := by
      by_contra long
      rw [if_pos (by omega)] at nothingFound
      cases nothingFound
    cases winner with
    | kept shorter => exact (shorter _ _ _ maximal).trans_lt (by decide)
    | beaten _ leading => exact (leading.longest _ _ _ maximal).trans_lt short
  next =>
    intro short
    cases winner with
    | kept => rfl
    | beaten _ leading =>
      have bestShort := short _ _ _ leading.toMaximalRun
      exact if_neg (by omega)

end Literal

namespace Wildcard

open Literal

theorem run_starts_covered {run text : List Char} {parts : List Part} (covers : Covers parts text)
    (starts : run.map some <+: parts.flatMap Part.stream) : run <+: text := by
  induction run generalizing parts text with
  | nil => exact List.nil_prefix
  | cons c run ih =>
    cases parts with
    | nil => exact absurd starts (by simp)
    | cons part rest =>
      obtain ⟨first, later, takes, behind, rfl⟩ := covers
      cases part with
      | letter d =>
        cases takes
        obtain ⟨same, startsBehind⟩ := List.cons_prefix_cons.1 starts
        cases same
        exact (List.prefix_cons_inj c).2 (ih behind startsBehind)
      | one => cases (List.cons_prefix_cons.1 starts).1
      | many => cases (List.cons_prefix_cons.1 starts).1

theorem run_within_covered {run text : List Char} {parts : List Part} (covers : Covers parts text)
    (within : run.map some <:+: parts.flatMap Part.stream) : run <:+: text := by
  induction parts generalizing text with
  | nil =>
    rw [List.map_eq_nil_iff.1 (List.infix_nil.1 within)]
    exact List.nil_infix
  | cons part rest ih =>
    have single : ∃ item, part.stream = [item] := by cases part <;> exact ⟨_, rfl⟩
    obtain ⟨item, is⟩ := single
    have partsAre : (part :: rest).flatMap Part.stream = item :: rest.flatMap Part.stream := by
      rw [List.flatMap_cons, is]
      rfl
    rw [partsAre] at within
    rcases List.infix_cons_iff.1 within with starts | later
    next => exact (run_starts_covered covers (partsAre ▸ starts)).isInfix
    next =>
      obtain ⟨first, behind, _, covers, rfl⟩ := covers
      exact (ih covers later).trans (List.suffix_append _ _).isInfix

end Wildcard

namespace Pattern

open Literal Regex Wildcard

theorem covers_like {pattern value : String} {hit : Hit}
    (tested : test value pattern .like true = .ok (some hit)) :
    Covers (likeParts pattern.toList) hit.text := by
  obtain ⟨regex, compiled, rootIs⟩ := compile_like pattern true
  have root : regex.root.Matches (Covers (likeParts pattern.toList)) := by
    rw [rootIs]
    exact matches_parts _
  rw [test_of_compile (by decide) rfl compiled] at tested
  obtain ⟨found, searched, rfl⟩ := Option.map_eq_some_iff.1 (Except.ok.inj tested)
  exact (hit_earliest root searched).belongs

theorem covers_glob {pattern value : String} {hit : Hit}
    (tested : test value pattern .glob true = .ok (some hit)) :
    Covers (globParts pattern.toList) hit.text := by
  obtain ⟨outcome, testedToo, hits⟩ := test_glob pattern value
  have found : outcome = some hit := Except.ok.inj (testedToo.symm.trans tested)
  exact covers_of_glob ((hits hit).1 found).2.1

/-- The longest run of a pattern is the first of the longest stretches of letters and digits in it
that have two characters or more; there is none if all are shorter. What a test for a wildcard
pattern finds, where case counts, has the longest run of the pattern in it. -/
theorem hit_has_longest_run (pattern : String) :
    (∀ run, longestAlnumRun? pattern.toList = some run <->
      2 <= run.length /\ ∃ before after, LeadingRun pattern.toList before run after) /\
    (longestAlnumRun? pattern.toList = none <->
      ∀ before run after, MaximalRun pattern.toList before run after -> run.length < 2) /\
    ∀ kind ∈ [PatternKind.like, .glob], ∀ value hit,
      test value pattern kind true = .ok (some hit) ->
        ∀ run, longestAlnumRun? pattern.toList = some run -> run <:+: hit.text := by
  refine ⟨longestAlnumRun?_eq_some_iff _, longestAlnumRun?_eq_none_iff _, ?_⟩
  intro kind wildcard value hit tested run longest
  obtain ⟨within, alnum, _⟩ := longestAlnumRun?_within _ run longest
  simp only [List.mem_cons, List.not_mem_nil, or_false] at wildcard
  rcases wildcard with rfl | rfl
  next => exact run_within_covered (covers_like tested) (run_within_like alnum _ within)
  next => exact run_within_covered (covers_glob tested) (run_within_glob alnum _ within)

def annualReports : String := "ann_al\\_2019%repo"

theorem hit_has_longest_run_annual_reports :
    longestAlnumRun? annualReports.toList = some "2019".toList /\
      ∃ hit, test "The annual_2019 sales report" annualReports .like true = .ok (some hit) /\
        hit.text = "annual_2019 sales repo".toList /\ "2019".toList <:+: hit.text := by
  have longest : longestAlnumRun? annualReports.toList = some "2019".toList := by decide
  have tested : test "The annual_2019 sales report" annualReports .like true =
      .ok (some ⟨"annual_2019 sales repo".toList, 4⟩) := eq_ok_of_toOption (by decide +kernel)
  exact ⟨longest, _, tested, rfl, (hit_has_longest_run annualReports).2.2 .like (by simp) _ _ tested
    _ longest⟩

end Pattern

end BibEdit
