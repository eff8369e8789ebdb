import BibEdit.Proofs.Toml.Keyed
import BibEdit.Settings
import Mathlib.Data.List.Nodup
import Mathlib.Logic.Function.Iterate

set_option autoImplicit false

namespace BibEdit.Settings

open Toml

/-- Below a value, at the end of a path of keys, there is a value that is no table. -/
inductive Leaf : Value -> List String -> Prop where
  | here {value : Value} (plain : value.table? = none) : Leaf value []
  | inside {entries : Table} {key : String} {value : Value} {path : List String}
      (member : (key, value) ∈ entries) (leaf : Leaf value path) :
      Leaf (.table entries) (key :: path)

mutual

def leaves : Value -> List (List String)
  | .table entries => leavesOf entries
  | _ => [[]]

def leavesOf : Table -> List (List String)
  | [] => []
  | (key, value) :: rest => leavesOf rest ++ (leaves value).map (key :: ·)

end

theorem leaf_of_plain {value : Value} {path : List String} (plain : value.table? = none) :
    Leaf value path <-> path = [] := by
  constructor
  next =>
    intro leaf
    cases leaf with
    | here => rfl
    | inside => cases plain
  next =>
    rintro rfl
    exact .here plain

theorem leaf_cons {key : String} {value : Value} {rest : Table} {path : List String} :
    Leaf (.table ((key, value) :: rest)) path <->
      Leaf (.table rest) path \/ ∃ tail, Leaf value tail /\ key :: tail = path := by
  constructor
  next =>
    intro leaf
    cases leaf with
    | here plain => cases plain
    | inside member leaf =>
      rcases List.mem_cons.1 member with first | later
      next =>
        cases first
        exact .inr ⟨_, leaf, rfl⟩
      next => exact .inl (.inside later leaf)
  next =>
    rintro (leaf | ⟨tail, leaf, rfl⟩)
    next =>
      cases leaf with
      | here plain => cases plain
      | inside member leaf => exact .inside (List.mem_cons_of_mem _ member) leaf
    next => exact .inside (by simp) leaf

theorem leaf_nil {path : List String} : ¬ Leaf (.table []) path := by
  intro leaf
  cases leaf with
  | here plain => cases plain
  | inside member => cases member

mutual

theorem mem_leaves (value : Value) (path : List String) : path ∈ leaves value <-> Leaf value path := by
  cases value with
  | table entries => exact mem_leavesOf entries path
  | _ => exact List.mem_singleton.trans (leaf_of_plain rfl).symm

theorem mem_leavesOf (entries : Table) (path : List String) :
    path ∈ leavesOf entries <-> Leaf (.table entries) path := by
  cases entries with
  | nil => exact iff_of_false List.not_mem_nil leaf_nil
  | cons entry rest =>
    obtain ⟨key, value⟩ := entry
    rw [leavesOf, List.mem_append, mem_leavesOf rest, List.mem_map, leaf_cons]
    simp only [mem_leaves value]

end

theorem key_of_leaf {entries : Table} {path : List String} (leaf : Leaf (.table entries) path) :
    ∃ key rest, path = key :: rest /\ key ∈ entries.map Prod.fst := by
  cases leaf with
  | here plain => cases plain
  | inside member _ => exact ⟨_, _, rfl, List.mem_map.2 ⟨_, member, rfl⟩⟩

mutual

theorem nodup_leaves (value : Value) (keyed : value.Keyed) : (leaves value).Nodup := by
  cases value with
  | table entries => exact nodup_leavesOf entries (keyed entries rfl)
  | _ => exact List.nodup_singleton []

theorem nodup_leavesOf (entries : Table) (keyed : Keyed entries) : (leavesOf entries).Nodup := by
  cases entries with
  | nil => exact List.nodup_nil
  | cons entry rest =>
    obtain ⟨key, value⟩ := entry
    obtain ⟨fresh, apart⟩ := List.nodup_cons.1 keyed.apart
    have later : Keyed rest :=
      .of_values apart fun entry member => keyed.value (List.mem_cons_of_mem _ member)
    have first := nodup_leaves value (keyed.value List.mem_cons_self)
    refine List.nodup_append.2 ⟨nodup_leavesOf rest later,
      first.map fun _ _ same => (List.cons.inj same).2, ?_⟩
    rintro path among _ here rfl
    obtain ⟨other, tail, rfl, known⟩ := key_of_leaf ((mem_leavesOf rest path).1 among)
    obtain ⟨_, _, same⟩ := List.mem_map.1 here
    cases same
    exact fresh known

end

namespace Survey

def listed (survey : Survey) : List String :=
  survey.found ++ survey.pending.flatMap fun node =>
    (leaves node.2).map fun keys => keys.foldl dotted node.1

theorem listed_below (path : String) (entries : Table) :
    ((below path entries).reverse.flatMap fun node =>
        (leaves node.2).map fun keys => keys.foldl dotted node.1) =
      (leavesOf entries).map fun keys => keys.foldl dotted path := by
  induction entries with
  | nil => rfl
  | cons entry rest ih =>
    obtain ⟨key, value⟩ := entry
    have split : (below path ((key, value) :: rest)).reverse =
        (below path rest).reverse ++ [(dotted path key, value)] := List.reverse_cons
    rw [split, List.flatMap_append, ih, leavesOf, List.map_append, List.map_map]
    simp [Function.comp_def]

theorem listed_step (survey : Survey) : survey.step.listed = survey.listed := by
  unfold step listed
  split
  next => rfl
  next path entries rest pendingAre =>
    rw [pendingAre, List.flatMap_append, listed_below, List.flatMap_cons, leaves]
  next path value rest notTable pendingAre =>
    have alone : leaves value = [[]] := by
      cases value with
      | table entries => exact absurd rfl (notTable entries)
      | _ => rfl
    rw [pendingAre, List.flatMap_cons, alone]
    simp

theorem finish_eq_listed (survey : Survey) : survey.finish = survey.listed := by
  fun_induction finish survey with
  | case1 survey nonePending =>
    rw [listed, List.isEmpty_iff.1 nonePending]
    simp
  | case2 survey somePending ih => rw [ih, listed_step]

theorem pending_of_weightless {survey : Survey} (weightless : survey.weight = 0) :
    survey.pending = [] := by
  by_contra goesOn
  have heavier := survey.weight_step goesOn
  omega

theorem steps_to_end (survey : Survey) : step^[survey.weight] survey = ⟨[], survey.listed⟩ := by
  generalize weightIs : survey.weight = weight
  induction weight generalizing survey with
  | zero =>
    have ended := pending_of_weightless weightIs
    cases survey
    cases ended
    simp [listed]
  | succ weight ih =>
    have goesOn : survey.pending ≠ [] := by
      intro ended
      rw [Survey.weight, ended] at weightIs
      cases weightIs
    have lighter := survey.weight_step goesOn
    rw [Function.iterate_succ_apply, ih survey.step (by omega), listed_step]

end Survey

def joined (path : List String) : String := ".".intercalate path

/-- As it is shown, a path lacks the empty keys that it begins with. -/
def shown (path : List String) : String := joined (path.dropWhile (· == ""))

theorem foldl_dotted_of_given {path : String} (given : path ≠ "") (rest : List String) :
    rest.foldl dotted path = joined (path :: rest) := by
  induction rest generalizing path with
  | nil => exact String.intercalate_singleton.symm
  | cons key rest ih =>
    have longer : dotted path key = path ++ "." ++ key := if_neg (by simpa using given)
    have stillGiven : path ++ "." ++ key ≠ "" := by
      intro empty
      have chars := congrArg String.toList empty
      simp at chars
    rw [List.foldl_cons, longer, ih stillGiven, joined, joined, String.intercalate_cons_append,
      String.intercalate_cons_cons]

theorem foldl_dotted (path : List String) : path.foldl dotted "" = shown path := by
  induction path with
  | nil => rfl
  | cons key rest ih =>
    have first : dotted "" key = key := rfl
    rw [List.foldl_cons, first]
    by_cases empty : key = ""
    next =>
      subst empty
      exact ih
    next =>
      rw [foldl_dotted_of_given empty, shown, List.dropWhile_cons_of_neg (by simpa using empty)]

theorem shown_of_named {key : String} (named : key ≠ "") (rest : List String) :
    shown (key :: rest) = joined (key :: rest) := by
  rw [shown, List.dropWhile_cons_of_neg (by simpa using named)]

theorem joined_begins (key : String) {rest : List String} (given : rest ≠ []) :
    ∃ others, joined (key :: rest) = key ++ "." ++ others :=
  ⟨joined rest, String.intercalate_cons_of_ne_nil given⟩

theorem mem_unrecognized {document : Table} {entry : String × Value} :
    entry ∈ unrecognized document <-> entry ∈ document /\ entry.1 ∉ keys := by
  rw [unrecognized, List.mem_filter, Bool.not_eq_true', ← Bool.not_eq_true, List.contains_iff_mem]

theorem keyed_unrecognized {document : Table} (keyed : Keyed document) :
    Keyed (unrecognized document) := by
  apply Keyed.of_values
  next => exact keyed.apart.sublist (List.filter_sublist.map Prod.fst)
  next => exact fun entry member => keyed.value (mem_unrecognized.1 member).1

theorem leaf_unrecognized {document : Table} {path : List String} :
    Leaf (.table (unrecognized document)) path <->
      Leaf (.table document) path /\ ∃ key rest, path = key :: rest /\ key ∉ keys := by
  constructor
  next =>
    intro leaf
    cases leaf with
    | here plain => cases plain
    | inside member leaf =>
      obtain ⟨among, unknown⟩ := mem_unrecognized.1 member
      exact ⟨.inside among leaf, _, _, rfl, unknown⟩
  next =>
    rintro ⟨leaf, key, rest, rfl, unknown⟩
    cases leaf with
    | inside member leaf => exact .inside (mem_unrecognized.2 ⟨member, unknown⟩) leaf

def listing (document : Table) : List (List String) := leavesOf (unrecognized document)

theorem listed_unrecognized (document : Table) :
    Survey.listed ⟨[("", .table (unrecognized document))], []⟩ = (listing document).map shown := by
  have shownIs : (fun path : List String => path.foldl dotted "") = shown := funext foldl_dotted
  rw [Survey.listed, ← shownIs]
  simp [leaves, listing]

theorem warnings_eq (document : Table) :
    warnings document =
      if unrecognized document = [] then [] else [warning ((listing document).map shown)] := by
  unfold warnings
  simp only [Survey.finish_eq_listed, listed_unrecognized, List.isEmpty_iff]

/-- The keys that are known have values that can be used, or none. -/
structure Usable [Machine] (document : Table) : Prop where
  path : ∀ value, document.lookup pathKey = some value ->
    ∃ text home, value = .string text /\
      (Text.Path.parse text.toList).expandHome Machine.home = some home
  confirm : ∀ value, document.lookup confirmKey = some value ->
    ∃ number, value = .integer number /\ 0 <= number
  threshold : ∀ value, document.lookup thresholdKey = some value ->
    ∃ number, value = .integer number /\ 1 <= number

theorem readNumber_of_usable {document : Table} {key requirement : String} {least fallback : Int}
    (usable : ∀ value, document.lookup key = some value ->
      ∃ number, value = .integer number /\ least <= number) :
    ∃ number, readNumber document key requirement least fallback = .ok number := by
  unfold readNumber
  cases found : document.lookup key with
  | none => exact ⟨fallback, rfl⟩
  | some value =>
    obtain ⟨number, rfl, enough⟩ := usable value found
    exact ⟨number, if_pos enough⟩

theorem read_of_usable [Machine] {document : Table} (usable : Usable document) :
    ∃ settings, read document = .ok settings := by
  have path : ∃ path, readPath document = .ok path := by
    unfold readPath
    cases found : document.lookup pathKey with
    | none => exact ⟨_, rfl⟩
    | some value =>
      obtain ⟨text, home, rfl, expanded⟩ := usable.path value found
      dsimp only
      rw [expanded]
      exact ⟨_, rfl⟩
  obtain ⟨path, pathRead⟩ := path
  obtain ⟨count, confirmRead⟩ := readNumber_of_usable usable.confirm
  obtain ⟨fields, thresholdRead⟩ := readNumber_of_usable usable.threshold
  unfold read
  rw [pathRead, confirmRead, thresholdRead]
  exact ⟨_, rfl⟩

/-- What is not recognized has values that are no tables, and no table without a name. -/
def Speaks (document : Table) : Prop :=
  ∀ key value, (key, value) ∈ document -> key ∉ keys ->
    (∃ path, Leaf value path) /\ (key = "" -> value.table? = none)

theorem shown_of_speaks {document : Table} (speaks : Speaks document) {path : List String}
    (leaf : Leaf (.table (unrecognized document)) path) : shown path = joined path := by
  cases leaf with
  | here plain => cases plain
  | @inside _ key value rest member leaf =>
    obtain ⟨among, unknown⟩ := mem_unrecognized.1 member
    by_cases named : key = ""
    next =>
      have plain := (speaks key value among unknown).2 named
      rw [(leaf_of_plain plain).1 leaf, named]
      rfl
    next => exact shown_of_named named rest

theorem reported_of_speaks {document : Table} (speaks : Speaks document) {entry : String × Value}
    (member : entry ∈ document) (unknown : entry.1 ∉ keys) :
    ∃ path ∈ listing document,
      joined path = entry.1 \/ ∃ others, joined path = entry.1 ++ "." ++ others := by
  obtain ⟨⟨rest, leaf⟩, _⟩ := speaks entry.1 entry.2 member unknown
  have among : entry.1 :: rest ∈ listing document :=
    (mem_leavesOf _ _).2 (.inside (mem_unrecognized.2 ⟨member, unknown⟩) leaf)
  refine ⟨entry.1 :: rest, among, ?_⟩
  cases rest with
  | nil => exact .inl String.intercalate_singleton
  | cons key rest => exact .inr (joined_begins entry.1 (List.cons_ne_nil _ _))

/-- A file whose known keys are usable is read, with one warning if there are keys that are not
known, and with none otherwise. The warning lists every value below such a key that is no table, once,
and nothing else, and to find them takes finitely many steps. Where every unknown key has such a value
and none without a name is a table, each of them is reported under its path, so that every unknown key
is listed or begins what is. -/
theorem unrecognized_reported [Machine] (text : String) (document : Table)
    (decoded : decode text = .ok document) (usable : Usable document) :
    ∃ settings messages, ∃ paths : List (List String),
      parse (some text) = .ok (settings, messages) /\
      ((∃ entry ∈ document, entry.1 ∉ keys) -> messages = [warning (paths.map shown)]) /\
      ((∀ entry ∈ document, entry.1 ∈ keys) -> messages = []) /\
      paths.Nodup /\
      (∀ path, path ∈ paths <->
        Leaf (.table document) path /\ ∃ key rest, path = key :: rest /\ key ∉ keys) /\
      (∃ steps, Survey.step^[steps] ⟨[("", .table (unrecognized document))], []⟩ =
        ⟨[], paths.map shown⟩) /\
      (Speaks document -> paths.map shown = paths.map joined /\
        ∀ entry ∈ document, entry.1 ∉ keys ->
          ∃ path ∈ paths.map joined, path = entry.1 \/ ∃ others, path = entry.1 ++ "." ++ others) := by
  obtain ⟨settings, settingsRead⟩ := read_of_usable usable
  have keyed : Keyed document := by
    unfold decode at decoded
    exact keyed_parse (mapError_eq_ok.1 decoded)
  have memberIff (path : List String) : path ∈ listing document <->
      Leaf (.table document) path /\ ∃ key rest, path = key :: rest /\ key ∉ keys :=
    (mem_leavesOf _ _).trans leaf_unrecognized
  refine ⟨settings, warnings document, listing document, ?parsed, ?warned, ?silent, ?once,
    memberIff, ?ends, ?speaks⟩
  case parsed =>
    unfold parse
    dsimp only
    rw [decoded, ok_bind, settingsRead]
    rfl
  case warned =>
    rintro ⟨entry, member, unknown⟩
    rw [warnings_eq, if_neg (List.ne_nil_of_mem (mem_unrecognized.2 ⟨member, unknown⟩))]
  case silent =>
    intro known
    rw [warnings_eq, if_pos]
    exact List.eq_nil_iff_forall_not_mem.2 fun entry member =>
      (mem_unrecognized.1 member).2 (known entry (mem_unrecognized.1 member).1)
  case once => exact nodup_leavesOf _ (keyed_unrecognized keyed)
  case ends =>
    refine ⟨_, (Survey.steps_to_end _).trans ?_⟩
    rw [listed_unrecognized]
  case speaks =>
    intro speaks
    have same : (listing document).map shown = (listing document).map joined :=
      List.map_congr_left fun path member => shown_of_speaks speaks ((mem_leavesOf _ _).1 member)
    refine ⟨same, fun entry member unknown => ?_⟩
    obtain ⟨path, among, reported⟩ := reported_of_speaks speaks member unknown
    exact ⟨joined path, List.mem_map.2 ⟨path, among, rfl⟩, reported⟩

@[reducible] def bareMachine : Machine := ⟨fun _ => none, "library.sqlite3", "config.toml"⟩

def misspelled : String := "unknown_key = 1\nconfirm_above_count = 10\n[search]\nthreshold = 3\n"

def misspelledDocument : Table := [
  ("unknown_key", .integer 1),
  ("confirm_above_count", .integer 10),
  ("search", .table [("threshold", .integer 3)])]

theorem unrecognized_reported_misspelled :
    decode misspelled = .ok misspelledDocument /\ @Usable bareMachine misspelledDocument /\
      ∃ settings, ∃ paths : List (List String),
        @parse bareMachine (some misspelled) = .ok (settings, [warning (paths.map joined)]) /\
          ["search", "threshold"] ∈ paths := by
  have decoded : decode misspelled = .ok misspelledDocument := eq_ok_of_toOption (by decide +kernel)
  have usable : @Usable bareMachine misspelledDocument :=
    @Usable.mk bareMachine _ nofun (fun _ found => ⟨10, (Option.some.inj found).symm, by decide⟩) nofun
  obtain ⟨settings, messages, paths, parsed, warned, _, _, listed, _, speaks⟩ :=
    @unrecognized_reported bareMachine misspelled misspelledDocument decoded usable
  have search : ("search", .table [("threshold", .integer 3)]) ∈ misspelledDocument := by
    simp [misspelledDocument]
  have leaf : Leaf (.table misspelledDocument) ["search", "threshold"] :=
    .inside search (.inside List.mem_cons_self (.here rfl))
  have shownIs := (speaks fun key value member unknown => by
    simp only [misspelledDocument, List.mem_cons, Prod.mk.injEq, List.not_mem_nil, or_false] at member
    rcases member with ⟨rfl, rfl⟩ | ⟨rfl, rfl⟩ | ⟨rfl, rfl⟩
    next => exact ⟨⟨[], .here rfl⟩, nofun⟩
    next => exact absurd (by decide) unknown
    next => exact ⟨⟨["threshold"], .inside List.mem_cons_self (.here rfl)⟩, nofun⟩).1
  have warnedAbout := warned ⟨("unknown_key", .integer 1), List.mem_cons_self, by decide⟩
  rw [warnedAbout, shownIs] at parsed
  exact ⟨decoded, usable, settings, paths, parsed,
    (listed _).2 ⟨leaf, "search", ["threshold"], rfl, by decide⟩⟩

/-- An unknown table without entries is warned about, and not listed. What stands below a table with
an empty name is listed without the dot. -/
theorem unlisted_table :
    @parse bareMachine (some "[extra]\n") = .ok (@standard bareMachine, [warning []]) /\
      @parse bareMachine (some "[\"\"]\na = 1\n") =
        .ok (@standard bareMachine, [warning ["a"]]) := by
  have extra : decode "[extra]\n" = .ok [("extra", .table [])] := eq_ok_of_toOption (by decide +kernel)
  have nameless : decode "[\"\"]\na = 1\n" = .ok [("", .table [("a", .integer 1)])] :=
    eq_ok_of_toOption (by decide +kernel)
  unfold parse
  dsimp only
  rw [extra, nameless, ok_bind, ok_bind, warnings_eq, warnings_eq]
  exact ⟨rfl, rfl⟩

end BibEdit.Settings
