import BibEdit.Probe.Basic
import BibEdit.Text.Path
import BibEdit.Toml.Reader

set_option autoImplicit false

namespace BibEdit

structure Settings where
  libraryPath : String
  /-- Above so many records the number of records has to be typed to confirm. -/
  confirmAbove : Int := 25
  /-- Above so many fields a search looks at every record. -/
  fieldThreshold : Int := Probe.defaultThreshold
  deriving DecidableEq

namespace Settings

/-- What a machine knows of its user: the homes, and where the library and the settings are kept. -/
class Machine where
  home : List Char -> Option (List Char)
  libraryPath : String
  configPath : String

def standard [Machine] : Settings := { libraryPath := Machine.libraryPath }

inductive Error where
  | undecodable
  | invalid (key requirement : String)
  | noHome
  | longNumeral (numeral : Text.LongNumeral)
  deriving DecidableEq

def Error.message (file : String) : Error -> String
  | undecodable => "Failed to decode configuration file: invalid TOML: "
  | invalid key requirement =>
    "Invalid value for " ++ key ++ " in configuration file (" ++ file ++ "): must be " ++ requirement
  | noHome => "Could not determine home directory."
  | longNumeral numeral => numeral.message

def pathKey : String := "library_path"

def confirmKey : String := "confirm_above_count"

def thresholdKey : String := "prefilter_field_threshold"

def keys : List String := [pathKey, confirmKey, thresholdKey]

section Reading

variable [Machine]

def readPath (document : Toml.Table) : Except Error String :=
  match document.lookup pathKey with
  | none => .ok standard.libraryPath
  | some (.string path) =>
    match (Text.Path.parse path.toList).expandHome Machine.home with
    | some path => .ok (String.ofList path.text)
    | none => .error .noHome
  | some _ => .error (.invalid pathKey "a path")

/-- A number that is at least `least`; truth values are no numbers here. -/
def readNumber (document : Toml.Table) (key requirement : String) (least fallback : Int) :
    Except Error Int :=
  match document.lookup key with
  | none => .ok fallback
  | some (.integer number) =>
    if least <= number then .ok number else .error (.invalid key requirement)
  | some _ => .error (.invalid key requirement)

def read (document : Toml.Table) : Except Error Settings := do
  return {
    libraryPath := <- readPath document
    confirmAbove :=
      <- readNumber document confirmKey "a non-negative integer" 0 standard.confirmAbove
    fieldThreshold :=
      <- readNumber document thresholdKey "a positive integer" 1 standard.fieldThreshold }

end Reading

def dotted (path key : String) : String := if path == "" then key else path ++ "." ++ key

def below (path : String) (entries : Toml.Table) : Toml.Table :=
  entries.map fun entry => (dotted path entry.1, entry.2)

/-- A walk over tables: a stack of what is still to be looked at, by its path, and the paths found so
far. -/
structure Survey where
  pending : Toml.Table
  found : List String := []

mutual

def count : Toml.Value -> Nat
  | .table entries => 1 + countOf entries
  | _ => 1

def countOf : Toml.Table -> Nat
  | [] => 0
  | (_, value) :: rest => count value + countOf rest

end

theorem countOf_append (first second : Toml.Table) :
    countOf (first ++ second) = countOf first + countOf second := by
  induction first with
  | nil => exact (Nat.zero_add _).symm
  | cons entry rest ih => rw [List.cons_append, countOf, countOf, ih, Nat.add_assoc]

theorem countOf_reverse (entries : Toml.Table) : countOf entries.reverse = countOf entries := by
  induction entries with
  | nil => rfl
  | cons entry rest ih =>
    have alone : countOf [entry] = count entry.2 := rfl
    rw [List.reverse_cons, countOf_append, ih, alone, countOf, Nat.add_comm]

theorem countOf_below (path : String) (entries : Toml.Table) :
    countOf (below path entries) = countOf entries := by
  induction entries with
  | nil => rfl
  | cons entry rest ih =>
    show count entry.2 + countOf (below path rest) = _
    rw [ih, countOf]

namespace Survey

def weight (survey : Survey) : Nat := countOf survey.pending

def step (survey : Survey) : Survey :=
  match survey.pending with
  | [] => survey
  | (path, .table entries) :: rest =>
    { survey with pending := (below path entries).reverse ++ rest }
  | (path, _) :: rest => { pending := rest, found := survey.found ++ [path] }

theorem weight_step (survey : Survey) (goesOn : survey.pending ≠ []) :
    survey.step.weight + 1 = survey.weight := by
  unfold step weight
  split
  next nonePending => exact absurd nonePending goesOn
  next path entries rest pendingAre =>
    rw [pendingAre, countOf_append, countOf_reverse, countOf_below, countOf, count]
    omega
  next path value rest notTable pendingAre =>
    have one : count value = 1 := by
      cases value with
      | table entries => exact absurd rfl (notTable entries)
      | _ => rfl
    rw [pendingAre, countOf, one, Nat.add_comm]

def finish (survey : Survey) : List String :=
  if survey.pending.isEmpty then survey.found else survey.step.finish
termination_by survey.weight
decreasing_by
  have less := survey.weight_step (by simp_all)
  omega

end Survey

def unrecognized (document : Toml.Table) : Toml.Table :=
  document.filter fun entry => !keys.contains entry.1

def warning (paths : List String) : String :=
  "Unrecognized options found in configuration file: " ++ ", ".intercalate paths

def warnings (document : Toml.Table) : List String :=
  let rest := unrecognized document
  if rest.isEmpty then [] else [warning (Survey.finish ⟨[("", .table rest)], []⟩)]

def plainBreaks (text : String) : String :=
  String.ofList ((Toml.joinBreaks text.toList).map fun c => if c == '\r' then '\n' else c)

def decode (text : String) : Except Error Toml.Table :=
  (Toml.parse (plainBreaks text)).mapError fun flaw => match flaw with
    | .malformed => .undecodable
    | .longNumeral numeral => .longNumeral numeral

def parse [Machine] : Option String -> Except Error (Settings × List String)
  | none => .ok (standard, [])
  | some text => do
    let document <- decode text
    return (<- read document, warnings document)

end Settings

end BibEdit
