import BibEdit.Console.Options
import BibEdit.Pattern.Kind
import BibEdit.Text.Numeral
import BibEdit.Text.Path

set_option autoImplicit false

namespace BibEdit.CommandLine

open Console

structure ReplaceOrder where
  conditions : List String
  find : String
  replacement : String
  fields : List String
  kind : PatternKind
  caseSensitive : Bool
  libraryId : Option Int
  dryRun : Bool
  yes : Bool
  deriving DecidableEq

inductive Command where
  | version
  | search (conditions : List String) (libraryId : Option Int)
  | replace (order : ReplaceOrder)
  | importFile (path : String)
  | exportLibrary (libraryId : Option Int)
  deriving DecidableEq

inductive Verb where
  | version
  | search
  | replace
  | library
  deriving DecidableEq

def Verb.name : Verb -> String
  | version => "version"
  | search => "search"
  | replace => "replace"
  | library => "library"

def Verb.all : List Verb := [version, search, replace, library]

def Verb.ofName? (name : String) : Option Verb := all.find? fun verb => verb.name == name

inductive Reading (α : Type) where
  | read (value : α)
  | help
  | misuse
  deriving DecidableEq

def helpSpec : OptionSpec := { word := "help" }

def librarySpec : OptionSpec := { letter := some 'l', word := "library-id", takesValue := true }

def withArguments {α : Type} (specs : List OptionSpec) (anywhere : Bool) (args : List String)
    (next : Arguments -> Reading α) : Reading α :=
  match readArguments (helpSpec :: specs) anywhere args with
  | none => .misuse
  | some arguments => if arguments.has "help" then .help else next arguments

def orMisuse {α β : Type} (value : Option α) (next : α -> Reading β) : Reading β :=
  match value with
  | some value => next value
  | none => .misuse

def numberOption (arguments : Arguments) (word : String) : Option (Option Int) :=
  match arguments.value? word with
  | none => some none
  | some text => (Text.wholeNumber? text.toList).map some

structure Outer where
  config : Option String
  verb : Verb
  rest : List String
  deriving DecidableEq

def outerSpecs : List OptionSpec := [
  { letter := some 'v', word := "verbose" },
  { letter := some 'c', word := "config", takesValue := true }]

def readOuter (args : List String) : Reading Outer :=
  withArguments outerSpecs false args fun arguments =>
    match arguments.rest with
    | [] => .misuse
    | name :: rest => orMisuse (Verb.ofName? name) fun verb =>
      .read ⟨(arguments.value? "config").map Text.normalPath, verb, rest⟩

def readSearch (args : List String) : Reading Command :=
  withArguments [librarySpec] true args fun arguments =>
    orMisuse (numberOption arguments "library-id") fun libraryId =>
      if arguments.rest.isEmpty then .misuse else .read (.search arguments.rest libraryId)

def replaceSpecs : List OptionSpec := [
  { letter := some 'f', word := "find", takesValue := true },
  { letter := some 'r', word := "replace", takesValue := true },
  { letter := some 'F', word := "field", takesValue := true },
  { letter := some 't', word := "type", takesValue := true },
  { letter := some 'C', word := "case-sensitive" },
  librarySpec,
  { letter := some 'd', word := "dry-run" },
  { letter := some 'y', word := "yes" }]

def kindOption (arguments : Arguments) : Option PatternKind :=
  let kind := PatternKind.ofName ((arguments.value? "type").getD PatternKind.regex.name)
  if kind.isKnown then some kind else none

def orderOf (arguments : Arguments) : Option ReplaceOrder := do
  return {
    conditions := arguments.rest
    find := <- arguments.value? "find"
    replacement := <- arguments.value? "replace"
    fields := arguments.values "field"
    kind := <- kindOption arguments
    caseSensitive := arguments.has "case-sensitive"
    libraryId := <- numberOption arguments "library-id"
    dryRun := arguments.has "dry-run"
    yes := arguments.has "yes" }

def readReplace (args : List String) : Reading Command :=
  withArguments replaceSpecs true args fun arguments =>
    orMisuse (orderOf arguments) fun order =>
      if order.conditions.isEmpty then .misuse else .read (.replace order)

def readVersion (args : List String) : Reading Command :=
  withArguments [] true args fun arguments =>
    if arguments.rest.isEmpty then .read .version else .misuse

def readImport (args : List String) : Reading Command :=
  withArguments [] true args fun arguments =>
    match arguments.rest with
    | [path] => .read (.importFile (Text.normalPath path))
    | _ => .misuse

def readExport (args : List String) : Reading Command :=
  withArguments [librarySpec] true args fun arguments =>
    orMisuse (numberOption arguments "library-id") fun libraryId =>
      if arguments.rest.isEmpty then .read (.exportLibrary libraryId) else .misuse

def readLibrary (args : List String) : Reading Command :=
  withArguments [] false args fun arguments =>
    match arguments.rest with
    | "import" :: rest => readImport rest
    | "export" :: rest => readExport rest
    | _ => .misuse

def readVerb (verb : Verb) (args : List String) : Reading Command :=
  match verb with
  | .version => readVersion args
  | .search => readSearch args
  | .replace => readReplace args
  | .library => readLibrary args

end BibEdit.CommandLine
