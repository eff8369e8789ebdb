import BibEdit.CommandLine.Basic
import BibEdit.Console.Ansi
import BibEdit.Library.Export
import BibEdit.Library.Import
import BibEdit.Session.Replace
import BibEdit.Toml.Printer

set_option autoImplicit false

namespace BibEdit.CommandLine

def version : String := "0.1.0"

structure Workspace where
  files : List (String × String) := []
  libraries : List (String × Library) := []

inductive Problem where
  | settings (file : String) (error : Settings.Error)
  | syntaxError (error : Condition.SyntaxError)
  | importing (error : Library.ImportError)
  | folder
  | stop (stop : Stop)

def expectedPattern? (kind : String) (error : PatternError) : Option (String × List Char) :=
  if error.isInvalid then some (kind, error.message.toList) else none

def Problem.expected? : Problem -> Option (String × List Char)
  | .settings file error =>
    match error with
    | .undecodable => some ("refsed.config.ConfigDecodeError", (error.message file).toList)
    | .invalid _ _ => some ("refsed.config.InvalidConfigValueError", (error.message file).toList)
    | .noHome | .longNumeral _ => none
  | .syntaxError error => some ("refsed.condition_parser.ConditionSyntaxError", error.message)
  | .importing error =>
    match error with
    | .longNumeral _ | .document _ .notListed | .fault _ => none
    | error => some ("refsed.library.LibraryImportError", error.message.toList)
  | .folder => none
  | .stop (.search (.badPattern error)) => expectedPattern? "refsed.search.SearchError" error
  | .stop (.search (.fault (.pattern error))) | .stop (.fault (.pattern error))
  | .stop (.pattern error) => expectedPattern? "refsed.matcher.InvalidPatternError" error
  | .stop _ => none

inductive Ending where
  | exit (code : Nat)
  | failed (problem : Problem)

structure Result where
  ending : Ending
  workspace : Workspace
  terminal : Console.Terminal

abbrev Task := ExceptT Problem (StateM Desk)

def ofSession {α : Type} (session : Session α) : Task α :=
  fun desk =>
    match session.work desk with
    | (.ok value, desk) => (.ok value, desk)
    | (.error stop, desk) => (.error (.stop stop), desk)

def parseConditions (raw : List String) : Task (List Condition) :=
  match raw.mapM Condition.parse with
  | .ok conditions => pure conditions
  | .error error => throw (.syntaxError error)

def requestOf (order : ReplaceOrder) (conditions : List Condition) : Session.Request where
  conditions := conditions
  revision := {
    search := order.find
    replacement := .template order.replacement
    kind := order.kind
    caseSensitive := order.caseSensitive }
  fields := order.fields
  libraryId := order.libraryId
  dryRun := order.dryRun
  confirm := !order.yes

/-- Folders that are there in any case: the current one, and those on the way to the library. -/
def isFolder (settings : Settings) (path : String) : Bool :=
  path == "." || path == ".." || path == "/" ||
    (path.toList ++ ['/']).isPrefixOf settings.libraryPath.toList

def importTask (settings : Settings) (files : List (String × String)) (path : String) :
    Task Unit := do
  if isFolder settings path then throw .folder
  let desk <- get
  let (result, library) := desk.library.importFile path (files.lookup path)
  set { desk with library := library }
  match result with
  | .error error => throw (.importing error)
  | .ok count => ofSession (Session.printLine
      (Session.chars "Imported " ++ Session.numberText count ++ Session.chars " records."))

def exportTask (libraryId : Option Int) : Task Unit := do
  let desk <- get
  ofSession do
    Session.print (Session.chars (<- Session.ofFault (desk.library.exportText libraryId)))

def task (settings : Settings) (files : List (String × String)) : Command -> Task Unit
  | .version => ofSession (Session.printLine version.toList)
  | .search raw libraryId => do
    let conditions <- parseConditions raw
    let _ <- ofSession (Session.showSearch settings conditions libraryId)
    return ()
  | .replace order => do
    let conditions <- parseConditions order.conditions
    let _ <- ofSession (Session.replace settings (requestOf order conditions))
    return ()
  | .importFile path => importTask settings files path
  | .exportLibrary libraryId => exportTask libraryId

def conclude (terminal : Console.Terminal) (problem : Problem) : Ending × Console.Terminal :=
  match problem, problem.expected? with
  | .stop .aborted, _ => (.exit 1, terminal)
  | _, some (kind, text) =>
    let label := Console.Style.paint { color := some .red } (kind.toList ++ [':', ' '])
    (.exit 1, (terminal.print label).print (Console.Style.paint {} text ++ ['\n']))
  | problem, none => (.failed problem, terminal)

def finish (workspace : Workspace) (terminal : Console.Terminal) (problem : Problem) : Result :=
  let (ending, terminal) := conclude terminal problem
  ⟨ending, workspace, terminal⟩

def usage (workspace : Workspace) (terminal : Console.Terminal) : Result :=
  ⟨.exit 2, workspace, terminal⟩

def library (workspace : Workspace) (path : String) : Library :=
  (workspace.libraries.lookup path).getD {}

def putLibrary (workspace : Workspace) (path : String) (library : Library) : Workspace :=
  { workspace with
    libraries := (path, library) :: workspace.libraries.filter fun entry => entry.1 != path }

def runCommand (workspace : Workspace) (terminal : Console.Terminal) (settings : Settings)
    (command : Command) : Result :=
  let desk : Desk := ⟨library workspace settings.libraryPath, terminal⟩
  let (outcome, desk) := (task settings workspace.files command).run.run desk
  let workspace := putLibrary workspace settings.libraryPath desk.library
  match outcome with
  | .ok () => ⟨.exit 0, workspace, desk.terminal⟩
  | .error problem => finish workspace desk.terminal problem

instance : Settings.Machine where
  home user :=
    if user.isEmpty then some "/home/user".toList
    else if user == "root".toList then some "/root".toList
    else none
  libraryPath := "/home/user/.local/share/refsed/library.sqlite3"
  configPath := "/home/user/.config/refsed/config.toml"

def runOuter (workspace : Workspace) (terminal : Console.Terminal) (outer : Outer) : Result :=
  let file := outer.config.getD Settings.Machine.configPath
  if isFolder Settings.standard file then finish workspace terminal .folder
  else
    match Settings.parse (workspace.files.lookup file) with
    | .error error => finish workspace terminal (.settings file error)
    | .ok (settings, _) =>
      match readVerb outer.verb outer.rest with
      | .misuse => usage workspace terminal
      | .help => ⟨.exit 0, workspace, terminal⟩
      | .read command => runCommand workspace terminal settings command

def run (workspace : Workspace) (terminal : Console.Terminal) (args : List String) : Result :=
  match readOuter args with
  | .misuse => usage workspace terminal
  | .help => ⟨.exit 0, workspace, terminal⟩
  | .read outer => runOuter workspace terminal outer

end BibEdit.CommandLine
