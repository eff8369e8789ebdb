import BibEdit.CommandLine.Run

set_option autoImplicit false

/-! The program: files are read before a command runs, and what it printed and changed is written
out after it. A library is kept as the document that it exports. -/

namespace BibEdit.Program

def readFile? (path : String) : IO (Option String) := do
  try
    return some (<- IO.FS.readFile path)
  catch _ => return none

def readLibrary (path : String) : IO Library := do
  return (({} : Library).importFile path (<- readFile? path)).2

def filePaths (config : String) (args : List String) : List String :=
  distinct (config :: args.map Text.normalPath)

def readFiles (paths : List String) : IO (List (String × String)) := do
  return (<- paths.mapM fun path => return (<- readFile? path).map (path, ·)).filterMap id

def workspaceFor (args : List String) : IO (CommandLine.Workspace × Option String) := do
  match CommandLine.readOuter args with
  | .read outer =>
    let config := outer.config.getD Settings.Machine.configPath
    let files <- readFiles (filePaths config outer.rest)
    match Settings.parse (files.lookup config) with
    | .ok (settings, warnings) =>
      (<- IO.getStderr).putStr (String.join (warnings.map (· ++ "\n")))
      let path := settings.libraryPath
      return (⟨files, [(path, <- readLibrary path)]⟩, some path)
    | .error _ => return (⟨files, []⟩, none)
  | _ => return ({}, none)

def writeLibrary (path : String) (workspace : CommandLine.Workspace) : IO Unit := do
  match (CommandLine.library workspace path).exportText none with
  | .ok content =>
    IO.FS.createDirAll (Text.folderOf path)
    IO.FS.writeFile path content
  | .error fault => (<- IO.getStderr).putStrLn fault.message

/-- Runs with the lines typed so far, and again with one more as long as a question is open. -/
partial def converse (workspace : CommandLine.Workspace) (args : List String)
    (typed : List (List Char)) (shown : Nat) : IO CommandLine.Result := do
  let result := CommandLine.run workspace { color := true, typed := typed } args
  let stdout <- IO.getStdout
  stdout.putStr (String.ofList (result.terminal.output.drop shown))
  stdout.flush
  if !result.terminal.waiting then return result
  else
    let line <- (<- IO.getStdin).getLine
    if line.isEmpty then return result
    else
      let typed := typed ++ Console.typedLines line.toList
      converse workspace args typed (result.terminal.output.length + line.length)

end BibEdit.Program

open BibEdit.Program

def main (args : List String) : IO UInt32 := do
  let (workspace, path) <- workspaceFor args
  let result <- converse workspace args [] 0
  path.forM fun path => writeLibrary path result.workspace
  match result.ending with
  | .exit code => return code.toUInt32
  | .failed _ =>
    (<- IO.getStderr).putStrLn "unexpected failure"
    return 1
