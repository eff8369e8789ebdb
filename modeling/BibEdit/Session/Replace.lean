import BibEdit.Console.Prompt
import BibEdit.Library.Save
import BibEdit.Session.Search

set_option autoImplicit false

namespace BibEdit.Session

structure Request where
  conditions : List Condition
  revision : Revision
  /-- Without fields those of the conditions are meant. -/
  fields : List String := []
  libraryId : Option Int := none
  dryRun : Bool := false
  confirm : Bool := false
  /-- How many records may be changed on a plain yes, if the settings do not say. -/
  confirmAbove : Option Int := none

def Request.targets (request : Request) : List String :=
  if request.fields.isEmpty then
    distinct ((request.conditions.filter fun condition => !condition.isNegative).map
      Condition.field)
  else request.fields

structure Plan where
  record : Record
  changes : List Change
  deriving DecidableEq

def planFor (revision : Revision) (fields : List String) (found : Search.Found Record) :
    Except Fault Plan :=
  (revision.preview found.record.readable fields).map fun changes => ⟨found.record, changes⟩

def plans (revision : Revision) (fields : List String) (found : List (Search.Found Record)) :
    Except Fault (List Plan) :=
  (found.mapM (planFor revision fields)).map fun plans =>
    plans.filter fun plan => !plan.changes.isEmpty

variable [Console.Prompting]

/-- A value of a change; of creators their names are shown. -/
def shownValue (field snapshot : String) : Except Fault (List Char) :=
  match Field.parse field with
  | .creator _ => do
    let creators <- (Snapshot.read snapshot).mapError .snapshot
    return Text.join (chars "; ") (creators.map fun creator => chars creator.displayName)
  | _ => .ok (chars snapshot)

def showChange (change : Change) : Session Unit := do
  print (fieldLabel change.field)
  styled { color := some .red } (<- ofFault (shownValue change.field change.before))
  print (chars " -> ")
  styledLine { color := some .green, bold := true }
    (<- ofFault (shownValue change.field change.after))

def showPlan (plan : Plan) : Session Unit := do
  showKey plan.record
  plan.changes.forM showChange

def boldNumber (number : Nat) : List Char := Console.Style.paint { bold := true } (numberText number)

def yesQuestion (count : Nat) : List Char :=
  chars "Write changes to " ++ boldNumber count ++ chars " records? [Y/n]"

def numberQuestion (count : Nat) : List Char :=
  chars "Write changes to " ++ numberText count ++ chars " records? Enter " ++ boldNumber count ++
    chars " to confirm (or 'no' to abort): "

def askNumber (count : Nat) (terminal : Console.Terminal) : Option Bool × Console.Terminal :=
  match _given : Console.Prompting.prompt (numberQuestion count) terminal with
  | (none, after) => (none, after)
  | (some line, after) =>
    if line == chars "no" then (some false, after)
    else if line == numberText count then (some true, after)
    else askNumber count after
termination_by terminal.typed.length
decreasing_by exact Console.typed_of_prompt _ _ _ _ _given

def consent (limit : Int) (count : Nat) : Session Bool :=
  asking (if limit < count then askNumber count
    else Console.Prompting.confirm (yesQuestion count))

def permitted (request : Request) (limit : Int) (count : Nat) : Session Bool := do
  if !request.confirm then return true
  else
    blankLine
    if <- consent limit count then
      blankLine
      return true
    else return false

def write (revision : Revision) (fields : List String) (records : List Record) :
    Session Revision.BatchResult := do
  let desk <- get
  let batch <- stopOn .pattern
    (Revision.batch Library.keeping revision fields desk.library records)
  set { desk with library := batch.place }
  return batch.result

def errorLine (records : List Record) (error : Revision.BatchError) : List Char :=
  let name := match records.reverse.find? (fun record => record.id == error.recordId) with
    | some record => chars record.key
    | none => (toString error.recordId).toList
  chars "      " ++ name ++ chars ": " ++ chars error.error

def report (records : List Record) (result : Revision.BatchResult) : Session Unit := do
  blankLine
  printLine (chars "Modified " ++ numberText result.modified ++ chars " records.")
  if 0 < result.skipped then
    styledLine { dim := true }
      (chars "Skipped " ++ numberText result.skipped ++ chars " records that needed no changes.")
  if !result.errors.isEmpty then
    styledLine { color := some .red }
      (chars "Failed to modify " ++ numberText result.errors.length ++ chars " records:")
    result.errors.forM fun error => styledLine { color := some .red } (errorLine records error)

def announceDryRun (count : Nat) : Session Unit := do
  blankLine
  styledLine { dim := true } (chars "This is a dry run, aborting. " ++ numberText count ++
    chars " records would have been modified.")

/-- Replaces in the records that satisfy the conditions: shows the changes, asks, and writes them.
Nothing if nothing was written. -/
def replace (settings : Settings) (request : Request) :
    Session (Option Revision.BatchResult) := do
  -- A bad pattern is reported before anything is searched.
  stopOn .pattern (Pattern.validate request.revision.search request.revision.kind)
  let fields := request.targets
  let found <- find settings request.conditions request.libraryId
  let plans <- ofFault (plans request.revision fields found)
  if plans.isEmpty then
    noneFound
    blankLine
    return none
  else
    plans.forM showPlan
    if request.dryRun then
      announceDryRun plans.length
      return none
    else if <- permitted request (request.confirmAbove.getD settings.confirmAbove) plans.length then
      let records := plans.map Plan.record
      let result <- write request.revision fields records
      report records result
      return some result
    else return none

end BibEdit.Session
