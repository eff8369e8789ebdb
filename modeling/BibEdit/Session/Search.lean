import BibEdit.Condition.Syntax
import BibEdit.Library.Query
import BibEdit.Session.Basic
import BibEdit.Settings

set_option autoImplicit false

namespace BibEdit.Session

def chars (text : String) : List Char := text.toList

def numberText (number : Nat) : List Char := (toString number).toList

/-- Conditions are written down before a search; one that has no written form ends it. -/
def requireWritten (conditions : List Condition) : Session Unit :=
  if conditions.all fun condition => condition.render?.isSome then pure ()
  else throw (.fault (.failure "generator raised StopIteration"))

def find (settings : Settings) (conditions : List Condition) (libraryId : Option Int) :
    Session (List (Search.Found Record)) := do
  requireWritten conditions
  let library := (<- get).library
  stopOn .search
    (search library.store Record.readable conditions libraryId settings.fieldThreshold).outcome

variable [Console.Styling]

def highlight (detail : Detail) : List Char :=
  let value := chars detail.value
  if detail.index < 0 || detail.length <= 0 then value
  else
    let start := detail.index.toNat
    let stop := start + detail.length.toNat
    value.take start ++
      Console.Style.paint { color := some .green, bold := true } (Text.slice value start stop) ++
      value.drop stop

def fieldLabel (field : String) : List Char := chars ("      " ++ field ++ ": ")

def noneFound : Session Unit :=
  styledLine { dim := true, italic := true } (chars "No matching records found")

def showKey (record : Record) : Session Unit :=
  styledLine { underline := true } (chars record.key)

def showFound (found : Search.Found Record) : Session Unit := do
  showKey found.record
  found.details.forM fun detail => do
    print (fieldLabel detail.field)
    printLine (highlight detail)

def showSearch (settings : Settings) (conditions : List Condition) (libraryId : Option Int) :
    Session (List (Search.Found Record)) := do
  let found <- find settings conditions libraryId
  if found.isEmpty then
    noneFound
    return found
  else
    found.forM showFound
    blankLine
    printLine (chars "Found " ++ numberText found.length ++ chars " matching records.")
    return found

end BibEdit.Session
