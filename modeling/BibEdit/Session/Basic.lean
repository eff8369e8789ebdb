import BibEdit.Console.Terminal
import BibEdit.Library.Basic
import BibEdit.Search

set_option autoImplicit false

namespace BibEdit

inductive Stop where
  | aborted
  | search (failure : Search.Failure)
  | pattern (error : PatternError)
  | fault (fault : Fault)

structure Desk where
  library : Library
  terminal : Console.Terminal

/-- Work at a desk, which keeps what was done to it when the work stops. -/
abbrev Session := ExceptT Stop (StateM Desk)

namespace Session

variable [Console.Styling]

def print (text : List Char) : Session Unit :=
  modify fun desk => { desk with terminal := desk.terminal.print text }

def printLine (text : List Char) : Session Unit := print (text ++ ['\n'])

def blankLine : Session Unit := printLine []

def styled (style : Console.Style) (text : List Char) : Session Unit := print (style.paint text)

def styledLine (style : Console.Style) (text : List Char) : Session Unit :=
  printLine (style.paint text)

def asking (ask : Console.Terminal -> Option Bool × Console.Terminal) : Session Bool := do
  let desk <- get
  let (answer, terminal) := ask desk.terminal
  set { desk with terminal := terminal }
  match answer with
  | some answer => return answer
  | none => throw .aborted

def stopOn {ε α : Type} (stop : ε -> Stop) : Except ε α -> Session α
  | .ok value => pure value
  | .error error => throw (stop error)

def ofFault {α : Type} : Except Fault α -> Session α := stopOn .fault

def work {α : Type} (session : Session α) (desk : Desk) : Except Stop α × Desk :=
  session.run.run desk

end Session

end BibEdit
