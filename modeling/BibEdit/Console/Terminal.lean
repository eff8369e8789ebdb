import BibEdit.Console.Style
import BibEdit.Text.Basic

set_option autoImplicit false

namespace BibEdit.Console

/-- What is printed, and the lines that are still to be typed. -/
structure Terminal where
  color : Bool
  typed : List (List Char)
  /-- The pieces printed so far, the last one first. -/
  pieces : List (List Char) := []
  /-- Whether a question was left without an answer. -/
  waiting : Bool := false
  deriving DecidableEq

def typedLines (text : List Char) : List (List Char) := go false [] text
where
  /-- Reads a line backwards; a line feed right after a carriage return ends no line. -/
  go : Bool -> List Char -> List Char -> List (List Char)
  | _, [], [] => []
  | _, line, [] => [line.reverse]
  | afterReturn, line, c :: rest =>
    if c == '\n' && afterReturn then go false line rest
    else if c == '\n' then line.reverse :: go false [] rest
    else if c == '\r' then line.reverse :: go true [] rest
    else go false (c :: line) rest

namespace Terminal

def write (terminal : Terminal) (text : List Char) : Terminal :=
  { terminal with pieces := text :: terminal.pieces }

def shown [Styling] (terminal : Terminal) (text : List Char) : List Char :=
  if terminal.color then text else Styling.strip text

def print [Styling] (terminal : Terminal) (text : List Char) : Terminal :=
  terminal.write (terminal.shown text)

def output (terminal : Terminal) : List Char := terminal.pieces.reverse.flatten

@[simp] theorem output_write (terminal : Terminal) (text : List Char) :
    (terminal.write text).output = terminal.output ++ text := by
  simp [write, output]

section Printing

variable [Styling] (terminal : Terminal) (text : List Char)

@[simp] theorem output_print :
    (terminal.print text).output = terminal.output ++ terminal.shown text := output_write _ _

/-- The terminal when a question got this line for an answer. A typed line shows as it was typed,
styles and all. -/
def answered (question line : List Char) (rest : List (List Char)) : Terminal :=
  { (terminal.print question).write (line ++ ['\n']) with typed := rest }

def unanswered (question : List Char) : Terminal :=
  { terminal.print question with typed := [], waiting := true }

theorem output_answered (question line : List Char) (rest : List (List Char)) :
    (terminal.answered question line rest).output =
      terminal.output ++ (terminal.shown question ++ (line ++ ['\n'])) := by
  show ((terminal.print question).write (line ++ ['\n'])).output = _
  rw [output_write, output_print, List.append_assoc]

end Printing

end Terminal

end BibEdit.Console
