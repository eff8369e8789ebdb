import BibEdit.Console.Terminal
import BibEdit.Text.Case

set_option autoImplicit false

namespace BibEdit.Console

/-- An empty line agrees. -/
def agrees (line : List Char) : Bool :=
  let answer := Text.trim (Text.lower line)
  answer == ['y'] || answer == ['y', 'e', 's'] || answer.isEmpty

def refuses (line : List Char) : Bool :=
  let answer := Text.trim (Text.lower line)
  answer == ['n'] || answer == ['n', 'o']

/-- How a console asks. Each time a question is asked it takes one line: `confirm` until a line
agrees or refuses, with a remark on any other, and `prompt` until a line is not empty. Without a line
there is no answer. -/
class Prompting extends Styling where
  confirm : List Char -> Terminal -> Option Bool × Terminal
  prompt : List Char -> Terminal -> Option (List Char) × Terminal
  remark : List Char
  confirmOver : ∀ (question : List Char) (terminal : Terminal), terminal.typed = [] ->
    confirm question terminal = (none, terminal.unanswered question)
  confirmLine : ∀ (question : List Char) (terminal : Terminal) (line : List Char)
    (rest : List (List Char)), terminal.typed = line :: rest ->
    confirm question terminal =
      if agrees line then (some true, terminal.answered question line rest)
      else if refuses line then (some false, terminal.answered question line rest)
      else confirm question ((terminal.answered question line rest).print remark)
  promptOver : ∀ (question : List Char) (terminal : Terminal), terminal.typed = [] ->
    prompt question terminal = (none, terminal.unanswered question)
  promptLine : ∀ (question : List Char) (terminal : Terminal) (line : List Char)
    (rest : List (List Char)), terminal.typed = line :: rest ->
    prompt question terminal =
      if line.isEmpty then prompt question (terminal.answered question line rest)
      else (some line, terminal.answered question line rest)

-- A loop that prompts ends because a line that was given is no longer there to be typed.
theorem typed_of_prompt [Prompting] (question : List Char) (terminal : Terminal) (line : List Char)
    (after : Terminal) (given : Prompting.prompt question terminal = (some line, after)) :
    after.typed.length < terminal.typed.length := by
  generalize typedIs : terminal.typed = typed
  induction typed generalizing terminal with
  | nil =>
    rw [Prompting.promptOver question terminal typedIs] at given
    cases given
  | cons first rest ih =>
    rw [Prompting.promptLine question terminal first rest typedIs] at given
    split at given
    next =>
      have later := ih (terminal.answered question first rest) given rfl
      exact Nat.lt_succ_of_lt later
    next =>
      cases given
      exact Nat.lt_succ_self _

end BibEdit.Console
