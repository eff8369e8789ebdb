import BibEdit.Console.Prompt
import Mathlib.Data.List.Basic

set_option autoImplicit false

/-! Questions and typed lines: each time that a question is asked it takes one line, until it is
answered or the lines run out. -/

namespace BibEdit.Console

/-- What a typed line says to a question; an unclear line gets a remark, and the question again. -/
inductive Reply where
  | accept
  | decline
  | unclear (remark : List Char)
  deriving DecidableEq

def Reply.isUnclear : Reply -> Bool
  | .unclear _ => true
  | .accept | .decline => false

def Reply.remark : Reply -> List Char
  | .unclear remark => remark
  | .accept | .decline => []

section Dialogue

variable [Styling] (question : List Char) (judge : List Char -> Reply) (terminal : Terminal)

/-- What shows when a line is typed to a question: the question, the line as it was typed, and the
remark on an unclear one. -/
def Terminal.exchange (line : List Char) : List Char :=
  terminal.shown question ++ (line ++ ['\n']) ++
    if (judge line).isUnclear then terminal.shown (judge line).remark else []

/-- How a question may go on a terminal where some lines are typed: it is asked once for each line
that is unclear and once for the line that answers it, or once more when no line is left. -/
inductive Went (typed : List (List Char)) : Option Bool × Terminal -> Prop where
  | answered (unclear : List (List Char)) (line : List Char) (answer : Bool) (after : Terminal)
      (split : typed = unclear ++ line :: after.typed)
      (askedAgain : ∀ earlier ∈ unclear, (judge earlier).isUnclear = true)
      (judged : judge line = if answer then .accept else .decline)
      (output : after.output = terminal.output ++
        (unclear ++ [line]).flatMap (terminal.exchange question judge)) :
      Went typed (some answer, after)
  | ranOut (after : Terminal) (noneLeft : after.typed = [])
      (askedAgain : ∀ line ∈ typed, (judge line).isUnclear = true)
      (output : after.output = terminal.output ++
        typed.flatMap (terminal.exchange question judge) ++ terminal.shown question) :
      Went typed (none, after)

variable {question judge terminal}

theorem Went.again {line : List Char} {typed : List (List Char)} {next : Terminal}
    {result : Option Bool × Terminal} (unclear : (judge line).isUnclear = true)
    (sameColor : next.color = terminal.color)
    (shown : next.output = terminal.output ++ terminal.exchange question judge line)
    (went : Went question judge next typed result) :
    Went question judge terminal (line :: typed) result := by
  have same : next.exchange question judge = terminal.exchange question judge := by
    funext line
    simp only [Terminal.exchange, Terminal.shown, sameColor]
  cases went with
  | answered earlier last answer after split askedAgain judged output =>
    refine .answered (line :: earlier) last answer after (by rw [split]; rfl) ?_ judged ?_
    next => exact List.forall_mem_cons.2 ⟨unclear, askedAgain⟩
    next => rw [output, shown, same, List.cons_append, List.flatMap_cons, List.append_assoc]
  | ranOut after noneLeft askedAgain output =>
    refine .ranOut after noneLeft (List.forall_mem_cons.2 ⟨unclear, askedAgain⟩) ?_
    rw [output, shown, same, List.flatMap_cons, List.append_assoc, List.append_assoc,
      List.append_assoc, List.append_assoc]
    simp only [Terminal.shown, sameColor]

theorem Went.output_prefix {typed : List (List Char)} {result : Option Bool × Terminal}
    (went : Went question judge terminal typed result) :
    terminal.output <+: result.2.output := by
  cases went with
  | answered _ _ _ _ _ _ _ output => exact ⟨_, output.symm⟩
  | ranOut _ _ _ output => exact ⟨_, (output.trans (List.append_assoc _ _ _)).symm⟩

variable (question judge)

/-- A way to ask that takes one line each time and goes by what the line says. -/
structure AsksBy (ask : Terminal -> Option Bool × Terminal) : Prop where
  ended : ∀ terminal : Terminal, terminal.typed = [] ->
    ask terminal = (none, terminal.unanswered question)
  settled : ∀ (terminal : Terminal) (line : List Char) (rest : List (List Char)) (answer : Bool),
    terminal.typed = line :: rest -> (judge line = if answer then .accept else .decline) ->
      ask terminal = (some answer, terminal.answered question line rest)
  again : ∀ (terminal : Terminal) (line : List Char) (rest : List (List Char)),
    terminal.typed = line :: rest -> (judge line).isUnclear = true ->
      ∃ next : Terminal, ask terminal = ask next /\ next.typed = rest /\
        next.color = terminal.color /\
        next.output = terminal.output ++ terminal.exchange question judge line

variable {question judge}

theorem AsksBy.went {ask : Terminal -> Option Bool × Terminal} (asks : AsksBy question judge ask)
    (terminal : Terminal) : Went question judge terminal terminal.typed (ask terminal) := by
  generalize typedIs : terminal.typed = typed
  induction typed generalizing terminal with
  | nil =>
    rw [asks.ended terminal typedIs]
    refine .ranOut _ rfl nofun ?_
    show (terminal.print question).output = _
    rw [Terminal.output_print, List.flatMap_nil, List.append_nil]
  | cons line rest ih =>
    have settled (answer : Bool) (judged : judge line = if answer then .accept else .decline) :
        Went question judge terminal (line :: rest) (ask terminal) := by
      rw [asks.settled terminal line rest answer typedIs judged]
      refine .answered [] line answer _ rfl nofun judged ?_
      have clear : (judge line).isUnclear = false := by
        rw [judged]
        cases answer <;> rfl
      rw [Terminal.output_answered]
      simp [Terminal.exchange, clear]
    cases judged : judge line with
    | accept => exact settled true judged
    | decline => exact settled false judged
    | unclear remark =>
      have unclear : (judge line).isUnclear = true := by
        rw [judged]
        rfl
      obtain ⟨next, same, left, sameColor, shown⟩ := asks.again terminal line rest typedIs unclear
      rw [same]
      exact (ih next left).again unclear sameColor shown

end Dialogue

variable [Prompting]

def confirmReply (line : List Char) : Reply :=
  if agrees line then .accept else if refuses line then .decline else .unclear Prompting.remark

theorem confirmReply_cases (line : List Char) :
    (agrees line = true /\ confirmReply line = .accept) \/
      (¬agrees line = true /\ refuses line = true /\ confirmReply line = .decline) \/
      (¬agrees line = true /\ ¬refuses line = true /\
        confirmReply line = .unclear Prompting.remark) := by
  unfold confirmReply
  by_cases agreed : agrees line = true <;> by_cases refused : refuses line = true <;>
    simp [agreed, refused]

theorem confirm_asks (question : List Char) :
    AsksBy question confirmReply (Prompting.confirm question) where
  ended := Prompting.confirmOver question
  settled terminal line rest answer typedIs judged := by
    rw [Prompting.confirmLine question terminal line rest typedIs]
    obtain ⟨agreed, reply⟩ | ⟨unsure, refused, reply⟩ | ⟨-, -, reply⟩ := confirmReply_cases line
    next =>
      rw [if_pos agreed]
      cases answer with
      | true => rfl
      | false => cases reply.symm.trans judged
    next =>
      rw [if_neg unsure, if_pos refused]
      cases answer with
      | true => cases reply.symm.trans judged
      | false => rfl
    next => cases answer <;> cases reply.symm.trans judged
  again terminal line rest typedIs unclear := by
    obtain ⟨-, reply⟩ | ⟨-, -, reply⟩ | ⟨unsure, undecided, reply⟩ := confirmReply_cases line
    next => cases (congrArg Reply.isUnclear reply).symm.trans unclear
    next => cases (congrArg Reply.isUnclear reply).symm.trans unclear
    next =>
      refine ⟨(terminal.answered question line rest).print Prompting.remark, ?_, rfl, rfl, ?_⟩
      next =>
        rw [Prompting.confirmLine question terminal line rest typedIs, if_neg unsure,
          if_neg undecided]
      next =>
        rw [Terminal.output_print, Terminal.output_answered, Terminal.exchange, if_pos unclear,
          reply, List.append_assoc]
        rfl

end BibEdit.Console
