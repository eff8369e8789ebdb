import BibEdit.Proofs.Console.Dialogue
import BibEdit.Proofs.Session.Display

set_option autoImplicit false

namespace BibEdit.Session

def outcomeOf : Option Bool -> Except Stop Bool
  | some answer => .ok answer
  | none => .error .aborted

theorem work_asking (ask : Console.Terminal -> Option Bool × Console.Terminal) (desk : Desk) :
    (asking ask).work desk =
      (outcomeOf (ask desk.terminal).1, { desk with terminal := (ask desk.terminal).2 }) := by
  rw [asking, work_bind, work_get]
  dsimp only
  cases ask desk.terminal with
  | mk answer terminal => cases answer <;> rfl

/-- Lines that agree to a change of so many records: above the limit the number of them, and else a
yes or nothing. -/
def Accepts (limit : Int) (count : Nat) (line : List Char) : Prop :=
  if limit < count then line = numberText count
  else Text.trim (Text.lower line) ∈ [['y'], ['y', 'e', 's'], []]

def Declines (limit : Int) (count : Nat) (line : List Char) : Prop :=
  if limit < count then line = ['n', 'o']
  else Text.trim (Text.lower line) ∈ [['n'], ['n', 'o']]

theorem numberText_digits (count : Nat) (c : Char) (member : c ∈ numberText count) :
    c.isDigit = true := by
  rw [numberText, Nat.toString_eq_ofList_toDigits, String.toList_ofList] at member
  exact Nat.isDigit_of_mem_toDigits (by decide) (by decide) member

theorem numberText_ne_no (count : Nat) : numberText count ≠ chars "no" := by
  intro same
  have digit := numberText_digits count 'n' (by simp [same, chars])
  cases digit

theorem Accepts.not_declines {limit : Int} {count : Nat} {line : List Char}
    (accepts : Accepts limit count line) : ¬Declines limit count line := by
  unfold Accepts at accepts
  unfold Declines
  split
  next large =>
    rw [if_pos large] at accepts
    exact accepts ▸ numberText_ne_no count
  next small =>
    rw [if_neg small] at accepts
    simp only [List.mem_cons, List.not_mem_nil, or_false] at accepts
    rcases accepts with same | same | same <;> simp [same]

theorem numberText_ne_nil (count : Nat) : numberText count ≠ [] := by
  rw [numberText, Nat.toString_eq_ofList_toDigits, String.toList_ofList]
  exact Nat.toDigits_ne_nil

def numberReply (count : Nat) (line : List Char) : Console.Reply :=
  if line == chars "no" then .decline
  else if line == numberText count then .accept
  else .unclear []

theorem numberReply_cases (count : Nat) (line : List Char) :
    (line = chars "no" /\ numberReply count line = .decline) \/
      (line ≠ chars "no" /\ line = numberText count /\ numberReply count line = .accept) \/
      (line ≠ chars "no" /\ line ≠ numberText count /\ numberReply count line = .unclear []) := by
  unfold numberReply
  by_cases refused : line = chars "no"
  next => simp [refused]
  next => by_cases agreed : line = numberText count <;> simp_all

section Asking

variable [Console.Prompting]

theorem askNumber_line (count : Nat) (terminal : Console.Terminal) (line : List Char)
    (rest : List (List Char)) (typedIs : terminal.typed = line :: rest) (someTyped : line ≠ []) :
    askNumber count terminal =
      let after := terminal.answered (numberQuestion count) line rest
      if line == chars "no" then (some false, after)
      else if line == numberText count then (some true, after)
      else askNumber count after := by
  have given := Console.Prompting.promptLine (numberQuestion count) terminal line rest typedIs
  rw [if_neg (by simpa using someTyped)] at given
  rw [askNumber, given]

theorem askNumber_empty (count : Nat) (terminal : Console.Terminal) (rest : List (List Char))
    (typedIs : terminal.typed = [] :: rest) :
    askNumber count terminal =
      askNumber count (terminal.answered (numberQuestion count) [] rest) := by
  have given := Console.Prompting.promptLine (numberQuestion count) terminal [] rest typedIs
  rw [if_pos List.isEmpty_nil] at given
  rw [askNumber, given]
  exact (askNumber.eq_def count _).symm

theorem askNumber_asks (count : Nat) :
    Console.AsksBy (numberQuestion count) (numberReply count) (askNumber count) where
  ended terminal noneTyped := by
    rw [askNumber, Console.Prompting.promptOver _ terminal noneTyped]
  settled terminal line rest answer typedIs judged := by
    obtain ⟨refused, reply⟩ | ⟨-, agreed, reply⟩ | ⟨-, -, reply⟩ := numberReply_cases count line
    next =>
      rw [askNumber_line count terminal line rest typedIs (by simp [refused, chars])]
      cases answer with
      | true => cases reply.symm.trans judged
      | false => simp [refused]
    next =>
      rw [askNumber_line count terminal line rest typedIs (agreed ▸ numberText_ne_nil count)]
      cases answer with
      | true => simp [agreed, numberText_ne_no]
      | false => cases reply.symm.trans judged
    next => cases answer <;> cases reply.symm.trans judged
  again terminal line rest typedIs unclear := by
    obtain ⟨-, reply⟩ | ⟨-, -, reply⟩ | ⟨unrefused, differs, reply⟩ := numberReply_cases count line
    next => cases (congrArg Console.Reply.isUnclear reply).symm.trans unclear
    next => cases (congrArg Console.Reply.isUnclear reply).symm.trans unclear
    next =>
      refine ⟨terminal.answered (numberQuestion count) line rest, ?_, rfl, rfl, ?_⟩
      next =>
        by_cases empty : line = []
        next =>
          subst empty
          exact askNumber_empty count terminal rest typedIs
        next =>
          rw [askNumber_line count terminal line rest typedIs empty]
          simp [unrefused, differs]
      next =>
        have unseen : terminal.shown [] = [] := by
          simp [Console.Terminal.shown, Console.Styling.stripNil]
        rw [Console.Terminal.output_answered, Console.Terminal.exchange, if_pos unclear, reply,
          Console.Reply.remark, unseen, List.append_nil]

end Asking

section Lines

variable [Console.Prompting] (limit : Int) (count : Nat) (line : List Char)

def consentQuestion : List Char :=
  if limit < count then numberQuestion count else yesQuestion count

def consentJudge : List Char -> Console.Reply :=
  if limit < count then numberReply count else Console.confirmReply

theorem consentJudge_accept :
    consentJudge limit count line = .accept <-> Accepts limit count line := by
  unfold consentJudge Accepts
  split
  next =>
    obtain ⟨refused, reply⟩ | ⟨-, agreed, reply⟩ | ⟨-, differs, reply⟩ := numberReply_cases count line
    next =>
      subst refused
      simp [reply, (numberText_ne_no count).symm]
    next => simpa [reply] using agreed
    next => simpa [reply] using differs
  next =>
    obtain ⟨agreed, reply⟩ | ⟨unsure, -, reply⟩ | ⟨unsure, -, reply⟩ :=
      Console.confirmReply_cases line
    next => simpa [reply, Console.agrees, or_assoc] using agreed
    next => simpa [reply, Console.agrees, or_assoc] using unsure
    next => simpa [reply, Console.agrees, or_assoc] using unsure

theorem consentJudge_decline :
    consentJudge limit count line = .decline <-> Declines limit count line := by
  unfold consentJudge Declines
  split
  next =>
    obtain ⟨refused, reply⟩ | ⟨differs, -, reply⟩ | ⟨differs, -, reply⟩ :=
      numberReply_cases count line
    next => simpa [reply, chars] using refused
    next => simpa [reply, chars] using differs
    next => simpa [reply, chars] using differs
  next =>
    obtain ⟨agreed, reply⟩ | ⟨-, refused, reply⟩ | ⟨-, undecided, reply⟩ :=
      Console.confirmReply_cases line
    next =>
      simp only [Console.agrees, Bool.or_eq_true, beq_iff_eq, List.isEmpty_iff] at agreed
      rcases agreed with (same | same) | same <;> simp [reply, same]
    next => simpa [reply, Console.refuses] using refused
    next => simpa [reply, Console.refuses] using undecided

theorem consentJudge_unclear : (consentJudge limit count line).isUnclear = true <->
    ¬Accepts limit count line /\ ¬Declines limit count line := by
  rw [← consentJudge_accept, ← consentJudge_decline]
  cases consentJudge limit count line <;> simp [Console.Reply.isUnclear]

/-- How the question for consent goes: it is asked once for each line that it takes, and ends with
the first that answers it, or else with the last. -/
theorem work_consent (desk : Desk) : ∃ answer after,
    (consent limit count).work desk = (outcomeOf answer, { desk with terminal := after }) /\
      Console.Went (consentQuestion limit count) (consentJudge limit count) desk.terminal
        desk.terminal.typed (answer, after) := by
  rw [consent, work_asking]
  refine ⟨_, _, rfl, ?_⟩
  unfold consentQuestion consentJudge
  split
  next => exact (askNumber_asks count).went desk.terminal
  next => exact (Console.confirm_asks (yesQuestion count)).went desk.terminal

end Lines

def Unanswered (limit : Int) (count : Nat) (typed : List (List Char)) : Prop :=
  ∀ line ∈ typed, ¬Accepts limit count line /\ ¬Declines limit count line

/-- The first line that answers the question is an answer of this kind, and others are left. -/
def Answered (limit : Int) (count : Nat) (kind : List Char -> Prop)
    (typed left : List (List Char)) : Prop :=
  ∃ unclear line, typed = unclear ++ line :: left /\ Unanswered limit count unclear /\ kind line

section Answers

variable {limit : Int} {count : Nat} {kind other : List Char -> Prop}
  {typed left rest : List (List Char)}

theorem Answered.unique (first : Answered limit count kind typed left)
    (second : Answered limit count other typed rest)
    (answers : ∀ line, kind line -> Accepts limit count line \/ Declines limit count line)
    (answersToo : ∀ line, other line -> Accepts limit count line \/ Declines limit count line) :
    left = rest /\ ∃ line, kind line /\ other line := by
  obtain ⟨unclear, line, rfl, askedAgain, is⟩ := first
  obtain ⟨earlier, answer, split, askedToo, isToo⟩ := second
  -- Line by line: where one of the two has its answer, the other cannot have an unclear line.
  induction unclear generalizing earlier with
  | nil =>
    cases earlier with
    | nil =>
      obtain ⟨rfl, rfl⟩ := List.cons.inj split
      exact ⟨rfl, line, is, isToo⟩
    | cons head earlier =>
      obtain ⟨rfl, -⟩ := List.cons.inj split
      have unclear := askedToo line (by simp)
      exact absurd (answers line is) (by simp [unclear])
  | cons head unclear ih =>
    cases earlier with
    | nil =>
      obtain ⟨rfl, -⟩ := List.cons.inj split
      have unclear := askedAgain head (by simp)
      exact absurd (answersToo head isToo) (by simp [unclear])
    | cons next earlier =>
      exact ih (fun line member => askedAgain line (by simp [member])) earlier
        (List.cons.inj split).2 fun line member => askedToo line (by simp [member])

theorem Answered.not_unanswered (answered : Answered limit count kind typed left)
    (answers : ∀ line, kind line -> Accepts limit count line \/ Declines limit count line) :
    ¬Unanswered limit count typed := by
  intro unanswered
  obtain ⟨unclear, line, rfl, -, is⟩ := answered
  have unclear := unanswered line (by simp)
  exact absurd (answers line is) (by simp [unclear])

end Answers

def Agreed (limit : Int) (count : Nat) : List (List Char) -> List (List Char) -> Prop :=
  Answered limit count (Accepts limit count)

def Declined (limit : Int) (count : Nat) : List (List Char) -> List (List Char) -> Prop :=
  Answered limit count (Declines limit count)

section Consent

variable {limit : Int} {count : Nat} {typed left rest : List (List Char)}

theorem Agreed.unique (agreed : Agreed limit count typed left)
    (again : Agreed limit count typed rest) : left = rest :=
  (Answered.unique agreed again (fun _ => .inl) fun _ => .inl).1

theorem Agreed.not_declined (agreed : Agreed limit count typed left) :
    ¬Declined limit count typed rest := by
  intro declined
  obtain ⟨-, line, accepts, declines⟩ :=
    Answered.unique agreed declined (fun _ => .inl) fun _ => .inr
  exact accepts.not_declines declines

theorem Agreed.not_unanswered (agreed : Agreed limit count typed left) :
    ¬Unanswered limit count typed := Answered.not_unanswered agreed fun _ => .inl

variable [Console.Prompting]

theorem unanswered_iff : Unanswered limit count typed <->
    ∀ line ∈ typed, (consentJudge limit count line).isUnclear = true := by
  simp only [consentJudge_unclear, Unanswered]

theorem typed_of_went {terminal : Console.Terminal} {typed : List (List Char)}
    {answer : Option Bool} {after : Console.Terminal}
    (went : Console.Went (consentQuestion limit count) (consentJudge limit count) terminal typed
      (answer, after)) :
    match answer with
    | some true => Agreed limit count typed after.typed
    | some false => Declined limit count typed after.typed
    | none => Unanswered limit count typed := by
  cases went with
  | answered unclear line answer _ split askedAgain judged _ =>
    cases answer with
    | true =>
      exact ⟨unclear, line, split, unanswered_iff.2 askedAgain, (consentJudge_accept _ _ _).1 judged⟩
    | false =>
      exact ⟨unclear, line, split, unanswered_iff.2 askedAgain, (consentJudge_decline _ _ _).1 judged⟩
  | ranOut _ _ askedAgain _ => exact unanswered_iff.2 askedAgain

theorem consent_agreed_iff (desk : Desk) :
    (∃ after, (consent limit count).work desk = (.ok true, after) /\ after.terminal.typed = left) <->
      Agreed limit count desk.terminal.typed left := by
  obtain ⟨answer, terminal, ran, went⟩ := work_consent limit count desk
  have typed := typed_of_went went
  rw [ran]
  constructor
  next =>
    rintro ⟨after, same, rfl⟩
    obtain ⟨given, rfl⟩ := Prod.mk.inj same
    rcases answer with _ | _ | _
    next => cases given
    next => cases given
    next => exact typed
  next =>
    intro agreed
    rcases answer with _ | _ | _
    next => exact absurd typed agreed.not_unanswered
    next => exact absurd typed agreed.not_declined
    next => exact ⟨_, rfl, Agreed.unique typed agreed⟩

end Consent

def Permitted (request : Request) (limit : Int) (count : Nat) (typed left : List (List Char)) :
    Prop :=
  if request.confirm then Agreed limit count typed left else left = typed

/-- A replacement gets to the writing: with these plans, and these lines left of those typed. -/
structure Cleared (settings : Settings) (request : Request) (desk : Desk) (planned : List Plan)
    (left : List (List Char)) : Prop where
  valid : Pattern.validate request.revision.search request.revision.kind = .ok ()
  written : ∀ condition ∈ request.conditions, condition.render?.isSome = true
  proposed : Proposed settings request desk.library planned
  somePlanned : planned ≠ []
  wet : request.dryRun = false
  permitted : Permitted request (request.confirmAbove.getD settings.confirmAbove) planned.length
    desk.terminal.typed left

/-- A replacement that is held up before the writing. -/
inductive HeldUp (settings : Settings) (request : Request) (desk : Desk) : Prop where
  | badPattern (error : PatternError)
      (refused : Pattern.validate request.revision.search request.revision.kind = .error error)
  | noSearch (failure : Search.Failure)
      (failed : (search desk.library.store Record.readable request.conditions request.libraryId
        settings.fieldThreshold).outcome = .error failure)
  | noChanges (proposed : Proposed settings request desk.library [])
  | dryRun (dry : request.dryRun = true)
  | inputEnds (planned : List Plan) (proposed : Proposed settings request desk.library planned)
      (asks : request.confirm = true)
      (ends : Unanswered (request.confirmAbove.getD settings.confirmAbove) planned.length
        desk.terminal.typed)
  | declined (planned : List Plan) (left : List (List Char))
      (proposed : Proposed settings request desk.library planned) (asks : request.confirm = true)
      (declined : Declined (request.confirmAbove.getD settings.confirmAbove) planned.length
        desk.terminal.typed left)

theorem Cleared.not_heldUp {settings : Settings} {request : Request} {desk : Desk}
    {planned : List Plan} {left : List (List Char)}
    (cleared : Cleared settings request desk planned left) : ¬HeldUp settings request desk := by
  have agreed (asks : request.confirm = true) :
      Agreed (request.confirmAbove.getD settings.confirmAbove) planned.length
        desk.terminal.typed left := by
    have permitted := cleared.permitted
    rwa [Permitted, if_pos asks] at permitted
  intro held
  cases held with
  | badPattern error refused => cases cleared.valid.symm.trans refused
  | noSearch failure failed =>
    obtain ⟨found, searched, _⟩ := cleared.proposed
    cases searched.symm.trans failed
  | noChanges proposed => exact cleared.somePlanned (cleared.proposed.unique proposed)
  | dryRun dry => cases cleared.wet.symm.trans dry
  | inputEnds others proposed asks ends =>
    cases cleared.proposed.unique proposed
    exact (agreed asks).not_unanswered ends
  | declined others rest proposed asks declined =>
    cases cleared.proposed.unique proposed
    exact (agreed asks).not_declined declined

section Replacements

variable [Console.Prompting]

theorem permitted_iff (request : Request) (limit : Int) (count : Nat) (desk : Desk)
    (left : List (List Char)) :
    (∃ after, (permitted request limit count).work desk = (.ok true, after) /\
        after.terminal.typed = left) <->
      Permitted request limit count desk.terminal.typed left := by
  unfold permitted Permitted
  cases request.confirm with
  | false =>
    simp only [Bool.not_false, if_true, Bool.false_eq_true, if_false, work_pure_eq_ok, true_and]
    exact ⟨fun ⟨_, same, is⟩ => same ▸ is.symm, fun is => ⟨desk, rfl, is.symm⟩⟩
  | true =>
    have asked : (∃ after, (consent limit count).work (desk.printed [['\n']]) = (.ok true, after) /\
        after.terminal.typed = left) <-> Agreed limit count desk.terminal.typed left := by
      rw [consent_agreed_iff, Desk.typed_printed]
    simp only [Bool.not_true, Bool.false_eq_true, if_false, if_true, ← asked, work_bind_eq_ok]
    constructor
    next =>
      rintro ⟨after, ⟨_, _, blank, agreed, between, consented, rest⟩, is⟩
      cases blank
      cases agreed with
      | false => cases rest
      | true =>
        obtain ⟨_, _, blank, rest⟩ := (work_bind_eq_ok _ _ _).1 rest
        cases blank
        cases rest
        exact ⟨between, consented, is⟩
    next =>
      rintro ⟨between, consented, is⟩
      refine ⟨between.printed [['\n']], ⟨(), _, rfl, true, between, consented, ?_⟩, is⟩
      exact (work_bind_eq_ok _ _ _).2 ⟨(), _, rfl, rfl⟩

theorem permitted_output (request : Request) (limit : Int) (count : Nat) (desk after : Desk)
    (ran : (permitted request limit count).work desk = (.ok true, after)) :
    desk.terminal.output <+: after.terminal.output := by
  unfold permitted at ran
  split at ran
  next =>
    obtain ⟨-, rfl⟩ := (work_pure_eq_ok _ _).1 ran
    exact List.prefix_rfl
  next =>
    obtain ⟨_, _, blank, rest⟩ := (work_bind_eq_ok _ _ _).1 ran
    cases blank
    obtain ⟨agreed, between, asked, rest⟩ := (work_bind_eq_ok _ _ _).1 rest
    obtain ⟨answer, terminal, answered, went⟩ :=
      work_consent limit count (desk.printed [['\n']])
    have askedOutput : desk.terminal.output <+: between.terminal.output := by
      obtain ⟨-, rfl⟩ := Prod.mk.inj (asked.symm.trans answered)
      exact (desk.output_prefix_printed _).trans went.output_prefix
    cases agreed with
    | false => cases rest
    | true =>
      obtain ⟨_, _, blank, rest⟩ := (work_bind_eq_ok _ _ _).1 rest
      cases blank
      cases rest
      exact askedOutput.trans (between.output_prefix_printed [['\n']])

theorem review_iff (settings : Settings) (request : Request) (desk : Desk) (planned : List Plan)
    (left : List (List Char)) :
    (∃ between, (review settings request).work desk = (.ok (some planned), between) /\
        between.terminal.typed = left) <->
      Cleared settings request desk planned left := by
  have asked := permitted_iff request (request.confirmAbove.getD settings.confirmAbove)
    planned.length (desk.printed (planned.flatMap planTexts)) left
  rw [Desk.typed_printed] at asked
  constructor
  next =>
    rintro ⟨between, reviewed, is⟩
    obtain ⟨valid, written, ⟨found, searched, made⟩, somePlanned, wet, shown, showed, permitted⟩ :=
      (review_eq_some _ _ _ _ _).1 reviewed
    rw [prints_plans _ _ found planned made] at showed
    cases showed
    exact ⟨valid, written, ⟨found, searched, made⟩, somePlanned, wet,
      asked.1 ⟨between, permitted, is⟩⟩
  next =>
    intro cleared
    obtain ⟨found, _, made⟩ := cleared.proposed
    obtain ⟨between, permitted, is⟩ := asked.2 cleared.permitted
    exact ⟨between, (review_eq_some _ _ _ _ _).2 ⟨cleared.valid, cleared.written,
      cleared.proposed, cleared.somePlanned, cleared.wet, _,
      prints_plans _ _ found planned made desk, permitted⟩, is⟩

theorem replace_keeps_of_not_cleared (settings : Settings) (request : Request) (desk : Desk)
    (never : ∀ planned left, ¬Cleared settings request desk planned left) :
    ((replace settings request).work desk).2.library = desk.library := by
  have kept := keepsLibrary_review settings request desk
  rw [replace_eq, work_bind]
  cases reviewed : (review settings request).work desk with
  | mk result between =>
    rw [reviewed] at kept
    cases result with
    | error stop => exact kept
    | ok planned? =>
      cases planned? with
      | none => exact kept
      | some planned =>
        exact absurd ((review_iff _ _ _ _ _).1 ⟨between, reviewed, rfl⟩) (never planned _)

/-- Nothing is written without consent. A replacement that is held up leaves the library as it is,
and so does any other that does not get to the writing. It gets there exactly if it is cleared, and
then the last line that it has taken, if it had to ask, is the one that agrees. However it is asked,
each time takes one line. -/
theorem replace_needs_consent (settings : Settings) (request : Request) (desk : Desk) :
    (HeldUp settings request desk ->
        ((replace settings request).work desk).2.library = desk.library) /\
      ((∀ planned between, (review settings request).work desk ≠ (.ok (some planned), between)) ->
        ((replace settings request).work desk).2.library = desk.library) /\
      (∀ planned left,
        (∃ between, (review settings request).work desk = (.ok (some planned), between) /\
            between.library = desk.library /\ between.terminal.typed = left) <->
          Cleared settings request desk planned left) /\
      ∀ limit count (asked : Desk), ∃ answer after,
        (consent limit count).work asked = (outcomeOf answer, { asked with terminal := after }) /\
          Console.Went (consentQuestion limit count) (consentJudge limit count) asked.terminal
            asked.terminal.typed (answer, after) := by
  refine ⟨fun held => ?_, fun never => ?_, fun planned left => ?_, work_consent⟩
  next =>
    exact replace_keeps_of_not_cleared settings request desk fun _ _ cleared =>
      cleared.not_heldUp held
  next =>
    apply replace_keeps_of_not_cleared
    intro planned left cleared
    obtain ⟨between, reviewed, _⟩ := (review_iff _ _ _ _ _).2 cleared
    exact never planned between reviewed
  next =>
    rw [← review_iff]
    constructor
    next =>
      rintro ⟨between, reviewed, _, is⟩
      exact ⟨between, reviewed, is⟩
    next =>
      rintro ⟨between, reviewed, is⟩
      have kept := keepsLibrary_review settings request desk
      rw [reviewed] at kept
      exact ⟨between, reviewed, kept, is⟩

end Replacements

def numberedTitles : Request := { newTitles with confirmAbove := some 0 }

def agreeingDesk : Desk :=
  { shelfDesk with terminal := { color := false, typed := [chars "yes", [], ['1'], ['x']] } }

def decliningDesk : Desk :=
  { shelfDesk with terminal := { color := false, typed := [['y'], chars "no", ['1']] } }

theorem replace_needs_consent_third_line :
    (∃ planned, Cleared plainSettings numberedTitles agreeingDesk planned [['x']] /\
      ((replace plainSettings numberedTitles).work agreeingDesk).2.library.entries =
        [⟨1, "A", 1, none, [("title", "New")], [⟨"Old", "", "", "author"⟩], [], []⟩]) /\
      HeldUp plainSettings numberedTitles decliningDesk /\
        ((replace plainSettings numberedTitles).work decliningDesk).2.library = shelfDesk.library := by
  have plannedOne : ((review plainSettings numberedTitles).work agreeingDesk).1.toOption.join.map
      List.length = some 1 := by decide +kernel
  have left :
      ((review plainSettings numberedTitles).work agreeingDesk).2.terminal.typed = [['x']] := by
    decide +kernel
  obtain ⟨-, -, reaches, -⟩ := replace_needs_consent plainSettings numberedTitles agreeingDesk
  obtain ⟨planned, cleared, one⟩ : ∃ planned,
      Cleared plainSettings numberedTitles agreeingDesk planned [['x']] /\ planned.length = 1 := by
    cases reviewed : (review plainSettings numberedTitles).work agreeingDesk with
    | mk result between =>
      have kept := keepsLibrary_review plainSettings numberedTitles agreeingDesk
      rw [reviewed] at plannedOne left kept
      rcases result with stop | _ | planned
      next => cases plannedOne
      next => cases plannedOne
      next =>
        exact ⟨planned, (reaches _ _).1 ⟨between, reviewed, kept, left⟩, Option.some.inj plannedOne⟩
  have held : HeldUp plainSettings numberedTitles decliningDesk := by
    refine .declined planned [['1']] cleared.proposed rfl ⟨[['y']], chars "no", rfl, ?_, ?_⟩
    next =>
      intro line member
      rw [List.mem_singleton.1 member, one]
      exact ⟨by unfold Accepts; decide, by unfold Declines; decide⟩
    next =>
      rw [one]
      unfold Declines
      decide
  obtain ⟨unchanged, -⟩ := replace_needs_consent plainSettings numberedTitles decliningDesk
  exact ⟨⟨planned, cleared, by decide +kernel⟩, held, unchanged held⟩

end BibEdit.Session
