import BibEdit.Evaluation
import BibEdit.Regex.Token
import BibEdit.Replacement
import BibEdit.Snapshot

set_option autoImplicit false

namespace BibEdit

structure Revision where
  search : String
  replacement : Replacement
  kind : PatternKind := .regex
  caseSensitive : Bool := false

structure Replaced where
  result : String
  count : Nat
  deriving DecidableEq

/-- A change to a field; changes to creators hold snapshots of all of them. -/
structure Change where
  field : String
  before : String
  after : String
  count : Nat := 0
  deriving DecidableEq

namespace Revision

def replaceMatches (regex : Regex) (replacer : Replacer) (value : String) :
    Except Fault Replaced := do
  let text := value.toList
  let result <- regex.substitute text (replacer text)
  return ⟨String.ofList result, (regex.findAll text).length⟩

def replaceText (search : String) (replacement : Replacement) (value : String) :
    Except Fault Replaced := do
  let count := Text.count search.toList value.toList
  match replacement with
  | .template text =>
    return ⟨String.ofList (Text.join text.toList (Text.split search.toList value.toList)), count⟩
  | .computed replacer =>
    let regex <- (Pattern.compile search .contains true).mapError Fault.pattern
    let result <- regex.substitute value.toList (replacer value.toList)
    return ⟨String.ofList result, count⟩

/-- Replaces every place in a value. All kinds but regexes are taken literally, case and all. -/
def apply (revision : Revision) (value : String) : Except Fault Replaced := do
  if revision.kind == .regex then
    let regex <- (Pattern.compile revision.search .regex revision.caseSensitive).mapError
      Fault.pattern
    replaceMatches regex revision.replacement.replacer value
  else if revision.search == "" then return ⟨value, 0⟩
  else replaceText revision.search revision.replacement value

/-- A part of a creator revised; parts without a value are left alone. -/
def reviseCreator (revision : Revision) (part : NamePart) (creator : Creator) :
    Except Fault (Creator × Nat) := do
  let value := creator.get part
  if value == "" then return (creator, 0)
  else
    let replaced <- revision.apply value
    if replaced.result == value then return (creator, 0)
    else return (creator.set part replaced.result, replaced.count)

def previewCreators (revision : Revision) (field : String) (part : NamePart)
    (creators : List Creator) : Except Fault (Option Change) := do
  let revised <- creators.mapM (revision.reviseCreator part)
  let after := revised.map Prod.fst
  if after == creators then return none
  else return some {
    field := field
    before := Snapshot.write creators
    after := Snapshot.write after
    count := revised.foldr (fun one count => one.2 + count) 0 }

def previewScalar (revision : Revision) (field name : String) (source : Readable) :
    Except Fault (Option Change) := do
  match <- Condition.present? (source.read name) with
  | none => return none
  | some before =>
    let replaced <- revision.apply before
    if replaced.result == before then return none
    else return some ⟨field, before, replaced.result, replaced.count⟩

def previewField (revision : Revision) (source : Readable) (field : String) :
    Except Fault (Option Change) :=
  match Field.parse field with
  | .creator part => revision.previewCreators field part source.record.creators
  | .scalar name => revision.previewScalar field name source
  | _ => .ok none

def preview (revision : Revision) (source : Readable) (fields : List String) :
    Except Fault (List Change) := do
  return (<- fields.mapM (revision.previewField source)).filterMap fun change => change

end Revision

/-- A way to keep records: how they are read and changed, and how they are saved in a place that
the saving changes. -/
structure Keeping (σ ρ : Type) where
  record : ρ -> Record
  replace : ρ -> Record -> ρ
  read : ρ -> String -> Except Fault (Option String)
  save : ρ -> σ -> Except Fault ρ × σ

def Keeping.readable {σ ρ : Type} (keeping : Keeping σ ρ) (item : ρ) : Readable :=
  ⟨keeping.record item, keeping.read item⟩

namespace Revision

structure Commit where
  success : Bool
  message : String
  changes : List Change
  deriving DecidableEq

def noChangesMessage : String := "No changes needed"

def savedMessage : String := "Saved successfully"

def stage (record : Record) (change : Change) : Except Fault Record :=
  match Field.parse change.field with
  | .creator _ => do
    let creators <- (Snapshot.read change.after).mapError .snapshot
    return record.setCreators creators
  | _ =>
    match record.setField change.field (some change.after) with
    | some record => .ok record
    | none => .error (.noField record.key change.field)

/-- Changes staged one after the other: the record as far as that went, and what stopped it. -/
def stageAll (record : Record) : List Change -> Record × Option Fault
  | [] => (record, none)
  | change :: rest =>
    match stage record change with
    | .ok next => stageAll next rest
    | .error fault => (record, some fault)

structure Outcome (σ ρ α : Type) where
  result : α
  item : ρ
  place : σ

/-- Writes changes to a record and saves it once. A save that fails is a result, not a fault. -/
def commit {σ ρ : Type} (keeping : Keeping σ ρ) (place : σ) (item : ρ) (changes : List Change) :
    Outcome σ ρ (Except Fault Commit) :=
  if changes.isEmpty then ⟨.ok ⟨false, noChangesMessage, []⟩, item, place⟩
  else
    match stageAll (keeping.record item) changes with
    -- What was staged before the fault stays staged.
    | (record, some fault) => ⟨.error fault, keeping.replace item record, place⟩
    | (record, none) =>
      let staged := keeping.replace item record
      match keeping.save staged place with
      | (.ok saved, place) => ⟨.ok ⟨true, savedMessage, changes⟩, saved, place⟩
      | (.error fault, place) => ⟨.ok ⟨false, fault.message, changes⟩, staged, place⟩

inductive Verdict where
  | modified
  | skipped
  | failed (message : String)
  deriving DecidableEq

def verdictOf : Except Fault Commit -> Verdict
  | .error fault => .failed fault.message
  | .ok commit =>
    if commit.success then .modified
    else if commit.changes.isEmpty then .skipped
    else .failed commit.message

def reviseOne {σ ρ : Type} (keeping : Keeping σ ρ) (revision : Revision) (fields : List String)
    (place : σ) (item : ρ) : Outcome σ ρ Verdict :=
  match revision.preview (keeping.readable item) fields with
  | .error fault => ⟨.failed fault.message, item, place⟩
  | .ok changes =>
    let outcome := commit keeping place item changes
    ⟨verdictOf outcome.result, outcome.item, outcome.place⟩

structure BatchError where
  recordId : Int
  error : String
  deriving DecidableEq

structure BatchResult where
  modified : Nat := 0
  skipped : Nat := 0
  errors : List BatchError := []
  deriving DecidableEq

def BatchResult.add (result : BatchResult) (recordId : Int) : Verdict -> BatchResult
  | .modified => { result with modified := result.modified + 1 }
  | .skipped => { result with skipped := result.skipped + 1 }
  | .failed message => { result with errors := result.errors ++ [⟨recordId, message⟩] }

structure BatchProgress where
  current : Nat
  total : Nat
  recordId : Int
  deriving DecidableEq

inductive BatchEvent where
  | reported (progress : BatchProgress)
  | revised (recordId : Int) (verdict : Verdict)
  deriving DecidableEq

def BatchEvent.progress? : BatchEvent -> Option BatchProgress
  | .reported progress => some progress
  | .revised _ _ => none

def BatchEvent.verdict? : BatchEvent -> Option (Int × Verdict)
  | .reported _ => none
  | .revised recordId verdict => some (recordId, verdict)

structure Batch (σ ρ : Type) where
  result : BatchResult
  events : List BatchEvent
  items : List ρ
  place : σ

def Batch.progress {σ ρ : Type} (batch : Batch σ ρ) : List BatchProgress :=
  batch.events.filterMap BatchEvent.progress?

def Batch.verdicts {σ ρ : Type} (batch : Batch σ ρ) : List (Int × Verdict) :=
  batch.events.filterMap BatchEvent.verdict?

/-- Revises records one after the other; a record that fails does not stop the others. `current`
of `total` records are done. -/
def reviseAll {σ ρ : Type} (keeping : Keeping σ ρ) (revision : Revision) (fields : List String)
    (total : Nat) : Nat -> Batch σ ρ -> List ρ -> Batch σ ρ
  | _, batch, [] => batch
  | current, batch, item :: rest =>
    let id := (keeping.record item).id
    let outcome := reviseOne keeping revision fields batch.place item
    reviseAll keeping revision fields total (current + 1)
      { result := batch.result.add id outcome.result
        events := batch.events ++
          [.reported ⟨current + 1, total, id⟩, .revised id outcome.result]
        items := batch.items ++ [outcome.item]
        place := outcome.place } rest

/-- The revision with what takes the place of matches of a regex worked out once. -/
def prepared (revision : Revision) : Revision :=
  if revision.kind == .regex then
    { revision with replacement := .computed revision.replacement.replacer }
  else revision

theorem apply_prepared (revision : Revision) : revision.prepared.apply = revision.apply := by
  funext value
  unfold prepared
  split
  next regex => simp only [apply, regex, if_true, Replacement.replacer]
  next => rfl

theorem preview_prepared (revision : Revision) : revision.prepared.preview = revision.preview := by
  have creator : revision.prepared.reviseCreator = revision.reviseCreator := by
    funext part creator
    simp only [reviseCreator, apply_prepared]
  have field : revision.prepared.previewField = revision.previewField := by
    funext source field
    simp only [previewField, previewCreators, previewScalar, creator, apply_prepared]
  funext source fields
  simp only [preview, field]

theorem reviseOne_prepared {σ ρ : Type} (keeping : Keeping σ ρ) (revision : Revision)
    (fields : List String) :
    reviseOne keeping revision.prepared fields = reviseOne keeping revision fields := by
  funext place item
  simp only [reviseOne, preview_prepared]

theorem reviseAll_prepared {σ ρ : Type} (keeping : Keeping σ ρ) (revision : Revision)
    (fields : List String) :
    reviseAll keeping revision.prepared fields = reviseAll keeping revision fields := by
  funext total current batch items
  induction items generalizing current batch with
  | nil => rfl
  | cons item rest ih => simp only [reviseAll, reviseOne_prepared, ih]

/-- A batch is refused as a whole, and no record touched, if the pattern is bad. -/
def batch {σ ρ : Type} (keeping : Keeping σ ρ) (revision : Revision) (fields : List String)
    (place : σ) (items : List ρ) : Except PatternError (Batch σ ρ) := do
  Pattern.validate revision.search revision.kind
  return reviseAll keeping revision.prepared fields items.length 0 ⟨{}, [], [], place⟩ items

end Revision

end BibEdit
