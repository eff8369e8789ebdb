import BibEdit.Evaluation
import BibEdit.Probe.Basic

set_option autoImplicit false

namespace BibEdit

/-- What a search asks of the place where records are kept. -/
structure Store (ρ : Type) where
  query : Probe -> Option Int -> Except Fault (List Int)
  list : Option Int -> Except Fault (List Int)
  load : List Int -> Except Fault (List ρ)

namespace Search

inductive Call where
  | query (probe : Probe) (libraryId : Option Int)
  | list (libraryId : Option Int)
  | load (ids : List Int)
  deriving DecidableEq

inductive Progress where
  | filtered (count : Option Nat)
  | refining (current total : Nat)
  deriving DecidableEq

inductive Event where
  | call (call : Call)
  | progress (progress : Progress)
  deriving DecidableEq

inductive Failure where
  | badPattern (error : PatternError)
  | fault (fault : Fault)

structure Found (ρ : Type) where
  record : ρ
  details : List Detail

def Found.fields {ρ : Type} (found : Found ρ) : List String := found.details.map Detail.field

structure Run (α : Type) where
  events : List Event
  outcome : Except Failure α

def Run.andThen {α β : Type} (run : Run α) (next : α -> Run β) : Run β :=
  match run.outcome with
  | .ok value =>
    let after := next value
    { events := run.events ++ after.events, outcome := after.outcome }
  | .error failure => { events := run.events, outcome := .error failure }

def Run.calls {α : Type} (run : Run α) : List Call :=
  run.events.filterMap fun event => match event with
    | .call call => some call
    | .progress _ => none

def Run.progress {α : Type} (run : Run α) : List Progress :=
  run.events.filterMap fun event => match event with
    | .call _ => none
    | .progress progress => some progress

def failureOf (error : PatternError) : Failure :=
  if error.isInvalid then .badPattern error else .fault (.pattern error)

/-- Refuses a search with any bad pattern before the store is asked anything. -/
def validate : List Condition -> Except Failure Unit
  | [] => .ok ()
  | condition :: rest => do
    (Pattern.validate condition.pattern condition.kind).mapError failureOf
    validate rest

def ask {α : Type} (call : Call) (answer : Except Fault α) : Run α :=
  ⟨[.call call], answer.mapError .fault⟩

def report (progress : Progress) : Run Unit := ⟨[.progress progress], .ok ()⟩

def count (ids : List Int) : Run (List Int) :=
  ⟨[.progress (.filtered (some ids.length))], .ok ids⟩

def candidates {ρ : Type} (store : Store ρ) (libraryId : Option Int) : Option Probe -> Run (List Int)
  | some probe => (ask (.query probe libraryId) (store.query probe libraryId)).andThen count
  | none =>
    (report (.filtered none)).andThen fun _ =>
      (ask (.list libraryId) (store.list libraryId)).andThen count

/-- Evaluates the records, of which `total` were loaded and `current` have been looked at. -/
def refine {ρ : Type} (readable : ρ -> Readable) (conditions : List Condition) (total : Nat) :
    Nat -> List ρ -> Run (List (Found ρ))
  | _, [] => ⟨[], .ok []⟩
  | current, record :: rest =>
    (report (.refining (current + 1) total)).andThen fun _ =>
      let evaluation : Run Evaluation :=
        ⟨[], (evaluate (readable record) conditions).mapError .fault⟩
      evaluation.andThen fun evaluation =>
        (refine readable conditions total (current + 1) rest).andThen fun found =>
          ⟨[], .ok (if evaluation.isMatched then ⟨record, evaluation.details⟩ :: found else found)⟩

def refineAll {ρ : Type} (store : Store ρ) (readable : ρ -> Readable) (conditions : List Condition)
    (ids : List Int) : Run (List (Found ρ)) :=
  if ids.isEmpty then ⟨[], .ok []⟩
  else
    (ask (.load ids) (store.load ids)).andThen fun records =>
      refine readable conditions records.length 0 records

end Search

def search {ρ : Type} (store : Store ρ) (readable : ρ -> Readable) (conditions : List Condition)
    (libraryId : Option Int) (threshold : Int) : Search.Run (List (Search.Found ρ)) :=
  if conditions.isEmpty then ⟨[], .ok []⟩
  else
    let planned : Search.Run (Option Probe) :=
      ⟨[], do
        Search.validate conditions
        (Probe.plan conditions threshold).mapError .fault⟩
    planned.andThen fun probe =>
      (Search.candidates store libraryId probe).andThen
        (Search.refineAll store readable conditions)

end BibEdit
