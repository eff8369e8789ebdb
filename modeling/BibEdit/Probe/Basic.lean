import BibEdit.Condition.Basic
import BibEdit.Distinct
import BibEdit.Evaluation
import BibEdit.Probe.Literal

set_option autoImplicit false

namespace BibEdit

inductive ProbeTest where
  | contains
  | is
  | other (name : String)
  deriving DecidableEq

def ProbeTest.name : ProbeTest -> String
  | contains => "contains"
  | is => "is"
  | other name => name

def ProbeTest.ofName (name : String) : ProbeTest :=
  if name == "contains" then contains else if name == "is" then is else other name

/-- A question that a store answers from its index. -/
structure Probe where
  field : String
  test : ProbeTest
  term : String
  deriving DecidableEq

namespace Probe

def defaultThreshold : Int := 5

/-- Scalar fields that are searched for a part of their value. -/
def containsFields : List String := [
  "title", "abstractNote", "publicationTitle", "publisher", "DOI", "ISBN", "ISSN", "url",
  "callNumber", "extra", "place", "archiveLocation", "libraryCatalog", "note"]

def isFields : List String := ["volume", "issue", "pages"]

def longestRunText? (text : String) : Option String :=
  (Literal.longestAlnumRun? text.toList).map String.ofList

/-- A text that every value with a match contains. -/
def term? (condition : Condition) : Except Fault (Option String) :=
  match condition.kind with
  | .exact | .contains => .ok (some condition.pattern)
  | .regex =>
    match Literal.extract condition.pattern.toList with
    | .ok literal => .ok (literal.map String.ofList)
    | .error numeral => .error (.longNumeral numeral)
  | _ => .ok (longestRunText? condition.pattern)

def containing (field : String) (term : Option String) : Option Probe :=
  (term.filter (· != "")).map fun term => ⟨field, .contains, term⟩

/-- Full names are put together from two parts, so that only a run of letters and digits is sure
to lie in one of them. -/
def creatorTerm? (condition : Condition) : Except Fault (Option String) :=
  match condition.kind with
  | .exact | .contains => .ok (longestRunText? condition.pattern)
  | _ => term? condition

def wholeOrPart (field : String) (condition : Condition) : Except Fault (Option Probe) := do
  if condition.kind == .exact then return some ⟨field, .is, condition.pattern⟩
  else return containing field (<- term? condition)

/-- A probe that every record satisfying the condition answers to. -/
def ofCondition? (condition : Condition) : Except Fault (Option Probe) := do
  if condition.pattern == "" || condition.matchesEmpty then return none
  else
    match condition.ref with
    | .creator _ => return containing "creator" (<- creatorTerm? condition)
    | .tags => return containing "tag" (<- term? condition)
    | .collection => return condition.collectionId?.map fun id => ⟨"collection", .is, toString id⟩
    | .itemType => wholeOrPart "itemType" condition
    | .scalar name =>
      if isFields.contains name then wholeOrPart name condition
      else if containsFields.contains name then return containing name (<- term? condition)
      else return none
    | .unknown _ => return none

/-- The first condition with a probe, and its probe. Patterns with a bar are passed over. -/
def firstOf : List Condition -> Except Fault (Option (Condition × Probe))
  | [] => .ok none
  | condition :: rest => do
    if condition.pattern.toList.contains '|' then firstOf rest
    else
      match <- ofCondition? condition with
      | some probe => return some (condition, probe)
      | none => firstOf rest

def distinctFields (conditions : List Condition) : List String :=
  distinct (conditions.map Condition.field)

/-- Whether a probe on one condition cannot lose records that the conditions match. -/
def mayNarrow (conditions : List Condition) (threshold : Int) : Bool :=
  (distinctFields conditions).length <= threshold &&
    conditions.all (fun condition => !condition.isNegative) &&
    !(conditions.head?.any (·.operator == .or) && 1 < conditions.length)

def choose (conditions : List Condition) (threshold : Int) :
    Except Fault (Option (Condition × Probe)) :=
  if conditions.isEmpty || !mayNarrow conditions threshold then .ok none else firstOf conditions

def plan (conditions : List Condition) (threshold : Int) : Except Fault (Option Probe) :=
  (choose conditions threshold).map fun chosen => chosen.map Prod.snd

end Probe

end BibEdit
