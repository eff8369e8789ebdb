import BibEdit.Condition.Basic
import BibEdit.Fault
import BibEdit.Record
import BibEdit.Text.Numeral

set_option autoImplicit false

namespace BibEdit

/-- The value that satisfied a condition, and where; -1 where a place means nothing. -/
structure Detail where
  field : String
  value : String
  index : Int
  length : Int
  deriving DecidableEq

/-- A record together with the way its fields are read, which may fail. -/
structure Readable where
  record : Record
  read : String -> Except Fault (Option String)

def Record.read (record : Record) (name : String) : Except Fault (Option String) :=
  match record.value? name with
  | some value => .ok value
  | none => .error (.noField record.key name)

def Record.readable (record : Record) : Readable := ⟨record, record.read⟩

namespace Condition

def test (condition : Condition) (value : String) : Except Fault (Option Pattern.Hit) :=
  (Pattern.test value condition.pattern condition.kind condition.caseSensitive).mapError .pattern

def matchesEmpty (condition : Condition) : Bool :=
  condition.kind == .regex && Pattern.isEmptyCheck condition.pattern

/-- An empty value is not tested: only the checks for emptiness are satisfied by it. -/
def matchText (condition : Condition) (value : String) : Except Fault (Option Detail) :=
  if value == "" then
    .ok (if condition.matchesEmpty then some ⟨condition.field, "", 0, 0⟩ else none)
  else
    (condition.test value).map fun hit =>
      hit.map fun hit => ⟨condition.field, value, hit.start, hit.length⟩

def matchCreators (condition : Condition) (part : NamePart) :
    List Creator -> Except Fault (Option Detail)
  | [] => .ok none
  | creator :: rest => do
    match <- condition.matchText (creator.get part) with
    | some detail => return some detail
    | none => condition.matchCreators part rest

def matchTags (condition : Condition) : List String -> Except Fault (Option Detail)
  | [] => .ok none
  | tag :: rest => do
    match <- condition.test tag with
    | some _ => return some ⟨condition.field, tag, -1, -1⟩
    | none => condition.matchTags rest

def collectionId? (condition : Condition) : Option Int :=
  Text.wholeNumber? (Text.trim condition.pattern.toList)

def matchCollections (condition : Condition) (collections : List Int) : Option Detail := do
  let id <- condition.collectionId?
  if collections.contains id then
    let text := toString id
    some ⟨condition.field, "collection:" ++ text, 0, text.length⟩
  else none

def present? : Except Fault (Option String) -> Except Fault (Option String)
  | .ok value => .ok (some (value.getD ""))
  | .error (.noField _ _) => .ok none
  | .error fault => .error fault

/-- The item type's name, if it is one of the known ones, else what the record says it is. -/
def itemTypeText (source : Readable) : Except Fault String := do
  match source.record.itemTypeNumber.bind fun number => ItemType.name? number with
  | some name => return name
  | none => return (<- present? (source.read "itemType")).getD ""

def matchRecord (condition : Condition) (source : Readable) : Except Fault (Option Detail) := do
  match condition.ref with
  | .scalar name =>
    match <- present? (source.read name) with
    | some value => condition.matchText value
    | none => return none
  | .creator part => condition.matchCreators part source.record.creators
  | .tags => condition.matchTags source.record.tags
  | .itemType => condition.matchText (<- itemTypeText source)
  | .collection => return condition.matchCollections source.record.collections
  | .unknown _ => return none

end Condition

structure Evaluation where
  isMatched : Bool
  details : List Detail
  deriving DecidableEq

namespace Evaluation

def fields (evaluation : Evaluation) : List String := evaluation.details.map Detail.field

abbrev Outcomes := List (Condition × Option Detail)

def outcomes (source : Readable) : List Condition -> Except Fault Outcomes
  | [] => .ok []
  | condition :: rest => do
    let detail <- condition.matchRecord source
    return (condition, detail) :: (<- outcomes source rest)

def satisfied (outcome : Condition × Option Detail) : Bool := outcome.2.isSome

def positives (found : Outcomes) : Outcomes := found.filter fun outcome => !outcome.1.isNegative

def vetoed (found : Outcomes) : Bool :=
  found.any fun outcome => outcome.1.isNegative && satisfied outcome

def firstSatisfied (found : Outcomes) : Bool := found.head?.any satisfied

/-- The operator of the first condition decides how all of them combine. -/
def verdict (mode : Operator) (found : Outcomes) : Bool :=
  match mode with
  | .and => (positives found).all satisfied && !vetoed found
  | .or => (positives found).any satisfied && !vetoed found
  | .andNot => found.all satisfied && !firstSatisfied found && !vetoed found
  | .orNot =>
    (found.any satisfied || found.all satisfied) && !firstSatisfied found && !vetoed found

end Evaluation

/-- Whether a record satisfies a list of conditions. A condition alone is satisfied or not,
whatever its operator; no conditions are not satisfied. -/
def evaluate (source : Readable) : List Condition -> Except Fault Evaluation
  | [] => .ok ⟨false, []⟩
  | [condition] => do
    let detail <- condition.matchRecord source
    return ⟨detail.isSome, detail.toList⟩
  | first :: rest => do
    let found <- Evaluation.outcomes source (first :: rest)
    return ⟨Evaluation.verdict first.operator found, found.filterMap Prod.snd⟩

end BibEdit
