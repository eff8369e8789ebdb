import BibEdit.Field
import BibEdit.Pattern.Kind

set_option autoImplicit false

namespace BibEdit

inductive Operator where
  | and
  | or
  | andNot
  | orNot
  deriving DecidableEq

namespace Operator

def name : Operator -> String
  | and => "AND"
  | or => "OR"
  | andNot => "AND_NOT"
  | orNot => "OR_NOT"

def all : List Operator := [and, or, andNot, orNot]

def ofName? (name : String) : Option Operator := all.find? fun operator => operator.name == name

def isNegative : Operator -> Bool
  | and | or => false
  | andNot | orNot => true

end Operator

structure Condition where
  field : String
  pattern : String
  kind : PatternKind := .regex
  caseSensitive : Bool := false
  operator : Operator := .and
  deriving DecidableEq

namespace Condition

def ref (condition : Condition) : Field := Field.parse condition.field

def isNegative (condition : Condition) : Bool := condition.operator.isNegative

end Condition

end BibEdit
