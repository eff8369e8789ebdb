set_option autoImplicit false

namespace BibEdit

inductive PatternKind where
  | regex
  | exact
  | contains
  | like
  | glob
  | other (name : String)
  deriving DecidableEq

namespace PatternKind

def name : PatternKind -> String
  | regex => "regex"
  | exact => "exact"
  | contains => "contains"
  | like => "sql_like"
  | glob => "sql_glob"
  | other name => name

def known : List PatternKind := [regex, exact, contains, like, glob]

def ofName (name : String) : PatternKind :=
  (known.find? fun kind => kind.name == name).getD (other name)

def isKnown (kind : PatternKind) : Bool := known.contains kind

theorem ofName_name (kind : PatternKind) (recognized : kind.isKnown = true) :
    ofName kind.name = kind := by
  cases kind <;> simp_all [isKnown, known] <;> rfl

end PatternKind

end BibEdit
