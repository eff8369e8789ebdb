import BibEdit.Pattern.Kind
import BibEdit.Pattern.Wildcard
import BibEdit.Regex.Match
import BibEdit.Regex.Reader
import BibEdit.Unicode.CaseFold

set_option autoImplicit false

namespace BibEdit

inductive PatternError where
  | unknownKind (name : String)
  | untestedKind (name : String)
  | uncompiledKind (name : String)
  | malformed (pattern : List Char) (flaw : Regex.Flaw) (position : Option Nat)
  | largeCount
  | longNumeral (numeral : Text.LongNumeral)
  | mixedAlphabets

namespace PatternError

/-- Whether the pattern itself is at fault, not a limit on what can be run. -/
def isInvalid : PatternError -> Bool
  | largeCount | longNumeral _ | mixedAlphabets => false
  | _ => true

def message : PatternError -> String
  | unknownKind name =>
    "Invalid pattern type " ++ name ++ ": must be one of " ++
      ", ".intercalate (PatternKind.known.map PatternKind.name)
  | untestedKind name => "Invalid pattern type " ++ name
  | uncompiledKind name => "Pattern type " ++ name ++ " does not compile to a regex"
  | malformed pattern flaw position => "Invalid regex: " ++ flaw.message pattern position
  | largeCount => "the repetition number is too large"
  | longNumeral numeral => numeral.message
  | mixedAlphabets => "ASCII and UNICODE flags are incompatible"

def ofRegex (pattern : List Char) : Regex.Error -> PatternError
  | .malformed flaw position => malformed pattern flaw position
  | .largeCount => largeCount
  | .longNumeral numeral => longNumeral numeral
  | .mixedAlphabets => mixedAlphabets

end PatternError

namespace Pattern

/-- The patterns that also match a field without a value. -/
def emptyChecks : List String := ["^$", "^\\s*$"]

def isEmptyCheck (pattern : String) : Bool := emptyChecks.contains pattern

def regexSource (pattern : List Char) : PatternKind -> Except PatternError (List Char)
  | .regex => .ok pattern
  | .contains => .ok (Regex.escape pattern)
  | .like => .ok (Wildcard.likeRegex pattern)
  | .glob => .ok (Wildcard.globRegex pattern)
  | kind => .error (.uncompiledKind kind.name)

def compile (pattern : String) (kind : PatternKind) (caseSensitive : Bool) :
    Except PatternError Regex := do
  let source <- regexSource pattern.toList kind
  (Regex.compile source !caseSensitive).mapError (PatternError.ofRegex source)

/-- Only a regex can be malformed. -/
def validate (pattern : String) (kind : PatternKind) : Except PatternError Unit :=
  if !kind.isKnown then .error (.unknownKind kind.name)
  else if kind == .regex then (compile pattern .regex true).map fun _ => ()
  else .ok ()

structure Hit where
  text : List Char
  start : Nat
  deriving DecidableEq

def Hit.length (hit : Hit) : Nat := hit.text.length

def sameText (caseSensitive : Bool) (a b : List Char) : Bool :=
  if caseSensitive then a == b else Unicode.fold a == Unicode.fold b

def hitOf (value : List Char) (found : Regex.Match) : Hit := ⟨found.text value, found.start⟩

/-- The first place where the pattern matches the value. -/
def test (value pattern : String) (kind : PatternKind) (caseSensitive : Bool) :
    Except PatternError (Option Hit) :=
  if kind == .exact then
    .ok (if sameText caseSensitive value.toList pattern.toList
      then some ⟨value.toList, 0⟩ else none)
  else if !kind.isKnown then .error (.untestedKind kind.name)
  else
    (compile pattern kind caseSensitive).map fun regex =>
      (regex.search value.toList).map (hitOf value.toList)

end Pattern

end BibEdit
