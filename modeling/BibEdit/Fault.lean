import BibEdit.Pattern.Basic

set_option autoImplicit false

namespace BibEdit

inductive SnapshotFlaw where
  | notJson
  | notIterable
  | notObject
  | notText
  deriving DecidableEq

inductive Fault where
  | pattern (error : PatternError)
  | noField (key name : String)
  | detached (key : String)
  | gone (key : String)
  | noProbe (field test : String)
  | outOfRange
  | unbindable
  | constraint (message : String)
  | device (message : String)
  | failure (message : String)
  | snapshot (flaw : SnapshotFlaw)
  | longNumeral (numeral : Text.LongNumeral)

def SnapshotFlaw.message : SnapshotFlaw -> String
  | .notJson => "invalid JSON"
  | .notIterable => "not iterable"
  | .notObject => "not an object"
  | .notText => "not a text"

def Fault.message : Fault -> String
  | .pattern error => error.message
  | .noField key name => "Record " ++ key ++ " has no field " ++ name
  | .detached key => "Record " ++ key ++ " is not attached to a library"
  | .gone key => "Record " ++ key ++ " no longer exists in the library"
  | .noProbe field test => "Unsupported store probe: " ++ field ++ " " ++ test
  | .outOfRange => "the number is too large to be stored"
  | .unbindable => "type is not supported"
  | .constraint message => message
  | .device message => message
  | .failure message => message
  | .snapshot flaw => flaw.message
  | .longNumeral numeral => numeral.message

end BibEdit
