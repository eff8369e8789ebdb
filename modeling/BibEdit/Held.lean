import BibEdit.Revision

set_option autoImplicit false

namespace BibEdit

/-- How a record in memory takes being read and saved. -/
inductive Temper where
  | sound
  | unreadable (message : String)
  | unsavable (message : String)
  | detached
  deriving DecidableEq

/-- A record in memory, that counts how often it was saved. -/
structure Held where
  record : Record
  lacking : List String
  temper : Temper
  saves : Nat := 0
  deriving DecidableEq

namespace Held

def read (held : Held) (name : String) : Except Fault (Option String) :=
  match held.temper with
  | .unreadable message => .error (.failure message)
  | _ =>
    if held.lacking.contains name then .error (.noField held.record.key name)
    else held.record.read name

def save (held : Held) : Except Fault Held :=
  match held.temper with
  | .unsavable message => .error (.device message)
  | .detached => .error (.detached held.record.key)
  | _ => .ok { held with record := held.record.clean, saves := held.saves + 1 }

def keeping : Keeping Unit Held where
  record := record
  replace held record := { held with record := record }
  read := read
  save held place := (held.save, place)

def readable (held : Held) : Readable := keeping.readable held

end Held

end BibEdit
