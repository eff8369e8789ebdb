import BibEdit.Regex.Matcher
import BibEdit.Text.Basic

set_option autoImplicit false

namespace BibEdit.Regex

/-- Where a pattern matched, and where each of its groups did, if it took part. -/
structure Match where
  start : Nat
  stop : Nat
  groups : List (Option (Nat × Nat))
  deriving DecidableEq

def Match.text (found : Match) (subject : List Char) : List Char :=
  Text.slice subject found.start found.stop

def Match.groupTexts (found : Match) (subject : List Char) : List (Option (List Char)) :=
  found.groups.map fun span => span.map fun (start, stop) => Text.slice subject start stop

/-- The first way to match at a position. An empty match there may be refused. -/
def matchAt (pattern : Regex) (text : Array Char) (pos : Nat) (refuseEmpty : Bool) :
    Option Match :=
  (run text pattern.root
      (fun cursor => if refuseEmpty && cursor.pos == pos then none else some cursor)
      ⟨pos, []⟩).map fun cursor =>
    ⟨pos, cursor.pos, (List.range pattern.groupCount).map fun index => cursor.span? (index + 1)⟩

def firstMatch (pattern : Regex) (text : Array Char) : Nat -> Nat -> Bool -> Option Match
  | 0, _, _ => none
  | count + 1, pos, refuseEmpty =>
    match matchAt pattern text pos refuseEmpty with
    | some found => some found
    | none => firstMatch pattern text count (pos + 1) false

def matchFrom (pattern : Regex) (text : Array Char) (pos : Nat) (refuseEmpty : Bool) :
    Option Match :=
  firstMatch pattern text (text.size + 1 - pos) pos refuseEmpty

def search (pattern : Regex) (text : List Char) : Option Match :=
  matchFrom pattern text.toArray 0 false

/-- Matches from left to right, none of which overlap. Where an empty match ends, the next must
not be empty again. -/
def matchesFrom (pattern : Regex) (text : Array Char) : Nat -> Nat -> Bool -> List Match
  | 0, _, _ => []
  | fuel + 1, pos, refuseEmpty =>
    match matchFrom pattern text pos refuseEmpty with
    | some found =>
      found :: matchesFrom pattern text fuel found.stop (found.start == found.stop)
    | none => []

def findAll (pattern : Regex) (text : List Char) : List Match :=
  matchesFrom pattern text.toArray (2 * text.length + 2) 0 false

/-- The text from `pos` on, with what `replacer` gives in the place of each match. Matches are
looked for as above, one at a time. -/
def substituteFrom {ε : Type} (pattern : Regex) (text : Array Char)
    (replacer : Match -> Except ε (List Char)) : Nat -> Nat -> Bool -> Except ε (List Char)
  | 0, pos, _ => .ok (text.toList.drop pos)
  | fuel + 1, pos, refuseEmpty =>
    match matchFrom pattern text pos refuseEmpty with
    | some found => do
      let replaced <- replacer found
      let tail <- substituteFrom pattern text replacer fuel found.stop (found.start == found.stop)
      return Text.slice text.toList pos found.start ++ replaced ++ tail
    | none => .ok (text.toList.drop pos)

def substitute {ε : Type} (pattern : Regex) (text : List Char)
    (replacer : Match -> Except ε (List Char)) : Except ε (List Char) :=
  substituteFrom pattern text.toArray replacer (2 * text.length + 2) 0 false

end BibEdit.Regex
