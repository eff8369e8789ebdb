import BibEdit.Text.Numeral
import BibEdit.Toml.Display

set_option autoImplicit false

namespace BibEdit.Toml.Printer

def escapedChar (c : Char) : List Char :=
  if c == '"' || c == '\\' then ['\\', c]
  else if c == '\x08' then ['\\', 'b']
  else if c == '\n' then ['\\', 'n']
  else if c == '\x0c' then ['\\', 'f']
  else if c == '\r' then ['\\', 'r']
  else if c != '\t' && (c.toNat < 0x20 || c.toNat == 0x7f) then
    '\\' :: 'u' :: Text.hexText 4 c.toNat
  else [c]

def string (text : List Char) : List Char := '"' :: text.flatMap escapedChar ++ ['"']

def isBare (c : Char) : Bool :=
  Text.isAsciiDigit c || ('a' <= c && c <= 'z') || ('A' <= c && c <= 'Z') || c == '-' || c == '_'

def key (name : String) : List Char :=
  if name != "" && name.toList.all isBare then name.toList else string name.toList

def indentation (level : Nat) : List Char := List.replicate (4 * level) ' '

def pair (name : String) (value : List Char) : List Char := key name ++ [' ', '=', ' '] ++ value

def inlineTable (pairs : List (List Char)) : List Char :=
  if pairs.isEmpty then ['\x7b', '\x7d']
  else '\x7b' :: ' ' :: Text.join [',', ' '] pairs ++ [' ', '\x7d']

def array (level : Nat) (items : List (List Char)) : List Char :=
  if items.isEmpty then ['[', ']']
  else
    '[' :: '\n' :: items.flatMap (fun item => indentation (level + 1) ++ item ++ [',', '\n']) ++
      indentation level ++ [']']

mutual

/-- A value on the right of an equals sign; `level` is how deep it lies in arrays. -/
def literal (level : Nat) : Value -> List Char
  | .string text => string text.toList
  | .boolean truth => if truth then "true".toList else "false".toList
  | .array items => array level (literals (level + 1) items)
  | .table entries => inlineTable (pairs entries)
  | value => value.display

def literals (level : Nat) : List Value -> List (List Char)
  | [] => []
  | item :: rest => literal level item :: literals level rest

def pairs : Table -> List (List Char)
  | [] => []
  | (name, value) :: rest => pair name (literal 0 value) :: pairs rest

end

def lineLimit : Nat := 100

/-- Whether a table that is an item of an array goes into one line. -/
def fitsInline (entries : Table) : Bool :=
  let line := indentation 1 ++ inlineTable (pairs entries) ++ [',']
  line.length <= lineLimit && !line.contains '\n'

def isInlineItem : Value -> Bool
  | .table entries => fitsInline entries
  | _ => true

def isTable : Value -> Bool
  | .table _ => true
  | _ => false

/-- Whether an entry is written as one literal or gets sections of its own. -/
def isLiteral : Value -> Bool
  | .table _ => false
  | .array items => items.isEmpty || !items.all isTable || items.all isInlineItem
  | _ => true

def literalLines (entries : Table) : List Char :=
  (entries.filter fun entry => isLiteral entry.2).flatMap fun entry =>
    pair entry.1 (literal 0 entry.2) ++ ['\n']

def hasLiterals (entries : Table) : Bool := entries.any fun entry => isLiteral entry.2

def hasSections (entries : Table) : Bool := entries.any fun entry => !isLiteral entry.2

def pathTo (name : List Char) (part : String) : List Char :=
  if name.isEmpty then key part else name ++ '.' :: key part

def heading (name : List Char) (item : Bool) : List Char :=
  if item then '[' :: '[' :: name ++ [']', ']', '\n'] else '[' :: name ++ [']', '\n']

def front (name : List Char) (item : Bool) (entries : Table) : List Char :=
  let headed := item || (!name.isEmpty && (hasLiterals entries || !hasSections entries))
  (if headed then heading name item else []) ++ literalLines entries

mutual

def itemSection (name : List Char) : Value -> List (List Char)
  | .table entries => front name true entries :: sections name entries
  | _ => []

def sections (name : List Char) : Table -> List (List Char)
  | [] => []
  | (part, value) :: rest => entrySections (pathTo name part) value ++ sections name rest

def entrySections (name : List Char) : Value -> List (List Char)
  | .table entries => front name false entries :: sections name entries
  | .array items => if isLiteral (.array items) then [] else itemsSections name items
  | _ => []

def itemsSections (name : List Char) : List Value -> List (List Char)
  | [] => []
  | item :: rest => itemSection name item ++ itemsSections name rest

end

/-- A document as text: its sections, with an empty line between two. -/
def text (document : Table) : String :=
  let parts := front [] false document :: sections [] document
  String.ofList (Text.join ['\n'] (parts.filter fun part => !part.isEmpty))

instance : Writer := ⟨text⟩

end BibEdit.Toml.Printer
