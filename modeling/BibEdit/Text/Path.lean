import BibEdit.Text.Basic

set_option autoImplicit false

namespace BibEdit.Text

structure Path where
  /-- What the path starts from: nothing, or one or two slashes. -/
  root : List Char
  parts : List (List Char)
  deriving DecidableEq

namespace Path

/-- Two slashes at the start differ from one; more than two do not. -/
def rootOf (text : List Char) : List Char :=
  match (text.takeWhile (· == '/')).length with
  | 0 => []
  | 2 => ['/', '/']
  | _ => ['/']

def isNamed (part : List Char) : Bool := !part.isEmpty && part != ['.']

def parse (text : List Char) : Path :=
  ⟨rootOf text, (split ['/'] text).filter isNamed⟩

def text (path : Path) : List Char :=
  if path.root.isEmpty && path.parts.isEmpty then ['.']
  else path.root ++ join ['/'] path.parts

/-- A part that names a home at the start of a path is replaced; nothing if there is no such home. -/
def expandHome (home? : List Char -> Option (List Char)) (path : Path) : Option Path :=
  match path.root, path.parts with
  | [], ('~' :: user) :: rest => do
    let home := parse (<- home? user)
    return ⟨home.root, home.parts ++ rest⟩
  | _, _ => some path

@[simp] theorem expandHome_absolute (home? : List Char -> Option (List Char)) (root : List Char)
    (parts : List (List Char)) (absolute : root ≠ []) :
    expandHome home? ⟨root, parts⟩ = some ⟨root, parts⟩ := by
  cases root with
  | nil => contradiction
  | cons c rest => rfl

end Path

def normalPath (path : String) : String := String.ofList (Path.parse path.toList).text

def folderOf (path : String) : String :=
  let path := Path.parse path.toList
  String.ofList (Path.text { path with parts := path.parts.dropLast })

end BibEdit.Text
