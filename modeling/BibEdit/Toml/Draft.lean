import BibEdit.Toml.Value

set_option autoImplicit false

namespace BibEdit.Toml

inductive Statement where
  | header (path : List String)
  | itemHeader (path : List String)
  | entry (path : List String) (value : Value)

def replaceEntry (key : String) (value : Value) (table : Table) : Table :=
  table.map fun entry => if entry.1 == key then (key, value) else entry

/-- Changes a table that is a value; a list stands for its last item if lists may be entered. -/
def alterValue (enterLists : Bool) (change : Table -> Option Table) : Value -> Option Value
  | .table entries => (change entries).map .table
  | .array items =>
    match enterLists, items.getLast? with
    | true, some (.table entries) => do
      return .array (items.dropLast ++ [.table (<- change entries)])
    | _, _ => none
  | _ => none

/-- Changes the table at a path, where tables that are missing are made. Nothing if something else
is in the way. -/
def alterAt (enterLists : Bool) (change : Table -> Option Table) :
    List String -> Table -> Option Table
  | [], table => change table
  | key :: path, table =>
    match table.lookup key with
    | none => do return table ++ [(key, .table (<- alterAt enterLists change path []))]
    | some value => do
      return replaceEntry key (<- alterValue enterLists (alterAt enterLists change path) value) table

def define (key : String) (value : Value) (table : Table) : Option Table :=
  if (table.lookup key).isSome then none else some (table ++ [(key, value)])

def appendItem (key : String) (table : Table) : Option Table :=
  match table.lookup key with
  | none => some (table ++ [(key, .array [.table []])])
  | some (.array items) =>
    some (replaceEntry key (.array (items ++ [.table []])) table)
  | some _ => none

def splitPath : List String -> Option (List String × String)
  | [] => none
  | [key] => some ([], key)
  | key :: path => do
    let (parent, last) <- splitPath path
    return (key :: parent, last)

def Value.isNested : Value -> Bool
  | .table _ | .array _ => true
  | _ => false

structure Draft where
  root : Table := []
  header : List String := []
  /-- Tables that may not be opened again. -/
  opened : List (List String) := []
  /-- Values that nothing may be added to, or inside of. -/
  sealed : List (List String) := []
  /-- Tables that will be opened once the section ends. -/
  pending : List (List String) := []

namespace Draft

def isSealed (draft : Draft) (path : List String) : Bool :=
  draft.sealed.any fun value => value.isPrefixOf path

def isOpened (draft : Draft) (path : List String) : Bool := draft.opened.contains path

def endSection (draft : Draft) : Draft :=
  { draft with opened := draft.pending ++ draft.opened, pending := [] }

def forget (draft : Draft) (path : List String) : Draft :=
  { draft with
    opened := draft.opened.filter fun other => !path.isPrefixOf other
    sealed := draft.sealed.filter fun other => !path.isPrefixOf other }

def openTable (draft : Draft) (path : List String) : Option Draft := do
  let draft := draft.endSection
  if draft.isOpened path || draft.isSealed path then none
  else
    let root <- alterAt true some path draft.root
    return { draft with root := root, header := path, opened := path :: draft.opened }

def openItem (draft : Draft) (path : List String) : Option Draft := do
  let draft := draft.endSection
  if draft.isSealed path then none
  else
    -- The new item knows nothing of the one before it.
    let draft := draft.forget path
    let (parent, key) <- splitPath path
    let root <- alterAt true (appendItem key) parent draft.root
    return { draft with root := root, header := path, opened := path :: draft.opened }

def passed (draft : Draft) (path : List String) : List (List String) :=
  (List.range (path.length - 1)).map fun count => draft.header ++ path.take (count + 1)

def addEntry (draft : Draft) (path : List String) (value : Value) : Option Draft := do
  let passed := draft.passed path
  let (parent, key) <- splitPath path
  if passed.any draft.isOpened || draft.isSealed (draft.header ++ parent) then none
  else
    let root <- alterAt true (define key value) (draft.header ++ parent) draft.root
    let sealed := if value.isNested then [draft.header ++ path] else []
    return { draft with
      root := root
      -- The tables passed may be added to until the section ends.
      pending := passed ++ draft.pending
      sealed := sealed ++ draft.sealed }

def add (draft : Draft) : Statement -> Option Draft
  | .header path => draft.openTable path
  | .itemHeader path => draft.openItem path
  | .entry path value => draft.addEntry path value

end Draft

structure InlineDraft where
  root : Table := []
  sealed : List (List String) := []

def InlineDraft.add (draft : InlineDraft) (path : List String) (value : Value) :
    Option InlineDraft := do
  if draft.sealed.any fun other => other.isPrefixOf path then none
  else
    let (parent, key) <- splitPath path
    let root <- alterAt false (define key value) parent draft.root
    return { root := root
             sealed := (if value.isNested then [path] else []) ++ draft.sealed }

end BibEdit.Toml
