set_option autoImplicit false

namespace BibEdit.Regex

inductive Class where
  | digit
  | space
  | word
  deriving DecidableEq

inductive Member where
  | single (code : Nat)
  | range (low high : Nat)
  | named (negated : Bool) (cls : Class)
  deriving DecidableEq

inductive Casing where
  | exact
  | ascii
  | unicode
  deriving DecidableEq

inductive Anchor where
  | textStart
  | lineStart
  | textEnd
  | lineEnd
  | veryEnd
  | boundary (ascii : Bool)
  | noBoundary (ascii : Bool)
  deriving DecidableEq

inductive Greed where
  | greedy
  | lazy
  | possessive
  deriving DecidableEq

structure Width where
  least : Nat
  most : Nat
  deriving DecidableEq

inductive Node where
  | empty
  | any (newline : Bool)
  | literal (negated : Bool) (code : Nat) (casing : Casing)
  | set (negated : Bool) (members : List Member) (casing : Casing) (ascii : Bool)
  | anchor (kind : Anchor)
  | backref (group : Nat) (casing : Casing)
  | seq (first rest : Node)
  | alt (first rest : Node)
  | group (index : Nat) (body : Node)
  | scope (body : Node)
  | atomic (body : Node)
  | lookAhead (negated : Bool) (body : Node)
  | lookBehind (negated : Bool) (width : Width) (body : Node)
  | cond (group : Nat) (yes no : Node)
  | rep (greed : Greed) (least : Nat) (most : Option Nat) (body : Node)

def Node.ofList : List Node -> Node
  | [] => .empty
  | [node] => node
  | node :: rest => .seq node (ofList rest)

def Node.toList : Node -> List Node
  | .empty => []
  | .seq first rest => first.toList ++ rest.toList
  | node => [node]

def Node.oneOf : List Node -> Node
  | [] => .empty
  | [node] => node
  | node :: rest => .alt node (oneOf rest)

/-- Whether two parts that consume one character at most are written alike. -/
def Node.sameStep : Node -> Node -> Bool
  | .any a, .any b => a == b
  | .literal n c m, .literal n' c' m' => n == n' && c == c' && m == m'
  | .set n s m a, .set n' s' m' a' => n == n' && s == s' && m == m' && a == a'
  | .anchor a, .anchor b => a == b
  | .backref g m, .backref g' m' => g == g' && m == m'
  | _, _ => false

def Width.zero : Width := ⟨0, 0⟩

def Width.one : Width := ⟨1, 1⟩

def Width.limit : Nat := Nat.pow 2 64

def Width.capped (width : Width) : Width := ⟨min width.least limit, min width.most limit⟩

def Width.add (a b : Width) : Width := Width.capped ⟨a.least + b.least, a.most + b.most⟩

def Width.either (a b : Width) : Width := ⟨min a.least b.least, max a.most b.most⟩

def Width.times (width : Width) (least : Nat) (most : Option Nat) : Width :=
  Width.capped ⟨width.least * least,
    match most with
    | some most => width.most * most
    | none => if width.most = 0 then 0 else limit⟩

def Node.width (groups : Nat -> Width) : Node -> Width
  | .empty | .anchor _ | .lookAhead _ _ | .lookBehind _ _ _ => .zero
  | .any _ | .literal _ _ _ | .set _ _ _ _ => .one
  | .backref number _ => groups number
  | .seq first rest => (first.width groups).add (rest.width groups)
  | .alt first rest => (first.width groups).either (rest.width groups)
  | .group _ body | .scope body | .atomic body => body.width groups
  | .cond _ yes no => (yes.width groups).either (no.width groups)
  | .rep _ least most body => (body.width groups).times least most

end BibEdit.Regex

/-- A compiled pattern: its tree, the number of its groups and the names of the named ones. -/
structure BibEdit.Regex where
  root : BibEdit.Regex.Node
  groupCount : Nat
  names : List (String × Nat)
