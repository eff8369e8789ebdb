import BibEdit.Regex.Basic

set_option autoImplicit false

/-! How the characters of a tree are compared. -/

namespace BibEdit.Regex

-- Whether the sure characters of a part are compared in one of the allowed ways.
def Node.cased (allowed : Casing -> Bool) : Node -> Bool
  | .literal false _ casing => allowed casing
  | .seq first rest => first.cased allowed && rest.cased allowed
  | .group _ body | .scope body | .atomic body | .rep _ _ _ body => body.cased allowed
  | _ => true

theorem cased_ofList (allowed : Casing -> Bool) (nodes : List Node) :
    (Node.ofList nodes).cased allowed = nodes.all (Node.cased allowed) := by
  match nodes with
  | [] => rfl
  | [node] => simp [Node.ofList]
  | node :: other :: rest =>
    have later := cased_ofList allowed (other :: rest)
    simp only [Node.ofList, Node.cased, later]
    rfl

theorem cased_toList (allowed : Casing -> Bool) (node : Node) :
    node.toList.all (Node.cased allowed) = node.cased allowed := by
  induction node with
  | seq first rest ihFirst ihRest =>
    simp only [Node.toList, List.all_append, ihFirst, ihRest, Node.cased]
  | empty => rfl
  | _ => simp [Node.toList]

def Node.sharp : Node -> Node
  | .literal negated code _ => .literal negated code .exact
  | .set negated members _ ascii => .set negated members .exact ascii
  | .backref number _ => .backref number .exact
  | .seq first rest => .seq first.sharp rest.sharp
  | .alt first rest => .alt first.sharp rest.sharp
  | .group index body => .group index body.sharp
  | .scope body => .scope body.sharp
  | .atomic body => .atomic body.sharp
  | .lookAhead negated body => .lookAhead negated body.sharp
  | .lookBehind negated width body => .lookBehind negated width body.sharp
  | .cond number yes no => .cond number yes.sharp no.sharp
  | .rep greed least most body => .rep greed least most body.sharp
  | node => node

theorem width_sharp (groups : Nat -> Width) (node : Node) :
    node.sharp.width groups = node.width groups := by
  induction node <;> simp only [Node.sharp, Node.width, *]

theorem sharp_ofList (nodes : List Node) :
    (Node.ofList nodes).sharp = Node.ofList (nodes.map Node.sharp) := by
  match nodes with
  | [] => rfl
  | [node] => rfl
  | node :: other :: rest =>
    have later := sharp_ofList (other :: rest)
    simp only [Node.ofList, Node.sharp, later, List.map_cons]

theorem sharp_toList (node : Node) : node.sharp.toList = node.toList.map Node.sharp := by
  induction node with
  | seq first rest ihFirst ihRest =>
    simp only [Node.sharp, Node.toList, ihFirst, ihRest, List.map_append]
  | _ => rfl

theorem sharp_oneOf (nodes : List Node) :
    (Node.oneOf nodes).sharp = Node.oneOf (nodes.map Node.sharp) := by
  match nodes with
  | [] => rfl
  | [node] => rfl
  | node :: other :: rest =>
    have later := sharp_oneOf (other :: rest)
    simp only [Node.oneOf, Node.sharp, later, List.map_cons]

/-- Whether the characters of a sequence are all compared in one way; what stands in parts of its
own is not looked at. -/
def Node.level (casing : Casing) : Node -> Bool
  | .literal _ _ own | .set _ _ own _ | .backref _ own => own == casing
  | .seq first rest => first.level casing && rest.level casing
  | _ => true

def Level (casing : Casing) (nodes : List Node) : Prop := ∀ node ∈ nodes, node.level casing = true

theorem level_ofList (casing : Casing) (nodes : List Node) (level : Level casing nodes) :
    (Node.ofList nodes).level casing = true := by
  match nodes with
  | [] => rfl
  | [node] => exact level node (by simp)
  | node :: other :: rest =>
    have here := level node (by simp)
    have later := level_ofList casing (other :: rest) fun next member =>
      level next (List.mem_cons_of_mem _ member)
    simp only [Node.ofList, Node.level, here, later, Bool.and_self]

theorem level_toList (casing : Casing) (node : Node) (level : node.level casing = true) :
    Level casing node.toList := by
  induction node with
  | empty => simp [Level, Node.toList]
  | seq first rest ihFirst ihRest =>
    obtain ⟨left, right⟩ := Bool.and_eq_true_iff.1 level
    intro other member
    rcases List.mem_append.1 member with here | there
    next => exact ihFirst left other here
    next => exact ihRest right other there
  | _ => simpa [Level, Node.toList] using level

theorem sameStep_sharp {casing : Casing} {first second : Node} (left : first.level casing = true)
    (right : second.level casing = true) :
    first.sharp.sameStep second.sharp = first.sameStep second := by
  -- Only parts of one kind may be alike, and casing makes none another kind.
  cases first with
  | literal negated code own =>
    cases second with
    | literal => simp_all [Node.sharp, Node.sameStep, Node.level]
    | _ => rfl
  | set negated members own ascii =>
    cases second with
    | set => simp_all [Node.sharp, Node.sameStep, Node.level]
    | _ => rfl
  | backref group own =>
    cases second with
    | backref => simp_all [Node.sharp, Node.sameStep, Node.level]
    | _ => rfl
  | any newline => cases second <;> rfl
  | anchor kind => cases second <;> rfl
  | _ => rfl

theorem level_append {casing : Casing} {first second : List Node} (left : Level casing first)
    (right : Level casing second) : Level casing (first ++ second) := by
  intro node member
  rcases List.mem_append.1 member with here | there
  next => exact left node here
  next => exact right node there

theorem level_single {casing : Casing} {node : Node} (level : node.level casing = true) :
    Level casing [node] := by
  simpa [Level] using level

theorem level_oneOf {casing : Casing} {branches : List (List Node)}
    (level : ∀ branch ∈ branches, Level casing branch) :
    (Node.oneOf (branches.map Node.ofList)).level casing = true := by
  match branches with
  | [] => rfl
  | [branch] => exact level_ofList casing branch (level branch (by simp))
  | _ :: _ :: _ => rfl

end BibEdit.Regex
