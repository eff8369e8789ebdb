import BibEdit.Proofs.Regex.Tracks
import BibEdit.Proofs.Regex.Tree

set_option autoImplicit false

/-! A pattern that can be compiled can be compiled whether case is ignored or not. -/

namespace BibEdit.Regex

theorem check_sharp (template : Bool) (node : Node) :
    node.sharp.check template = node.check template := by
  induction node <;> simp only [Node.sharp, Node.check, *]

theorem branchMembers_sharp (branches : List (List Node)) :
    branchMembers (branches.map (List.map Node.sharp)) = branchMembers branches := by
  induction branches with
  | nil => rfl
  | cons branch rest ih =>
    match branch with
    | [] => rfl
    | [node] =>
      cases node with
      | literal negated code casing => cases negated <;> simp [branchMembers, Node.sharp, ih]
      | set negated members casing ascii => cases negated <;> simp [branchMembers, Node.sharp, ih]
      | _ => rfl
    | first :: second :: others => simp [branchMembers]

theorem level_tails {casing : Casing} {branches : List (List Node)}
    (level : ∀ branch ∈ branches, Level casing branch) :
    ∀ branch ∈ branches.map List.tail, Level casing branch := by
  intro branch member
  obtain ⟨longer, among, rfl⟩ := List.mem_map.1 member
  exact fun node within => level longer among node (List.mem_of_mem_tail within)

theorem tails_sharp (branches : List (List Node)) :
    (branches.map (List.map Node.sharp)).map List.tail =
      (branches.map List.tail).map (List.map Node.sharp) := by
  simp [Function.comp_def]

theorem allSameStep_sharp {casing : Casing} {first : Node} {branches : List (List Node)}
    (levelFirst : first.level casing = true) (level : ∀ branch ∈ branches, Level casing branch) :
    ((branches.map (List.map Node.sharp)).all fun branch =>
        branch.head?.any first.sharp.sameStep) =
      branches.all fun branch => branch.head?.any first.sameStep := by
  induction branches with
  | nil => rfl
  | cons branch rest ih =>
    have later := ih fun other member => level other (List.mem_cons_of_mem _ member)
    rw [List.map_cons, List.all_cons, List.all_cons, later]
    cases branch with
    | nil => rfl
    | cons node nodes =>
      have alike := sameStep_sharp levelFirst (level (node :: nodes) (by simp) node (by simp))
      simp only [List.map_cons, List.head?_cons, Option.any_some, alike]

theorem sharedStart_sharp {casing : Casing} (fuel : Nat) (branches : List (List Node))
    (level : ∀ branch ∈ branches, Level casing branch) :
    sharedStart fuel (branches.map (List.map Node.sharp)) =
        ((sharedStart fuel branches).1.map Node.sharp,
          (sharedStart fuel branches).2.map (List.map Node.sharp)) /\
      Level casing (sharedStart fuel branches).1 /\
      ∀ branch ∈ (sharedStart fuel branches).2, Level casing branch := by
  induction fuel generalizing branches with
  | zero => exact ⟨rfl, by simp [Level, sharedStart], level⟩
  | succ fuel ih =>
    cases branches with
    | nil => exact ⟨rfl, by simp [Level, sharedStart], level⟩
    | cons branch others =>
      cases branch with
      | nil => exact ⟨rfl, by simp [Level, sharedStart], level⟩
      | cons first rest =>
        have levelFirst : first.level casing = true :=
          level (first :: rest) (by simp) first (by simp)
        have same := allSameStep_sharp levelFirst fun branch member =>
          level branch (List.mem_cons_of_mem _ member)
        obtain ⟨shared, levelShared, levelRest⟩ := ih _ (level_tails level)
        rw [← tails_sharp] at shared
        simp only [List.map_cons] at shared levelShared levelRest
        simp only [List.map_cons, sharedStart, same]
        split
        next =>
          refine ⟨by rw [shared, List.map_cons], fun node member => ?_, levelRest⟩
          rcases List.mem_cons.1 member with rfl | later
          next => exact levelFirst
          next => exact levelShared node later
        next => exact ⟨rfl, by simp [Level], level⟩

def Flags.sharp (flags : Flags) : Flags := flags.recased false

-- What the alternatives do not share, as one part.
def unshared (flags : Flags) (branches : List (List Node)) : Node :=
  match branchMembers branches with
  | some members => .set false (uniqueMembers members) flags.casing flags.ascii
  | none => .oneOf (branches.map Node.ofList)

theorem unshared_sharp {flags : Flags} {branches : List (List Node)}
    (level : ∀ branch ∈ branches, Level flags.casing branch) :
    unshared flags.sharp (branches.map (List.map Node.sharp)) = (unshared flags branches).sharp /\
      (unshared flags branches).level flags.casing = true := by
  unfold unshared
  rw [branchMembers_sharp]
  cases branchMembers branches with
  | some members => exact ⟨rfl, by simp [Node.level]⟩
  | none =>
    refine ⟨?_, level_oneOf level⟩
    simp only [sharp_oneOf, List.map_map, Function.comp_def, sharp_ofList]

-- What alternatives share, and what is left of each.
def splitBranches (branches : List (List Node)) : List Node × List (List Node) :=
  sharedStart (branches.flatten.length + 1) branches

theorem splitBranches_sharp {casing : Casing} {branches : List (List Node)}
    (level : ∀ branch ∈ branches, Level casing branch) :
    splitBranches (branches.map (List.map Node.sharp)) =
      ((splitBranches branches).1.map Node.sharp,
        (splitBranches branches).2.map (List.map Node.sharp)) := by
  have lengths : (branches.map (List.map Node.sharp)).flatten.length = branches.flatten.length := by
    simp [List.length_flatten, Function.comp_def]
  unfold splitBranches
  rw [lengths]
  exact (sharedStart_sharp _ branches level).1

theorem joinBranches_several (flags : Flags) (branches : List (List Node))
    (several : 2 <= branches.length) :
    joinBranches flags branches =
      (splitBranches branches).1 ++ [unshared flags (splitBranches branches).2] := by
  match branches with
  | first :: second :: others =>
    simp only [joinBranches, unshared, splitBranches]
    generalize branchMembers _ = members?
    cases members? <;> rfl

theorem joinBranches_sharp (flags : Flags) (branches : List (List Node))
    (level : ∀ branch ∈ branches, Level flags.casing branch) :
    joinBranches flags.sharp (branches.map (List.map Node.sharp)) =
        (joinBranches flags branches).map Node.sharp /\
      Level flags.casing (joinBranches flags branches) := by
  by_cases several : 2 <= branches.length
  next =>
    obtain ⟨_, levelShared, levelRest⟩ :=
      sharedStart_sharp (branches.flatten.length + 1) branches level
    obtain ⟨rest, levelLast⟩ := unshared_sharp levelRest
    rw [joinBranches_several flags branches several,
      joinBranches_several _ _ (by simpa using several), splitBranches_sharp level]
    refine ⟨?_, level_append levelShared (level_single levelLast)⟩
    rw [List.map_append, List.map_singleton]
    exact congrArg _ (congrArg (fun node => [node]) rest)
  next =>
    match branches with
    | [] => exact ⟨rfl, by simp [Level, joinBranches]⟩
    | [branch] => exact ⟨rfl, level branch (by simp)⟩
    | _ :: _ :: _ => exact absurd (by simp) several

/-- Parts that differ in casing only, each of the casing that goes with its flags. -/
structure Alike (flags other : Flags) (first second : List Node) : Prop where
  sharp : first.map Node.sharp = second.map Node.sharp
  levelFirst : Level flags.casing first
  levelSecond : Level other.casing second

structure Node.Alike (flags other : Flags) (first second : Node) : Prop where
  sharp : first.sharp = second.sharp
  levelFirst : first.level flags.casing = true
  levelSecond : second.level other.casing = true

structure Piece.Alike (flags other : Flags) (first second : Piece) : Prop where
  kind : first.kind = second.kind
  node : first.node.Alike flags other second.node

abbrev AlikePieces (flags other : Flags) : List Piece -> List Piece -> Prop :=
  List.Forall₂ (Piece.Alike flags other)

namespace Reader

variable {base : Flags} {ignoreCase : Bool} {flags : Flags} {here : Bool}

theorem piece_of {other : Flags} {first second : Node} (alike : first.Alike flags other second) :
    (Piece.of first).Alike flags other (Piece.of second) := by
  have sharp := alike.sharp
  refine ⟨?_, ?_⟩
  next => cases first <;> cases second <;> first | rfl | cases sharp
  next => cases first <;> cases second <;> exact alike

theorem tracks_numberedReference (group width : Nat) :
    Tracks base ignoreCase (Node.Alike flags (flags.recased here))
      (numberedReference flags group width) (numberedReference (flags.recased here) group width) :=
  tracks_get fun _ _ =>
    tracks_ite (tracks_fail _ _ _) <| tracks_ite (tracks_fail _ _ _) <|
      (blind_checkLookBehind _).andThen fun _ =>
        tracks_pure ⟨rfl, by simp [Node.level], by simp [Node.level]⟩

theorem alike_literal (negated : Bool) (code : Nat) :
    (Node.literal negated code flags.casing).Alike flags (flags.recased here)
      (.literal negated code (flags.recased here).casing) :=
  ⟨rfl, by simp [Node.level], by simp [Node.level]⟩

theorem tracks_digitEscape (c : Char) :
    Tracks base ignoreCase (Node.Alike flags (flags.recased here))
      (digitEscape flags c) (digitEscape (flags.recased here) c) := by
  refine (blind_runOf _ _).andThen fun second => ?_
  cases second with
  | nil => exact tracks_numberedReference _ _
  | cons d more =>
    have finish (third : List Char) : Tracks base ignoreCase (Node.Alike flags (flags.recased here))
        (if third.isEmpty then numberedReference flags (Text.radixValue 10 (c :: d :: more)) 3
          else do
            return .literal false (<- octalEscape (c :: d :: more ++ third)) flags.casing)
        (if third.isEmpty
          then numberedReference (flags.recased here) (Text.radixValue 10 (c :: d :: more)) 3
          else do
            return .literal false (<- octalEscape (c :: d :: more ++ third))
              (flags.recased here).casing) :=
      tracks_ite (tracks_numberedReference _ _) <|
        (blind_octalEscape _).andThen fun _ => tracks_pure (alike_literal _ _)
    exact tracks_ite ((blind_runOf _ _).andThen finish) ((blind_pure _).andThen finish)

theorem tracks_nodeEscape (c : Char) :
    Tracks base ignoreCase (Node.Alike flags (flags.recased here))
      (nodeEscape flags c) (nodeEscape (flags.recased here) c) := by
  have literal (read : Reader Nat) (blind : Blind base ignoreCase read) :
      Tracks base ignoreCase (Node.Alike flags (flags.recased here))
        (do return .literal false (<- read) flags.casing)
        (do return .literal false (<- read) (flags.recased here).casing) :=
    blind.andThen fun _ => tracks_pure (alike_literal _ _)
  unfold nodeEscape
  split
  next => exact tracks_pure ⟨rfl, by simp [Node.level], by simp [Node.level]⟩
  next => exact tracks_pure (alike_literal _ _)
  next =>
    exact tracks_ite (literal _ (blind_hexEscape _ _)) <|
      tracks_ite (literal _ (blind_hexEscape _ _)) <|
      tracks_ite (literal _ (blind_hexEscape _ _)) <| tracks_ite (literal _ blind_namedEscape) <|
      tracks_ite ((blind_runOf _ _).andThen fun _ => tracks_pure (alike_literal _ _)) <|
      tracks_ite (tracks_digitEscape c) (literal _ (blind_otherEscape _))

theorem tracks_escapedPiece (c : Char) :
    Tracks base ignoreCase (Piece.Alike flags (flags.recased here))
      (escapedPiece flags c) (escapedPiece (flags.recased here) c) := by
  unfold escapedPiece
  have same : (flags.recased here).ascii = flags.ascii := rfl
  rw [same]
  split
  next => exact tracks_pure ⟨rfl, rfl, rfl, rfl⟩
  next => exact (tracks_nodeEscape c).bind fun _ _ alike => tracks_pure (piece_of alike)

theorem alike_setNode (negated : Bool) (members : List Member) :
    (setNode flags negated members).Alike flags (flags.recased here)
      (setNode (flags.recased here) negated members) := by
  unfold setNode
  split <;> exact ⟨rfl, by simp [Node.level], by simp [Node.level]⟩

theorem tracks_bracketed :
    Tracks base ignoreCase (Node.Alike flags (flags.recased here)) (bracketed flags)
      (bracketed (flags.recased here)) :=
  tracks_get fun _ _ => (blind_accept _).andThen fun _ => tracks_get fun _ _ =>
    (blind_members _ _ _).andThen fun _ => tracks_pure (alike_setNode _ _)

theorem tracks_repeated {other : Flags} {soFar soFar' : List Piece} (place : Nat) (count : Count)
    (alike : AlikePieces flags other soFar soFar') :
    Tracks base ignoreCase (AlikePieces flags other) (repeated place count soFar)
      (repeated place count soFar') := by
  cases alike with
  | nil => exact tracks_failAt _ _ _
  | @cons last last' earlier earlier' first rest =>
    have kind := first.kind
    unfold repeated
    dsimp only
    rw [← kind]
    cases last.kind with
    | anchor => exact tracks_failAt _ _ _
    | repetition => exact tracks_failAt _ _ _
    | _ =>
      refine blind_greedMark.andThen fun greed => tracks_pure (.cons ⟨rfl, ?_, rfl, rfl⟩ rest)
      simp only [Node.sharp, first.node.sharp]

theorem tracks_ungrouped {soFar soFar' : List Piece} (place : Nat) (c : Char)
    (alike : AlikePieces flags (flags.recased here) soFar soFar') :
    Tracks base ignoreCase (AlikePieces flags (flags.recased here)) (ungrouped flags place c soFar)
      (ungrouped (flags.recased here) place c soFar') := by
  have adds {piece other : Piece} (one : piece.Alike flags (flags.recased here) other) :
      Tracks base ignoreCase (AlikePieces flags (flags.recased here)) (pure (piece :: soFar))
        (pure (other :: soFar')) :=
    tracks_pure (.cons one alike)
  have anchor (kind : Anchor) :
      (anchorNode kind).Alike flags (flags.recased here) (anchorNode kind) := ⟨rfl, rfl, rfl, rfl⟩
  refine tracks_ite (tracks_pure alike) <|
    tracks_ite (blind_skipLine.andThen fun _ => tracks_pure alike) <|
    tracks_ite (tracks_bracketed.bind fun _ _ one => adds (piece_of one)) <|
    tracks_ite ((blind_quantifier c).andThen fun count? => ?_) <|
    tracks_ite (adds ⟨rfl, rfl, rfl, rfl⟩) <| tracks_ite (adds (anchor _)) <|
    tracks_ite (adds (anchor _)) (adds (piece_of (alike_literal _ _)))
  cases count? with
  | none => exact adds (piece_of (alike_literal _ _))
  | some count => exact tracks_repeated place count alike

theorem tracks_otherBranch {branch other : Reader (List Node)} {flags' : Flags}
    (tracks : Tracks base ignoreCase (Alike flags flags') branch other) :
    Tracks base ignoreCase (Alike flags flags') (otherBranch branch) (otherBranch other) := by
  have nothing : Alike flags flags' [] [] := ⟨rfl, nofun, nofun⟩
  refine (blind_accept _).andThen fun bar => tracks_ite ?_ (tracks_pure nothing)
  refine tracks.bind fun no no' alike => blind_peek.andThen fun _ => ?_
  exact tracks_ite (tracks_fail _ _ _) (tracks_pure alike)

theorem alike_ofList {flags' : Flags} {nodes others : List Node}
    (alike : Alike flags flags' nodes others) :
    (Node.ofList nodes).Alike flags flags' (Node.ofList others) where
  sharp := by rw [sharp_ofList, sharp_ofList, alike.sharp]
  levelFirst := level_ofList _ _ alike.levelFirst
  levelSecond := level_ofList _ _ alike.levelSecond

theorem tracks_enclosed {body other : Reader (List Node)} {flags' : Flags} (place : Nat)
    (tracks : Tracks base ignoreCase (Alike flags flags') body other) :
    Tracks base ignoreCase (Node.Alike flags flags') (enclosed place body) (enclosed place other) :=
  tracks.bind fun _ _ alike => (blind_expectClose _).andThen fun _ => tracks_pure (alike_ofList alike)

theorem tracks_behind {body other : Reader (List Node)} {flags' : Flags}
    (tracks : Tracks base ignoreCase (Alike flags flags') body other) :
    Tracks base ignoreCase (Node.Alike flags flags') (behind body) (behind other) := by
  refine tracks_get fun reading _ =>
    tracks_ite (Blind.andThen (tracks_modify (fun _ => rfl) fun _ => rfl) fun _ => ?_) ?_
  -- Inside the outermost look-behind or not, the content is read and then left.
  all_goals
    exact tracks.bind fun _ _ alike =>
      tracks_ite
        (Blind.andThen (tracks_modify (fun _ => rfl) fun _ => rfl) fun _ =>
          tracks_pure (alike_ofList alike))
        (tracks_pure (alike_ofList alike))

theorem widthOf_sharp (reading : Reading) {node other : Node} (sharp : node.sharp = other.sharp) :
    widthOf (reading.recased ignoreCase) other = widthOf reading node := by
  unfold widthOf
  rw [← width_sharp _ other, ← sharp, width_sharp]
  rfl

theorem tracks_closeGroup (group : Nat) {node other : Node} (sharp : node.sharp = other.sharp) :
    Tracks base ignoreCase Eq (closeGroup group node) (closeGroup group other) := by
  refine tracks_modify (fun _ => rfl) fun reading => ?_
  rw [widthOf_sharp reading sharp]
  rfl

-- The flags from there on are the ones before, and the parts are alike.
def AlikeFrom (flags other : Flags) (first second : Flags × List Piece) : Prop :=
  first.1 = flags /\ second.1 = other /\ AlikePieces flags other first.2 second.2

section Groups

variable (body branch : Flags -> Reader (List Node))
  (tracksBody : ∀ flags here, Tracks base ignoreCase (Alike flags (flags.recased here)) (body flags)
    (body (flags.recased here)))
  (tracksBranch : ∀ flags here, Tracks base ignoreCase (Alike flags (flags.recased here))
    (branch flags) (branch (flags.recased here)))

include tracksBody tracksBranch in
theorem tracks_grouped {soFar soFar' : List Piece} {first : Bool} (place : Nat) (opened : Opening)
    (localFlags : ∀ on, opened = .globalFlags on -> first = false)
    (alike : AlikePieces flags (flags.recased here) soFar soFar') :
    Tracks base ignoreCase (AlikeFrom flags (flags.recased here))
      (grouped body branch flags first place soFar opened)
      (grouped body branch (flags.recased here) first place soFar' opened) := by
  have adds {piece other : Piece} (one : piece.Alike flags (flags.recased here) other) :
      Tracks base ignoreCase (AlikeFrom flags (flags.recased here)) (pure (flags, piece :: soFar))
        (pure (flags.recased here, other :: soFar')) :=
    tracks_pure ⟨rfl, rfl, .cons one alike⟩
  have enclosed := tracks_enclosed place (tracksBody flags here)
  cases opened with
  | comment => exact tracks_pure ⟨rfl, rfl, alike⟩
  | reference group =>
    exact adds ⟨rfl, rfl, by simp [Piece.of, Node.level], by simp [Piece.of, Node.level]⟩
  | globalFlags on =>
    rw [localFlags on rfl]
    intro reading value after _ ran
    obtain ⟨_, _, _, late⟩ := bind_ok.1 ran
    exact absurd late failAt_ok
  | cond group =>
    refine (tracksBranch flags here).bind fun yes yes' sameYes => ?_
    refine (tracks_otherBranch (tracksBranch flags here)).bind fun no no' sameNo => ?_
    refine (blind_expectClose _).andThen fun _ => adds ⟨rfl, ?_, rfl, rfl⟩
    simp only [Piece.of, Node.sharp, (alike_ofList sameYes).sharp, (alike_ofList sameNo).sharp]
  | lookAhead negated =>
    refine enclosed.bind fun node node' same => adds ⟨rfl, ?_, rfl, rfl⟩
    simp only [Piece.of, Node.sharp, same.sharp]
  | lookBehind negated =>
    refine (tracks_behind (tracksBody flags here)).bind fun node node' same => ?_
    refine (blind_expectClose _).andThen fun _ => tracks_get fun reading _ => ?_
    refine adds ⟨rfl, ?_, rfl, rfl⟩
    simp only [Piece.of, Node.sharp, same.sharp, widthOf_sharp reading same.sharp]
  | capture name =>
    refine (blind_openGroup _).andThen fun group => enclosed.bind fun node node' same => ?_
    refine (tracks_closeGroup _ same.sharp).bind fun _ _ _ => adds ⟨rfl, ?_, rfl, rfl⟩
    simp only [Piece.of, Node.sharp, same.sharp]
  | plain => exact enclosed.bind fun node node' same => adds ⟨rfl, same⟩
  | atomic =>
    refine enclosed.bind fun node node' same => adds ⟨rfl, ?_, rfl, rfl⟩
    simp only [Piece.of, Node.sharp, same.sharp]
  | flagged on off =>
    have inner := tracks_enclosed place (tracksBody (flags.adjust on off)
      ((here || on.ignoreCase) && !off.ignoreCase))
    refine inner.bind fun node node' same => adds ⟨rfl, ?_, rfl, rfl⟩
    simp only [Piece.of, Node.sharp, same.sharp]

end Groups

theorem alike_nil {other : Flags} : Alike flags other [] [] := ⟨rfl, nofun, nofun⟩

theorem alike_append {other : Flags} {first first' second second' : List Node}
    (left : Alike flags other first first') (right : Alike flags other second second') :
    Alike flags other (first ++ second) (first' ++ second') where
  sharp := by rw [List.map_append, List.map_append, left.sharp, right.sharp]
  levelFirst := level_append left.levelFirst right.levelFirst
  levelSecond := level_append left.levelSecond right.levelSecond

theorem alike_toList {other : Flags} {first second : Piece}
    (alike : first.Alike flags other second) : Alike flags other first.toList second.toList := by
  unfold Piece.toList
  rw [← alike.kind]
  split
  next =>
    refine ⟨?_, level_toList _ _ alike.node.levelFirst, level_toList _ _ alike.node.levelSecond⟩
    rw [← sharp_toList, ← sharp_toList, alike.node.sharp]
  next =>
    refine ⟨?_, level_single alike.node.levelFirst, level_single alike.node.levelSecond⟩
    rw [List.map_singleton, List.map_singleton, alike.node.sharp]

theorem alike_pieces {other : Flags} {pieces others : List Piece}
    (alike : AlikePieces flags other pieces others) :
    Alike flags other (pieces.reverse.flatMap Piece.toList) (others.reverse.flatMap Piece.toList) := by
  induction alike with
  | nil => exact alike_nil
  | cons first _ ih =>
    simp only [List.reverse_cons, List.flatMap_append, List.flatMap_singleton]
    exact alike_append ih (alike_toList first)

theorem alike_branches {other : Flags} {branches others : List (List Node)}
    (alike : List.Forall₂ (Alike flags other) branches others) :
    branches.map (List.map Node.sharp) = others.map (List.map Node.sharp) /\
      (∀ branch ∈ branches, Level flags.casing branch) /\
      ∀ branch ∈ others, Level other.casing branch := by
  induction alike with
  | nil => exact ⟨rfl, nofun, nofun⟩
  | cons first _ ih =>
    obtain ⟨sharp, level, levelOther⟩ := ih
    refine ⟨by rw [List.map_cons, List.map_cons, first.sharp, sharp], ?_, ?_⟩
    next => exact List.forall_mem_cons.2 ⟨first.levelFirst, level⟩
    next => exact List.forall_mem_cons.2 ⟨first.levelSecond, levelOther⟩

theorem alike_joinBranches {branches others : List (List Node)}
    (alike : List.Forall₂ (Alike flags (flags.recased here)) branches others) :
    Alike flags (flags.recased here) (joinBranches flags branches.reverse)
      (joinBranches (flags.recased here) others.reverse) := by
  obtain ⟨sharp, level, levelOther⟩ := alike_branches alike
  obtain ⟨joined, levelJoined⟩ := joinBranches_sharp flags branches.reverse fun branch member =>
    level branch (List.mem_reverse.1 member)
  obtain ⟨joined', levelJoined'⟩ := joinBranches_sharp (flags.recased here) others.reverse
    fun branch member => levelOther branch (List.mem_reverse.1 member)
  refine ⟨?_, levelJoined, levelJoined'⟩
  rw [← joined, ← joined', List.map_reverse, List.map_reverse, sharp]
  rfl

structure BranchesTrack (fuel : Nat) : Prop where
  alternatives : ∀ base ignoreCase flags here,
    Tracks base ignoreCase (Alike flags (flags.recased here))
    (alternatives fuel flags false) (alternatives fuel (flags.recased here) false)
  branches : ∀ base ignoreCase flags here soFar soFar',
    List.Forall₂ (Alike flags (flags.recased here)) soFar soFar' ->
    Tracks base ignoreCase (Alike flags (flags.recased here))
      (branches fuel flags false soFar) (branches fuel (flags.recased here) false soFar')
  sequence : ∀ base ignoreCase flags here soFar soFar',
    AlikePieces flags (flags.recased here) soFar soFar' ->
    Tracks base ignoreCase (Alike flags (flags.recased here))
      (sequence fuel flags false soFar) (sequence fuel (flags.recased here) false soFar')

theorem branchesTrack (fuel : Nat) : BranchesTrack fuel := by
  induction fuel with
  | zero =>
    constructor
    next =>
      intros
      unfold Regex.alternatives
      exact tracks_fail _ _ _
    next =>
      intros
      unfold Regex.branches
      exact tracks_fail _ _ _
    next =>
      intros
      unfold Regex.sequence
      exact tracks_fail _ _ _
  | succ fuel ih =>
    constructor
    next =>
      intro base ignoreCase flags here
      unfold Regex.alternatives
      exact ih.branches _ _ _ _ _ _ .nil
    next =>
      intro base ignoreCase flags here soFar soFar' alike
      unfold Regex.branches
      have own : Tracks base ignoreCase
          (fun first second => first = flags /\ second = flags.recased here)
          (flagsFor flags false) (flagsFor (flags.recased here) false) := tracks_pure ⟨rfl, rfl⟩
      refine own.bind ?_
      rintro _ _ ⟨rfl, rfl⟩
      refine (ih.sequence _ _ _ _ _ _ .nil).bind fun branch branch' same => ?_
      refine (blind_accept _).andThen fun bar =>
        tracks_ite (ih.branches _ _ _ _ _ _ (.cons same alike)) ?_
      refine own.bind ?_
      rintro _ _ ⟨rfl, rfl⟩
      exact tracks_pure (alike_joinBranches (.cons same alike))
    next =>
      intro base ignoreCase flags here soFar soFar' alike
      unfold Regex.sequence
      refine blind_peek.andThen fun head => tracks_ite (tracks_pure (alike_pieces alike)) ?_
      refine tracks_get fun reading _ => blind_next.andThen fun token? => ?_
      match token? with
      | none => exact tracks_fail _ _ _
      | some (.escaped c) =>
        exact (tracks_escapedPiece c).bind fun _ _ piece => ih.sequence _ _ _ _ _ _ (.cons piece alike)
      | some (.plain c) =>
        refine tracks_ite ((blind_opening _).andThen fun opened => ?_)
          ((tracks_ungrouped _ c alike).bind fun _ _ pieces => ih.sequence _ _ _ _ _ _ pieces)
        refine (tracks_grouped _ _ (ih.alternatives _ _)
          (fun flags here => ih.sequence _ _ _ _ _ _ .nil)
          _ opened (fun _ _ => rfl) alike).bind ?_
        rintro ⟨_, pieces⟩ ⟨_, others⟩ ⟨rfl, rfl, later⟩
        exact ih.sequence _ _ _ _ _ _ later

variable {α β γ δ : Type}

/-- Where the first reader succeeds, so does the second, and what they read is related under the
flags that the whole pattern has by then. -/
def Leads (base : Flags) (ignoreCase : Bool) (related : Flags -> Flags -> α -> β -> Prop)
    (first : Reader α) (second : Reader β) : Prop :=
  ∀ reading value after, reading.flags = base -> first reading = .ok (value, after) ->
    ∃ other there, second (reading.recased ignoreCase) = .ok (other, after.recased there) /\
      related after.flags (after.flags.recased there) value other

section Leading

variable {related : Flags -> Flags -> α -> β -> Prop} {result : Flags -> Flags -> γ -> δ -> Prop}
  {x : Reader α} {y : Reader β}

theorem Tracks.leads (tracks : Tracks base ignoreCase (related base (base.recased ignoreCase)) x y) :
    Leads base ignoreCase related x y := by
  intro reading value after flagsAre ran
  obtain ⟨kept, other, tracked, alike⟩ := tracks reading value after flagsAre ran
  rw [← kept] at alike
  exact ⟨other, ignoreCase, tracked, alike⟩

theorem Leads.bind {f : α -> Reader γ} {g : β -> Reader δ}
    (first : Leads base ignoreCase related x y)
    (next : ∀ base ignoreCase a b, related base (base.recased ignoreCase) a b ->
      Leads base ignoreCase result (f a) (g b)) :
    Leads base ignoreCase result (x >>= f) (y >>= g) := by
  intro reading value last flagsAre ran
  obtain ⟨a, middle, ranFirst, ranNext⟩ := bind_ok.1 ran
  obtain ⟨b, there, led, alike⟩ := first reading a middle flagsAre ranFirst
  obtain ⟨other, after, ledNext, results⟩ := next _ there a b alike middle value last rfl ranNext
  exact ⟨other, after, bind_ok.2 ⟨b, _, led, ledNext⟩, results⟩

theorem Tracks.lead {same : α -> β -> Prop} {f : α -> Reader γ} {g : β -> Reader δ}
    (first : Tracks base ignoreCase same x y)
    (next : ∀ a b, same a b -> Leads base ignoreCase result (f a) (g b)) :
    Leads base ignoreCase result (x >>= f) (y >>= g) := by
  intro reading value last flagsAre ran
  obtain ⟨a, middle, ranFirst, ranNext⟩ := bind_ok.1 ran
  obtain ⟨kept, b, tracked, alike⟩ := first reading a middle flagsAre ranFirst
  obtain ⟨other, after, ledNext, results⟩ := next a b alike middle value last kept ranNext
  exact ⟨other, after, bind_ok.2 ⟨b, _, tracked, ledNext⟩, results⟩

theorem leads_ite {holds : Prop} [Decidable holds] {x' : Reader α} {y' : Reader β}
    (yes : Leads base ignoreCase related x y) (no : Leads base ignoreCase related x' y') :
    Leads base ignoreCase related (if holds then x else x') (if holds then y else y') := by
  split
  next => exact yes
  next => exact no

theorem leads_get {f : Reading -> Reader γ} {g : Reading -> Reader δ}
    (next : ∀ reading, reading.flags = base ->
      Leads base ignoreCase result (f reading) (g (reading.recased ignoreCase))) :
    Leads base ignoreCase result (get >>= f) (get >>= g) := by
  intro reading value last flagsAre ran
  obtain ⟨_, _, got, ran⟩ := bind_ok.1 ran
  obtain ⟨rfl, rfl⟩ := get_ok.1 got
  exact next reading flagsAre reading value last flagsAre ran

end Leading

theorem leads_globalFlags {body branch : Flags -> Reader (List Node)} {fuel place : Nat}
    {soFar soFar' : List Piece} (on : Flags)
    (alike : AlikePieces flags (flags.recased here) soFar soFar')
    (later : ∀ flags here, Leads flags here Alike (sequence fuel flags true [])
      (sequence fuel (flags.recased here) true [])) :
    Leads flags here Alike
      (grouped body branch flags true place soFar (.globalFlags on) >>= fun (flags, soFar) =>
        sequence fuel flags true soFar)
      (grouped body branch (flags.recased here) true place soFar' (.globalFlags on) >>=
        fun (flags, soFar) => sequence fuel flags true soFar) := by
  intro reading nodes after flagsAre ran
  obtain ⟨⟨next, pieces⟩, middle, grouped, ran⟩ := bind_ok.1 ran
  obtain ⟨_, changed, modified, grouped⟩ := bind_ok.1 grouped
  have is := modify_ok.1 modified
  cases alike with
  | cons => exact absurd grouped failAt_ok
  | nil =>
    obtain ⟨_, _, got, grouped⟩ := bind_ok.1 grouped
    obtain ⟨rfl, rfl⟩ := get_ok.1 got
    obtain ⟨same, rfl⟩ := pure_ok.1 grouped
    cases same
    have led := later _ (here || on.ignoreCase) _ nodes after rfl ran
    rw [← is] at led
    exact led

theorem leads_sequence (fuel : Nat) {soFar soFar' : List Piece}
    (alike : AlikePieces flags (flags.recased here) soFar soFar') :
    Leads flags here Alike (sequence fuel flags true soFar)
      (sequence fuel (flags.recased here) true soFar') := by
  induction fuel generalizing flags here soFar soFar' with
  | zero =>
    unfold sequence
    exact Tracks.leads (tracks_fail _ _ _)
  | succ fuel ih =>
    unfold sequence
    have tracks := branchesTrack fuel
    apply Tracks.lead blind_peek
    rintro head _ rfl
    refine leads_ite (Tracks.leads (tracks_pure (alike_pieces alike))) ?_
    refine leads_get fun reading _ => Tracks.lead blind_next ?_
    rintro token? _ rfl
    match token? with
    | none => exact Tracks.leads (tracks_fail _ _ _)
    | some (.escaped c) => exact (tracks_escapedPiece c).lead fun _ _ piece => ih (.cons piece alike)
    | some (.plain c) =>
      refine leads_ite (Tracks.lead (blind_opening _) ?_)
        ((tracks_ungrouped _ c alike).lead fun _ _ pieces => ih pieces)
      rintro opened _ rfl
      by_cases whole : ∃ on, opened = .globalFlags on
      next =>
        obtain ⟨on, rfl⟩ := whole
        exact leads_globalFlags on alike fun _ _ => ih .nil
      next =>
        refine (tracks_grouped _ _ (tracks.alternatives _ _)
          (fun _ _ => tracks.sequence _ _ _ _ _ _ .nil) _ opened
          (fun on is => absurd ⟨on, is⟩ whole) alike).lead ?_
        rintro ⟨_, pieces⟩ ⟨_, others⟩ ⟨rfl, rfl, later⟩
        exact ih later

theorem tracks_flagsFor (own other : Flags) :
    Tracks base ignoreCase (fun first second => first = base /\ second = base.recased ignoreCase)
      (flagsFor own true) (flagsFor other true) :=
  tracks_get fun _ flagsAre => tracks_pure ⟨flagsAre, by rw [← flagsAre]; rfl⟩

theorem tracks_laterBranches (fuel : Nat) (own other : Flags) {soFar soFar' : List (List Node)}
    (later : soFar ≠ []) (alike : List.Forall₂ (Alike base (base.recased ignoreCase)) soFar soFar') :
    Tracks base ignoreCase (Alike base (base.recased ignoreCase)) (branches fuel own true soFar)
      (branches fuel other true soFar') := by
  induction fuel generalizing own other soFar soFar' with
  | zero =>
    unfold branches
    exact tracks_fail _ _ _
  | succ fuel ih =>
    have chosen : Tracks base ignoreCase
        (fun first second => first = base /\ second = base.recased ignoreCase)
        (flagsFor own true) (flagsFor other true) := tracks_flagsFor own other
    have notFirst : soFar.isEmpty = false := by simpa using later
    have notFirst' : soFar'.isEmpty = false := by
      cases alike with
      | nil => exact absurd rfl later
      | cons => rfl
    unfold branches
    refine chosen.bind ?_
    rintro _ _ ⟨rfl, rfl⟩
    rw [notFirst, notFirst']
    refine ((branchesTrack fuel).sequence _ _ _ _ _ _ .nil).bind fun branch branch' same => ?_
    refine (blind_accept _).andThen fun bar =>
      tracks_ite (ih _ _ (List.cons_ne_nil _ _) (.cons same alike)) (chosen.bind ?_)
    rintro _ _ ⟨rfl, rfl⟩
    exact tracks_pure (alike_joinBranches (.cons same alike))

theorem leads_firstBranches (fuel : Nat) (own other : Flags) :
    Leads base ignoreCase Alike (branches fuel own true []) (branches fuel other true []) := by
  cases fuel with
  | zero =>
    unfold branches
    exact Tracks.leads (tracks_fail _ _ _)
  | succ fuel =>
    unfold branches
    apply (tracks_flagsFor own other).lead
    rintro _ _ ⟨rfl, rfl⟩
    apply (leads_sequence fuel .nil).bind
    intro flags there branch branch' same
    apply Tracks.leads
    refine (blind_accept _).andThen fun bar => tracks_ite
      (tracks_laterBranches fuel _ _ (List.cons_ne_nil _ _) (.cons same .nil))
      ((tracks_flagsFor _ _).bind ?_)
    rintro _ _ ⟨rfl, rfl⟩
    exact tracks_pure (alike_joinBranches (.cons same .nil))

theorem blind_lift (work : Except Error α) : Blind base ignoreCase (liftM work : Reader α) := by
  intro reading value after flagsAre ran
  obtain ⟨found, worked, same⟩ := bind_eq_ok.1 ran
  cases same
  exact ⟨flagsAre, value, bind_eq_ok.2 ⟨value, worked, rfl⟩, rfl⟩

theorem leads_wholePattern :
    Leads base ignoreCase (fun _ _ first second => first.sharp = second.sharp) wholePattern
      wholePattern := by
  refine leads_get fun start _ => leads_get fun begun _ => ?_
  have read : Leads base ignoreCase Alike (alternatives (3 * start.tokens.length + 4) begun.flags true)
      (alternatives (3 * start.tokens.length + 4) (begun.recased ignoreCase).flags true) := by
    unfold alternatives
    exact leads_firstBranches _ _ _
  refine Leads.bind read fun flags there nodes nodes' alike => leads_get fun reading flagsAre => ?_
  have sharp := (alike_ofList alike).sharp
  apply Tracks.leads
  refine tracks_ite (tracks_throw _ _) (tracks_ite (tracks_fail _ _ _) ?_)
  have sameLate : (reading.recased there).conditions.find?
      (fun entry => (reading.recased there).groupCount < entry.1) =
        reading.conditions.find? fun entry => reading.groupCount < entry.1 := rfl
  have checks : (Node.ofList nodes').check reading.flags.template =
      (Node.ofList nodes).check reading.flags.template := by
    rw [← check_sharp _ (Node.ofList nodes), sharp, check_sharp]
  rw [sameLate]
  cases reading.conditions.find? fun entry => reading.groupCount < entry.1 with
  | some entry => exact tracks_failAt _ _ _
  | none =>
    have sameCheck : (Node.ofList nodes').check (reading.recased there).flags.template =
        (Node.ofList nodes).check reading.flags.template := checks
    dsimp only
    rw [sameCheck]
    exact (blind_lift _).andThen fun _ => tracks_pure sharp

end Reader

/-- A pattern that can be compiled can be compiled with case treated otherwise, and the trees
differ in casing only. -/
theorem compile_recased {pattern : List Char} {ignoreCase : Bool} {regex : Regex}
    (compiled : compile pattern ignoreCase = .ok regex) (other : Bool) :
    ∃ root : Node, root.sharp = regex.root.sharp /\
      compile pattern other = .ok { regex with root := root } := by
  unfold compile at compiled ⊢
  dsimp only at compiled ⊢
  split at compiled
  next => cases compiled
  next begins =>
    obtain ⟨⟨node, after⟩, read, same⟩ := bind_eq_ok.1 compiled
    cases same
    have leads : Reader.Leads { ignoreCase := ignoreCase } other
        (fun _ _ first second => first.sharp = second.sharp) wholePattern wholePattern :=
      Reader.leads_wholePattern
    obtain ⟨root, there, led, sharp⟩ := leads _ _ _ rfl read
    have beginsToo : ¬((Reading.start pattern { ignoreCase := other }).tokens.isEmpty &&
        (Reading.start pattern { ignoreCase := other }).dangling) = true := begins
    refine ⟨root, sharp.symm, ?_⟩
    rw [if_neg beginsToo]
    exact bind_eq_ok.2 ⟨_, led, rfl⟩

end BibEdit.Regex
