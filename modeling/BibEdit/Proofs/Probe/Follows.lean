import BibEdit.Proofs.Probe.Literal
import BibEdit.Proofs.Regex.Grammar

set_option autoImplicit false

/-! What the stream of a walk has to do with the parts that the reader has read so far. -/

namespace BibEdit.Literal

open Regex

variable (text : Array Char) (allowed : Casing -> Bool)

def Like (c : Char) (code : Nat) : Prop :=
  ∃ casing, allowed casing = true /\ Casing.same casing c.toNat code = true

-- Parts come latest first here, as the reader keeps them.
def Cased (pieces : List Piece) : Prop := ∀ piece ∈ pieces, piece.node.cased allowed = true

def Spanned (pieces : List Piece) : Nat -> Nat -> Prop :=
  SpansAll text (pieces.reverse.map Piece.node)

/-- Wherever the parts match, the stream fits. -/
def Bears (pieces : List Piece) (stream : Stream) : Prop :=
  Cased allowed pieces -> ∀ start stop, Spanned text pieces start stop ->
    Fits text (Like allowed) stream start stop

/-- Wherever the parts match, the stream fits from there, if maybe not as far. -/
def Begins (pieces : List Piece) (stream : Stream) : Prop :=
  Cased allowed pieces -> ∀ start stop, Spanned text pieces start stop ->
    ∃ other, Fits text (Like allowed) stream start other

theorem spanned_cons (piece : Piece) (pieces : List Piece) (start stop : Nat) :
    Spanned text (piece :: pieces) start stop <->
      ∃ middle, Spanned text pieces start middle /\ piece.node.Spans text middle stop := by
  unfold Spanned
  rw [List.reverse_cons, List.map_append, spansAll_append]
  simp [SpansAll]

variable {text allowed} {piece : Piece} {pieces : List Piece} {stream : Stream}

theorem Bears.begins (bears : Bears text allowed pieces stream) :
    Begins text allowed pieces stream :=
  fun cased start stop spanned => ⟨stop, bears cased start stop spanned⟩

theorem bears_nil : Bears text allowed [] [] := fun _ _ _ same => same

theorem fits_snoc_gap {start other : Nat} (stop : Nat)
    (fits : Fits text (Like allowed) stream start other) :
    Fits text (Like allowed) (stream ++ [none]) start stop :=
  (fits_append text _ _ _ _ _).2 ⟨other, fits, stop, rfl⟩

theorem Begins.gap_same (begins : Begins text allowed pieces stream) :
    Bears text allowed pieces (stream ++ [none]) := by
  intro cased start stop spanned
  obtain ⟨other, fits⟩ := begins cased start stop spanned
  exact fits_snoc_gap stop fits

theorem Begins.gap (begins : Begins text allowed pieces stream) (piece : Piece) :
    Bears text allowed (piece :: pieces) (stream ++ [none]) := by
  intro cased start stop spanned
  obtain ⟨middle, before, _⟩ := (spanned_cons text _ _ _ _).1 spanned
  obtain ⟨other, fits⟩ := begins (fun other among => cased other (by simp [among])) start middle before
  exact fits_snoc_gap stop fits

theorem Bears.letter (bears : Bears text allowed pieces stream) (c : Char) (casing : Casing) :
    Bears text allowed (.of (.literal false c.toNat casing) :: pieces) (stream ++ [some c]) := by
  intro cased start stop spanned
  obtain ⟨middle, before, isNext, code, here, same⟩ := (spanned_cons text _ _ _ _).1 spanned
  have fits := bears (fun other among => cased other (by simp [among])) start middle before
  refine (fits_append text _ _ _ _ _).2 ⟨middle, fits, ⟨code, here, casing, ?_, same⟩, isNext.symm⟩
  exact cased _ List.mem_cons_self

theorem Bears.group (bears : Bears text allowed pieces stream) (piece : Piece) (inside : Stream)
    (content : piece.node.cased allowed = true -> ∀ start stop, piece.node.Spans text start stop ->
      Fits text (Like allowed) inside start stop) :
    Bears text allowed (piece :: pieces) (stream ++ [none] ++ inside ++ [none]) := by
  intro cased start stop spanned
  obtain ⟨middle, before, within⟩ := (spanned_cons text _ _ _ _).1 spanned
  have fits := bears (fun other among => cased other (by simp [among])) start middle before
  have fitsInside := content (cased piece List.mem_cons_self) middle stop within
  have opened := fits_snoc_gap middle fits
  exact fits_snoc_gap stop ((fits_append text _ _ _ _ _).2 ⟨middle, opened, fitsInside⟩)

theorem Bears.count {last : Piece} (bears : Bears text allowed (last :: pieces) stream)
    (greed : Greed) (least : Nat) (most : Option Nat) (someTimes : least ≠ 0) :
    Bears text allowed (⟨.repetition, .rep greed least most last.node⟩ :: pieces)
      (stream ++ [none]) := by
  intro cased start stop spanned
  obtain ⟨middle, before, count, enough, repeated⟩ := (spanned_cons text _ _ _ _).1 spanned
  have casedLast : Cased allowed (last :: pieces) := by
    intro piece among
    rcases List.mem_cons.1 among with rfl | later
    next =>
      have whole := cased _ List.mem_cons_self
      simpa [Node.cased] using whole
    next => exact cased piece (by simp [later])
  cases count with
  | zero => exact absurd (Nat.le_zero.1 enough) someTimes
  | succ count =>
    obtain ⟨next, once, _⟩ := repeated
    have here := (spanned_cons text last pieces start next).2 ⟨middle, before, once⟩
    exact fits_snoc_gap stop (bears casedLast start next here)

theorem Bears.ahead (bears : Bears text allowed pieces stream)
    (gap : ∃ front, stream = front ++ [none])
    (piece : Piece) : Bears text allowed (piece :: pieces) stream := by
  obtain ⟨front, rfl⟩ := gap
  have begins : Begins text allowed pieces front := by
    intro cased start stop spanned
    obtain ⟨other, fits, _⟩ := (fits_append text _ _ _ _ _).1 (bears cased start stop spanned)
    exact ⟨other, fits⟩
  exact begins.gap piece

variable (text allowed)

/-- Since the last group was opened, when the walk had come to `base`, the stream bears the parts
of that group. If a quantifier that may cut the last part off comes next, what it would cut off
leaves what the earlier parts ask for. Digits that the walk has passed over ahead of the reader
stand in a gap. -/
structure Follows (groups : List (Nat × Bool)) (base stream : Stream) (pieces : List Piece)
    (cut : Bool) (ahead : Nat) (walk : Walk) : Prop where
  groupsEq : walk.groups = groups
  streamEq : walk.stream = base ++ stream
  bears : Bears text allowed pieces stream
  atom : cut = true -> ∀ last earlier, pieces = last :: earlier -> last.kind ≠ .repetition ->
    (walk.lastAtom = none -> Begins text allowed earlier stream) /\
    ∀ place, walk.lastAtom = some place -> base.length <= place /\
      Bears text allowed earlier (stream.take (place - base.length))
  gap : ahead ≠ 0 -> walk.lastAtom = none /\ ∃ front, stream = front ++ [none]

variable {text allowed} {groups : List (Nat × Bool)} {base : Stream} {walk : Walk} {cut : Bool}
  {ahead : Nat}

theorem follows_start (groups : List (Nat × Bool)) (cut : Bool) (walk : Walk)
    (same : walk.groups = groups) : Follows text allowed groups walk.stream [] [] cut 0 walk where
  groupsEq := same
  streamEq := (List.append_nil _).symm
  bears := bears_nil
  atom := nofun
  gap := fun other => absurd rfl other

theorem Follows.gap_after (follows : Follows text allowed groups base stream pieces cut ahead walk)
    (piece : Piece) (next : Bool) (later : Nat) :
    Follows text allowed groups base (stream ++ [none]) (piece :: pieces) next later
      (walk.breakHere none) where
  groupsEq := follows.groupsEq
  streamEq := by simp [Walk.breakHere, follows.streamEq]
  bears := follows.bears.begins.gap piece
  atom := by
    rintro _ last earlier is _
    cases is
    exact ⟨fun _ => follows.bears.begins.gap_same.begins, nofun⟩
  gap := fun _ => ⟨rfl, stream, rfl⟩

theorem Follows.gap_before (follows : Follows text allowed groups base stream pieces cut ahead walk)
    (next : Bool) (later : Nat) (kept : next = true -> pieces = []) :
    Follows text allowed groups base (stream ++ [none]) pieces next later (walk.breakHere none) where
  groupsEq := follows.groupsEq
  streamEq := by simp [Walk.breakHere, follows.streamEq]
  bears := follows.bears.begins.gap_same
  atom := by
    rintro cuts last earlier is _
    rw [kept cuts] at is
    cases is
  gap := fun _ => ⟨rfl, stream, rfl⟩

theorem Follows.letter (follows : Follows text allowed groups base stream pieces cut 0 walk)
    (c : Char) (casing : Casing) (next : Bool) :
    Follows text allowed groups base (stream ++ [some c])
      (.of (.literal false c.toNat casing) :: pieces) next 0
      { walk with stream := walk.stream ++ [some c], lastAtom := some walk.stream.length } where
  groupsEq := follows.groupsEq
  streamEq := by simp [follows.streamEq]
  bears := follows.bears.letter c casing
  atom := by
    rintro _ last earlier is _
    cases is
    refine ⟨nofun, fun place atEnd => ?_⟩
    have is : place = base.length + stream.length := by
      rw [← Option.some.inj atEnd, follows.streamEq, List.length_append]
    have taken : (stream ++ [some c]).take (place - base.length) = stream := by
      rw [is, Nat.add_sub_cancel_left, List.take_left]
    rw [taken]
    exact ⟨by omega, follows.bears⟩
  gap := fun other => absurd rfl other

theorem Follows.digit
    (follows : Follows text allowed groups base stream pieces cut (ahead + 1) walk) (piece : Piece)
    (next : Bool) : Follows text allowed groups base stream (piece :: pieces) next ahead walk where
  groupsEq := follows.groupsEq
  streamEq := follows.streamEq
  bears := follows.bears.ahead (follows.gap (Nat.succ_ne_zero _)).2 piece
  atom := by
    rintro _ last earlier is _
    cases is
    have none := (follows.gap (Nat.succ_ne_zero _)).1
    refine ⟨fun _ => follows.bears.begins, fun place found => ?_⟩
    rw [none] at found
    cases found
  gap := fun _ => follows.gap (Nat.succ_ne_zero _)

theorem Follows.count {last : Piece}
    (follows : Follows text allowed groups base stream (last :: pieces) cut ahead walk)
    (greed : Greed) (least : Nat) (most : Option Nat) (kind : last.kind ≠ .repetition)
    (cuts : least = 0 -> cut = true) (later : Bool) :
    ∃ next, Follows text allowed groups base next
      (⟨.repetition, .rep greed least most last.node⟩ :: pieces) later 0
      (walk.quantify (least == 0)) := by
  have closes (front : Stream) (next : Walk) (groupsEq : next.groups = groups)
      (streamEq : next.stream = base ++ front)
      (bears : Bears text allowed (⟨.repetition, .rep greed least most last.node⟩ :: pieces)
        (front ++ [none])) :
      ∃ next', Follows text allowed groups base next'
        (⟨.repetition, .rep greed least most last.node⟩ :: pieces) later 0
        (next.breakHere none) := by
    refine ⟨front ++ [none], groupsEq, by simp [Walk.breakHere, streamEq], bears, ?_, ?_⟩
    next =>
      rintro _ _ _ is repeats
      cases is
      exact absurd rfl repeats
    next => exact fun other => absurd rfl other
  unfold Walk.quantify
  by_cases zero : least = 0
  next =>
    obtain ⟨alone, taken⟩ := follows.atom (cuts zero) last pieces rfl kind
    cases place : walk.lastAtom with
    | none =>
      rw [zero]
      rw [zero] at closes
      exact closes stream walk follows.groupsEq follows.streamEq ((alone place).gap _)
    | some place' =>
      obtain ⟨after, bears⟩ := taken place' place
      rw [zero]
      rw [zero] at closes
      refine closes _ (walk.cut place') follows.groupsEq ?_ (bears.begins.gap _)
      show walk.stream.take place' = _
      rw [follows.streamEq, List.take_append, List.take_of_length_le after]
  next =>
    have notZero : (least == 0) = false := by simpa using zero
    rw [notZero]
    exact closes stream walk follows.groupsEq follows.streamEq
      (follows.bears.count greed least most zero)

-- Where the walk is once a group is closed that was opened at a place.
def Walk.close (walk : Walk) (place : Nat) (discarded : Bool) (groups : List (Nat × Bool)) : Walk :=
  { (if discarded then walk.cut place else walk).breakHere (some place) with groups := groups }

theorem Follows.close (follows : Follows text allowed groups base stream pieces cut 0 walk)
    (discarded : Bool) (piece : Piece) (inside : Stream) (last : Walk) (later : Bool)
    (streamEq : last.stream = walk.stream ++ [none] ++ inside)
    (content : discarded = false -> piece.node.cased allowed = true -> ∀ start stop,
      piece.node.Spans text start stop -> Fits text (Like allowed) inside start stop) :
    ∃ next, Follows text allowed groups base next (piece :: pieces) later 0
      (last.close walk.stream.length discarded groups) := by
  have place : walk.stream.length = base.length + stream.length := by
    rw [follows.streamEq, List.length_append]
  -- Whatever follows the stream, cutting at the place leaves the stream.
  have closes (next : Stream) (more : Stream) (is : next = stream ++ more)
      (closed : (last.close walk.stream.length discarded groups).stream = base ++ next)
      (bears : Bears text allowed (piece :: pieces) next) :
      Follows text allowed groups base next (piece :: pieces) later 0
        (last.close walk.stream.length discarded groups) := by
    refine ⟨rfl, closed, bears, ?_, fun other => absurd rfl other⟩
    rintro _ _ _ same _
    cases same
    refine ⟨nofun, fun start found => ?_⟩
    have startIs : start = base.length + stream.length := by
      rw [← Option.some.inj found, place]
    have taken : next.take (start - base.length) = stream := by
      rw [startIs, Nat.add_sub_cancel_left, is, List.take_left]
    rw [taken]
    exact ⟨by omega, follows.bears⟩
  cases discarded with
  | true =>
    refine ⟨_, closes (stream ++ [none]) [none] rfl ?_ (follows.bears.begins.gap piece)⟩
    show last.stream.take walk.stream.length ++ [none] = _
    rw [streamEq, List.append_assoc, List.take_left, follows.streamEq, List.append_assoc]
  | false =>
    refine ⟨_, closes (stream ++ [none] ++ inside ++ [none]) ([none] ++ inside ++ [none])
      (by simp) ?_ (follows.bears.group piece inside (content rfl))⟩
    show last.stream ++ [none] = _
    rw [streamEq, follows.streamEq]
    simp

variable (text allowed)

theorem spanned_toList (pieces : List Piece) (start stop : Nat) :
    SpansAll text (pieces.flatMap Piece.toList) start stop <->
      SpansAll text (pieces.map Piece.node) start stop := by
  have single (piece : Piece) (start stop : Nat) :
      SpansAll text piece.toList start stop <-> piece.node.Spans text start stop := by
    unfold Piece.toList
    split
    next => exact spansAll_toList text piece.node start stop
    next => simp [SpansAll]
  induction pieces generalizing start with
  | nil => exact Iff.rfl
  | cons piece rest ih =>
    simp only [List.flatMap_cons, List.map_cons, spansAll_append, single, ih, SpansAll]

/-- At the end of a branch the stream asks for no more than the branch as a whole matches. -/
def Leaves (groups : List (Nat × Bool)) (base : Stream) (nodes : List Node) (walk : Walk) : Prop :=
  walk.groups = groups /\ ∃ stream, walk.stream = base ++ stream /\
    (nodes.all (Node.cased allowed) = true -> ∀ start stop, SpansAll text nodes start stop ->
      Fits text (Like allowed) stream start stop)

variable {text allowed}

theorem Follows.leaves (follows : Follows text allowed groups base stream pieces cut ahead walk) :
    Leaves text allowed groups base (pieces.reverse.flatMap Piece.toList) walk := by
  refine ⟨follows.groupsEq, stream, follows.streamEq, fun cased start stop spans => ?_⟩
  refine follows.bears (fun piece among => ?_) start stop ?_
  next => exact (cased_pieces allowed _).1 cased piece (by simpa using among)
  next => exact (spanned_toList text _ start stop).1 spans

end BibEdit.Literal
