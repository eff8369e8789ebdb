import BibEdit.Pattern.Basic
import BibEdit.Proofs.Probe.Follows
import BibEdit.Proofs.Regex.Reading

set_option autoImplicit false

/-! Patterns made of letters and wildcards can always be compiled, and their trees are known. -/

namespace BibEdit.Regex

open Reader

section Forwards

variable {reading : Reading} {token : Token} {rest : List Token}

-- A reading that has come further, and has learned nothing.
def Reading.past (reading : Reading) (rest : List Token) (position : Nat) : Reading :=
  { reading with tokens := rest, position := position }

theorem bind_run {α β : Type} {x : Reader α} {f : α -> Reader β} {value : α} {after : Reading}
    (ran : x reading = .ok (value, after)) : (x >>= f) reading = f value after := by
  show (x reading >>= fun pair => f pair.1 pair.2) = _
  rw [ran]
  rfl

theorem peek_run : peek reading = .ok (reading.tokens.head?, reading) := rfl

theorem get_run : (get : Reader Reading) reading = .ok (reading, reading) := rfl

theorem skip_run (tokensAre : reading.tokens = token :: rest) (whole : reading.dangling = false) :
    skip 1 reading = .ok ([token], reading.past rest (reading.position + tokensWidth [token])) := by
  unfold skip
  rw [bind_run get_run, if_neg (by simp [whole]), tokensAre]
  rfl

theorem next_run (tokensAre : reading.tokens = token :: rest) (whole : reading.dangling = false) :
    ∃ position, next reading = .ok (some token, reading.past rest position) := by
  refine ⟨reading.position + tokensWidth [token], ?_⟩
  unfold next
  rw [bind_run (skip_run tokensAre whole)]
  rfl

theorem accept_run {c : Char} (other : reading.tokens.head? ≠ some (.plain c)) :
    accept c reading = .ok (false, reading) := by
  unfold accept
  rw [bind_run peek_run, if_neg (by simpa using other)]
  rfl

-- Neither a question mark nor a plus comes next.
def Unmarked (tokens : List Token) : Prop :=
  tokens.head? ≠ some (.plain '?') /\ tokens.head? ≠ some (.plain '+')

theorem greedMark_run (unmarked : Unmarked reading.tokens) :
    greedMark reading = .ok (.greedy, reading) := by
  unfold greedMark
  rw [bind_run (accept_run unmarked.1), if_neg Bool.false_ne_true,
    bind_run (accept_run unmarked.2)]
  rfl

variable {flags : Flags} {soFar middle pieces : List Piece} {c : Char}

/-- Reading these tokens, before the rest, makes other parts of those read so far. -/
def Adds (flags : Flags) (soFar : List Piece) (passed rest : List Token) (pieces : List Piece) :
    Prop :=
  ∀ (fuel : Nat) (first : Bool) (reading : Reading), reading.tokens = passed ++ rest ->
    reading.dangling = false ->
    ∃ position, sequence (fuel + passed.length) flags first soFar reading =
      sequence fuel flags first pieces (reading.past rest position)

theorem adds_nothing (rest : List Token) : Adds flags soFar [] rest soFar := by
  intro fuel first reading tokensAre _
  cases tokensAre
  exact ⟨reading.position, rfl⟩

theorem Adds.trans {first second rest : List Token}
    (here : Adds flags soFar first (second ++ rest) middle)
    (there : Adds flags middle second rest pieces) :
    Adds flags soFar (first ++ second) rest pieces := by
  intro fuel begins reading tokensAre whole
  rw [List.append_assoc] at tokensAre
  obtain ⟨place, read⟩ := here (fuel + second.length) begins reading tokensAre whole
  obtain ⟨position, later⟩ := there fuel begins (reading.past _ place) rfl whole
  refine ⟨position, ?_⟩
  rw [List.length_append, Nat.add_comm first.length, ← Nat.add_assoc, read, later]
  rfl

theorem adds_escaped {piece : Piece}
    (read : ∀ reading, escapedPiece flags c reading = .ok (piece, reading)) :
    Adds flags soFar [.escaped c] rest (piece :: soFar) := by
  intro fuel first reading tokensAre whole
  obtain ⟨position, passed⟩ := next_run tokensAre whole
  refine ⟨position, ?_⟩
  have goesOn : endsBranch reading.tokens.head? = false := by
    rw [tokensAre]
    rfl
  rw [List.length_singleton, sequence, bind_run peek_run, goesOn, if_neg Bool.false_ne_true,
    bind_run get_run, bind_run passed]
  exact bind_run (read _)

theorem adds_plain (other : c ∉ ['(', '|', ')'])
    (read : ∀ here (reading : Reading), reading.tokens = rest ->
      ungrouped flags here c soFar reading = .ok (pieces, reading)) :
    Adds flags soFar [.plain c] rest pieces := by
  intro fuel first reading tokensAre whole
  simp only [List.mem_cons, List.not_mem_nil, or_false, not_or] at other
  obtain ⟨position, passed⟩ := next_run tokensAre whole
  refine ⟨position, ?_⟩
  have goesOn : endsBranch reading.tokens.head? = false := by
    rw [tokensAre]
    simp [endsBranch, other]
  rw [List.length_singleton, sequence, bind_run peek_run, goesOn, if_neg Bool.false_ne_true,
    bind_run get_run, bind_run passed]
  dsimp only
  rw [if_neg (by simpa using other.1), bind_run (read _ _ rfl)]
  rfl

theorem sequence_end {fuel : Nat} {first : Bool} (tokensAre : reading.tokens = []) :
    sequence (fuel + 1) flags first soFar reading =
      .ok (soFar.reverse.flatMap Piece.toList, reading) := by
  rw [sequence, bind_run peek_run, if_pos (by rw [tokensAre]; rfl)]
  rfl

end Forwards

theorem wholePattern_run {reading : Reading} {nodes : List Node} {position : Nat}
    (ran : sequence (3 * reading.tokens.length + 2) reading.flags true [] reading =
      .ok (nodes, reading.past [] position))
    (oneAlphabet : (reading.flags.ascii && reading.flags.unicode) = false)
    (unconditioned : reading.conditions = [])
    (checks : (Node.ofList nodes).check reading.flags.template = .ok ()) :
    wholePattern reading = .ok (Node.ofList nodes, reading.past [] position) := by
  have branches : branches (3 * reading.tokens.length + 3) reading.flags true [] reading =
      .ok (nodes, reading.past [] position) := by
    have ended : accept '|' (reading.past [] position) = .ok (false, reading.past [] position) :=
      accept_run nofun
    have own : flagsFor reading.flags true reading = .ok (reading.flags, reading) := rfl
    rw [Regex.branches, bind_run own]
    refine (bind_run ran).trans ?_
    rw [bind_run ended]
    rfl
  have alternatives : alternatives (3 * reading.tokens.length + 4) reading.flags true reading =
      .ok (nodes, reading.past [] position) := by
    rw [Regex.alternatives, branches]
  unfold wholePattern
  rw [bind_run get_run, bind_run get_run, bind_run alternatives, bind_run get_run]
  have noCondition : (reading.past [] position).conditions = [] := unconditioned
  have checked : (liftM ((Node.ofList nodes).check (reading.past [] position).flags.template) :
      Reader Unit) (reading.past [] position) = .ok ((), reading.past [] position) := by
    rw [show (reading.past [] position).flags = reading.flags from rfl, checks]
    rfl
  have apart : ((reading.past [] position).flags.ascii &&
      (reading.past [] position).flags.unicode) = false := oneAlphabet
  rw [apart, if_neg Bool.false_ne_true, if_neg (by exact Bool.false_ne_true), noCondition,
    List.find?_nil]
  dsimp only
  rw [bind_run checked]
  rfl

end BibEdit.Regex

namespace BibEdit.Wildcard

open Regex Reader

def Part.tokens : Part -> List Token
  | .letter c => if specialChars.contains c then [.escaped c] else [.plain c]
  | .one => [.plain '.']
  | .many => [.plain '.', .plain '*']

def Part.node (casing : Casing) : Part -> Node
  | .letter c => .literal false c.toNat casing
  | .one => .any false
  | .many => .rep .greedy 0 none (.any false)

def Part.piece (casing : Casing) (part : Part) : Piece :=
  match part with
  | .many => ⟨.repetition, part.node casing⟩
  | _ => ⟨.other, part.node casing⟩

theorem tokenize_plain (c : Char) (rest : List Char) (plain : c ≠ '\\') :
    tokenize (c :: rest) = (.plain c :: (tokenize rest).1, (tokenize rest).2) := by
  rw [tokenize]
  next => exact fun is _ => plain is
  next => exact fun _ _ is _ => plain is

theorem tokenize_part (part : Part) (rest : List Char) :
    tokenize (part.regex ++ rest) = (part.tokens ++ (tokenize rest).1, (tokenize rest).2) := by
  cases part with
  | letter c =>
    by_cases special : specialChars.contains c = true
    next =>
      simp only [Part.regex, Part.tokens, escapeChar, special, if_true]
      rfl
    next =>
      simp only [Part.regex, Part.tokens, escapeChar, special]
      refine tokenize_plain c rest fun is => special ?_
      rw [is]
      decide
  | one => exact tokenize_plain '.' rest (by decide)
  | many =>
    show tokenize ('.' :: '*' :: rest) = _
    rw [tokenize_plain _ _ (by decide), tokenize_plain _ _ (by decide)]
    rfl

theorem tokenize_parts (parts : List Part) (rest : List Char) :
    tokenize (parts.flatMap Part.regex ++ rest) =
      (parts.flatMap Part.tokens ++ (tokenize rest).1, (tokenize rest).2) := by
  induction parts with
  | nil => rfl
  | cons part parts ih =>
    rw [List.flatMap_cons, List.append_assoc, tokenize_part, ih, List.flatMap_cons,
      List.append_assoc]

theorem unmarked_part (part : Part) (rest : List Token) : Unmarked (part.tokens ++ rest) := by
  cases part with
  | letter c =>
    by_cases special : specialChars.contains c = true
    next =>
      simp only [Part.tokens, special, if_true]
      exact ⟨nofun, nofun⟩
    next =>
      simp only [Part.tokens, special]
      constructor <;> intro is <;> cases is <;> exact special (by decide)
  | one => constructor <;> intro is <;> cases is
  | many => constructor <;> intro is <;> cases is

theorem unmarked_parts (parts : List Part) (rest : List Token) (unmarked : Unmarked rest) :
    Unmarked (parts.flatMap Part.tokens ++ rest) := by
  cases parts with
  | nil => exact unmarked
  | cons part parts =>
    rw [List.flatMap_cons, List.append_assoc]
    exact unmarked_part part _

section Sequences

variable {ignoreCase : Bool} {soFar : List Piece} {rest : List Token}

def casingOf (ignoreCase : Bool) : Casing := Flags.casing { ignoreCase := ignoreCase }

theorem escapedPiece_special {c : Char} (special : c ∈ specialChars) (reading : Reading) :
    escapedPiece { ignoreCase := ignoreCase } c reading =
      .ok ((Part.letter c).piece (casingOf ignoreCase), reading) := by
  simp only [specialChars, List.mem_cons, List.not_mem_nil, or_false] at special
  rcases special with rfl | rfl | rfl | rfl | rfl | rfl | rfl | rfl | rfl | rfl | rfl | rfl | rfl |
    rfl | rfl | rfl | rfl | rfl | rfl | rfl | rfl | rfl | rfl | rfl
  all_goals rfl

theorem ungrouped_letter {here : Nat} {c : Char} (ordinary : specialChars.contains c = false)
    (reading : Reading) :
    ungrouped { ignoreCase := ignoreCase } here c soFar reading =
      .ok ((Part.letter c).piece (casingOf ignoreCase) :: soFar, reading) := by
  have differs (d : Char) (special : d ∈ specialChars) : (c == d) = false := by
    refine beq_false_of_ne fun same => ?_
    rw [same, List.contains_iff_mem.2 special] at ordinary
    cases ordinary
  unfold ungrouped
  rw [differs '[' (by decide), differs '?' (by decide), differs '*' (by decide),
    differs '+' (by decide), differs '\x7b' (by decide), differs '.' (by decide),
    differs '^' (by decide), differs '$' (by decide)]
  rfl

theorem ungrouped_many {here : Nat} {reading : Reading} (unmarked : Unmarked reading.tokens) :
    ungrouped { ignoreCase := ignoreCase } here '*'
      (Part.one.piece (casingOf ignoreCase) :: soFar) reading =
        .ok (Part.many.piece (casingOf ignoreCase) :: soFar, reading) := by
  have counted : quantifier '*' reading = .ok (some ⟨0, none⟩, reading) := rfl
  have marked := greedMark_run unmarked
  show (quantifier '*' >>= _) reading = _
  rw [bind_run counted]
  exact bind_run marked

theorem adds_part (part : Part) (unmarked : Unmarked rest) :
    Adds { ignoreCase := ignoreCase } soFar part.tokens rest
      (part.piece (casingOf ignoreCase) :: soFar) := by
  cases part with
  | letter c =>
    by_cases special : specialChars.contains c = true
    next =>
      simp only [Part.tokens, special, if_true]
      exact adds_escaped (escapedPiece_special (by simpa using special))
    next =>
      have other : c ∉ ['(', '|', ')'] := by
        intro member
        simp only [List.mem_cons, List.not_mem_nil, or_false] at member
        rcases member with rfl | rfl | rfl <;> exact special (by decide)
      rw [Bool.not_eq_true] at special
      simp only [Part.tokens, special, Bool.false_eq_true, if_false]
      exact adds_plain other fun _ reading _ => ungrouped_letter special reading
  | one => exact adds_plain (by decide) fun _ _ _ => rfl
  | many =>
    have dot : Adds { ignoreCase := ignoreCase } soFar [.plain '.'] ([.plain '*'] ++ rest)
        (Part.one.piece (casingOf ignoreCase) :: soFar) :=
      adds_plain (by decide) fun _ _ _ => rfl
    refine dot.trans (adds_plain (by decide) fun _ reading tokensAre => ?_)
    rw [← tokensAre] at unmarked
    exact ungrouped_many unmarked

theorem adds_parts (parts : List Part) (unmarked : Unmarked rest) :
    Adds { ignoreCase := ignoreCase } soFar (parts.flatMap Part.tokens) rest
      ((parts.map (Part.piece (casingOf ignoreCase))).reverse ++ soFar) := by
  induction parts generalizing soFar with
  | nil => exact adds_nothing rest
  | cons part parts ih =>
    rw [List.flatMap_cons, List.map_cons, List.reverse_cons, List.append_assoc]
    exact (adds_part part (unmarked_parts parts rest unmarked)).trans ih

end Sequences

variable (ignoreCase : Bool) (parts : List Part)

def nodes : List Node := parts.map (Part.node (casingOf ignoreCase))

theorem nodes_of_pieces : (parts.map (Part.piece (casingOf ignoreCase))).flatMap Piece.toList =
    nodes ignoreCase parts := by
  induction parts with
  | nil => rfl
  | cons part parts ih =>
    rw [List.map_cons, List.flatMap_cons, ih]
    cases part <;> rfl

theorem check_ofList (found : List Node) (each : ∀ node ∈ found, node.check false = .ok ()) :
    (Node.ofList found).check false = .ok () := by
  match found with
  | [] => rfl
  | [node] => exact each node (by simp)
  | node :: other :: rest =>
    have later := check_ofList (other :: rest) fun next member =>
      each next (List.mem_cons_of_mem _ member)
    simp only [Node.ofList, Node.check, each node (by simp), later]
    rfl

theorem compile_run {pattern : List Char} {tokens : List Token} {pieces : List Piece}
    (tokensAre : tokenize pattern = (tokens, false))
    (adds : Adds { ignoreCase := ignoreCase } [] tokens [] pieces)
    (checks : ∀ node ∈ pieces.reverse.flatMap Piece.toList, node.check false = .ok ()) :
    ∃ regex, compile pattern ignoreCase = .ok regex /\
      regex.root = Node.ofList (pieces.reverse.flatMap Piece.toList) := by
  generalize startIs : Reading.start pattern { ignoreCase := ignoreCase } = start
  have startTokens : start.tokens = tokens := by
    rw [← startIs, Reading.start, tokensAre]
  have whole : start.dangling = false := by
    rw [← startIs, Reading.start, tokensAre]
  have own : start.flags = { ignoreCase := ignoreCase } := by
    rw [← startIs, Reading.start]
  obtain ⟨position, ran⟩ := adds (2 * tokens.length + 2) true start
    (by rw [startTokens, List.append_nil]) whole
  have fuel : 3 * start.tokens.length + 2 = 2 * tokens.length + 2 + tokens.length := by
    rw [startTokens]
    omega
  have ended : sequence (3 * start.tokens.length + 2) start.flags true [] start =
      .ok (pieces.reverse.flatMap Piece.toList, start.past [] position) := by
    rw [fuel, own, ran]
    exact sequence_end rfl
  have read := wholePattern_run ended (by rw [own]; rfl) (by rw [← startIs]; rfl)
    (by rw [own]; exact check_ofList _ checks)
  refine ⟨⟨_, 0, []⟩, ?_, rfl⟩
  unfold compile
  dsimp only
  rw [startIs, whole, Bool.and_false, if_neg Bool.false_ne_true]
  subst startIs
  exact bind_eq_ok.2 ⟨_, read, rfl⟩

theorem check_nodes (node : Node) (member : node ∈ nodes ignoreCase parts) :
    node.check false = .ok () := by
  obtain ⟨part, _, rfl⟩ := List.mem_map.1 member
  cases part <;> rfl

theorem compile_parts : ∃ regex, compile (parts.flatMap Part.regex) ignoreCase = .ok regex /\
    regex.root = Node.ofList (nodes ignoreCase parts) := by
  have tokensAre : tokenize (parts.flatMap Part.regex) = (parts.flatMap Part.tokens, false) := by
    simpa [tokenize] using tokenize_parts parts []
  have read := compile_run ignoreCase tokensAre (adds_parts parts ⟨nofun, nofun⟩)
  rw [List.append_nil, List.reverse_reverse, nodes_of_pieces] at read
  exact read (check_nodes ignoreCase parts)

theorem compile_anchored :
    ∃ regex, compile ('^' :: parts.flatMap Part.regex ++ ['$']) ignoreCase = .ok regex /\
      regex.root = Node.ofList
        (.anchor .textStart :: nodes ignoreCase parts ++ [.anchor .textEnd]) := by
  have tokensAre : tokenize ('^' :: parts.flatMap Part.regex ++ ['$']) =
      ([.plain '^'] ++ (parts.flatMap Part.tokens ++ [.plain '$']), false) := by
    rw [List.cons_append, tokenize_plain _ _ (by decide), tokenize_parts]
    rfl
  have opens (rest : List Token) : Adds { ignoreCase := ignoreCase } [] [.plain '^'] rest
      [anchorNode .textStart] :=
    adds_plain (by decide) fun _ _ _ => rfl
  have closes (soFar : List Piece) : Adds { ignoreCase := ignoreCase } soFar [.plain '$'] []
      (anchorNode .textEnd :: soFar) :=
    adds_plain (by decide) fun _ _ _ => rfl
  have inner : Adds { ignoreCase := ignoreCase } [anchorNode .textStart]
      (parts.flatMap Part.tokens) [.plain '$'] _ :=
    adds_parts parts ⟨by decide, by decide⟩
  have read := compile_run ignoreCase tokensAre ((opens _).trans (inner.trans (closes _)))
  rw [List.reverse_cons, List.reverse_append, List.reverse_reverse, List.flatMap_append,
    List.flatMap_append, nodes_of_pieces] at read
  refine read fun node member => ?_
  simp only [List.mem_append] at member
  rcases member with (first | inside) | last
  next =>
    rw [List.mem_singleton.1 first]
    rfl
  next => exact check_nodes _ _ node inside
  next =>
    rw [List.mem_singleton.1 last]
    rfl

end BibEdit.Wildcard
