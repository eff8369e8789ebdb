import BibEdit.Console.Prompt

set_option autoImplicit false

namespace BibEdit.Console

def Color.code : Color -> Nat
  | .red => 31
  | .green => 32

def Style.codes (style : Style) : List Nat :=
  (style.color.map Color.code).toList ++
    (if style.bold then [1] else []) ++ (if style.dim then [2] else []) ++
    (if style.underline then [4] else []) ++ (if style.italic then [3] else [])

def escapeSequence (code : Nat) : List Char :=
  '\x1b' :: '[' :: (toString code).toList ++ ['m']

def isParameter (c : Char) : Bool := '0' <= c && c <= '?'

def isIntermediate (c : Char) : Bool := ' ' <= c && c <= '/'

def isFinal (c : Char) : Bool := '@' <= c && c <= '~'

def afterSequence? : List Char -> Option (List Char)
  | '\x1b' :: '[' :: rest =>
    match (rest.dropWhile isParameter).dropWhile isIntermediate with
    | c :: after => if isFinal c then some after else none
    | [] => none
  | _ => none

theorem afterSequence?_shorter (text after : List Char) (found : afterSequence? text = some after) :
    after.length < text.length := by
  unfold afterSequence? at found
  split at found
  next rest =>
    split at found
    next c tail shape =>
      have bound : ((rest.dropWhile isParameter).dropWhile isIntermediate).length <= rest.length :=
        Nat.le_trans (List.dropWhile_suffix _).length_le (List.dropWhile_suffix _).length_le
      rw [shape] at bound
      split at found
      next => simp_all; omega
      next => simp at found
    next => simp at found
  next => simp at found

def stripStyles : List Char -> List Char
  | [] => []
  | c :: rest =>
    match _found : afterSequence? (c :: rest) with
    | some after => stripStyles after
    | none => c :: stripStyles rest
termination_by text => text.length
decreasing_by
  · exact afterSequence?_shorter _ _ _found
  · simp

theorem isParameter_of_isDigit (c : Char) (digit : c.isDigit = true) : isParameter c = true := by
  obtain ⟨least, most⟩ : '0'.val <= c.val /\ c.val <= '9'.val := by simpa [Char.isDigit] using digit
  have within : '0' <= c /\ c <= '?' := by
    rw [Char.le_def, Char.le_def]
    exact ⟨least, UInt32.le_trans most (by decide)⟩
  simpa [isParameter] using within

theorem afterSequence?_escapeSequence (code : Nat) (rest : List Char) :
    afterSequence? (escapeSequence code ++ rest) = some rest := by
  have parameters : ∀ c ∈ (toString code).toList, isParameter c = true := by
    intro c member
    rw [Nat.toString_eq_ofList_toDigits, String.toList_ofList] at member
    exact isParameter_of_isDigit c (Nat.isDigit_of_mem_toDigits (by decide) (by decide) member)
  simp only [escapeSequence, List.cons_append, List.append_assoc, afterSequence?]
  rw [List.dropWhile_append_of_pos parameters]
  rfl

theorem stripStyles_escapeSequence (code : Nat) (rest : List Char) :
    stripStyles (escapeSequence code ++ rest) = stripStyles rest := by
  have after := afterSequence?_escapeSequence code rest
  generalize escapeSequence code ++ rest = text at after ⊢
  cases text with
  | nil => cases after
  | cons c others =>
    rw [stripStyles]
    split
    next found shape => rw [Option.some.inj (shape.symm.trans after)]
    next shape => cases shape.symm.trans after

theorem stripStyles_sequences (codes : List Nat) (rest : List Char) :
    stripStyles (codes.flatMap escapeSequence ++ rest) = stripStyles rest := by
  induction codes with
  | nil => rfl
  | cons code codes ih => rw [List.flatMap_cons, List.append_assoc, stripStyles_escapeSequence, ih]

theorem stripStyles_plain (c : Char) (rest : List Char) (plain : c ≠ '\x1b') :
    stripStyles (c :: rest) = c :: stripStyles rest := by
  have unopened : afterSequence? (c :: rest) = none := by
    unfold afterSequence?
    split
    next shape => exact absurd (List.cons.inj shape).1 plain
    next => rfl
  rw [stripStyles]
  split
  next shape => cases unopened.symm.trans shape
  next => rfl

instance (priority := low) : Styling where
  opening style := style.codes.flatMap escapeSequence
  closing := escapeSequence 0
  strip := stripStyles
  stripNil := by rw [stripStyles]
  stripPlain := stripStyles_plain
  stripOpening style := stripStyles_sequences style.codes
  stripClosing := stripStyles_escapeSequence 0

def invalidInput : List Char := "Error: invalid input\n".toList

def confirmFrom (question : List Char) (terminal : Terminal) :
    List (List Char) -> Option Bool × Terminal
  | [] => (none, terminal.unanswered question)
  | line :: rest =>
    let asked := terminal.answered question line rest
    if agrees line then (some true, asked)
    else if refuses line then (some false, asked)
    else confirmFrom question (asked.print invalidInput) rest

def promptFrom (question : List Char) (terminal : Terminal) :
    List (List Char) -> Option (List Char) × Terminal
  | [] => (none, terminal.unanswered question)
  | line :: rest =>
    let asked := terminal.answered question line rest
    if line.isEmpty then promptFrom question asked rest else (some line, asked)

instance : Prompting where
  confirm question terminal := confirmFrom question terminal terminal.typed
  prompt question terminal := promptFrom question terminal terminal.typed
  remark := invalidInput
  confirmOver question terminal none := by
    rw [none]
    rfl
  confirmLine question terminal line rest typed := by
    rw [typed]
    rfl
  promptOver question terminal none := by
    rw [none]
    rfl
  promptLine question terminal line rest typed := by
    rw [typed]
    rfl

end BibEdit.Console
