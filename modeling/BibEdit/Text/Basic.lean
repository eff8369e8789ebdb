import BibEdit.Unicode.Ranges

set_option autoImplicit false

namespace BibEdit.Text

/-- The characters at the positions from `start` up to, and without, `stop`. -/
def slice (text : List Char) (start stop : Nat) : List Char :=
  (text.drop start).take (stop - start)

theorem slice_length (text : List Char) (start stop : Nat) (within : stop <= text.length) :
    (slice text start stop).length = stop - start := by
  simp [slice]
  omega

def contains (needle : List Char) : List Char -> Bool
  | [] => needle.isEmpty
  | c :: rest => needle.isPrefixOf (c :: rest) || contains needle rest

theorem contains_iff (needle text : List Char) :
    contains needle text = true <-> needle <:+: text := by
  induction text with
  | nil => simp [contains]
  | cons c rest ih => simp [contains, ih, List.infix_cons_iff]

/-- The pieces between the leftmost occurrences of a separator; `skip` characters of an occurrence
remain to be passed over, and `piece` holds the piece so far, backwards. -/
def splitFrom (separator : List Char) : Nat -> List Char -> List Char -> List (List Char)
  | _, piece, [] => [piece.reverse]
  | skip + 1, piece, _ :: rest => splitFrom separator skip piece rest
  | 0, piece, c :: rest =>
    if separator.isPrefixOf (c :: rest)
    then piece.reverse :: splitFrom separator (separator.length - 1) [] rest
    else splitFrom separator 0 (c :: piece) rest

def split (separator text : List Char) : List (List Char) := splitFrom separator 0 [] text

/-- How often a non-empty needle occurs, counting occurrences that do not overlap. -/
def count (needle text : List Char) : Nat := (split needle text).length - 1

def join (separator : List Char) (pieces : List (List Char)) : List Char :=
  separator.intercalate pieces

def trimWith (strip : Char -> Bool) (text : List Char) : List Char :=
  ((text.dropWhile strip).reverse.dropWhile strip).reverse

def trim (text : List Char) : List Char := trimWith (fun c => Unicode.isBlank c.toNat) text

end BibEdit.Text
