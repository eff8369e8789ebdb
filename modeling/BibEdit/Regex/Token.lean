set_option autoImplicit false

namespace BibEdit.Regex

/-- A character of a pattern, or a backslash with the character after it. -/
inductive Token where
  | plain (c : Char)
  | escaped (c : Char)
  deriving DecidableEq

def Token.text : Token -> List Char
  | .plain c => [c]
  | .escaped c => ['\\', c]

def Token.width : Token -> Nat
  | .plain _ => 1
  | .escaped _ => 2

@[simp] theorem Token.text_length (token : Token) : token.text.length = token.width := by
  cases token <;> rfl

/-- The tokens of a pattern, and whether a backslash was left alone at its end. -/
def tokenize : List Char -> List Token × Bool
  | [] => ([], false)
  | ['\\'] => ([], true)
  | '\\' :: c :: rest => (.escaped c :: (tokenize rest).1, (tokenize rest).2)
  | c :: rest => (.plain c :: (tokenize rest).1, (tokenize rest).2)

def tokensText (tokens : List Token) : List Char := tokens.flatMap Token.text

def tokensWidth (tokens : List Token) : Nat :=
  tokens.foldr (fun token width => token.width + width) 0

theorem tokensText_length (tokens : List Token) :
    (tokensText tokens).length = tokensWidth tokens := by
  induction tokens with
  | nil => rfl
  | cons token rest ih => simp_all [tokensText, tokensWidth]

theorem tokenize_text (pattern : List Char) :
    tokensText (tokenize pattern).1 ++ (if (tokenize pattern).2 then ['\\'] else []) = pattern := by
  fun_induction tokenize pattern <;> simp_all [tokensText, Token.text]

/-- Characters that mean something other than themselves in a pattern, or might. -/
def specialChars : List Char :=
  ['(', ')', '[', ']', '\x7b', '\x7d', '?', '*', '+', '-', '|', '^', '$', '\\', '.', '&', '~',
    '#', ' ', '\t', '\n', '\r', '\x0b', '\x0c']

def escapeChar (c : Char) : List Char := if specialChars.contains c then ['\\', c] else [c]

def escape (text : List Char) : List Char := text.flatMap escapeChar

@[simp] theorem escape_nil : escape [] = [] := rfl

@[simp] theorem escape_cons (c : Char) (rest : List Char) :
    escape (c :: rest) = escapeChar c ++ escape rest := rfl

end BibEdit.Regex
