set_option autoImplicit false

namespace BibEdit.Console

inductive Color where
  | red
  | green
  deriving DecidableEq

structure Style where
  color : Option Color := none
  bold : Bool := false
  dim : Bool := false
  underline : Bool := false
  italic : Bool := false
  deriving DecidableEq

/-- What a console puts around a styled text, and how it leaves that out again. Every sequence that
it leaves out begins with an escape character. -/
class Styling where
  opening : Style -> List Char
  closing : List Char
  strip : List Char -> List Char
  stripNil : strip [] = []
  stripPlain : ∀ (c : Char) (rest : List Char), c ≠ '\x1b' -> strip (c :: rest) = c :: strip rest
  stripOpening : ∀ (style : Style) (rest : List Char), strip (opening style ++ rest) = strip rest
  stripClosing : ∀ rest : List Char, strip (closing ++ rest) = strip rest

variable [Styling]

def Style.paint (style : Style) (text : List Char) : List Char :=
  Styling.opening style ++ text ++ Styling.closing

theorem strip_append (text rest : List Char) (plain : '\x1b' ∉ text) :
    Styling.strip (text ++ rest) = text ++ Styling.strip rest := by
  induction text with
  | nil => rfl
  | cons c text ih =>
    obtain ⟨differs, later⟩ := not_or.1 (mt List.mem_cons.2 plain)
    rw [List.cons_append, Styling.stripPlain c _ (Ne.symm differs), ih later, List.cons_append]

theorem strip_text (text : List Char) (plain : '\x1b' ∉ text) : Styling.strip text = text := by
  have stripped := strip_append text [] plain
  rwa [List.append_nil, Styling.stripNil, List.append_nil] at stripped

theorem strip_paint (style : Style) (text rest : List Char) (plain : '\x1b' ∉ text) :
    Styling.strip (style.paint text ++ rest) = text ++ Styling.strip rest := by
  rw [Style.paint, List.append_assoc, List.append_assoc, Styling.stripOpening,
    strip_append text _ plain, Styling.stripClosing]

end BibEdit.Console
