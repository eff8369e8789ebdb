import BibEdit.Text.Numeral

set_option autoImplicit false

namespace BibEdit.Regex

inductive Flaw where
  | danglingBackslash
  | badEscape (text : List Char)
  | incompleteEscape (text : List Char)
  | largeOctal (text : List Char)
  | missingBrace
  | missing (what : String)
  | unterminatedName (terminator : Char)
  | unknownCharacter (name : List Char)
  | openGroup
  | sameLookBehind
  | noGroup (number : Nat)
  | badName (name : List Char)
  | unknownName (name : List Char)
  | groupZero
  | repeatedName (name : List Char) (number earlier : Nat)
  | unterminatedSet
  | badRange (low high : List Char)
  | leastAboveMost
  | nothingToRepeat
  | repeatedRepeat
  | unterminatedGroup
  | unterminatedComment
  | unexpectedEnd
  | unknownExtension (text : List Char)
  | thirdBranch
  | lateFlags
  | unknownFlag
  | missingFlagEnd
  | missingFlag
  | missingColon
  | localeFlag
  | clashingFlags
  | keptFlags
  | globalOn
  | globalOff
  | contradiction
  | unbalanced
  | farLookBehind
  | looseLookBehind
  | templateOperator (name : String)

def Flaw.describe : Flaw -> String
  | .danglingBackslash => "bad escape (end of pattern)"
  | .badEscape text => "bad escape " ++ String.ofList text
  | .incompleteEscape text => "incomplete escape " ++ String.ofList text
  | .largeOctal text => "octal escape value " ++ String.ofList text ++ " outside of range 0-0o377"
  | .missingBrace => "missing \x7b"
  | .missing what => "missing " ++ what
  | .unterminatedName terminator => "missing " ++ terminator.toString ++ ", unterminated name"
  | .unknownCharacter name => "undefined character name " ++ String.ofList (Text.quoted name)
  | .openGroup => "cannot refer to an open group"
  | .sameLookBehind => "cannot refer to group defined in the same lookbehind subpattern"
  | .noGroup number => "invalid group reference " ++ toString number
  | .badName name => "bad character in group name " ++ String.ofList (Text.quoted name)
  | .unknownName name => "unknown group name " ++ String.ofList (Text.quoted name)
  | .groupZero => "bad group number"
  | .repeatedName name number earlier =>
    "redefinition of group name " ++ String.ofList (Text.quoted name) ++ " as group " ++
      toString number ++ "; was group " ++ toString earlier
  | .unterminatedSet => "unterminated character set"
  | .badRange low high => "bad character range " ++ String.ofList (low ++ '-' :: high)
  | .leastAboveMost => "min repeat greater than max repeat"
  | .nothingToRepeat => "nothing to repeat"
  | .repeatedRepeat => "multiple repeat"
  | .unterminatedGroup => "missing ), unterminated subpattern"
  | .unterminatedComment => "missing ), unterminated comment"
  | .unexpectedEnd => "unexpected end of pattern"
  | .unknownExtension text => "unknown extension ?" ++ String.ofList text
  | .thirdBranch => "conditional backref with more than two branches"
  | .lateFlags => "global flags not at the start of the expression"
  | .unknownFlag => "unknown flag"
  | .missingFlagEnd => "missing -, : or )"
  | .missingFlag => "missing flag"
  | .missingColon => "missing :"
  | .localeFlag => "bad inline flags: cannot use 'L' flag with a str pattern"
  | .clashingFlags => "bad inline flags: flags 'a', 'u' and 'L' are incompatible"
  | .keptFlags => "bad inline flags: cannot turn off flags 'a', 'u' and 'L'"
  | .globalOn => "bad inline flags: cannot turn on global flag"
  | .globalOff => "bad inline flags: cannot turn off global flag"
  | .contradiction => "bad inline flags: flag turned on and off"
  | .unbalanced => "unbalanced parenthesis"
  | .farLookBehind => "looks too much behind"
  | .looseLookBehind => "look-behind requires fixed-width pattern"
  | .templateOperator name => "internal: unsupported template operator " ++ name

inductive Error where
  | malformed (flaw : Flaw) (position : Option Nat)
  | largeCount
  | longNumeral (numeral : Text.LongNumeral)
  | mixedAlphabets

def linesBefore (pattern : List Char) (position : Nat) : Nat :=
  (pattern.take position).count '\n'

def column (pattern : List Char) (position : Nat) : Nat :=
  ((pattern.take position).reverse.takeWhile (· != '\n')).length + 1

/-- Where the flaw is: lines and columns are named only in a pattern of several lines. -/
def place (pattern : List Char) (position : Nat) : String :=
  " at position " ++ toString position ++
    if pattern.contains '\n' then
      " (line " ++ toString (linesBefore pattern position + 1) ++
        ", column " ++ toString (column pattern position) ++ ")"
    else ""

def Flaw.message (pattern : List Char) (position : Option Nat) (flaw : Flaw) : String :=
  match position with
  | some position => flaw.describe ++ place pattern position
  | none => flaw.describe

end BibEdit.Regex
