import BibEdit.Proofs.Pattern.Wildcard
import BibEdit.Proofs.Regex.Casing

set_option autoImplicit false

/-! Valid patterns can be compiled, with case or without, and tested against any text. -/

namespace BibEdit.Pattern

open Regex Wildcard

theorem compile_of_source {pattern : String} {kind : PatternKind} {caseSensitive : Bool}
    {source : List Char} {regex : Regex} (standsFor : regexSource pattern.toList kind = .ok source)
    (compiled : Regex.compile source (!caseSensitive) = .ok regex) :
    compile pattern kind caseSensitive = .ok regex := by
  unfold compile
  rw [standsFor, ok_bind, compiled]
  rfl

theorem compile_regex_eq_ok {pattern : String} {caseSensitive : Bool} {regex : Regex}
    (compiled : compile pattern .regex caseSensitive = .ok regex) :
    Regex.compile pattern.toList (!caseSensitive) = .ok regex :=
  mapError_eq_ok.1 compiled

section Wildcards

variable (pattern : String) (caseSensitive : Bool)

theorem compile_contains : ∃ regex, compile pattern .contains caseSensitive = .ok regex /\
    regex.root = Node.ofList (nodes (!caseSensitive) (pattern.toList.map Part.letter)) := by
  have escaped : escape pattern.toList = (pattern.toList.map Part.letter).flatMap Part.regex := by
    rw [List.flatMap_map]
    rfl
  obtain ⟨regex, compiled, rootIs⟩ :=
    compile_parts (!caseSensitive) (pattern.toList.map Part.letter)
  rw [← escaped] at compiled
  exact ⟨regex, compile_of_source rfl compiled, rootIs⟩

theorem compile_like : ∃ regex, compile pattern .like caseSensitive = .ok regex /\
    regex.root = Node.ofList (nodes (!caseSensitive) (likeParts pattern.toList)) := by
  obtain ⟨regex, compiled, rootIs⟩ := compile_parts (!caseSensitive) (likeParts pattern.toList)
  exact ⟨regex, compile_of_source rfl compiled, rootIs⟩

theorem compile_glob : ∃ regex, compile pattern .glob caseSensitive = .ok regex /\
    regex.root = Node.ofList (.anchor .textStart ::
      nodes (!caseSensitive) (globParts pattern.toList) ++ [.anchor .textEnd]) := by
  obtain ⟨regex, compiled, rootIs⟩ := compile_anchored (!caseSensitive) (globParts pattern.toList)
  exact ⟨regex, compile_of_source rfl compiled, rootIs⟩

end Wildcards

variable {pattern : String} {kind : PatternKind}

theorem compile_of_valid (valid : validate pattern kind = .ok ()) (inPart : kind ≠ .exact)
    (caseSensitive : Bool) : ∃ regex, compile pattern kind caseSensitive = .ok regex := by
  cases kind with
  | regex =>
    -- It was compiled with case to be validated, and case makes no difference to success.
    obtain ⟨strict, compiled, _⟩ := map_eq_ok.1 valid
    obtain ⟨root, _, recased⟩ := compile_recased (compile_regex_eq_ok compiled) (!caseSensitive)
    exact ⟨_, compile_of_source rfl recased⟩
  | exact => exact absurd rfl inPart
  | contains => exact (compile_contains pattern caseSensitive).imp fun _ => And.left
  | like => exact (compile_like pattern caseSensitive).imp fun _ => And.left
  | glob => exact (compile_glob pattern caseSensitive).imp fun _ => And.left
  | other name => cases valid

theorem known_of_valid (valid : validate pattern kind = .ok ()) : kind.isKnown = true := by
  cases kind with
  | other name => cases valid
  | _ => rfl

/-- Testing a text for a valid pattern cannot fail. -/
theorem test_of_valid (valid : validate pattern kind = .ok ()) (caseSensitive : Bool)
    (value : String) : ∃ hit, test value pattern kind caseSensitive = .ok hit := by
  unfold test
  by_cases whole : kind = .exact
  next => exact ⟨_, if_pos (by simp [whole])⟩
  next =>
    obtain ⟨regex, compiled⟩ := compile_of_valid valid whole caseSensitive
    rw [if_neg (by simpa using whole), known_of_valid valid, compiled]
    exact ⟨_, rfl⟩

end BibEdit.Pattern
