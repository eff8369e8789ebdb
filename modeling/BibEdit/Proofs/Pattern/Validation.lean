import BibEdit.Proofs.Pattern.Test
import BibEdit.Proofs.Probe.Advisory
import BibEdit.Proofs.Regex.Limits
import BibEdit.Revision

set_option autoImplicit false

namespace BibEdit

namespace Pattern

open Regex

variable {pattern : String} {kind : PatternKind} {error : PatternError}

theorem validate_regex : validate pattern .regex =
    ((Regex.compile pattern.toList false).mapError (PatternError.ofRegex pattern.toList)).map
      fun _ => () := rfl

theorem refused_cases (refused : validate pattern kind = .error error) :
    error.isInvalid = true \/ kind = .regex /\ ∃ limit,
      PassesLimit (fun part => part <:+: pattern.toList) limit /\
        error = PatternError.ofRegex pattern.toList limit := by
  cases kind with
  | regex =>
    rw [validate_regex] at refused
    cases compiled : Regex.compile pattern.toList false with
    | ok regex =>
      rw [compiled] at refused
      cases refused
    | error found =>
      rw [compiled] at refused
      cases refused
      rcases compile_blamed compiled with ⟨flaw, position, rfl⟩ | passes
      next => exact .inl rfl
      next => exact .inr ⟨rfl, found, passes, rfl⟩
  | other name =>
    cases refused
    exact .inl rfl
  | _ => cases refused

end Pattern

namespace Search

theorem validate_append (before after : List Condition)
    (valid : ∀ condition ∈ before, Pattern.validate condition.pattern condition.kind = .ok ()) :
    validate (before ++ after) = validate after := by
  induction before with
  | nil => rfl
  | cons condition rest ih =>
    obtain ⟨here, later⟩ := List.forall_mem_cons.1 valid
    rw [List.cons_append, validate, here]
    exact ih later

theorem failureOf_invalid {error : PatternError} (invalid : error.isInvalid = true) :
    failureOf error = .badPattern error := if_pos invalid

theorem search_refused {ρ : Type} (store : Store ρ) (readable : ρ -> Readable)
    (before after : List Condition) (condition : Condition) (error : PatternError)
    (valid : ∀ earlier ∈ before, Pattern.validate earlier.pattern earlier.kind = .ok ())
    (refused : Pattern.validate condition.pattern condition.kind = .error error)
    (libraryId : Option Int) (threshold : Int) :
    search store readable (before ++ condition :: after) libraryId threshold =
      ⟨[], .error (failureOf error)⟩ := by
  have given : (before ++ condition :: after).isEmpty = false := by simp
  have failed : validate (before ++ condition :: after) = .error (failureOf error) := by
    rw [validate_append before _ valid, validate, refused]
    rfl
  unfold search
  rw [given, failed]
  rfl

end Search

namespace Pattern

/-- Validation is where a pattern fails. It is accepted, or refused as invalid, or it is a regex in
which a count or the flags pass a limit of the reader. One that is accepted can be tested against any
value, with case or without; one that is refused ends a search before the store is asked anything, and
a batch before any record is touched. -/
theorem validate_or_refuse (pattern : String) (kind : PatternKind) :
    (validate pattern kind = .ok () /\
        ∀ value caseSensitive, ∃ hit, test value pattern kind caseSensitive = .ok hit) \/
      ∃ error, validate pattern kind = .error error /\
        (error.isInvalid = true \/ kind = .regex /\ ∃ limit,
          Regex.PassesLimit (fun part => part <:+: pattern.toList) limit /\
            error = PatternError.ofRegex pattern.toList limit) /\
        (∀ {ρ : Type} (store : Store ρ) (readable : ρ -> Readable) (before after : List Condition)
          (condition : Condition) (libraryId : Option Int) (threshold : Int),
          (∀ earlier ∈ before, validate earlier.pattern earlier.kind = .ok ()) ->
            condition.pattern = pattern -> condition.kind = kind ->
              search store readable (before ++ condition :: after) libraryId threshold =
                  ⟨[], .error (Search.failureOf error)⟩ /\
                (error.isInvalid = true -> Search.failureOf error = .badPattern error)) /\
        ∀ {σ ρ : Type} (keeping : Keeping σ ρ) (revision : Revision) (fields : List String)
          (place : σ) (items : List ρ), revision.search = pattern -> revision.kind = kind ->
            Revision.batch keeping revision fields place items = .error error := by
  cases validated : validate pattern kind with
  | ok done =>
    exact .inl ⟨rfl, fun value caseSensitive => test_of_valid validated caseSensitive value⟩
  | error error =>
    refine .inr ⟨error, rfl, refused_cases validated, ?_, ?_⟩
    next =>
      rintro ρ store readable before after condition libraryId threshold valid rfl rfl
      exact ⟨Search.search_refused store readable before after condition error valid validated
        libraryId threshold, Search.failureOf_invalid⟩
    next =>
      rintro σ ρ keeping revision fields place items rfl rfl
      rw [Revision.batch, validated]
      rfl

/-- A count that is too large is refused, but not as an invalid pattern. -/
theorem large_count_escapes :
    ∃ error, validate "a\x7b4294967295\x7d" .regex = .error error /\ error.isInvalid = false /\
      error.message = "the repetition number is too large" := by
  have refused : (error? (validate "a\x7b4294967295\x7d" .regex)).map (fun error =>
      (error.isInvalid, error.message)) = some (false, "the repetition number is too large") := by
    decide +kernel
  cases validated : validate "a\x7b4294967295\x7d" .regex with
  | ok done =>
    rw [validated] at refused
    cases refused
  | error error =>
    rw [validated] at refused
    obtain ⟨invalid, message⟩ := Prod.mk.inj (Option.some.inj refused)
    exact ⟨error, rfl, invalid, message⟩

end Pattern

end BibEdit
