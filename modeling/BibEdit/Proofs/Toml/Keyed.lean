import BibEdit.Proofs.Lookup
import BibEdit.Proofs.Success
import BibEdit.Toml.Reader

set_option autoImplicit false

/-! In a document that was read, no key stands twice in one table. -/

namespace BibEdit.Toml

/-- No two entries of the table, or of a table in it, have one key. Lists are not looked into. -/
inductive Keyed : Table -> Prop where
  | intro {entries : Table} (apart : (entries.map Prod.fst).Nodup)
      (inner : ∀ key inner, (key, .table inner) ∈ entries -> Keyed inner) : Keyed entries

def Value.Keyed (value : Value) : Prop := ∀ entries, value = .table entries -> Toml.Keyed entries

namespace Keyed

theorem apart {entries : Table} (keyed : Keyed entries) : (entries.map Prod.fst).Nodup := by
  cases keyed with
  | intro apart inner => exact apart

theorem value {entries : Table} (keyed : Keyed entries) {key : String} {value : Value}
    (member : (key, value) ∈ entries) : value.Keyed := by
  cases keyed with
  | intro apart inner =>
    rintro found rfl
    exact inner key found member

theorem of_values {entries : Table} (apart : (entries.map Prod.fst).Nodup)
    (each : ∀ entry ∈ entries, entry.2.Keyed) : Keyed entries :=
  .intro apart fun _ inner member => each _ member inner rfl

theorem nil : Keyed [] := of_values List.nodup_nil nofun

theorem concat {entries : Table} (keyed : Keyed entries) {key : String}
    (fresh : entries.lookup key = none) {value : Value} (within : value.Keyed) :
    Keyed (entries ++ [(key, value)]) := by
  have absent := (lookup_eq_none_iff entries key).1 fresh
  apply of_values
  next =>
    rw [List.map_append]
    refine List.nodup_append.2 ⟨keyed.apart, List.nodup_singleton key, ?_⟩
    rintro name member _ last rfl
    rw [List.mem_singleton.1 last] at member
    exact absent member
  next =>
    intro entry member
    rcases List.mem_append.1 member with old | new
    next => exact keyed.value old
    next =>
      rw [List.mem_singleton.1 new]
      exact within

theorem replaceEntry {entries : Table} (keyed : Keyed entries) (key : String) {value : Value}
    (within : value.Keyed) : Keyed (replaceEntry key value entries) := by
  have names : (Toml.replaceEntry key value entries).map Prod.fst = entries.map Prod.fst := by
    rw [Toml.replaceEntry, List.map_map]
    apply List.map_congr_left
    intro entry _
    by_cases same : entry.1 = key <;> simp [same]
  apply of_values
  next =>
    rw [names]
    exact keyed.apart
  next =>
    intro entry member
    obtain ⟨old, among, rfl⟩ := List.mem_map.1 member
    split
    next => exact within
    next => exact keyed.value among

end Keyed

section Changes

variable {change : Table -> Option Table}
  (keeps : ∀ table after, Keyed table -> change table = some after -> Keyed after)

include keeps

theorem keyed_alterValue {enterLists : Bool} {value after : Value} (keyed : value.Keyed)
    (changed : alterValue enterLists change value = some after) : after.Keyed := by
  unfold alterValue at changed
  split at changed
  next entries =>
    obtain ⟨found, altered, rfl⟩ := Option.map_eq_some_iff.1 changed
    rintro _ ⟨⟩
    exact keeps entries found (keyed entries rfl) altered
  next =>
    split at changed
    next =>
      obtain ⟨found, _, same⟩ := Option.bind_eq_some_iff.1 changed
      cases same
      exact nofun
    next => cases changed
  next => cases changed

theorem keyed_alterAt {enterLists : Bool} {path : List String} {table after : Table}
    (keyed : Keyed table) (changed : alterAt enterLists change path table = some after) :
    Keyed after := by
  induction path generalizing table after with
  | nil => exact keeps table after keyed changed
  | cons key path ih =>
    unfold alterAt at changed
    split at changed
    next fresh =>
      obtain ⟨inner, made, same⟩ := Option.bind_eq_some_iff.1 changed
      cases same
      refine keyed.concat fresh ?_
      rintro _ ⟨⟩
      exact ih .nil made
    next value found =>
      obtain ⟨altered, made, same⟩ := Option.bind_eq_some_iff.1 changed
      cases same
      have member := (lookup_eq_some_iff table keyed.apart key value).1 found
      exact keyed.replaceEntry key
        (keyed_alterValue (fun _ _ innerKeyed done => ih innerKeyed done) (keyed.value member) made)

end Changes

theorem keyed_define {key : String} {value : Value} (within : value.Keyed) (table after : Table)
    (keyed : Keyed table) (defined : define key value table = some after) : Keyed after := by
  unfold define at defined
  split at defined
  next => cases defined
  next fresh =>
    cases defined
    exact keyed.concat (Option.not_isSome_iff_eq_none.1 fresh) within

theorem keyed_appendItem {key : String} (table after : Table) (keyed : Keyed table)
    (appended : appendItem key table = some after) : Keyed after := by
  unfold appendItem at appended
  split at appended
  next fresh =>
    cases appended
    exact keyed.concat fresh nofun
  next =>
    cases appended
    exact keyed.replaceEntry key nofun
  next => cases appended

theorem Draft.keyed_add {draft after : Draft} (keyed : Keyed draft.root) {statement : Statement}
    (values : ∀ path value, statement = .entry path value -> value.Keyed)
    (added : draft.add statement = some after) : Keyed after.root := by
  cases statement with
  | header path =>
    unfold add openTable at added
    dsimp only at added
    split at added
    next => cases added
    next =>
      obtain ⟨root, altered, same⟩ := Option.bind_eq_some_iff.1 added
      cases same
      exact keyed_alterAt (fun _ _ inner done => Option.some.inj done ▸ inner) keyed altered
  | itemHeader path =>
    unfold add openItem at added
    dsimp only at added
    split at added
    next => cases added
    next =>
      obtain ⟨⟨parent, key⟩, _, rest⟩ := Option.bind_eq_some_iff.1 added
      obtain ⟨root, altered, same⟩ := Option.bind_eq_some_iff.1 rest
      cases same
      exact keyed_alterAt keyed_appendItem keyed altered
  | entry path value =>
    obtain ⟨⟨parent, key⟩, _, rest⟩ := Option.bind_eq_some_iff.1 added
    dsimp only at rest
    split at rest
    next => cases rest
    next =>
      obtain ⟨root, altered, same⟩ := Option.bind_eq_some_iff.1 rest
      cases same
      exact keyed_alterAt (keyed_define (values path value rfl)) keyed altered

theorem InlineDraft.keyed_add {draft after : InlineDraft} (keyed : Keyed draft.root)
    {path : List String} {value : Value} (within : value.Keyed)
    (added : draft.add path value = some after) : Keyed after.root := by
  unfold add at added
  split at added
  next => cases added
  next =>
    obtain ⟨⟨parent, key⟩, _, rest⟩ := Option.bind_eq_some_iff.1 added
    obtain ⟨root, altered, same⟩ := Option.bind_eq_some_iff.1 rest
    cases same
    exact keyed_alterAt (keyed_define within) keyed altered

namespace Reader

variable {α β : Type} {holds : α -> Prop} {given : β -> Prop}

def Gives (holds : α -> Prop) (reader : Reader α) : Prop :=
  ∀ text value rest, reader text = .ok (value, rest) -> holds value

theorem gives_pure {value : α} (good : holds value) : Gives holds (pure value) := by
  intro text _ _ read
  cases read
  exact good

theorem gives_malformed : Gives holds (malformed : Reader α) := nofun

theorem gives_need {found : Option α} (good : ∀ value, found = some value -> holds value) :
    Gives holds (need found) := by
  cases found with
  | none => exact gives_malformed
  | some value => exact gives_pure (good value rfl)

theorem gives_bind {first : Reader β} {next : β -> Reader α} (begins : Gives given first)
    (goesOn : ∀ value, given value -> Gives holds (next value)) : Gives holds (first >>= next) := by
  intro text value rest read
  obtain ⟨⟨middle, after⟩, before, later⟩ := bind_eq_ok.1 read
  exact goesOn middle (begins text middle after before) after value rest later

theorem gives_after {first : Reader β} {next : β -> Reader α}
    (goesOn : ∀ value, Gives holds (next value)) : Gives holds (first >>= next) :=
  gives_bind (fun _ _ _ _ => trivial) fun value (_ : True) => goesOn value

theorem gives_ite {condition : Prop} [Decidable condition] {first second : Reader α}
    (one : Gives holds first) (other : Gives holds second) :
    Gives holds (if condition then first else second) := by
  split
  next => exact one
  next => exact other

/-! No date, time or number is a table. -/

theorem keyed_dateRest (date : Date) (text : List Char) : (dateRest date text).1.Keyed := by
  unfold dateRest
  split
  next => exact nofun
  next => split <;> exact nofun

theorem keyed_decimalNumber {negative : Bool} {whole rest after : List Char} {value : Value}
    (read : decimalNumber negative whole rest = .ok (value, after)) : value.Keyed := by
  unfold decimalNumber at read
  split at read
  next =>
    split at read
    next => cases read
    next =>
      cases read
      exact nofun
  next =>
    cases read
    exact nofun
  next =>
    cases read
    exact nofun

theorem keyed_number? {text after : List Char} {value : Value}
    (read : number? text = .ok (some (value, after))) : value.Keyed := by
  unfold number? at read
  split at read
  next =>
    cases read
    exact nofun
  next =>
    dsimp only at read
    split at read
    next =>
      obtain ⟨⟨found, rest⟩, decimal, same⟩ := map_eq_ok.1 read
      cases same
      exact keyed_decimalNumber decimal
    next =>
      have special := Except.ok.inj read
      unfold specialNumber? at special
      dsimp only at special
      split at special
      next =>
        cases special
        exact nofun
      next =>
        obtain ⟨_, _, same⟩ := Option.map_eq_some_iff.1 special
        cases same
        exact nofun

theorem gives_plainValue : Gives Value.Keyed plainValue := by
  unfold plainValue
  refine gives_after fun text => ?_
  split
  next date rest _ =>
    exact gives_ite (gives_after fun _ => gives_pure (keyed_dateRest date rest)) gives_malformed
  next =>
    split
    next => exact gives_after fun _ => gives_pure nofun
    next =>
      have numbers : Gives (fun found => ∀ pair, found = some pair -> pair.1.Keyed)
          (liftM (number? text) : Reader (Option (Value × List Char))) := by
        intro start found rest read
        obtain ⟨value, is, same⟩ := bind_eq_ok.1 read
        cases same
        rintro pair rfl
        exact keyed_number? is
      refine gives_bind numbers fun found keyed => gives_bind (gives_need keyed) fun _ within => ?_
      exact gives_after fun _ => gives_pure within

theorem gives_value (fuel : Nat) :
    Gives Value.Keyed (value fuel) /\
      ∀ draft : InlineDraft, Keyed draft.root -> Gives Keyed (inlineRest fuel draft) := by
  induction fuel with
  | zero => exact ⟨gives_malformed, fun _ _ => gives_malformed⟩
  | succ fuel ih =>
    obtain ⟨values, tables⟩ := ih
    constructor
    next =>
      unfold value
      have table {reader : Reader Table} (reads : Gives Keyed reader) :
          Gives Value.Keyed (do return .table (<- reader)) :=
        gives_bind reads fun entries keyed => gives_pure (by rintro _ ⟨⟩; exact keyed)
      refine gives_after fun double => gives_ite (gives_after fun _ => gives_pure nofun) ?_
      refine gives_after fun single => gives_ite (gives_after fun _ => gives_pure nofun) ?_
      refine gives_after fun yes => gives_ite (gives_pure nofun) ?_
      refine gives_after fun no => gives_ite (gives_pure nofun) ?_
      refine gives_after fun list =>
        gives_ite (gives_after fun _ => gives_after fun _ => gives_pure nofun) ?_
      refine gives_after fun inline => gives_ite ?_ gives_plainValue
      refine gives_after fun _ => gives_after fun empty => ?_
      exact gives_ite (gives_pure (by rintro _ ⟨⟩; exact .nil)) (table (tables {} .nil))
    next =>
      intro draft keyed
      unfold inlineRest
      refine gives_after fun path => gives_after fun _ => gives_after fun _ => ?_
      refine gives_bind values fun item within => ?_
      refine gives_bind (gives_need fun after added => draft.keyed_add keyed within added) ?_
      intro after keyedAfter
      refine gives_after fun _ => gives_after fun ends => gives_ite (gives_pure keyedAfter) ?_
      exact gives_after fun _ => gives_after fun _ => tables after keyedAfter

theorem gives_statement (fuel : Nat) :
    Gives (fun found => ∀ path value, found = some (.entry path value) -> value.Keyed)
      (statement fuel) := by
  unfold statement
  refine gives_after fun start => gives_ite ?_ ?_
  next =>
    refine gives_after fun path => gives_after fun _ => gives_after fun _ => ?_
    refine gives_bind (gives_value fuel).1 fun item keyed => gives_pure ?_
    rintro _ _ ⟨⟩
    exact keyed
  next =>
    refine gives_after fun item => gives_ite ?_ ?_
    next => exact gives_after fun _ => gives_after fun _ => gives_after fun _ => gives_pure nofun
    next =>
      refine gives_after fun header => gives_ite ?_ (gives_pure nofun)
      exact gives_after fun _ => gives_after fun _ => gives_after fun _ => gives_pure nofun

theorem gives_lines (fuel : Nat) (draft : Draft) (keyed : Keyed draft.root) :
    Gives (fun after => Keyed after.root) (lines fuel draft) := by
  induction fuel generalizing draft with
  | zero => exact gives_malformed
  | succ fuel ih =>
    unfold lines
    refine gives_after fun _ => gives_bind (gives_statement fuel) fun found values => ?_
    have adds : Gives (fun after => Keyed after.root) (addTo draft found) := by
      cases found with
      | none => exact gives_pure keyed
      | some statement =>
        refine gives_need fun after added => draft.keyed_add keyed ?_ added
        rintro path value rfl
        exact values path value rfl
    refine gives_bind adds fun after keyedAfter => ?_
    refine gives_after fun _ => gives_after fun _ => gives_after fun text => ?_
    cases text with
    | nil => exact gives_pure keyedAfter
    | cons c rest => exact gives_ite (gives_after fun _ => ih after keyedAfter) gives_malformed

end Reader

/-- A document that was read has no key twice. -/
theorem keyed_parse {text : String} {document : Table} (read : parse text = .ok document) :
    Keyed document := by
  obtain ⟨⟨draft, rest⟩, ran, rfl⟩ := map_eq_ok.1 read
  exact Reader.gives_lines _ {} .nil _ draft rest ran

end BibEdit.Toml
