import BibEdit.Proofs.Lookup
import BibEdit.Toml.Reader
import Mathlib.Data.List.Forall2
import Mathlib.Data.List.Nodup

set_option autoImplicit false

/-! Values that differ at most in the order in which tables list their entries. -/

namespace BibEdit.Toml

inductive Same : Value -> Value -> Prop where
  | refl (value : Value) : Same value value
  | array (items others : List Value) (each : List.Forall₂ Same items others) :
      Same (.array items) (.array others)
  | table (entries reordered others : Table) (order : entries.Perm reordered)
      (names : reordered.map Prod.fst = others.map Prod.fst)
      (each : List.Forall₂ Same (reordered.map Prod.snd) (others.map Prod.snd)) :
      Same (.table entries) (.table others)

/-- What is written of a document reads back, up to the order of tables. -/
structure ReadsBack [Writer] (document read : Table) : Prop where
  parsed : parse (Writer.write document) = .ok read
  same : Same (.table document) (.table read)

theorem same_of_perm (entries others : Table) (order : entries.Perm others) :
    Same (.table entries) (.table others) :=
  .table entries others others order rfl (List.forall₂_same.2 fun value _ => .refl value)

theorem same_string (text : String) (other : Value) (same : Same (.string text) other) :
    other = .string text := by
  cases same
  rfl

theorem same_integer (number : Int) (other : Value) (same : Same (.integer number) other) :
    other = .integer number := by
  cases same
  rfl

theorem same_array (items : List Value) (other : Value) (same : Same (.array items) other) :
    ∃ others, other = .array others /\ List.Forall₂ Same items others := by
  cases same with
  | refl => exact ⟨items, rfl, List.forall₂_same.2 fun item _ => .refl item⟩
  | array _ others each => exact ⟨others, rfl, each⟩

def SameEntries (entries others : Table) : Prop :=
  List.Forall₂ (fun entry other => entry.1 = other.1 /\ Same entry.2 other.2) entries others

theorem sameEntries_of_columns (entries others : Table)
    (names : entries.map Prod.fst = others.map Prod.fst)
    (each : List.Forall₂ Same (entries.map Prod.snd) (others.map Prod.snd)) :
    SameEntries entries others := by
  induction entries generalizing others with
  | nil =>
    cases others with
    | nil => exact .nil
    | cons other others => cases names
  | cons entry entries ih =>
    cases others with
    | nil => cases names
    | cons other others =>
      obtain ⟨here, later⟩ := List.forall₂_cons.1 each
      obtain ⟨same, names⟩ := List.cons.inj names
      exact .cons ⟨same, here⟩ (ih others names later)

theorem same_table (entries : Table) (other : Value) (same : Same (.table entries) other) :
    ∃ reordered others, other = .table others /\ entries.Perm reordered /\
      SameEntries reordered others := by
  cases same with
  | refl =>
    exact ⟨entries, entries, rfl, List.Perm.refl _,
      List.forall₂_same.2 fun entry _ => ⟨rfl, .refl entry.2⟩⟩
  | table _ reordered others order names each =>
    exact ⟨reordered, others, rfl, order, sameEntries_of_columns reordered others names each⟩

theorem same_map {α : Type} (write : α -> Value) (items : List α) (others : List Value)
    (exactItem : ∀ item other, Same (write item) other -> other = write item)
    (each : List.Forall₂ Same (items.map write) others) : others = items.map write := by
  rw [List.forall₂_map_left_iff] at each
  induction each with
  | nil => rfl
  | cons here _ ih => rw [List.map_cons, exactItem _ _ here, ih]

theorem map_fst_of_same (reordered others : Table)
    (each : SameEntries reordered others) : others.map Prod.fst = reordered.map Prod.fst := by
  induction each with
  | nil => rfl
  | cons here _ ih => rw [List.map_cons, List.map_cons, ih, here.1]

theorem lookup_same (entries reordered others : Table) (apart : (entries.map Prod.fst).Nodup)
    (order : entries.Perm reordered) (each : SameEntries reordered others) (key : String) :
    match entries.lookup key with
    | some value => ∃ other, others.lookup key = some other /\ Same value other
    | none => others.lookup key = none := by
  have keys := map_fst_of_same reordered others each
  have apartOthers : (others.map Prod.fst).Nodup := by
    rw [keys]
    exact (order.map Prod.fst).nodup_iff.1 apart
  cases found : entries.lookup key with
  | none =>
    rw [lookup_eq_none_iff] at found
    dsimp only
    rw [lookup_eq_none_iff, keys]
    exact fun member => found ((order.map Prod.fst).mem_iff.2 member)
  | some value =>
    have member := order.mem_iff.1 ((lookup_eq_some_iff entries apart key value).1 found)
    dsimp only
    clear keys found order apart
    induction each with
    | nil => cases member
    | @cons entry other reordered others here rest ih =>
      obtain ⟨name, content⟩ := other
      rcases List.mem_cons.1 member with first | later
      next =>
        refine ⟨content, ?_, ?_⟩
        next =>
          have named : key = name := (congrArg Prod.fst first).trans here.1
          simp [named]
        next =>
          have same := here.2
          rwa [← first] at same
      next =>
        obtain ⟨fresh, apartRest⟩ := List.nodup_cons.1 apartOthers
        obtain ⟨found, looked, same⟩ := ih apartRest later
        refine ⟨found, ?_, same⟩
        have differs : key ≠ name := by
          rintro rfl
          have member := (lookup_eq_some_iff others apartRest key found).1 looked
          exact fresh (List.mem_map.2 ⟨_, member, rfl⟩)
        have unequal : (key == name) = false := by simpa using differs
        rw [List.lookup_cons, unequal, looked]

end BibEdit.Toml
