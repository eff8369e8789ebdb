import BibEdit.Proofs.Success
import BibEdit.Revision

set_option autoImplicit false

/-! What edits make of a record, and that the staging of changes is no more than edits. -/

namespace BibEdit

namespace Record

inductive EditedFrom (record : Record) : Record -> Prop where
  | none : EditedFrom record record
  | setField (edited after : Record) (name : String) (value : Option String)
      (before : EditedFrom record edited) (done : edited.setField name value = some after) :
      EditedFrom record after
  | setCreators (edited : Record) (creators : List Creator) (before : EditedFrom record edited) :
      EditedFrom record (edited.setCreators creators)

theorem setField_eq_some (record after : Record) (name : String) (value : Option String) :
    record.setField name value = some after <->
      Field.isScalarName name = true /\ { record with
        fields := putEntry name value record.fields
        dirtyFields :=
          if record.dirtyFields.contains name then record.dirtyFields
          else record.dirtyFields ++ [name] } = after := by
  by_cases scalar : Field.isScalarName name = true <;> simp [setField, scalar]

theorem editedFrom_setField (record edited : Record) (name : String) (value : Option String)
    (edits : record.EditedFrom edited) :
    record.EditedFrom ((edited.setField name value).getD edited) := by
  cases done : edited.setField name value with
  | none => exact edits
  | some after => exact .setField edited after name value edits done

def identity (record : Record) : Int × String := (record.id, record.key)

theorem EditedFrom.identity {record edited : Record} (edits : record.EditedFrom edited) :
    edited.identity = record.identity := by
  induction edits with
  | none => rfl
  | setField edited after name value _ done ih =>
    obtain ⟨_, rfl⟩ := (setField_eq_some edited after name value).1 done
    exact ih
  | setCreators edited creators _ ih => exact ih

theorem EditedFrom.id {record edited : Record} (edits : record.EditedFrom edited) :
    edited.id = record.id := congrArg Prod.fst edits.identity

theorem EditedFrom.key {record edited : Record} (edits : record.EditedFrom edited) :
    edited.key = record.key := congrArg Prod.snd edits.identity

def MarksScalar (record : Record) : Prop :=
  ∀ name ∈ record.dirtyFields, Field.isScalarName name = true

theorem EditedFrom.marksScalar {record edited : Record} (edits : record.EditedFrom edited)
    (marked : record.MarksScalar) : edited.MarksScalar := by
  induction edits with
  | none => exact marked
  | setField edited after name value _ done ih =>
    obtain ⟨scalar, rfl⟩ := (setField_eq_some edited after name value).1 done
    intro other member
    dsimp only at member
    split at member
    next => exact ih other member
    next =>
      rcases List.mem_append.1 member with old | new
      next => exact ih other old
      next => rwa [List.mem_singleton.1 new]
  | setCreators edited creators _ ih => exact ih

end Record

namespace Revision

theorem editedFrom_stage (record edited after : Record) (change : Change)
    (edits : record.EditedFrom edited) (staged : stage edited change = .ok after) :
    record.EditedFrom after := by
  unfold stage at staged
  split at staged
  next =>
    obtain ⟨creators, _, same⟩ := bind_eq_ok.1 staged
    cases same
    exact .setCreators edited creators edits
  next =>
    split at staged
    next written =>
      cases staged
      exact .setField edited _ _ _ edits written
    next => cases staged

theorem editedFrom_stageAll (changes : List Change) (record edited : Record)
    (edits : record.EditedFrom edited) : record.EditedFrom (stageAll edited changes).1 := by
  induction changes generalizing edited with
  | nil => exact edits
  | cons change rest ih =>
    unfold stageAll
    split
    next after staged => exact ih after (editedFrom_stage record edited after change edits staged)
    next => exact edits

end Revision

end BibEdit
