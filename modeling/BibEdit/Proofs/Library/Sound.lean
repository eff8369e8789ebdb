import BibEdit.Library.Workspace
import BibEdit.Proofs.Ascending
import BibEdit.Proofs.Library.Save

set_option autoImplicit false

/-! What holds of every library that is filled by imports and changed by saves and deletions. -/

namespace BibEdit

/-- What holds of a record in a library. What its creators are like is left open. -/
structure Entry.Sound (fit : Creator -> Prop) (known : Int -> Bool) (entry : Entry) : Prop where
  idPositive : 1 <= entry.id
  idStorable : isStorable entry.id = true
  libraryStorable : isStorable entry.libraryId = true
  keyGiven : entry.key ≠ ""
  typeKnown : ∀ name, entry.itemType = some name -> name ∈ ItemType.names
  fieldsAscending : Ascending Prod.fst entry.fields
  fieldsScalar : ∀ field ∈ entry.fields, Field.isScalarName field.1 = true
  creatorsFit : ∀ creator ∈ entry.creators, fit creator
  tagsDistinct : entry.tags.Nodup
  collectionsAscending : Ascending (fun number => number) entry.collections
  collectionsKnown : ∀ collection ∈ entry.collections, known collection = true

theorem Entry.Sound.mono {fit : Creator -> Prop} {known known' : Int -> Bool} {entry : Entry}
    (sound : entry.Sound fit known)
    (wider : ∀ collection, known collection = true -> known' collection = true) :
    entry.Sound fit known' :=
  { sound with
    collectionsKnown := fun collection member =>
      wider collection (sound.collectionsKnown collection member) }

/-- A loaded record whose changes can be written: they are to scalar fields, which have values. -/
structure Record.Sound (fit : Creator -> Prop) (record : Record) : Prop where
  dirtyScalar : ∀ name ∈ record.dirtyFields, Field.isScalarName name = true
  creatorsFit : ∀ creator ∈ record.creators, fit creator

namespace Library

structure Sound (fit : Creator -> Prop) (library : Library) : Prop where
  ascending : Ascending Entry.id library.entries
  keys : (library.entries.map Entry.key).Nodup
  collectionsAscending : Ascending Collection.id library.collections
  collectionsStorable : ∀ collection ∈ library.collections,
    isStorable collection.id = true /\ isStorable collection.libraryId = true
  entries : ∀ entry ∈ library.entries, entry.Sound fit library.hasCollection

/-- Numbers and keys each stand for one record, and numbers of collections for one collection. -/
structure Keyed (library : Library) : Prop where
  ascending : Ascending Entry.id library.entries
  keys : (library.entries.map Entry.key).Nodup
  collectionsAscending : Ascending Collection.id library.collections

variable {fit : Creator -> Prop}

theorem Sound.keyed {library : Library} (sound : library.Sound fit) : library.Keyed where
  ascending := sound.ascending
  keys := sound.keys
  collectionsAscending := sound.collectionsAscending

theorem sound_empty : Sound fit {} where
  ascending := List.Pairwise.nil
  keys := List.nodup_nil
  collectionsAscending := List.Pairwise.nil
  collectionsStorable := by simp
  entries := by simp

theorem requireStorable_eq_ok (number : Int) (fits : requireStorable number = .ok ()) :
    isStorable number = true := by
  unfold requireStorable at fits
  split at fits
  next storable => exact storable
  next => cases fits

theorem keyed_putEntry (library : Library) (entry : Entry) (keyed : library.Keyed)
    (own : ∀ other ∈ library.entries, other.key = entry.key -> other.id = entry.id) :
    (library.putEntry entry).Keyed := by
  have members := fun other => mem_place entry other library.entries keyed.ascending
  have ascending := ascending_place entry library.entries keyed.ascending
  exact { keyed with
    ascending := ascending
    keys := by
      refine List.Nodup.map_on ?_ (List.Nodup.of_map _ (ascending.nodup_ranks _))
      intro first member second other same
      rcases (members first).1 member with rfl | ⟨old, apart⟩
      next =>
        rcases (members second).1 other with rfl | ⟨old, apart⟩
        next => rfl
        next => exact absurd (own second old same.symm) apart
      next =>
        rcases (members second).1 other with rfl | ⟨old', apart'⟩
        next => exact absurd (own first old same) apart
        next => exact List.inj_on_of_nodup_map keyed.keys old old' same }

theorem sound_putEntry (library : Library) (entry : Entry) (sound : library.Sound fit)
    (soundEntry : entry.Sound fit library.hasCollection)
    (own : ∀ other ∈ library.entries, other.key = entry.key -> other.id = entry.id) :
    (library.putEntry entry).Sound fit := by
  have keyed := keyed_putEntry library entry sound.keyed own
  exact { sound with
    ascending := keyed.ascending
    keys := keyed.keys
    entries := by
      intro other member
      rcases (mem_place entry other library.entries sound.ascending).1 member with rfl | ⟨old, _⟩
      next => exact soundEntry
      next => exact sound.entries other old }

theorem sound_delete (library after : Library) (id : Int) (sound : library.Sound fit)
    (deleted : library.delete id = .ok after) : after.Sound fit := by
  obtain ⟨_, _, same⟩ := bind_eq_ok.1 deleted
  cases same
  exact { sound with
    ascending := sound.ascending.filter _ _
    keys := sound.keys.sublist (List.filter_sublist.map Entry.key)
    entries := fun entry member => sound.entries entry (List.mem_filter.1 member).1 }

def FieldsSound (fields : List (String × String)) : Prop :=
  Ascending Prod.fst fields /\ ∀ field ∈ fields, Field.isScalarName field.1 = true

theorem fieldsSound_writeFields (locked : Bool) (record : Record)
    (fields after : List (String × String)) (sound : FieldsSound fields)
    (dirtyScalar : ∀ name ∈ record.dirtyFields, Field.isScalarName name = true)
    (written : writeFields locked record fields = .ok after) : FieldsSound after := by
  refine foldlM_keeps FieldsSound _ (sortNames record.dirtyFields) ?_ fields after sound written
  intro state name next member ⟨ascending, scalar⟩ wrote
  unfold writeField at wrote
  split at wrote
  next => cases wrote
  next value _ =>
    split at wrote
    next => cases wrote
    next =>
      cases wrote
      refine ⟨ascending_place _ _ ascending, fun field among => ?_⟩
      rcases (mem_place (name, value) field state ascending).1 among with rfl | ⟨old, _⟩
      next => exact dirtyScalar name ((sortNames_mem _ name).1 member)
      next => exact scalar field old

theorem sound_save (library : Library) (record : Record) (sound : library.Sound fit)
    (soundRecord : record.Sound fit) : (save record library).2.Sound fit := by
  unfold save
  split
  next => exact sound
  next =>
    split
    next => exact sound
    next entry found =>
      obtain ⟨member, _⟩ := entry?_eq_some library record.id entry found
      split
      next => exact sound
      next after done =>
        obtain ⟨fields, written, rfl⟩ := updated_eq_ok _ _ _ _ done
        have old := sound.entries entry member
        obtain ⟨ascending, scalar⟩ := fieldsSound_writeFields _ _ _ _
          ⟨old.fieldsAscending, old.fieldsScalar⟩ soundRecord.dirtyScalar written
        refine sound_putEntry library _ sound { old with
          fieldsAscending := ascending
          fieldsScalar := scalar
          creatorsFit := ?_ } ?_
        next =>
          dsimp only
          split
          next => exact soundRecord.creatorsFit
          next => exact old.creatorsFit
        next =>
          intro other among same
          rw [List.inj_on_of_nodup_map sound.keys among member same]

end Library

end BibEdit
