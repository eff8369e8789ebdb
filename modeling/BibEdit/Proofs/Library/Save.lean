import BibEdit.Library.Save
import BibEdit.Proofs.Ascending
import BibEdit.Proofs.Success

set_option autoImplicit false

/-! What a save that succeeds has done. -/

namespace BibEdit

theorem Record.clean_of_not_dirty (record : Record) (untouched : record.isDirty = false) :
    record.clean = record := by
  simp [Record.isDirty] at untouched
  simp [Record.clean, ← untouched.1, ← untouched.2]

namespace Library

theorem save_of_dirty (record : Record) (library : Library) (dirty : record.isDirty = true) :
    save record library =
      match library.entry? record.id with
      | none => (.error (.gone record.key), library)
      | some entry =>
        match updated library.locked record entry with
        | .error fault => (.error fault, library)
        | .ok entry => (.ok record.clean, library.putEntry entry) := by
  rw [save, dirty]
  rfl

theorem save_eq_ok (record saved : Record) (library after : Library)
    (done : save record library = (.ok saved, after)) : saved = record.clean := by
  unfold save at done
  split at done
  next untouched =>
    cases done
    exact (record.clean_of_not_dirty (by simpa using untouched)).symm
  next =>
    split at done
    next => cases done
    next =>
      split at done <;> cases done
      rfl

theorem sortNames_mem (names : List String) (name : String) :
    name ∈ sortNames names <-> name ∈ names := by
  unfold sortNames
  rw [List.mem_mergeSort]

theorem updated_eq_ok (locked : Bool) (record : Record) (entry after : Entry)
    (done : updated locked record entry = .ok after) :
    ∃ fields, writeFields locked record entry.fields = .ok fields /\
      after = { entry with
        fields := fields
        creators := if record.dirtyCreators then record.creators else entry.creators } := by
  obtain ⟨fields, written, same⟩ := bind_eq_ok.1 done
  cases same
  exact ⟨fields, written, rfl⟩

theorem entry?_eq_some (library : Library) (id : Int) (entry : Entry)
    (found : library.entry? id = some entry) : entry ∈ library.entries /\ entry.id = id :=
  ⟨List.mem_of_find?_eq_some found, by simpa using List.find?_some found⟩

theorem entry?_of_mem (library : Library) (ascending : Ascending Entry.id library.entries)
    (entry : Entry) (member : entry ∈ library.entries) : library.entry? entry.id = some entry := by
  cases found : library.entry? entry.id with
  | none => exact absurd (by simp) (List.find?_eq_none.1 found entry member)
  | some other =>
    obtain ⟨among, same⟩ := entry?_eq_some library entry.id other found
    rw [ascending.eq_of_rank _ other entry among member same]

end Library

end BibEdit
