import BibEdit.Proofs.Database.Search
import BibEdit.Proofs.Probe.Term

set_option autoImplicit false

namespace BibEdit

namespace Creator

variable {term : String} (alnum : ∀ c ∈ term.toList, c.isAlphanum = true)

include alnum

theorem not_holds_empty (given : term ≠ "") : Library.holds term "" = false := by
  obtain ⟨c, rest, is⟩ := List.exists_cons_of_ne_nil (mt String.toList_eq_nil_iff.1 given)
  have letter := alnum c (by simp [is])
  rw [← Literal.isAlnum_eq] at letter
  have ascii := Literal.ascii_of_alnum letter
  show (Unicode.fold term.toList).isEmpty = false
  rw [is, ← List.singleton_append, Unicode.fold_append]
  simp [Unicode.fold, Unicode.foldChar, Unicode.foldCode, ascii]

theorem creatorHolds_iff (given : term ≠ "") (creator : Creator) :
    Library.creatorHolds term creator = true <->
      ∃ part, Library.holds term (creator.get part) = true := by
  constructor
  next =>
    intro held
    unfold Library.creatorHolds at held
    simp only [List.any_cons, List.any_nil, Bool.or_false, Bool.or_eq_true] at held
    rcases held with first | last | full
    next => exact ⟨.firstName, first⟩
    next => exact ⟨.lastName, last⟩
    next =>
      -- A full name with something in it is the one that is shown.
      have shown : creator.fullName ≠ "" := by
        intro empty
        rw [empty, not_holds_empty alnum given] at full
        cases full
      exact ⟨.fullName, by simpa [get, displayName, shown] using full⟩
  next =>
    rintro ⟨part, held⟩
    exact creatorHolds_of_get (fun c member => (Literal.isAlnum_eq c).trans (alnum c member))
      creator part held

end Creator

namespace Database

namespace Tables

theorem mem_select {tables : Tables} (lawful : tables.Lawful) {libraryId : Option Int}
    (askable : libraryId.all isStorable = true) (answers : RecordRow -> Bool) :
    ∃ ids, tables.select answers libraryId = .ok ids /\
      ∀ id, id ∈ ids <-> ∃ row ∈ tables.records, row.id = id /\ inScope libraryId row = true /\
        answers row = true := by
  unfold select
  rw [Library.requireScope_eq, if_pos askable]
  refine ⟨_, rfl, fun id => ?_⟩
  have apart : ((tables.records.filter fun row => answers row && inScope libraryId row).map
      RecordRow.id).Nodup := lawful.recordIds.sublist (List.filter_sublist.map _)
  simp only [List.mem_map, mem_sortBy _ apart, List.mem_filter, Bool.and_eq_true]
  constructor
  next =>
    rintro ⟨row, ⟨member, answered, within⟩, is⟩
    exact ⟨row, member, is, within, answered⟩
  next =>
    rintro ⟨row, member, is, within, answered⟩
    exact ⟨row, ⟨member, answered, within⟩, is⟩

end Tables

/-- A term of letters and digits that is in a creator's name as it is shown is in one of the three
names that are stored. So a probe of the creators for it selects the records in scope that have a
creator with the term in the first name, the last name or the name that is shown, and no others. -/
theorem creator_probe_selects (term : String) (alnum : ∀ c ∈ term.toList, c.isAlphanum = true)
    (given : term ≠ "") :
    (∀ creator : Creator, Library.holds term creator.displayName = true ->
      Library.holds term creator.firstName = true \/ Library.holds term creator.lastName = true \/
        Library.holds term creator.fullName = true) /\
    ∀ (tables : Tables) (libraryId : Option Int), tables.Lawful -> libraryId.all isStorable = true ->
      ∃ ids, tables.query ⟨"creator", .contains, term⟩ libraryId = .ok ids /\
        ∀ id, id ∈ ids <-> ∃ row ∈ tables.records, row.id = id /\
          Tables.inScope libraryId row = true /\
          ∃ creator ∈ tables.creators, creator.recordId = row.id /\
            ∃ part, Library.holds term (creator.creator.get part) = true := by
  refine ⟨fun creator shown => ?_, fun tables libraryId lawful askable => ?_⟩
  next =>
    have stored := (Creator.creatorHolds_iff alnum given creator).2 ⟨.fullName, shown⟩
    simpa [Library.creatorHolds] using stored
  next =>
    obtain ⟨ids, selected, members⟩ := Tables.mem_select lawful askable fun row =>
      tables.creators.any fun creator =>
        creator.recordId == row.id && Library.creatorHolds term creator.creator
    refine ⟨ids, selected, fun id => ?_⟩
    simp only [members, List.any_eq_true, Bool.and_eq_true, beq_iff_eq,
      Creator.creatorHolds_iff alnum given]

def adaLovelace : Creator := ⟨"Ada", "Lovelace", "", "editor"⟩

theorem creator_probe_selects_lovelace :
    (∀ c ∈ "LOVE".toList, c.isAlphanum = true) /\ "LOVE" ≠ "" /\ datedTables.Lawful /\
      Library.holds "LOVE" adaLovelace.displayName = true /\
      (Library.holds "LOVE" adaLovelace.firstName = true \/
        Library.holds "LOVE" adaLovelace.lastName = true \/
        Library.holds "LOVE" adaLovelace.fullName = true) /\
      ∃ ids, datedTables.query ⟨"creator", .contains, "LOVE"⟩ (some 1) = .ok ids /\ 1 ∈ ids := by
  have lawful : datedTables.Lawful := by constructor <;> decide
  have shown : Library.holds "LOVE" adaLovelace.displayName = true := by decide +kernel
  have alnum : ∀ c ∈ "LOVE".toList, c.isAlphanum = true := List.all_eq_true.1 (by decide)
  obtain ⟨stored, probed⟩ := creator_probe_selects "LOVE" alnum (by decide)
  obtain ⟨ids, selected, members⟩ := probed datedTables (some 1) lawful (by decide)
  refine ⟨alnum, by decide, lawful, shown, stored adaLovelace shown, ids, selected, ?_⟩
  exact (members 1).2 ⟨⟨1, "A", 1, some "book"⟩, by decide, rfl, by decide, ⟨1, 2, adaLovelace⟩,
    by decide, rfl, .fullName, shown⟩

end Database

end BibEdit
