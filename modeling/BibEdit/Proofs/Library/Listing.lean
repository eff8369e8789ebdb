import BibEdit.Library.Import
import BibEdit.Proofs.Ascending
import BibEdit.Proofs.Success

set_option autoImplicit false

/-! What holds of the records that a document lists. -/

namespace BibEdit.Library

structure ListedRecord.Checked (listed : ListedRecord) : Prop where
  keyGiven : listed.key ≠ ""
  typeKnown : ∀ name, listed.itemType = some name -> name ∈ ItemType.names
  fieldsScalar : ∀ field ∈ listed.fields, Field.isScalarName field.1 = true
  typesGiven : ∀ parts ∈ listed.creators, parts.creatorType.isBlank = false

namespace Document

theorem demand_eq_ok {α : Type} (text : String) (value : Option α) (result : α) :
    demand text value = .ok result <-> value = some result := by
  cases value <;> simp [demand, fail]

theorem itemType_known (table : Toml.Table) (result : Option String)
    (given : itemType table = .ok result) (name : String) (named : result = some name) :
    name ∈ ItemType.names := by
  unfold itemType at given
  split at given
  next =>
    cases given
    cases named
  next =>
    split at given
    next found filtered =>
      cases given
      cases named
      simpa using (Option.filter_eq_some_iff.1 filtered).2
    next => cases given

theorem field_scalar (entry : String × Toml.Value) (result : String × String)
    (given : field entry = .ok result) : Field.isScalarName result.1 = true := by
  unfold field at given
  split at given
  next => cases given
  next scalar =>
    obtain ⟨text, _, rfl⟩ := map_eq_ok.1 given
    simpa using scalar

theorem fields_scalar (table : Toml.Table) (result : List (String × String))
    (given : fields table = .ok result) : ∀ field ∈ result, Field.isScalarName field.1 = true := by
  unfold fields at given
  split at given
  next =>
    cases given
    simp
  next =>
    obtain ⟨entries, _, each⟩ := bind_eq_ok.1 given
    intro field member
    obtain ⟨entry, _, checked⟩ := forall₂_mem_right _ _ (mapM_eq_ok.1 each) field member
    exact field_scalar entry field checked

theorem part_not_blank (table : Toml.Table) (key fallback : String) (given : fallback ≠ "") :
    (part table key fallback).isBlank = false := by
  have plain : (Toml.Value.string fallback).isBlank = false := by
    simpa [Toml.Value.isBlank] using given
  unfold part
  split
  next value _ =>
    by_cases blank : value.isBlank = true
    next => simp [blank, plain]
    next => simp [blank]
  next => exact plain

theorem creator_type_given (value : Toml.Value) (result : CreatorOf Toml.Value)
    (given : creator value = .ok result) : result.creatorType.isBlank = false := by
  obtain ⟨table, _, same⟩ := bind_eq_ok.1 given
  cases same
  exact part_not_blank table "creatorType" defaultCreatorType (by decide)

theorem record_checked (value : Toml.Value) (result : ListedRecord)
    (given : record value = .ok result) : result.Checked := by
  unfold record at given
  obtain ⟨table, _, given⟩ := bind_eq_ok.1 given
  obtain ⟨keyValue, _, given⟩ := bind_eq_ok.1 given
  obtain ⟨key, keyGiven, given⟩ := bind_eq_ok.1 given
  obtain ⟨libraryId, _, given⟩ := bind_eq_ok.1 given
  obtain ⟨itemType, typeGiven, given⟩ := bind_eq_ok.1 given
  obtain ⟨fields, fieldsGiven, given⟩ := bind_eq_ok.1 given
  obtain ⟨creatorItems, _, given⟩ := bind_eq_ok.1 given
  obtain ⟨creators, creatorsGiven, given⟩ := bind_eq_ok.1 given
  obtain ⟨tagItems, _, given⟩ := bind_eq_ok.1 given
  obtain ⟨tags, _, given⟩ := bind_eq_ok.1 given
  obtain ⟨collections, _, given⟩ := bind_eq_ok.1 given
  split at given
  next =>
    cases given
    exact {
      keyGiven := by
        have filtered := (demand_eq_ok _ _ _).1 keyGiven
        simpa using (Option.filter_eq_some_iff.1 filtered).2
      typeKnown := itemType_known table itemType typeGiven
      fieldsScalar := Document.fields_scalar table fields fieldsGiven
      typesGiven := by
        intro parts member
        obtain ⟨item, _, checked⟩ :=
          forall₂_mem_right _ _ (mapM_eq_ok.1 creatorsGiven) parts member
        exact creator_type_given item parts checked }
  next => cases given

theorem checkAll_mem {α : Type} (check : Toml.Value -> Checked α) (error : Nat -> Refusal -> Error)
    (items : List Toml.Value) (index : Nat) (results : List α)
    (given : checkAll check error index items = .ok results) :
    ∀ result ∈ results, ∃ item, check item = .ok result := by
  induction items generalizing index results with
  | nil =>
    cases given
    simp
  | cons item rest ih =>
    unfold checkAll at given
    split at given
    next => cases given
    next value checked =>
      obtain ⟨values, later, same⟩ := bind_eq_ok.1 given
      cases same
      intro result member
      rcases List.mem_cons.1 member with rfl | among
      next => exact ⟨item, checked⟩
      next => exact ih (index + 1) values later result among

theorem listing_checked (document : Toml.Table) (result : Listing)
    (given : listing document = .ok result) : ∀ listed ∈ result.records, listed.Checked := by
  unfold listing at given
  obtain ⟨_, _, given⟩ := bind_eq_ok.1 given
  obtain ⟨collections, _, given⟩ := bind_eq_ok.1 given
  obtain ⟨items, _, given⟩ := bind_eq_ok.1 given
  obtain ⟨records, checked, same⟩ := bind_eq_ok.1 given
  cases same
  intro listed member
  obtain ⟨item, one⟩ := checkAll_mem _ _ _ _ _ checked listed member
  exact record_checked item listed one

end Document

theorem readListing_eq_ok (path text : String) (listing : Listing) :
    readListing path (some text) = .ok listing <->
      ∃ document, Toml.parse text = .ok document /\ Document.listing document = .ok listing := by
  unfold readListing
  dsimp only
  cases Toml.parse text with
  | error flaw => cases flaw <;> simp
  | ok document => simp [mapError_eq_ok]

theorem readListing_checked (path : String) (content : Option String) (listing : Listing)
    (given : readListing path content = .ok listing) :
    ∀ listed ∈ listing.records, listed.Checked := by
  cases content with
  | none => cases given
  | some text =>
    obtain ⟨document, _, lists⟩ := (readListing_eq_ok path text listing).1 given
    exact Document.listing_checked document listing lists

theorem layout_write_ne_nil (number : Decimal.Number) : storedLayout.write number ≠ [] := by
  unfold Decimal.Layout.write
  dsimp only
  split
  next => split <;> simp
  next => simp [Decimal.exponentText]

theorem date_iso_ne_nil (date : Toml.Date) : date.iso ≠ [] := by
  simp [Toml.Date.iso]

theorem momentIso_ne_nil (date : Toml.Date) (time : Toml.Time) (offset : Option Int) :
    Toml.momentIso date time offset ≠ [] := by
  simp [Toml.momentIso]

theorem ofList_ne_empty (text : List Char) (given : text ≠ []) : String.ofList text ≠ "" := by
  intro same
  exact given (by simpa using congrArg String.toList same)

theorem toString_int_ne_empty (number : Int) : toString number ≠ "" := by
  cases number with
  | ofNat natural => exact Nat.repr_ne_empty
  | negSucc natural =>
    show "-" ++ (natural + 1).repr ≠ ""
    intro empty
    simpa using congrArg String.toList empty

theorem storedText_ne_empty (value : Toml.Value) (text : String) (given : value.isBlank = false)
    (stored : storedText value = .ok (some text)) : text ≠ "" := by
  cases value with
  | string text =>
    cases stored
    simpa [Toml.Value.isBlank] using given
  | integer number =>
    obtain ⟨_, _, same⟩ := bind_eq_ok.1 stored
    cases same
    exact toString_int_ne_empty number
  | boolean truth =>
    cases stored
    cases truth <;> decide
  | float number =>
    unfold storedText storedFloat at stored
    cases number with
    | nan => cases stored
    | infinite negative =>
      cases stored
      cases negative <;> decide
    | finite negative mantissa exponent =>
      cases stored
      refine ofList_ne_empty _ ?_
      cases negative
      next =>
        simp only [Bool.false_eq_true, if_false]
        split
        next => decide
        next => exact layout_write_ne_nil _
      next => simp
  | date date =>
    have same : String.ofList date.iso = text := Option.some.inj (Except.ok.inj stored)
    rw [← same]
    exact ofList_ne_empty _ (date_iso_ne_nil date)
  | moment date time offset =>
    have same : String.ofList (Toml.momentIso date time offset) = text :=
      Option.some.inj (Except.ok.inj stored)
    rw [← same]
    exact ofList_ne_empty _ (momentIso_ne_nil date time offset)
  | time _ => cases stored
  | array _ => cases stored
  | table _ => cases stored

theorem present_eq_ok (column : String) (value : Option String) (text : String) :
    present column value = .ok text <-> value = some text := by
  cases value <;> simp [present]

theorem storedCreator_eq_ok (parts : CreatorOf Toml.Value) (creator : Creator) :
    storedCreator parts = .ok creator <->
      storedText parts.firstName = .ok (some creator.firstName) /\
      storedText parts.lastName = .ok (some creator.lastName) /\
      storedText parts.fullName = .ok (some creator.fullName) /\
      storedText parts.creatorType = .ok (some creator.creatorType) := by
  unfold storedCreator
  simp only [bind_eq_ok, present_eq_ok]
  constructor
  next =>
    rintro ⟨_, first, _, last, _, full, _, type, _, rfl, _, rfl, _, rfl, _, rfl, same⟩
    cases same
    exact ⟨first, last, full, type⟩
  next =>
    rintro ⟨first, last, full, type⟩
    exact ⟨_, first, _, last, _, full, _, type, _, rfl, _, rfl, _, rfl, _, rfl, rfl⟩

theorem storedCreator_type (parts : CreatorOf Toml.Value) (creator : Creator)
    (given : parts.creatorType.isBlank = false) (stored : storedCreator parts = .ok creator) :
    creator.creatorType ≠ "" := by
  obtain ⟨_, _, _, type⟩ := (storedCreator_eq_ok parts creator).1 stored
  exact storedText_ne_empty _ _ given type

end BibEdit.Library
