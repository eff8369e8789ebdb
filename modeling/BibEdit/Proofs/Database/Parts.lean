import BibEdit.Proofs.Database.Tables

set_option autoImplicit false

/-! The parts of a record: how they are written anew, and how they are read. -/

namespace BibEdit.Database.Tables

/-- The rows of the tags from a position on: a tag that was seen has its row already. -/
def tagRows (id : Int) (seen : List String) : Nat -> List String -> List TagRow
  | _, [] => []
  | position, tag :: rest =>
    if tag ∈ seen then tagRows id seen (position + 1) rest
    else ⟨id, tag, position⟩ :: tagRows id (seen ++ [tag]) (position + 1) rest

def creatorRows (id : Int) (position : Nat) (creators : List Creator) : List CreatorRow :=
  (creators.zipIdx position).map fun placed => ⟨id, placed.2, placed.1⟩

def fieldRows (id : Int) (fields : List (String × String)) : List FieldRow :=
  fields.map fun field => ⟨id, field.1, field.2⟩

def membershipRows (id : Int) (collections : List Int) : List MembershipRow :=
  (distinct collections).map fun collection => ⟨id, collection⟩

def withParts (tables : Tables) (id : Int) (fields : List (String × String))
    (creators : List Creator) (tags : List String) (collections : List Int) : Tables :=
  { tables with
    fields := tables.fields.filter (fun row => row.recordId != id) ++ fieldRows id fields
    creators := tables.creators.filter (fun row => row.recordId != id) ++ creatorRows id 1 creators
    tags := tables.tags.filter (fun row => row.recordId != id) ++ tagRows id [] 1 tags
    memberships := tables.memberships.filter (fun row => row.recordId != id) ++
      membershipRows id collections }

theorem insertFields_eq (id : Int) (fields : List (String × String)) (tables : Tables)
    (there : tables.hasRecord id = true) (apart : (fields.map Prod.fst).Nodup)
    (fresh : ∀ row ∈ tables.fields, row.recordId = id -> row.name ∉ fields.map Prod.fst) :
    fields.foldlM (fun tables field => tables.insertField ⟨id, field.1, field.2⟩) tables =
      .ok { tables with fields := tables.fields ++ fieldRows id fields } := by
  induction fields generalizing tables with
  | nil => simp [pure, Except.pure, fieldRows]
  | cons field rest ih =>
    obtain ⟨name, value⟩ := field
    obtain ⟨first, later⟩ := List.nodup_cons.1 apart
    have untaken : (tables.fields.any fun old => old.recordId == id && old.name == name) = false := by
      rw [List.any_eq_false]
      intro row member
      have other := fresh row member
      grind
    have inserted : tables.insertField ⟨id, name, value⟩ =
        .ok { tables with fields := tables.fields ++ [⟨id, name, value⟩] } := by
      simp only [insertField, untaken, there]
      rfl
    rw [List.foldlM_cons]
    dsimp only
    rw [inserted]
    refine (ih _ ?_ later ?_).trans ?_
    next => exact there
    next =>
      intro row member same
      rcases List.mem_append.1 member with old | new
      next => exact fun among => fresh row old same (List.mem_cons_of_mem _ among)
      next =>
        rw [List.mem_singleton.1 new]
        exact first
    next => simp [fieldRows]

theorem creatorRows_cons (id : Int) (position : Nat) (creator : Creator) (rest : List Creator) :
    creatorRows id position (creator :: rest) =
      ⟨id, position, creator⟩ :: creatorRows id (position + 1) rest := rfl

theorem insertCreators_eq (id : Int) (parts : List (CreatorOf Toml.Value)) (position : Nat)
    (tables : Tables) (there : tables.hasRecord id = true)
    (fresh : ∀ row ∈ tables.creators, row.recordId = id -> row.position < position) :
    (parts.zipIdx position).foldlM (fun tables placed =>
        tables.insertCreator id placed.1 placed.2) tables =
      (parts.mapM Library.storedCreator).map fun creators =>
        { tables with creators := tables.creators ++ creatorRows id position creators } := by
  induction parts generalizing tables position with
  | nil => simp [pure, Except.pure, Except.map, creatorRows]
  | cons first rest ih =>
    have untaken : (tables.creators.any fun old =>
        old.recordId == id && old.position == position) = false := by
      rw [List.any_eq_false]
      intro row member
      have other := fresh row member
      grind
    rw [List.zipIdx_cons, List.foldlM_cons, List.mapM_cons]
    cases stored : Library.storedCreator first with
    | error fault =>
      simp only [insertCreator, stored]
      rfl
    | ok creator =>
      have inserted : tables.insertCreator id first position =
          .ok { tables with creators := tables.creators ++ [⟨id, position, creator⟩] } := by
        simp only [insertCreator, stored, untaken, there]
        rfl
      dsimp only
      rw [inserted]
      refine (ih (position + 1) _ ?_ ?_).trans ?_
      next => exact there
      next =>
        intro row member same
        rcases List.mem_append.1 member with old | new
        next => exact Nat.lt_succ_of_lt (fresh row old same)
        next =>
          rw [List.mem_singleton.1 new]
          exact Nat.lt_succ_self position
      next =>
        cases rest.mapM Library.storedCreator with
        | error fault => rfl
        | ok creators =>
          simp [Except.map, bind, Except.bind, pure, Except.pure, creatorRows_cons]

def Seen (tables : Tables) (id : Int) (seen : List String) : Prop :=
  ∀ tag, tag ∈ seen <-> ∃ row ∈ tables.tags, row.recordId = id /\ row.tag = tag

theorem insertTags_eq (id : Int) (tags seen : List String) (position : Nat) (tables : Tables)
    (there : tables.hasRecord id = true) (known : tables.Seen id seen) :
    (tags.zipIdx position).foldlM (fun tables placed =>
        tables.insertTag ⟨id, placed.1, placed.2⟩) tables =
      .ok { tables with tags := tables.tags ++ tagRows id seen position tags } := by
  induction tags generalizing tables seen position with
  | nil => simp [pure, Except.pure, tagRows]
  | cons tag rest ih =>
    have taken : (tables.tags.any fun old => old.recordId == id && old.tag == tag) =
        decide (tag ∈ seen) := by
      rw [Bool.eq_iff_iff, List.any_eq_true, decide_eq_true_iff, known tag]
      simp
    rw [List.zipIdx_cons, List.foldlM_cons]
    dsimp only
    by_cases old : tag ∈ seen
    next =>
      have passed : tables.insertTag ⟨id, tag, position⟩ = .ok tables := by
        simp only [insertTag, taken, old]
        rfl
      rw [passed]
      refine (ih seen (position + 1) tables there known).trans ?_
      simp [tagRows, old]
    next =>
      have inserted : tables.insertTag ⟨id, tag, position⟩ =
          .ok { tables with tags := tables.tags ++ [⟨id, tag, position⟩] } := by
        simp only [insertTag, taken, old, there]
        rfl
      rw [inserted]
      refine (ih (seen ++ [tag]) (position + 1) _ ?_ ?_).trans ?_
      next => exact there
      next =>
        intro other
        rw [List.mem_append, known other]
        simp only [List.mem_append, List.mem_singleton]
        constructor
        next =>
          rintro (⟨row, member, same⟩ | rfl)
          next => exact ⟨row, .inl member, same⟩
          next => exact ⟨_, .inr rfl, rfl, rfl⟩
        next =>
          rintro ⟨row, member | rfl, same⟩
          next => exact .inl ⟨row, member, same⟩
          next => exact .inr same.2.symm
      next => simp [tagRows, old]

theorem insertMemberships_eq (id : Int) (collections seen : List Int) (tables : Tables)
    (there : tables.hasRecord id = true)
    (known : ∀ collection ∈ collections, tables.hasCollection collection = true)
    (storable : ∀ collection ∈ collections, isStorable collection = true)
    (listed : ∀ collection, collection ∈ seen <-> ⟨id, collection⟩ ∈ tables.memberships) :
    collections.foldlM (fun tables collection => tables.insertMembership ⟨id, collection⟩) tables =
      .ok { tables with
        memberships := tables.memberships ++
          (distinct (collections.filter fun collection => collection ∉ seen)).map
            fun collection => ⟨id, collection⟩ } := by
  induction collections generalizing tables seen with
  | nil => simp [pure, Except.pure]
  | cons collection rest ih =>
    have fits : requireStorable collection = .ok () := by
      simp [requireStorable, storable collection (by simp)]
    have taken : tables.memberships.contains (⟨id, collection⟩ : MembershipRow) =
        decide (collection ∈ seen) := by
      rw [Bool.eq_iff_iff, List.contains_iff_mem, decide_eq_true_iff, listed collection]
    have laterKnown : ∀ other ∈ rest, tables.hasCollection other = true :=
      fun other member => known other (List.mem_cons_of_mem _ member)
    have laterStorable : ∀ other ∈ rest, isStorable other = true :=
      fun other member => storable other (List.mem_cons_of_mem _ member)
    rw [List.foldlM_cons]
    by_cases old : collection ∈ seen
    next =>
      have passed : tables.insertMembership ⟨id, collection⟩ = .ok tables := by
        simp only [insertMembership, fits, taken, old]
        rfl
      rw [passed]
      refine (ih seen tables there laterKnown laterStorable listed).trans ?_
      simp [old]
    next =>
      have inserted : tables.insertMembership ⟨id, collection⟩ =
          .ok { tables with memberships := tables.memberships ++ [⟨id, collection⟩] } := by
        simp only [insertMembership, fits, taken, old, there, known collection (by simp)]
        rfl
      rw [inserted]
      refine (ih (seen ++ [collection]) _ ?_ ?_ laterStorable ?_).trans ?_
      next => exact there
      next => exact laterKnown
      next =>
        intro other
        rw [List.mem_append, List.mem_append, listed other]
        simp
      next =>
        have restFilter : (rest.filter fun other => decide (other ∉ seen ++ [collection])) =
            (rest.filter fun other => decide (other ∉ seen)).filter fun other =>
              !other == collection := by
          rw [List.filter_filter]
          refine List.filter_congr fun other _ => ?_
          by_cases same : other = collection
          next => simp [same]
          next => simp [same]
        rw [List.filter_cons_of_pos (by simpa using old), distinct_cons, restFilter]
        simp

def writeParts (id : Int) (listed : Library.ListedRecord) (tables : Tables) :
    Except Fault Tables := do
  let cleared := (((tables.deleteFields id).deleteCreators id).deleteTags id).deleteMemberships id
  let tables <- (sortFields listed.fields).foldlM
    (fun tables field => tables.insertField ⟨id, field.1, field.2⟩) cleared
  let tables <- (listed.creators.zipIdx 1).foldlM
    (fun tables placed => tables.insertCreator id placed.1 placed.2) tables
  let tables <- (listed.tags.zipIdx 1).foldlM
    (fun tables placed => tables.insertTag ⟨id, placed.1, placed.2⟩) tables
  (listed.collections.filterMap Toml.Value.integer?).foldlM
    (fun tables collection => tables.insertMembership ⟨id, collection⟩) tables

theorem writeParts_eq (id : Int) (listed : Library.ListedRecord) (tables : Tables)
    (there : tables.hasRecord id = true)
    (known : ∀ collection ∈ listed.collections.filterMap Toml.Value.integer?,
      tables.hasCollection collection = true)
    (storable : ∀ collection ∈ listed.collections.filterMap Toml.Value.integer?,
      isStorable collection = true) :
    tables.writeParts id listed =
      (listed.creators.mapM Library.storedCreator).map fun creators =>
        tables.withParts id (sortFields listed.fields) creators listed.tags
          (listed.collections.filterMap Toml.Value.integer?) := by
  have noneLeft {ρ : Type} (recordId : ρ -> Int) (rows : List ρ) :
      ∀ row ∈ rows.filter (fun row => recordId row != id), recordId row ≠ id := by
    intro row member
    simpa using (List.mem_filter.1 member).2
  let cleared := (((tables.deleteFields id).deleteCreators id).deleteTags id).deleteMemberships id
  have fields := insertFields_eq id (sortFields listed.fields) cleared there
    ((ascending_sortFields listed.fields).nodup_ranks _)
    fun row member same => absurd same (noneLeft FieldRow.recordId tables.fields row member)
  have creators (tables' : Tables) (same : tables'.creators = cleared.creators)
      (there' : tables'.hasRecord id = true) := insertCreators_eq id listed.creators 1 tables' there'
    fun row member is => absurd is
      (noneLeft CreatorRow.recordId tables.creators row (by rwa [same] at member))
  have tags (tables' : Tables) (same : tables'.tags = cleared.tags)
      (there' : tables'.hasRecord id = true) := insertTags_eq id listed.tags [] 1 tables' there' (by
    intro tag
    rw [same]
    refine ⟨fun member => absurd member (by simp), ?_⟩
    rintro ⟨row, member, is, _⟩
    exact absurd is (noneLeft TagRow.recordId tables.tags row member))
  have memberships (tables' : Tables) (same : tables'.memberships = cleared.memberships)
      (there' : tables'.hasRecord id = true)
      (known' : ∀ collection ∈ listed.collections.filterMap Toml.Value.integer?,
        tables'.hasCollection collection = true) :=
    insertMemberships_eq id (listed.collections.filterMap Toml.Value.integer?) [] tables' there'
      known' storable (by
        intro collection
        rw [same]
        refine ⟨fun member => absurd member (by simp), fun member => ?_⟩
        exact absurd rfl (noneLeft MembershipRow.recordId tables.memberships _ member))
  simp only [List.not_mem_nil, not_false_eq_true, decide_true, List.filter_true] at memberships
  unfold writeParts
  dsimp only
  rw [fields, ok_bind, creators _ ?sameCreators ?thereCreators]
  case sameCreators => rfl
  case thereCreators => exact there
  cases listed.creators.mapM Library.storedCreator with
  | error fault => rfl
  | ok stored =>
    rw [Except.map, ok_bind, tags _ ?sameTags ?thereTags, ok_bind,
      memberships _ ?sameMemberships ?thereMemberships ?knownMemberships]
    case sameTags => rfl
    case thereTags => exact there
    case sameMemberships => rfl
    case thereMemberships => exact there
    case knownMemberships => exact known
    rfl

section Replaced

variable {ρ : Type} (recordId : ρ -> Int) (id : Int) (old new : List ρ)

theorem filter_replaced_self (own : ∀ row ∈ new, recordId row = id) :
    (old.filter (fun row => recordId row != id) ++ new).filter (fun row => recordId row == id) =
      new := by
  have gone : (old.filter fun row => recordId row != id).filter (fun row => recordId row == id) =
      [] := by
    simp [List.filter_filter]
  have kept : new.filter (fun row => recordId row == id) = new := by
    rw [List.filter_eq_self]
    simpa using own
  rw [List.filter_append, gone, kept, List.nil_append]

theorem filter_replaced_of_ne (own : ∀ row ∈ new, recordId row = id) (other : Int)
    (apart : other ≠ id) :
    (old.filter (fun row => recordId row != id) ++ new).filter (fun row => recordId row == other) =
      old.filter fun row => recordId row == other := by
  have kept : (old.filter fun row => recordId row != id).filter (fun row => recordId row == other) =
      old.filter fun row => recordId row == other := by
    rw [List.filter_filter]
    refine List.filter_congr fun row _ => ?_
    by_cases same : recordId row = other
    next => simp [same, apart]
    next => simp [same]
  have gone : new.filter (fun row => recordId row == other) = [] := by
    rw [List.filter_eq_nil_iff]
    intro row member
    simp [own row member, Ne.symm apart]
  rw [List.filter_append, kept, gone, List.append_nil]

theorem nodup_replaced {κ : Type} (key : ρ -> κ)
    (tells : ∀ first second, key first = key second -> recordId first = recordId second)
    (own : ∀ row ∈ new, recordId row = id) (apartOld : (old.map key).Nodup)
    (apartNew : (new.map key).Nodup) :
    ((old.filter (fun row => recordId row != id) ++ new).map key).Nodup := by
  rw [List.map_append]
  refine List.Nodup.append ?_ apartNew ?_
  next => exact apartOld.sublist (List.filter_sublist.map key)
  next =>
    intro shared amongOld amongNew
    obtain ⟨first, member, rfl⟩ := List.mem_map.1 amongOld
    obtain ⟨second, other, same⟩ := List.mem_map.1 amongNew
    have differs : recordId first ≠ id := by simpa using (List.mem_filter.1 member).2
    exact differs ((tells _ _ same.symm).trans (own second other))

theorem forall_replaced (holds : ρ -> Prop) (oldHolds : ∀ row ∈ old, holds row)
    (newHolds : ∀ row ∈ new, holds row) :
    ∀ row ∈ old.filter (fun row => recordId row != id) ++ new, holds row := by
  intro row member
  rcases List.mem_append.1 member with kept | added
  next => exact oldHolds row (List.mem_filter.1 kept).1
  next => exact newHolds row added

end Replaced

theorem mem_tagRows (id : Int) (tags seen : List String) (position : Nat) (row : TagRow)
    (member : row ∈ tagRows id seen position tags) :
    row.recordId = id /\ position <= row.position := by
  induction tags generalizing seen position with
  | nil => cases member
  | cons tag rest ih =>
    unfold tagRows at member
    split at member
    next =>
      have later := ih seen (position + 1) member
      exact ⟨later.1, by omega⟩
    next =>
      rcases List.mem_cons.1 member with rfl | among
      next => exact ⟨rfl, Nat.le_refl _⟩
      next =>
        have later := ih _ (position + 1) among
        exact ⟨later.1, by omega⟩

theorem ascending_tagRows (id : Int) (tags seen : List String) (position : Nat) :
    Ascending TagRow.position (tagRows id seen position tags) := by
  induction tags generalizing seen position with
  | nil => exact List.Pairwise.nil
  | cons tag rest ih =>
    unfold tagRows
    split
    next => exact ih seen (position + 1)
    next =>
      refine List.pairwise_cons.2 ⟨fun row member => ?_, ih _ (position + 1)⟩
      exact (mem_tagRows id rest _ (position + 1) row member).2

theorem map_tag_tagRows (id : Int) (tags seen : List String) (position : Nat) :
    (tagRows id seen position tags).map TagRow.tag =
      distinct (tags.filter fun tag => tag ∉ seen) := by
  induction tags generalizing seen position with
  | nil => rfl
  | cons tag rest ih =>
    unfold tagRows
    by_cases old : tag ∈ seen
    next =>
      rw [if_pos old, ih, List.filter_cons_of_neg (by simpa using old)]
    next =>
      have restFilter : (rest.filter fun other => decide (other ∉ seen ++ [tag])) =
          (rest.filter fun other => decide (other ∉ seen)).filter fun other => !other == tag := by
        rw [List.filter_filter]
        refine List.filter_congr fun other _ => ?_
        by_cases same : other = tag
        next => simp [same]
        next => simp [same]
      rw [if_neg old, List.map_cons, ih, List.filter_cons_of_pos (by simpa using old), distinct_cons,
        restFilter]

theorem mem_creatorRows (id : Int) (creators : List Creator) (position : Nat) (row : CreatorRow)
    (member : row ∈ creatorRows id position creators) :
    row.recordId = id /\ position <= row.position := by
  induction creators generalizing position with
  | nil => cases member
  | cons creator rest ih =>
    rw [creatorRows_cons] at member
    rcases List.mem_cons.1 member with rfl | among
    next => exact ⟨rfl, Nat.le_refl _⟩
    next =>
      have later := ih (position + 1) among
      exact ⟨later.1, by omega⟩

theorem ascending_creatorRows (id : Int) (creators : List Creator) (position : Nat) :
    Ascending CreatorRow.position (creatorRows id position creators) := by
  induction creators generalizing position with
  | nil => exact List.Pairwise.nil
  | cons creator rest ih =>
    rw [creatorRows_cons]
    refine List.pairwise_cons.2 ⟨fun row member => ?_, ih (position + 1)⟩
    exact (mem_creatorRows id rest (position + 1) row member).2

theorem map_creator_creatorRows (id : Int) (creators : List Creator) (position : Nat) :
    (creatorRows id position creators).map CreatorRow.creator = creators := by
  induction creators generalizing position with
  | nil => rfl
  | cons creator rest ih => rw [creatorRows_cons, List.map_cons, ih]

theorem mem_fieldRows (id : Int) (fields : List (String × String)) (row : FieldRow)
    (member : row ∈ fieldRows id fields) : row.recordId = id := by
  obtain ⟨field, _, rfl⟩ := List.mem_map.1 member
  rfl

theorem map_name_fieldRows (id : Int) (fields : List (String × String)) :
    (fieldRows id fields).map (fun row => (row.name, row.value)) = fields := by
  simp [fieldRows, Function.comp_def]

theorem mem_membershipRows (id : Int) (collections : List Int) (row : MembershipRow)
    (member : row ∈ membershipRows id collections) :
    row.recordId = id /\ row.collectionId ∈ collections := by
  obtain ⟨collection, among, rfl⟩ := List.mem_map.1 member
  exact ⟨rfl, List.mem_eraseDups.1 among⟩

theorem map_collection_membershipRows (id : Int) (collections : List Int) :
    (membershipRows id collections).map MembershipRow.collectionId = distinct collections := by
  simp [membershipRows, Function.comp_def]

theorem sortBy_distinct (numbers : List Int) : sortBy id (distinct numbers) = sortNumbers numbers := by
  have apart : ((distinct numbers).map id).Nodup := by
    rw [List.map_id]
    exact nodup_distinct numbers
  refine Ascending.ext _ _ (ascending_sortBy _) (ascending_sortNumbers numbers) fun number => ?_
  rw [mem_sortBy _ apart, mem_sortNumbers]
  exact List.mem_eraseDups

section Parts

variable (tables : Tables) (id : Int) (fields : List (String × String)) (creators : List Creator)
  (tags : List String) (collections : List Int) (row : RecordRow)

theorem entryOf_withParts_of_ne (apart : row.id ≠ id) :
    (tables.withParts id fields creators tags collections).entryOf row = tables.entryOf row := by
  have fieldsKept := filter_replaced_of_ne FieldRow.recordId id tables.fields
    (fieldRows id fields) (mem_fieldRows id fields) row.id apart
  have creatorsKept := filter_replaced_of_ne CreatorRow.recordId id tables.creators
    (creatorRows id 1 creators) (fun row member => (mem_creatorRows id _ 1 row member).1) row.id apart
  have tagsKept := filter_replaced_of_ne TagRow.recordId id tables.tags (tagRows id [] 1 tags)
    (fun row member => (mem_tagRows id _ [] 1 row member).1) row.id apart
  have membershipsKept := filter_replaced_of_ne MembershipRow.recordId id tables.memberships
    (membershipRows id collections) (fun row member => (mem_membershipRows id _ row member).1)
    row.id apart
  simp only [entryOf, withParts, fieldsKept, creatorsKept, tagsKept, membershipsKept]

theorem entryOf_withParts_self (same : row.id = id) (sorted : Ascending Prod.fst fields) :
    (tables.withParts id fields creators tags collections).entryOf row =
      { id := id, key := row.key, libraryId := row.libraryId, itemType := row.itemType
        fields := fields, creators := creators, tags := distinct tags
        collections := sortNumbers collections } := by
  have fieldsNew := filter_replaced_self FieldRow.recordId id tables.fields
    (fieldRows id fields) (mem_fieldRows id fields)
  have creatorsNew := filter_replaced_self CreatorRow.recordId id tables.creators
    (creatorRows id 1 creators) (fun row member => (mem_creatorRows id _ 1 row member).1)
  have tagsNew := filter_replaced_self TagRow.recordId id tables.tags (tagRows id [] 1 tags)
    (fun row member => (mem_tagRows id _ [] 1 row member).1)
  have membershipsNew := filter_replaced_self MembershipRow.recordId id tables.memberships
    (membershipRows id collections) (fun row member => (mem_membershipRows id _ row member).1)
  have tagsRead := map_tag_tagRows id tags [] 1
  simp only [List.not_mem_nil, not_false_eq_true, decide_true, List.filter_true] at tagsRead
  simp only [entryOf, withParts, same, fieldsNew, creatorsNew, tagsNew, membershipsNew,
    sortBy_of_ascending _ (ascending_creatorRows id creators 1), map_creator_creatorRows,
    sortBy_of_ascending _ (ascending_tagRows id tags [] 1), tagsRead, map_name_fieldRows,
    sortBy_of_ascending _ sorted, map_collection_membershipRows, sortBy_distinct]

theorem nodup_own_keys {ρ κ : Type} (recordId : ρ -> Int) (key : ρ -> κ) (rows : List ρ)
    (apart : (rows.map key).Nodup) : (rows.map fun row => (recordId row, key row)).Nodup := by
  refine List.Nodup.of_map Prod.snd ?_
  rw [List.map_map]
  exact apart

theorem lawful_withParts (lawful : tables.Lawful) (there : tables.hasRecord id = true)
    (known : ∀ collection ∈ collections, tables.hasCollection collection = true)
    (apart : (fields.map Prod.fst).Nodup) :
    (tables.withParts id fields creators tags collections).Lawful := by
  have ownCreators := fun row member => (mem_creatorRows id creators 1 row member).1
  have ownTags := fun row member => (mem_tagRows id tags [] 1 row member).1
  have ownMemberships := fun row member => (mem_membershipRows id collections row member).1
  have fieldNames : ((fieldRows id fields).map FieldRow.name).Nodup := by
    simpa [fieldRows, Function.comp_def] using apart
  have tagNames : ((tagRows id [] 1 tags).map TagRow.tag).Nodup := by
    rw [map_tag_tagRows]
    exact nodup_distinct _
  have collectionIds : ((membershipRows id collections).map MembershipRow.collectionId).Nodup := by
    rw [map_collection_membershipRows]
    exact nodup_distinct collections
  exact { lawful with
    fieldKeys := nodup_replaced FieldRow.recordId id _ _ _ (by simp +contextual)
      (mem_fieldRows id fields) lawful.fieldKeys (nodup_own_keys _ _ _ fieldNames)
    creatorKeys := nodup_replaced CreatorRow.recordId id _ _ _ (by simp +contextual) ownCreators
      lawful.creatorKeys (nodup_own_keys _ _ _ ((ascending_creatorRows id creators 1).nodup_ranks _))
    tagKeys := nodup_replaced TagRow.recordId id _ _ _ (by simp +contextual) ownTags
      lawful.tagKeys (nodup_own_keys _ _ _ tagNames)
    tagPositions := nodup_replaced TagRow.recordId id _ _ _ (by simp +contextual) ownTags
      lawful.tagPositions (nodup_own_keys _ _ _ ((ascending_tagRows id tags [] 1).nodup_ranks _))
    membershipKeys := by
      have replaced := nodup_replaced MembershipRow.recordId id tables.memberships
        (membershipRows id collections) (fun row => row) (by simp +contextual) ownMemberships
        (by simpa using lawful.membershipKeys)
        (by simpa using List.Nodup.of_map _ collectionIds)
      rwa [List.map_id'] at replaced
    fieldRecords := forall_replaced FieldRow.recordId id _ _ _ lawful.fieldRecords
      fun row member => mem_fieldRows id fields row member ▸ there
    creatorRecords := forall_replaced CreatorRow.recordId id _ _ _ lawful.creatorRecords
      fun row member => ownCreators row member ▸ there
    tagRecords := forall_replaced TagRow.recordId id _ _ _ lawful.tagRecords
      fun row member => ownTags row member ▸ there
    membershipRecords := forall_replaced MembershipRow.recordId id _ _ _ lawful.membershipRecords
      fun row member => ownMemberships row member ▸ there
    membershipCollections := forall_replaced MembershipRow.recordId id _ _ _
      lawful.membershipCollections
      fun row member => known _ (mem_membershipRows id collections row member).2 }

end Parts

end BibEdit.Database.Tables
