import BibEdit.Evaluation
import BibEdit.Proofs.Pattern.Language
import BibEdit.Proofs.Regex.Leftmost

set_option autoImplicit false

/-! What the detail of a match says of the record: which value satisfied the condition, and where in
it the text stands that did. -/

namespace BibEdit

def IsFirst {α : Type} (holds : α -> Prop) (items : List α) (item : α) : Prop :=
  holds item /\ ∃ before after, items = before ++ item :: after /\ ∀ earlier ∈ before, ¬ holds earlier

section First

variable {α : Type} {holds : α -> Prop} {item : α} {rest : List α}

theorem isFirst_head (here : holds item) : IsFirst holds (item :: rest) item :=
  ⟨here, [], rest, rfl, nofun⟩

theorem IsFirst.later {found : α} (missed : ¬ holds item) (first : IsFirst holds rest found) :
    IsFirst holds (item :: rest) found := by
  obtain ⟨here, before, after, split, unmet⟩ := first
  refine ⟨here, item :: before, after, congrArg (item :: ·) split, ?_⟩
  rw [List.forall_mem_cons]
  exact ⟨missed, unmet⟩

end First

namespace Pattern

/-- A hit lies within the value, and its text is what stands in its place. -/
structure Hit.Stands (hit : Hit) (value : List Char) : Prop where
  within : hit.start + hit.length <= value.length
  textIs : Text.slice value hit.start (hit.start + hit.length) = hit.text

theorem hit_stands {regex : Regex} {value : List Char} {found : Regex.Match}
    (searched : regex.search value = some found) : (hitOf value found).Stands value := by
  obtain ⟨_, ordered, inside, _⟩ := Regex.matchFrom_within searched (Nat.zero_le _)
  have within : found.stop <= value.length := by simpa using inside
  have length : (hitOf value found).length = found.stop - found.start :=
    Text.slice_length value found.start found.stop within
  have stop : found.start + (hitOf value found).length = found.stop := by omega
  refine ⟨?_, ?_⟩
  next => exact stop.trans_le within
  next => exact congrArg (Text.slice value found.start) stop

theorem test_stands {value pattern : String} {kind : PatternKind} {caseSensitive : Bool} {hit : Hit}
    (tested : test value pattern kind caseSensitive = .ok (some hit)) : hit.Stands value.toList := by
  unfold test at tested
  split at tested
  next =>
    -- A value that is compared as a whole is its own hit, however its letters fold.
    have same := Except.ok.inj tested
    split at same
    next =>
      cases same
      exact ⟨by simp [Hit.length], by simp [Hit.length, Text.slice]⟩
    next => cases same
  next =>
    split at tested
    next => cases tested
    next =>
      obtain ⟨regex, _, searched⟩ := map_eq_ok.1 tested
      obtain ⟨found, here, rfl⟩ := Option.map_eq_some_iff.1 searched
      exact hit_stands here

end Pattern

namespace Condition

/-- How a value satisfies a condition, and by which text in it: an empty one by being asked for, and
any other by what a test finds in it. -/
inductive SatisfiedBy (condition : Condition) : String -> List Char -> Prop where
  | empty (asked : condition.matchesEmpty = true) : SatisfiedBy condition "" []
  | found {value : String} {hit : Pattern.Hit} (given : value ≠ "")
    (tested : condition.test value = .ok (some hit)) : SatisfiedBy condition value hit.text

def Satisfied (condition : Condition) (value : String) : Prop :=
  ∃ text, condition.SatisfiedBy value text

/-- The place that a detail gives lies within its value, and the text there satisfies the condition. -/
structure Points (condition : Condition) (detail : Detail) : Prop where
  begins : 0 <= detail.index
  ordered : 0 <= detail.length
  within : detail.index + detail.length <= detail.value.length
  satisfied : condition.SatisfiedBy detail.value
    (Text.slice detail.value.toList detail.index.toNat (detail.index + detail.length).toNat)

variable {condition : Condition} {detail : Detail} {value : String}

theorem points_empty (asked : condition.matchesEmpty = true) :
    condition.Points ⟨condition.field, "", 0, 0⟩ := by
  refine ⟨by simp, by simp, by simp, ?_⟩
  exact .empty asked

theorem points_found {hit : Pattern.Hit} (given : value ≠ "")
    (tested : condition.test value = .ok (some hit)) :
    condition.Points ⟨condition.field, value, hit.start, hit.length⟩ := by
  have stands := Pattern.test_stands (mapError_eq_ok.1 tested)
  refine ⟨by simp, by simp, ?_, ?_⟩
  next =>
    have within := stands.within
    rw [String.length_toList] at within
    dsimp only
    omega
  next =>
    have place : ((hit.start : Int) + (hit.length : Int)).toNat = hit.start + hit.length := by omega
    dsimp only
    rw [place, Int.toNat_natCast, stands.textIs]
    exact .found given tested

theorem matchText_some (matched : condition.matchText value = .ok (some detail)) :
    detail.field = condition.field /\ detail.value = value /\ condition.Points detail := by
  unfold matchText at matched
  split at matched
  next empty =>
    have same := Except.ok.inj matched
    split at same
    next asked =>
      cases same
      exact ⟨rfl, (eq_of_beq empty).symm, points_empty asked⟩
    next => cases same
  next filled =>
    obtain ⟨hit?, tested, made⟩ := map_eq_ok.1 matched
    obtain ⟨hit, rfl, rfl⟩ := Option.map_eq_some_iff.1 made
    exact ⟨rfl, rfl, points_found (by simpa using filled) tested⟩

theorem matchText_none (missed : condition.matchText value = .ok none) :
    ¬ condition.Satisfied value := by
  rintro ⟨text, satisfied⟩
  unfold matchText at missed
  cases satisfied with
  | empty asked =>
    rw [asked] at missed
    cases missed
  | found given tested =>
    rw [if_neg (by simpa using given), tested] at missed
    cases missed

theorem satisfied_of_matchText (matched : condition.matchText value = .ok (some detail)) :
    condition.Satisfied value := by
  obtain ⟨_, rfl, points⟩ := matchText_some matched
  exact ⟨_, points.satisfied⟩

theorem matchCreators_some (part : NamePart) (creators : List Creator)
    (matched : condition.matchCreators part creators = .ok (some detail)) :
    ∃ creator, IsFirst (fun creator => condition.Satisfied (creator.get part)) creators creator /\
      condition.matchText (creator.get part) = .ok (some detail) := by
  induction creators with
  | nil => cases matched
  | cons creator rest ih =>
    rw [matchCreators] at matched
    obtain ⟨found, here, later⟩ := bind_eq_ok.1 matched
    cases found with
    | some found =>
      cases later
      exact ⟨creator, isFirst_head (satisfied_of_matchText here), here⟩
    | none =>
      obtain ⟨other, first, found⟩ := ih later
      exact ⟨other, first.later (matchText_none here), found⟩

def Finds (condition : Condition) (tag : String) : Prop :=
  ∃ hit, condition.test tag = .ok (some hit)

theorem matchTags_some (tags : List String)
    (matched : condition.matchTags tags = .ok (some detail)) :
    IsFirst condition.Finds tags detail.value /\
      detail = ⟨condition.field, detail.value, -1, -1⟩ := by
  induction tags with
  | nil => cases matched
  | cons tag rest ih =>
    rw [matchTags] at matched
    obtain ⟨hit?, tested, later⟩ := bind_eq_ok.1 matched
    cases hit? with
    | some hit =>
      cases later
      exact ⟨isFirst_head ⟨hit, tested⟩, rfl⟩
    | none =>
      obtain ⟨first, is⟩ := ih later
      refine ⟨first.later ?_, is⟩
      rintro ⟨hit, found⟩
      cases tested.symm.trans found

/-- The detail of a collection: its number as it is written, at the start of a value that is longer. -/
def collectionDetail (condition : Condition) (id : Int) : Detail :=
  ⟨condition.field, "collection:" ++ toString id, 0, (toString id).length⟩

theorem collectionDetail_within (id : Int) :
    (condition.collectionDetail id).length <= (condition.collectionDetail id).value.length := by
  unfold collectionDetail
  dsimp only
  rw [String.length_append]
  omega

theorem matchCollections_some (collections : List Int)
    (matched : condition.matchCollections collections = some detail) :
    ∃ id ∈ collections, condition.collectionId? = some id /\
      detail = condition.collectionDetail id := by
  unfold matchCollections at matched
  obtain ⟨id, isId, found⟩ := Option.bind_eq_some_iff.1 matched
  dsimp only at found
  split at found
  next member =>
    cases found
    exact ⟨id, by simpa using member, isId, rfl⟩
  next => cases found

/-- A field reads as a value; one without a value reads as empty. -/
def ReadsAs (source : Readable) (name value : String) : Prop :=
  ∃ value?, source.read name = .ok value? /\ value = value?.getD ""

theorem readsAs_of_present {source : Readable} {name : String}
    (present : present? (source.read name) = .ok (some value)) : ReadsAs source name value := by
  cases read : source.read name with
  | ok value? =>
    rw [read] at present
    cases present
    exact ⟨value?, read, rfl⟩
  | error fault =>
    rw [read] at present
    cases fault <;> cases present

/-- What a detail says of a record, by the field of the condition. A place that means something lies
within the value and holds the text that matched; for a tag it means nothing. -/
def Accounts (condition : Condition) (source : Readable) (detail : Detail) : Prop :=
  match condition.ref with
  | .scalar name => ReadsAs source name detail.value /\ condition.Points detail
  | .creator part =>
    (∃ creator,
      IsFirst (fun creator => condition.Satisfied (creator.get part)) source.record.creators creator /\
        detail.value = creator.get part) /\ condition.Points detail
  | .tags =>
    IsFirst condition.Finds source.record.tags detail.value /\ detail.index = -1 /\ detail.length = -1
  | .itemType => itemTypeText source = .ok detail.value /\ condition.Points detail
  | .collection =>
    ∃ id ∈ source.record.collections, condition.collectionId? = some id /\
      detail = condition.collectionDetail id /\ detail.length <= detail.value.length
  | .unknown _ => False

theorem accounts_of_matchRecord {source : Readable}
    (matched : condition.matchRecord source = .ok (some detail)) :
    detail.field = condition.field /\ condition.Accounts source detail := by
  unfold matchRecord at matched
  unfold Accounts
  cases names : condition.ref with
  | scalar name =>
    rw [names] at matched
    obtain ⟨value?, read, later⟩ := bind_eq_ok.1 matched
    cases value? with
    | none => cases later
    | some value =>
      obtain ⟨field, rfl, points⟩ := matchText_some later
      exact ⟨field, readsAs_of_present read, points⟩
  | creator part =>
    rw [names] at matched
    obtain ⟨creator, first, found⟩ := matchCreators_some part _ matched
    obtain ⟨field, valueIs, points⟩ := matchText_some found
    exact ⟨field, ⟨creator, first, valueIs⟩, points⟩
  | tags =>
    rw [names] at matched
    obtain ⟨first, is⟩ := matchTags_some _ matched
    exact ⟨congrArg Detail.field is, first, congrArg Detail.index is, congrArg Detail.length is⟩
  | itemType =>
    rw [names] at matched
    obtain ⟨text, read, later⟩ := bind_eq_ok.1 matched
    obtain ⟨field, rfl, points⟩ := matchText_some later
    exact ⟨field, read, points⟩
  | collection =>
    rw [names] at matched
    obtain ⟨id, member, isId, rfl⟩ := matchCollections_some _ (Except.ok.inj matched)
    exact ⟨rfl, id, member, isId, rfl, collectionDetail_within id⟩
  | unknown name =>
    rw [names] at matched
    cases matched

end Condition

end BibEdit
