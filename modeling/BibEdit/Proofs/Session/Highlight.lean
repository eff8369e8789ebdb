import BibEdit.Console.Ansi
import BibEdit.Proofs.Evaluation.Detail
import BibEdit.Session.Search

set_option autoImplicit false

namespace BibEdit.Session

theorem accounts_within {detail : Detail} {condition : Condition} {source : Readable}
    (accounts : condition.Accounts source detail) :
    detail.index < 0 \/ 0 <= detail.index /\ detail.index + detail.length <= detail.value.length := by
  have pointed (points : condition.Points detail) := Or.inr (a := detail.index < 0)
    (And.intro points.begins points.within)
  unfold Condition.Accounts at accounts
  split at accounts
  next => exact pointed accounts.2
  next => exact pointed accounts.2
  next =>
    obtain ⟨_, nowhere, _⟩ := accounts
    omega
  next => exact pointed accounts.2
  next =>
    obtain ⟨id, _, _, is, within⟩ := accounts
    have start : detail.index = 0 := congrArg Detail.index is
    omega
  next => exact accounts.elim

section Highlights

variable [Console.Styling]

def emphasis : Console.Style := { color := some .green, bold := true }

/-- A value with marks around the part of it that begins at a place and has a length. -/
def Marked (value shown : List Char) (index length : Int) : Prop :=
  ∃ before part after, value = before ++ part ++ after /\
    (before.length : Int) = index /\ (part.length : Int) = length /\
    shown = before ++ (Console.Styling.opening emphasis ++ part ++ Console.Styling.closing) ++ after

variable {detail : Detail}

theorem highlight_of_nowhere (nowhere : detail.index < 0 \/ detail.length <= 0) :
    highlight detail = detail.value.toList := by
  unfold highlight
  exact if_pos (by simpa using nowhere)

theorem highlight_marks (begins : 0 <= detail.index) (spans : 0 < detail.length)
    (within : detail.index + detail.length <= detail.value.length) :
    Marked detail.value.toList (highlight detail) detail.index detail.length := by
  obtain ⟨start, startIs⟩ := Int.eq_ofNat_of_zero_le begins
  obtain ⟨length, lengthIs⟩ := Int.eq_ofNat_of_zero_le (Int.le_of_lt spans)
  have inside : start + length <= detail.value.toList.length := by
    rw [String.length_toList]
    omega
  have somewhere : ¬ (decide (detail.index < 0) || decide (detail.length <= 0)) = true := by
    simp only [Bool.or_eq_true, decide_eq_true_eq]
    omega
  have whole : detail.value.toList = detail.value.toList.take start ++
      Text.slice detail.value.toList start (start + length) ++
        detail.value.toList.drop (start + length) := by
    rw [List.append_assoc, Text.slice_append_drop _ _ _ (Nat.le_add_right start length),
      List.take_append_drop]
  refine ⟨_, _, _, whole, ?_, ?_, ?_⟩
  next =>
    rw [List.length_take_of_le (Nat.le_of_add_right_le inside)]
    exact startIs.symm
  next =>
    rw [Text.slice_length _ _ _ inside, Nat.add_sub_cancel_left]
    exact lengthIs.symm
  next =>
    unfold highlight
    rw [if_neg somewhere, startIs, lengthIs]
    rfl

theorem strip_marked {value shown : List Char} {index length : Int} (plain : '\x1b' ∉ value)
    (marked : Marked value shown index length) : Console.Styling.strip shown = value := by
  obtain ⟨before, part, after, rfl, _, _, rfl⟩ := marked
  simp only [List.mem_append, not_or] at plain
  obtain ⟨⟨plainBefore, plainPart⟩, plainAfter⟩ := plain
  rw [List.append_assoc, Console.strip_append before _ plainBefore, ← Console.Style.paint,
    Console.strip_paint _ part after plainPart, Console.strip_text after plainAfter,
    List.append_assoc]

/-- The detail of a match is right about the record, and shows as it should: a part of the value that
means something is within it and is marked, and without the marks the value is as it was. Where the
value brings no sequences of its own, that is also what printing without color makes of it. -/
theorem match_highlights (condition : Condition) (source : Readable) (detail : Detail)
    (matched : condition.matchRecord source = .ok (some detail)) :
    detail.field = condition.field /\ condition.Accounts source detail /\
      (if detail.index < 0 \/ detail.length <= 0 then highlight detail = detail.value.toList
        else Marked detail.value.toList (highlight detail) detail.index detail.length) /\
      ('\x1b' ∉ detail.value.toList ->
        Console.Styling.strip (highlight detail) = detail.value.toList) := by
  obtain ⟨field, accounts⟩ := Condition.accounts_of_matchRecord matched
  refine ⟨field, accounts, ?_⟩
  by_cases nowhere : detail.index < 0 \/ detail.length <= 0
  next =>
    rw [if_pos nowhere, highlight_of_nowhere nowhere]
    exact ⟨rfl, Console.strip_text _⟩
  next =>
    rw [if_neg nowhere]
    have marked : Marked detail.value.toList (highlight detail) detail.index detail.length := by
      have bounds := accounts_within accounts
      exact highlight_marks (by omega) (by omega) (by omega)
    exact ⟨marked, fun plain => strip_marked plain marked⟩

end Highlights

def novel : Record where
  id := 1
  key := "A"
  libraryId := 1
  itemType := some "book"
  fields := []
  creators := [⟨"", "", "Homer", "author"⟩, ⟨"Iris", "Murdoch", "", "author"⟩]
  tags := []
  collections := []
  dirtyFields := []
  dirtyCreators := false

def byLastName : Condition where
  field := "creator.lastName"
  pattern := "D[ao]."

theorem match_highlights_murdoch :
    byLastName.matchRecord novel.readable = .ok (some ⟨"creator.lastName", "Murdoch", 3, 3⟩) /\
      Marked "Murdoch".toList (highlight ⟨"creator.lastName", "Murdoch", 3, 3⟩) 3 3 /\
      highlight ⟨"creator.lastName", "Murdoch", 3, 3⟩ = "Mur\x1b[32m\x1b[1mdoc\x1b[0mh".toList /\
      Console.Styling.strip (highlight ⟨"creator.lastName", "Murdoch", 3, 3⟩) =
        "Murdoch".toList := by
  have matched : byLastName.matchRecord novel.readable =
      .ok (some ⟨"creator.lastName", "Murdoch", 3, 3⟩) := eq_ok_of_toOption (by decide +kernel)
  obtain ⟨_, _, marked, stripped⟩ := match_highlights byLastName novel.readable _ matched
  exact ⟨matched, marked, by decide, stripped (by decide)⟩

end BibEdit.Session
