import BibEdit.Snapshot
import Mathlib.Tactic.IntervalCases

set_option autoImplicit false

/-! What is written of a list of creators is read back as it was, but for a missing creator type,
which takes its default. -/

namespace BibEdit.Snapshot

theorem unit?_hexText (code : Nat) (small : code < 0x20) (rest : List Char) :
    Json.unit? (Text.hexText 4 code ++ rest) = some (code, rest) := by
  interval_cases code <;> rfl

theorem codePoint?_hexText (c : Char) (small : c.toNat < 0x20) (rest : List Char) :
    Json.codePoint? (Text.hexText 4 c.toNat ++ rest) = some (c, rest) := by
  have low : Json.isHighUnit c.toNat = false := by
    simp [Json.isHighUnit]
    omega
  simp [Json.codePoint?, unit?_hexText c.toNat small rest, low]

theorem stringRest_jsonChar (fuel : Nat) (c : Char) (rest : List Char) :
    Json.stringRest (fuel + 1) (jsonChar c ++ rest) =
      (Json.stringRest fuel rest).map fun read => (c :: read.1, read.2) := by
  unfold jsonChar
  split_ifs with quote slash line feed tab erase page control
  all_goals simp_all [Json.stringRest, Json.simpleEscape?, codePoint?_hexText]
  all_goals cases Json.stringRest fuel rest <;> simp [*]

theorem stringRest_text (text rest : List Char) (fuel : Nat) (enough : text.length < fuel) :
    Json.stringRest fuel (text.flatMap jsonChar ++ '"' :: rest) = some (text, rest) := by
  induction text generalizing fuel with
  | nil =>
    obtain ⟨fuel, rfl⟩ : ∃ less, fuel = less + 1 := ⟨fuel - 1, by simp at enough; omega⟩
    simp [Json.stringRest]
  | cons c text ih =>
    obtain ⟨fuel, rfl⟩ : ∃ less, fuel = less + 1 := ⟨fuel - 1, by simp at enough; omega⟩
    have shorter := ih fuel (by simp at enough; omega)
    simp only [List.flatMap_cons, List.append_assoc, stringRest_jsonChar, shorter, Option.map_some]

theorem length_le_flatMap_jsonChar (text : List Char) :
    text.length <= (text.flatMap jsonChar).length := by
  induction text with
  | nil => simp
  | cons c text ih =>
    have written : 1 <= (jsonChar c).length := by
      unfold jsonChar
      split_ifs <;> simp
    simp only [List.flatMap_cons, List.length_append, List.length_cons]
    omega

theorem string?_jsonString (text rest : List Char) :
    Json.string? (text.flatMap jsonChar ++ '"' :: rest) = some (text, rest) := by
  apply stringRest_text
  have longer := length_le_flatMap_jsonChar text
  simp only [List.length_append, List.length_cons]
  omega

theorem value?_jsonString (fuel : Nat) (text rest : List Char) :
    Json.value? (fuel + 1) (jsonString text ++ rest) = some (.string text, rest) := by
  have read := string?_jsonString text rest
  simp [jsonString, Json.value?, read]

theorem skipSpace_cons (c : Char) (rest : List Char) :
    Json.skipSpace (c :: rest) = if Json.isSpace c then Json.skipSpace rest else c :: rest := by
  simp only [Json.skipSpace, List.dropWhile_cons]

theorem entry_append (key value : String) (rest : List Char) :
    entry key value ++ rest = '"' :: (key.toList.flatMap jsonChar ++
      '"' :: ':' :: ' ' :: (jsonString value.toList ++ rest)) := by
  simp [entry, jsonString]

theorem skipSpace_jsonString (text rest : List Char) :
    Json.skipSpace (jsonString text ++ rest) = jsonString text ++ rest := by
  simp [jsonString, skipSpace_cons, Json.isSpace]

theorem skipSpace_entry (key value : String) (rest : List Char) :
    Json.skipSpace (entry key value ++ rest) = entry key value ++ rest := by
  simp [entry_append, skipSpace_cons, Json.isSpace]

theorem entries?_last (fuel : Nat) (key value : String) (after : List Char) :
    Json.entries? (fuel + 2) (entry key value ++ '\x7d' :: after) =
      some ([(key.toList, .string value.toList)], after) := by
  rw [entry_append, Json.entries?]
  simp only [string?_jsonString, Option.bind_eq_bind, Option.bind_some]
  simp [skipSpace_cons, Json.isSpace, skipSpace_jsonString, value?_jsonString]

theorem entries?_more (fuel : Nat) (key value next content : String) (rest after : List Char)
    (others : List (List Char × Json))
    (read : Json.entries? (fuel + 1) (entry next content ++ rest) = some (others, after)) :
    Json.entries? (fuel + 2) (entry key value ++ ',' :: ' ' :: (entry next content ++ rest)) =
      some ((key.toList, .string value.toList) :: others, after) := by
  rw [entry_append, Json.entries?]
  simp only [string?_jsonString, Option.bind_eq_bind, Option.bind_some]
  simp [skipSpace_cons, Json.isSpace, skipSpace_jsonString, value?_jsonString, skipSpace_entry, read]

def creatorEntries (creator : Creator) : List (List Char × Json) := [
  ("firstName".toList, .string creator.firstName.toList),
  ("lastName".toList, .string creator.lastName.toList),
  ("fullName".toList, .string creator.fullName.toList),
  ("creatorType".toList, .string creator.creatorType.toList)]

def creatorJson (creator : Creator) : Json := .object (creatorEntries creator)

theorem value?_object (fuel : Nat) (key value : String) (rest : List Char) :
    Json.value? (fuel + 1) ('\x7b' :: (entry key value ++ rest)) =
      (Json.entries? fuel (entry key value ++ rest)).map fun read => (.object read.1, read.2) := by
  obtain ⟨body, same⟩ : ∃ body, entry key value ++ rest = '"' :: body :=
    ⟨_, entry_append key value rest⟩
  rw [same, Json.value?]
  cases found : Json.entries? fuel ('"' :: body) <;>
    simp [skipSpace_cons, Json.isSpace, found]

theorem value?_creatorObject (fuel : Nat) (creator : Creator) (rest : List Char) :
    Json.value? (fuel + 6) (creatorObject creator ++ rest) = some (creatorJson creator, rest) := by
  have type := entries?_last fuel "creatorType" creator.creatorType rest
  have full := entries?_more (fuel + 1) "fullName" creator.fullName _ _ _ _ _ type
  have last := entries?_more (fuel + 2) "lastName" creator.lastName _ _ _ _ _ full
  have first := entries?_more (fuel + 3) "firstName" creator.firstName _ _ _ _ _ last
  have text : creatorObject creator ++ rest = '\x7b' :: (entry "firstName" creator.firstName ++
      ',' :: ' ' :: (entry "lastName" creator.lastName ++
      ',' :: ' ' :: (entry "fullName" creator.fullName ++
      ',' :: ' ' :: (entry "creatorType" creator.creatorType ++ '\x7d' :: rest)))) := by
    simp [creatorObject, Text.join, List.intercalate]
  rw [text, value?_object, first, Option.map_some, creatorJson, creatorEntries]

theorem join_cons_cons (separator first second : List Char) (others : List (List Char)) :
    Text.join separator (first :: second :: others) =
      first ++ separator ++ Text.join separator (second :: others) := by
  simp [Text.join, List.intercalate]

def creatorItems (creators : List Creator) : List Char :=
  Text.join [',', ' '] (creators.map creatorObject)

theorem creatorItems_cons (creator : Creator) (creators : List Creator) :
    ∃ inner, creatorItems (creator :: creators) = '\x7b' :: inner := by
  cases creators with
  | nil => exact ⟨_, rfl⟩
  | cons next others =>
    rw [creatorItems, List.map_cons, List.map_cons, join_cons_cons]
    exact ⟨_, rfl⟩

theorem items?_creatorItems (creator : Creator) (creators : List Creator) (fuel : Nat)
    (rest : List Char) :
    Json.items? (fuel + creators.length + 7) (creatorItems (creator :: creators) ++ ']' :: rest) =
      some ((creator :: creators).map creatorJson, rest) := by
  induction creators generalizing creator with
  | nil =>
    rw [Json.items?]
    simp [creatorItems, Text.join, value?_creatorObject, skipSpace_cons, Json.isSpace]
  | cons next others ih =>
    have text : creatorItems (creator :: next :: others) ++ ']' :: rest =
        creatorObject creator ++ ',' :: ' ' :: (creatorItems (next :: others) ++ ']' :: rest) := by
      simp [creatorItems, join_cons_cons]
    have later : Json.items? (fuel + others.length + 1 + 6)
        (creatorItems (next :: others) ++ ']' :: rest) = _ := ih next
    have space : Json.skipSpace (' ' :: (creatorItems (next :: others) ++ ']' :: rest)) =
        creatorItems (next :: others) ++ ']' :: rest := by
      obtain ⟨inner, start⟩ := creatorItems_cons next others
      simp [start, skipSpace_cons, Json.isSpace]
    have within : fuel + (next :: others).length + 6 = fuel + others.length + 1 + 6 := by
      simp only [List.length_cons]
      omega
    rw [text, Json.items?]
    simp only [within, value?_creatorObject, Option.bind_eq_bind, Option.bind_some]
    have comma (inner : List Char) : Json.skipSpace (',' :: inner) = ',' :: inner := by
      simp [skipSpace_cons, Json.isSpace]
    simp [comma, space, later]

theorem length_creatorItems (creators : List Creator) :
    8 * creators.length <= (creatorItems creators).length := by
  have wide (creator : Creator) : 8 <= (creatorObject creator).length := by
    simp [creatorObject, Text.join, List.intercalate, entry, jsonString]
    omega
  induction creators with
  | nil => simp
  | cons creator creators ih =>
    have first := wide creator
    cases creators with
    | nil => simpa [creatorItems, Text.join] using first
    | cons next others =>
      simp only [creatorItems, List.map_cons, join_cons_cons, List.length_append,
        List.length_cons] at ih ⊢
      omega

theorem parse?_write (creators : List Creator) :
    Json.parse? (write creators).toList = some (.array (creators.map creatorJson)) := by
  cases creators with
  | nil => rfl
  | cons creator creators =>
    have room := length_creatorItems (creator :: creators)
    have text : (write (creator :: creators)).toList =
        '[' :: (creatorItems (creator :: creators) ++ [']']) := by
      simp [write, creatorItems]
    obtain ⟨inner, start⟩ := creatorItems_cons creator creators
    obtain ⟨fuel, enough⟩ : ∃ fuel, 2 * (write (creator :: creators)).toList.length + 2 =
        (fuel + creators.length + 7) + 1 := by
      refine ⟨2 * (write (creator :: creators)).toList.length - creators.length - 6, ?_⟩
      simp only [text, List.length_cons, List.length_append] at room ⊢
      omega
    have items := items?_creatorItems creator creators fuel []
    rw [Json.parse?, enough, text]
    simp only [start, List.cons_append] at items ⊢
    simp only [Json.value?, Json.skipSpace, ↓Char.isValue, Json.isSpace, Char.reduceBEq, Bool.or_self,
      Bool.false_eq_true, not_false_eq_true, List.dropWhile_cons_of_neg, List.cons.injEq,
      Char.reduceEq,
      false_and, imp_self, implies_true, items, List.map_cons, Option.bind_eq_bind, Option.bind_some,
      List.isEmpty_iff, List.dropWhile_nil, ↓reduceIte]

end BibEdit.Snapshot

namespace BibEdit

/-- The creator with a type; without one it is of the default type. -/
def Creator.typed (creator : Creator) : Creator :=
  { creator with
    creatorType := if creator.creatorType = "" then defaultCreatorType else creator.creatorType }

theorem Creator.typed_of_ne (creator : Creator) (given : creator.creatorType ≠ "") :
    creator.typed = creator := by
  simp [Creator.typed, given]

theorem Creator.typed_get (creator : Creator) (part : NamePart) :
    creator.typed.get part = creator.get part := by
  cases part <;> rfl

namespace Snapshot

theorem part_string (entries : List (List Char × Json)) (key value fallback : String)
    (found : Json.get? entries key.toList = some (.string value.toList)) :
    part entries key fallback = .string (if value = "" then fallback else value).toList := by
  by_cases blank : value = ""
  next => simp [part, found, Json.isBlank, blank]
  next => simp [part, found, Json.isBlank, blank]

theorem creatorParts_creatorJson (creator : Creator) :
    creatorParts (creatorJson creator) =
      .ok (creator.typed.map fun text => .string text.toList) := by
  have first := part_string (creatorEntries creator) "firstName" creator.firstName "" rfl
  have last := part_string (creatorEntries creator) "lastName" creator.lastName "" rfl
  have full := part_string (creatorEntries creator) "fullName" creator.fullName "" rfl
  have type := part_string (creatorEntries creator) "creatorType" creator.creatorType
    defaultCreatorType rfl
  have plain (text : String) : (if text = "" then "" else text) = text := by
    split <;> simp [*]
  simp only [plain] at first last full
  simp only [creatorParts, creatorJson, first, last, full, type, CreatorOf.map, Creator.typed]

theorem readParts_write (creators : List Creator) :
    readParts (write creators) =
      .ok (creators.map fun creator => creator.typed.map fun text => .string text.toList) := by
  have parts (creators : List Creator) : (creators.map creatorJson).mapM creatorParts =
      .ok (creators.map fun creator => creator.typed.map fun text => .string text.toList) := by
    induction creators with
    | nil => rfl
    | cons creator creators ih =>
      simp only [List.map_cons, List.mapM_cons, creatorParts_creatorJson, ih]
      rfl
  simp only [readParts, parse?_write, itemsOf]
  exact parts creators

theorem read_write (creators : List Creator) :
    read (write creators) = .ok (creators.map Creator.typed) := by
  have texts (creators : List Creator) :
      (creators.map fun creator => creator.typed.map fun text => Json.string text.toList).mapM
        creatorOf = .ok (creators.map Creator.typed) := by
    induction creators with
    | nil => rfl
    | cons creator creators ih =>
      simp only [List.map_cons, List.mapM_cons, ih]
      simp [creatorOf, CreatorOf.map, text?]
      rfl
  simp only [read, readParts_write]
  exact texts creators

end Snapshot

end BibEdit
