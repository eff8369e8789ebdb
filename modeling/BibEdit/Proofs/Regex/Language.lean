import BibEdit.Proofs.Regex.Leftmost

set_option autoImplicit false

/-! Parts of a pattern that match the texts of a language and no others, and what a search for such
a pattern finds. -/

namespace BibEdit.Regex

def Cursor.past (cursor : Cursor) (part : List Char) : Cursor :=
  { cursor with pos := cursor.pos + part.length }

theorem Cursor.past_append (cursor : Cursor) (first later : List Char) :
    cursor.past (first ++ later) = (cursor.past first).past later := by
  simp [Cursor.past, Nat.add_assoc]

/-- Wherever texts of the language stand the part leads past one of them, and it leads past nothing
else. Any such text will do if the goal can be reached from behind it. -/
structure Node.Matches (node : Node) (language : List Char -> Prop) : Prop where
  sound : ∀ (text : List Char) goal cursor found, run text.toArray node goal cursor = some found ->
    ∃ part, language part /\ part <+: text.drop cursor.pos /\ goal (cursor.past part) = some found
  complete : ∀ (text : List Char) goal cursor part, language part ->
    part <+: text.drop cursor.pos -> (goal (cursor.past part)).isSome = true ->
    (run text.toArray node goal cursor).isSome = true

section Stretches

variable {text first later : List Char} {pos : Nat}

theorem append_prefix_drop (here : first <+: text.drop pos)
    (next : later <+: text.drop (pos + first.length)) : first ++ later <+: text.drop pos := by
  obtain ⟨rest, split⟩ := here
  rw [← List.drop_drop, ← split, List.drop_left] at next
  rw [← split]
  exact (List.prefix_append_right_inj first).2 next

theorem prefix_drop_of_append (first : List Char) (here : first ++ later <+: text.drop pos) :
    first <+: text.drop pos /\ later <+: text.drop (pos + first.length) := by
  obtain ⟨rest, split⟩ := here
  rw [← List.drop_drop, ← split, List.append_assoc, List.drop_left]
  exact ⟨List.prefix_append _ _, List.prefix_append _ _⟩

theorem codeAt_of_starts {c : Char} (here : [c] <+: text.drop pos) :
    codeAt text.toArray pos = some c.toNat := by
  obtain ⟨rest, split⟩ := here
  have read : text[pos]? = some c := by
    rw [← List.head?_drop, ← split]
    rfl
  simp [codeAt, read]

theorem prefix_of_codeAt {code : Nat} (here : codeAt text.toArray pos = some code) :
    ∃ c, [c] <+: text.drop pos /\ c.toNat = code := by
  obtain ⟨c, read, is⟩ := Option.map_eq_some_iff.1 here
  have inside : text[pos]? = some c := by simpa using read
  obtain ⟨within, atPos⟩ := List.getElem?_eq_some_iff.1 inside
  refine ⟨c, ⟨text.drop (pos + 1), ?_⟩, is⟩
  rw [List.drop_eq_getElem_cons within, atPos]
  rfl

end Stretches

theorem matches_empty : Node.empty.Matches fun part => part = [] where
  sound _ _ _ _ ran := ⟨[], rfl, List.nil_prefix, ran⟩
  complete _ _ _ _ empty _ reached := by
    subst empty
    exact reached

theorem matches_step {node : Node} {accepts : Nat -> Bool} (kind : Char -> Prop)
    (decides : ∀ c : Char, accepts c.toNat = true <-> kind c)
    (steps : ∀ text goal cursor, run text node goal cursor = step text accepts goal cursor) :
    node.Matches fun part => ∃ c, kind c /\ part = [c] where
  sound text goal cursor found ran := by
    rw [steps] at ran
    obtain ⟨code, here, accepted, reached⟩ := step_spans _ _ _ _ _ ran
    obtain ⟨c, starts, rfl⟩ := prefix_of_codeAt here
    exact ⟨[c], ⟨c, (decides c).1 accepted, rfl⟩, starts, reached⟩
  complete text goal cursor part ofKind here reached := by
    obtain ⟨c, is, rfl⟩ := ofKind
    rw [steps, step, codeAt_of_starts here]
    dsimp only
    rw [if_pos ((decides c).2 is)]
    exact reached

theorem matches_literal (casing : Casing) (letter : Char) :
    (Node.literal false letter.toNat casing).Matches fun part =>
      ∃ c, casing.same letter.toNat c.toNat = true /\ part = [c] :=
  matches_step _ (fun _ => by simp) fun _ _ _ => rfl

theorem Node.Matches.congr {node : Node} {language other : List Char -> Prop}
    (found : node.Matches language) (same : ∀ part, language part <-> other part) :
    node.Matches other :=
  (funext fun part => propext (same part) : language = other) ▸ found

theorem matches_cons {node : Node} {rest : List Node} {first later : List Char -> Prop}
    (here : node.Matches first) (behind : (Node.ofList rest).Matches later) :
    (Node.ofList (node :: rest)).Matches fun part =>
      ∃ one other, first one /\ later other /\ part = one ++ other where
  sound text goal cursor found ran := by
    rw [run_ofList_cons] at ran
    obtain ⟨one, ofFirst, starts, middle⟩ := here.sound _ _ _ _ ran
    obtain ⟨other, ofLater, follows, reached⟩ := behind.sound _ _ _ _ middle
    refine ⟨one ++ other, ⟨one, other, ofFirst, ofLater, rfl⟩,
      append_prefix_drop starts follows, ?_⟩
    rw [Cursor.past_append, reached]
  complete text goal cursor part both stands reached := by
    obtain ⟨one, other, ofFirst, ofLater, rfl⟩ := both
    obtain ⟨starts, follows⟩ := prefix_drop_of_append one stands
    rw [Cursor.past_append] at reached
    rw [run_ofList_cons]
    exact here.complete _ _ _ one ofFirst starts
      (behind.complete _ goal _ other ofLater follows reached)

section Repetition

variable {body : Node} {kind : Char -> Prop} (one : body.Matches fun part => ∃ c, kind c /\ part = [c])

include one

theorem often_sound (text : List Char) (goal : Goal) (fuel : Nat) (budget last : Option Nat)
    (cursor found : Cursor)
    (ran : often (run text.toArray body) goal fuel budget last cursor = some found) :
    ∃ part, (∀ c ∈ part, kind c) /\ part <+: text.drop cursor.pos /\
      goal (cursor.past part) = some found := by
  induction fuel generalizing budget last cursor with
  | zero => cases ran
  | succ fuel ih =>
    have ends (reached : goal cursor = some found) : ∃ part, (∀ c ∈ part, kind c) /\
        part <+: text.drop cursor.pos /\ goal (cursor.past part) = some found :=
      ⟨[], by simp, List.nil_prefix, reached⟩
    unfold often at ran
    split at ran
    next =>
      split at ran
      next taken =>
        cases ran
        obtain ⟨_, ⟨c, is, rfl⟩, starts, turn⟩ := one.sound _ _ _ _ taken
        obtain ⟨rest, all, follows, reached⟩ := ih _ _ _ turn
        exact ⟨c :: rest, List.forall_mem_cons.2 ⟨is, all⟩, append_prefix_drop starts follows,
          (congrArg goal (cursor.past_append [c] rest)).trans reached⟩
      next => exact ends ran
    next => exact ends ran

-- No turn begins where the one before began, as each but the last takes a character.
theorem often_complete (text : List Char) (goal : Goal) (part : List Char) (fuel : Nat)
    (last : Option Nat) (cursor : Cursor) (all : ∀ c ∈ part, kind c)
    (stands : part <+: text.drop cursor.pos) (reached : (goal (cursor.past part)).isSome = true)
    (moved : last ≠ some cursor.pos) (enough : part.length < fuel) :
    (often (run text.toArray body) goal fuel none last cursor).isSome = true := by
  induction part generalizing fuel last cursor with
  | nil =>
    obtain ⟨fuel, rfl⟩ := Nat.exists_eq_add_one.2 (Nat.zero_lt_of_lt enough)
    unfold often
    rw [if_pos (by simpa [budgetLeft] using moved)]
    split
    next => rfl
    next => exact reached
  | cons c rest ih =>
    obtain ⟨fuel, rfl⟩ := Nat.exists_eq_add_one.2 (Nat.zero_lt_of_lt enough)
    obtain ⟨is, others⟩ := List.forall_mem_cons.1 all
    obtain ⟨starts, follows⟩ := prefix_drop_of_append [c] stands
    have later := ih fuel (some cursor.pos) (cursor.past [c]) others follows
      (by rwa [← Cursor.past_append]) (by simp [Cursor.past]) (by simpa using enough)
    have taken := one.complete _ (often (run text.toArray body) goal fuel none (some cursor.pos))
      cursor [c] ⟨c, is, rfl⟩ starts later
    obtain ⟨found, ran⟩ := Option.isSome_iff_exists.1 taken
    have unlimited : budgetSpent none = none := rfl
    unfold often
    rw [if_pos (by simpa [budgetLeft] using moved), unlimited, ran]
    rfl

theorem matches_rep : (Node.rep .greedy 0 none body).Matches fun part => ∀ c ∈ part, kind c where
  sound text goal cursor found ran := often_sound one text goal _ _ _ cursor found ran
  complete text goal cursor part all stands reached := by
    refine often_complete one text goal part _ none cursor all stands reached nofun ?_
    have short := stands.length_le
    rw [List.length_drop] at short
    simp only [turns, List.size_toArray]
    omega

end Repetition

section Searching

variable {regex : Regex} {language : List Char -> Prop} {text : List Char} {found : Match}
  (root : regex.root.Matches language)

include root

theorem matchAt_sound {pos : Nat} {refuseEmpty : Bool}
    (matched : matchAt regex text.toArray pos refuseEmpty = some found) :
    ∃ part, language part /\ part <+: text.drop pos /\ found.stop = pos + part.length := by
  obtain ⟨cursor, ran, rfl⟩ := Option.map_eq_some_iff.1 matched
  obtain ⟨part, ofLanguage, stands, accepted⟩ := root.sound _ _ _ _ ran
  split at accepted
  next => cases accepted
  next =>
    cases accepted
    exact ⟨part, ofLanguage, stands, rfl⟩

theorem matchAt_complete {pos : Nat} {part : List Char} (refuseEmpty : Bool)
    (ofLanguage : language part) (stands : part <+: text.drop pos)
    (taken : refuseEmpty = true -> part ≠ []) :
    (matchAt regex text.toArray pos refuseEmpty).isSome = true := by
  unfold matchAt
  rw [Option.isSome_map]
  refine root.complete _ _ _ part ofLanguage stands ?_
  cases refuseEmpty with
  | false => rfl
  | true =>
    have someLength := List.length_pos_iff.2 (taken rfl)
    have moved : (pos + part.length == pos) = false := beq_false_of_ne (by omega)
    simp [Cursor.past, moved]

theorem search_none (missed : regex.search text = none) (part : List Char)
    (ofLanguage : language part) : ¬ part <:+: text := by
  rintro ⟨before, after, rfl⟩
  have stands : part <+: (before ++ part ++ after).drop before.length := by simp
  have matched := matchAt_complete root false ofLanguage stands nofun
  have nowhere := matchFrom_eq_none missed before.length (Nat.zero_le _) (by simp)
  rw [Bool.false_and] at nowhere
  rw [nowhere] at matched
  cases matched

/-- What is found is a text of the language, and there is none that begins before it. -/
theorem search_some (searched : regex.search text = some found) :
    found.start <= found.stop /\ found.stop <= text.length /\ language (found.text text) /\
      ∀ start part, language part -> part <+: text.drop start -> found.start <= start := by
  have first := matchFrom_eq_some searched
  obtain ⟨_, ends, inside, _⟩ := matchFrom_within searched (Nat.zero_le _)
  obtain ⟨part, ofLanguage, stands, stop⟩ := matchAt_sound root first.matched
  refine ⟨ends, by simpa using inside, ?_, fun start other ofOther there => ?_⟩
  next => rwa [Match.text, stop, Text.slice_eq_needle stands]
  next =>
    rcases Nat.lt_or_ge start found.start with before | after
    next =>
      have matched := matchAt_complete root false ofOther there nofun
      have nothing := first.earliest start (Nat.zero_le _) before
      rw [Bool.false_and] at nothing
      rw [nothing] at matched
      cases matched
    next => exact after

theorem search_isSome_iff :
    (regex.search text).isSome = true <-> ∃ part, language part /\ part <:+: text := by
  cases searched : regex.search text with
  | none =>
    have missed := search_none root searched
    constructor
    next => nofun
    next =>
      rintro ⟨part, ofLanguage, within⟩
      exact absurd within (missed part ofLanguage)
  | some found =>
    obtain ⟨_, _, belongs, _⟩ := search_some root searched
    refine ⟨fun _ => ⟨found.text text, belongs, ?_⟩, fun _ => rfl⟩
    exact (List.take_prefix _ _).isInfix.trans (List.drop_suffix _ _).isInfix

end Searching

end BibEdit.Regex
