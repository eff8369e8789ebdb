import BibEdit.Condition.Syntax

set_option autoImplicit false

namespace BibEdit.Condition

theorem escape_cons (c : Char) (text : List Char) :
    escape (c :: text) = (if c = ':' then [':', ':'] else [c]) ++ escape text := by
  simp [escape]

theorem escape_colon (text : List Char) : escape (':' :: text) = ':' :: ':' :: escape text := by
  simp [escape_cons]

theorem escape_other (c : Char) (text : List Char) (other : c ≠ ':') :
    escape (c :: text) = c :: escape text := by
  simp [escape_cons, other]

theorem mem_escape (c : Char) (text : List Char) : c ∈ escape text <-> c ∈ text := by
  induction text with
  | nil => simp
  | cons d text ih => by_cases colon : d = ':' <;> simp [escape_cons, colon, ih]

theorem escape_of_plain (text : List Char) (plain : ':' ∉ text) : escape text = text := by
  induction text with
  | nil => rfl
  | cons c text ih =>
    obtain ⟨differs, later⟩ := not_or.1 (mt List.mem_cons.2 plain)
    rw [escape_other c text fun same => differs same.symm, ih later]

theorem take_nil : take [] = ⟨[], 0, false⟩ := rfl

theorem take_doubled (text : List Char) :
    take (':' :: ':' :: text) = (take text).prepend ':' 2 := by
  simp [take, takeUntil]

theorem take_other (c : Char) (text : List Char) (other : c ≠ ':') :
    take (c :: text) = (take text).prepend c 1 := by
  have differs : ¬ ':' = c := fun same => other same.symm
  cases text with
  | nil => simp [take, takeUntil, differs, Taken.prepend]
  | cons d rest => simp [take, takeUntil, differs]

theorem take_colon (rest : List Char) (single : rest.head? ≠ some ':') :
    take (':' :: rest) = ⟨[], 1, true⟩ := by
  cases rest with
  | nil => rfl
  | cons d rest =>
    have differs : ¬ d = ':' := by simpa using single
    simp [take, takeUntil, differs]

theorem take_escape (text : List Char) :
    take (escape text) = ⟨text, (escape text).length, false⟩ := by
  induction text with
  | nil => rfl
  | cons c text ih =>
    by_cases colon : c = ':'
    next => rw [colon, escape_colon, take_doubled, ih]; rfl
    next => rw [escape_other c text colon, take_other c _ colon, ih]; rfl

theorem take_escape_colon (text rest : List Char) (single : rest.head? ≠ some ':') :
    take (escape text ++ ':' :: rest) = ⟨text, (escape text).length + 1, true⟩ := by
  induction text with
  | nil => exact take_colon rest single
  | cons c text ih =>
    by_cases colon : c = ':'
    next =>
      rw [colon, escape_colon, List.cons_append, List.cons_append, take_doubled, ih]
      rfl
    next =>
      rw [escape_other c text colon, List.cons_append, take_other c _ colon, ih]
      rfl

theorem escaped_or_colon : ∀ text : List Char,
    (∃ read, text = escape read) \/
      ∃ read rest, text = escape read ++ ':' :: rest /\ rest.head? ≠ some ':'
  | [] => .inl ⟨[], rfl⟩
  | [c] => by
    by_cases colon : c = ':'
    next => exact .inr ⟨[], [], by simp [colon], by simp⟩
    next => exact .inl ⟨[c], by simp [escape_cons, colon]⟩
  | c :: d :: rest => by
    -- As the reader does: two characters at once where the first is a colon, else one.
    by_cases colon : c = ':'
    next =>
      by_cases doubled : d = ':'
      next =>
        rw [colon, doubled]
        rcases escaped_or_colon rest with ⟨read, same⟩ | ⟨read, after, same, single⟩
        next => exact .inl ⟨':' :: read, by rw [same, escape_colon]⟩
        next => exact .inr ⟨':' :: read, after, by rw [same, escape_colon]; rfl, single⟩
      next => exact .inr ⟨[], d :: rest, by simp [colon], by simpa using doubled⟩
    next =>
      rcases escaped_or_colon (d :: rest) with ⟨read, same⟩ | ⟨read, after, same, single⟩
      next => exact .inl ⟨c :: read, by rw [same, escape_other c read colon]⟩
      next => exact .inr ⟨c :: read, after, by rw [same, escape_other c read colon]; rfl, single⟩

theorem length_le_escape (text : List Char) : text.length <= (escape text).length := by
  induction text with
  | nil => simp
  | cons c text ih => by_cases colon : c = ':' <;> simp [escape_cons, colon] <;> omega

/-- Reading undoes the doubling and says how far it went: through a text with all of its colons
doubled, to the end of the input or past a single colon. Every input is of one kind or the other, so
that what was read can be told from the input and the other way round. -/
theorem take_inverts_escape :
    (∀ input : List Char,
      ((take input).terminated = true ->
        input = escape (take input).text ++ ':' :: input.drop (take input).consumed /\
          (take input).consumed = (escape (take input).text).length + 1 /\
          (input.drop (take input).consumed).head? ≠ some ':') /\
      ((take input).terminated = false ->
        input = escape (take input).text /\ (take input).consumed = input.length)) /\
    (∀ text, take (escape text) = ⟨text, (escape text).length, false⟩) /\
    ∀ text rest : List Char, rest.head? ≠ some ':' ->
      take (escape text ++ ':' :: rest) = ⟨text, (escape text).length + 1, true⟩ := by
  refine ⟨fun input => ?_, take_escape, take_escape_colon⟩
  rcases escaped_or_colon input with ⟨text, rfl⟩ | ⟨text, rest, rfl, single⟩
  next =>
    rw [take_escape]
    exact ⟨nofun, fun _ => ⟨rfl, rfl⟩⟩
  next =>
    have left : (escape text ++ ':' :: rest).drop ((escape text).length + 1) = rest := by
      rw [← List.drop_drop, List.drop_left]
      rfl
    rw [take_escape_colon text rest single, left]
    exact ⟨fun _ => ⟨rfl, rfl, single⟩, nofun⟩

-- Of three colons in a row the first two stand for one, and the third ends the text.
example : take "a:::c".toList = ⟨"a:".toList, 4, true⟩ := by decide

end BibEdit.Condition
