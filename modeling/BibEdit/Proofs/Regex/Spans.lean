import BibEdit.Regex.Match

set_option autoImplicit false

/-! What a match tells about the text between the positions it runs from and to. -/

namespace BibEdit.Regex

def Repeated (relation : Nat -> Nat -> Prop) : Nat -> Nat -> Nat -> Prop
  | 0, start, stop => start = stop
  | count + 1, start, stop => ∃ middle, relation start middle /\ Repeated relation count middle stop

theorem repeated_add (relation : Nat -> Nat -> Prop) (first second start middle stop : Nat)
    (before : Repeated relation first start middle)
    (after : Repeated relation second middle stop) :
    Repeated relation (first + second) start stop := by
  induction first generalizing start with
  | zero =>
    rw [Nat.zero_add]
    have same : start = middle := before
    rwa [same]
  | succ first ih =>
    obtain ⟨next, here, later⟩ := before
    rw [Nat.add_right_comm]
    exact ⟨next, here, ih next later⟩

section Repetition

variable (relation : Nat -> Nat -> Prop) (body : Goal -> Goal)
  (sound : ∀ goal cursor found, body goal cursor = some found ->
    ∃ next : Cursor, relation cursor.pos next.pos /\ goal next = some found)

include sound

theorem exactly_spans (count : Nat) (goal : Goal) (cursor found : Cursor)
    (ran : exactly body count goal cursor = some found) :
    ∃ next : Cursor, Repeated relation count cursor.pos next.pos /\ goal next = some found := by
  induction count generalizing cursor with
  | zero => exact ⟨cursor, rfl, ran⟩
  | succ count ih =>
    obtain ⟨middle, here, later⟩ := sound _ cursor found ran
    obtain ⟨next, rest, reached⟩ := ih middle later
    exact ⟨next, ⟨middle.pos, here, rest⟩, reached⟩

theorem often_spans (goal : Goal) (fuel : Nat) (budget last : Option Nat) (cursor found : Cursor)
    (ran : often body goal fuel budget last cursor = some found) :
    ∃ count, ∃ next : Cursor, Repeated relation count cursor.pos next.pos /\
      goal next = some found := by
  induction fuel generalizing budget last cursor with
  | zero => cases ran
  | succ fuel ih =>
    unfold often at ran
    split at ran
    next =>
      split at ran
      next taken =>
        cases ran
        obtain ⟨middle, here, later⟩ := sound _ cursor _ taken
        obtain ⟨count, next, rest, reached⟩ := ih _ _ middle later
        exact ⟨count + 1, next, ⟨middle.pos, here, rest⟩, reached⟩
      next => exact ⟨0, cursor, rfl, ran⟩
    next => exact ⟨0, cursor, rfl, ran⟩

theorem seldom_spans (goal : Goal) (fuel : Nat) (budget last : Option Nat) (cursor found : Cursor)
    (ran : seldom body goal fuel budget last cursor = some found) :
    ∃ count, ∃ next : Cursor, Repeated relation count cursor.pos next.pos /\
      goal next = some found := by
  induction fuel generalizing budget last cursor with
  | zero => cases ran
  | succ fuel ih =>
    unfold seldom at ran
    split at ran
    next left =>
      cases ran
      exact ⟨0, cursor, rfl, left⟩
    next =>
      split at ran
      next =>
        obtain ⟨middle, here, later⟩ := sound _ cursor _ ran
        obtain ⟨count, next, rest, reached⟩ := ih _ _ middle later
        exact ⟨count + 1, next, ⟨middle.pos, here, rest⟩, reached⟩
      next => cases ran

end Repetition

section Possessive

variable (relation : Nat -> Nat -> Prop) (body : Goal)
  (sound : ∀ cursor found, body cursor = some found -> relation cursor.pos found.pos)

include sound

theorem exactlyOnce_spans (count : Nat) (cursor found : Cursor)
    (ran : exactlyOnce body count cursor = some found) :
    Repeated relation count cursor.pos found.pos := by
  induction count generalizing cursor with
  | zero =>
    cases ran
    rfl
  | succ count ih =>
    obtain ⟨middle, here, later⟩ := Option.bind_eq_some_iff.1 ran
    exact ⟨middle.pos, sound cursor middle here, ih middle later⟩

theorem asOftenAsItGoes_spans (fuel : Nat) (budget last : Option Nat) (cursor : Cursor) :
    ∃ count, Repeated relation count cursor.pos
      (asOftenAsItGoes body fuel budget last cursor).pos := by
  induction fuel generalizing budget last cursor with
  | zero => exact ⟨0, rfl⟩
  | succ fuel ih =>
    unfold asOftenAsItGoes
    split
    next =>
      split
      next next taken =>
        obtain ⟨count, rest⟩ := ih (budgetSpent budget) (some cursor.pos) next
        exact ⟨count + 1, next.pos, sound cursor next taken, rest⟩
      next => exact ⟨0, rfl⟩
    next => exact ⟨0, rfl⟩

end Possessive

theorem step_spans (text : Array Char) (accepts : Nat -> Bool) (goal : Goal) (cursor found : Cursor)
    (ran : step text accepts goal cursor = some found) :
    ∃ code, codeAt text cursor.pos = some code /\ accepts code = true /\
      goal { cursor with pos := cursor.pos + 1 } = some found := by
  unfold step at ran
  split at ran
  next code here =>
    split at ran
    next accepted => exact ⟨code, here, accepted, ran⟩
    next => cases ran
  next => cases ran

theorem lookAhead_stays (text : Array Char) (negated : Bool) (body : Node) (goal : Goal)
    (cursor found : Cursor) (ran : run text (.lookAhead negated body) goal cursor = some found) :
    ∃ next : Cursor, next.pos = cursor.pos /\ goal next = some found := by
  unfold run at ran
  split at ran
  next seen _ =>
    split at ran
    next => cases ran
    next => exact ⟨{ seen with pos := cursor.pos }, rfl, ran⟩
  next =>
    split at ran
    next => exact ⟨cursor, rfl, ran⟩
    next => cases ran

theorem lookBehind_stays (text : Array Char) (negated : Bool) (width : Width) (body : Node)
    (goal : Goal) (cursor found : Cursor)
    (ran : run text (.lookBehind negated width body) goal cursor = some found) :
    ∃ next : Cursor, next.pos = cursor.pos /\ goal next = some found := by
  unfold run at ran
  split at ran
  next =>
    split at ran
    next => exact ⟨cursor, rfl, ran⟩
    next => cases ran
  next =>
    split at ran
    next seen _ =>
      split at ran
      next => cases ran
      next => exact ⟨{ seen with pos := cursor.pos }, rfl, ran⟩
    next =>
      split at ran
      next => exact ⟨cursor, rfl, ran⟩
      next => cases ran

theorem rep_spans (text : Array Char) (body : Node) (relation : Nat -> Nat -> Prop)
    (sound : ∀ goal cursor found, run text body goal cursor = some found ->
      ∃ next : Cursor, relation cursor.pos next.pos /\ goal next = some found)
    (greed : Greed) (least : Nat) (most : Option Nat) (goal : Goal) (cursor found : Cursor)
    (ran : run text (.rep greed least most body) goal cursor = some found) :
    ∃ count, least <= count /\ ∃ next : Cursor,
      Repeated relation count cursor.pos next.pos /\ goal next = some found := by
  -- The turns that have to be made come first, then as many as are allowed: one count for both.
  have together {further start middle stop} (needed : Repeated relation least start middle)
      (rest : Repeated relation further middle stop) :
      least <= least + further /\ Repeated relation (least + further) start stop :=
    ⟨Nat.le_add_right _ _, repeated_add _ _ _ _ _ _ needed rest⟩
  cases greed with
  | greedy =>
    obtain ⟨middle, needed, later⟩ :=
      exactly_spans relation (run text body) sound least _ cursor found ran
    obtain ⟨further, next, rest, reached⟩ :=
      often_spans relation (run text body) sound _ _ _ _ middle found later
    exact ⟨_, (together needed rest).1, next, (together needed rest).2, reached⟩
  | lazy =>
    obtain ⟨middle, needed, later⟩ :=
      exactly_spans relation (run text body) sound least _ cursor found ran
    obtain ⟨further, next, rest, reached⟩ :=
      seldom_spans relation (run text body) sound _ _ _ _ middle found later
    exact ⟨_, (together needed rest).1, next, (together needed rest).2, reached⟩
  | possessive =>
    have alone : ∀ cursor found, run text body some cursor = some found ->
        relation cursor.pos found.pos := by
      intro cursor found taken
      obtain ⟨next, here, same⟩ := sound some cursor found taken
      cases same
      exact here
    obtain ⟨middle, needed, reached⟩ := Option.bind_eq_some_iff.1 ran
    have needed := exactlyOnce_spans relation _ alone least cursor middle needed
    obtain ⟨further, rest⟩ := asOftenAsItGoes_spans relation _ alone
      (turns text middle) (most.map (· - least)) none middle
    exact ⟨_, (together needed rest).1, _, (together needed rest).2, reached⟩

/-- A relation that holds between the positions that a part of a pattern is run from and to: for
each kind of part, if it does for the parts within. -/
structure Traced (text : Array Char) (relation : Node -> Nat -> Nat -> Prop) : Prop where
  empty : ∀ pos, relation .empty pos pos
  any : ∀ newline pos code, codeAt text pos = some code -> relation (.any newline) pos (pos + 1)
  literal : ∀ negated letter casing pos code, codeAt text pos = some code ->
    (casing.same letter code != negated) = true ->
    relation (.literal negated letter casing) pos (pos + 1)
  set : ∀ negated members casing ascii pos code, codeAt text pos = some code ->
    relation (.set negated members casing ascii) pos (pos + 1)
  anchor : ∀ kind pos, relation (.anchor kind) pos pos
  backref : ∀ group casing start count pos, sameRun casing text count start pos = true ->
    relation (.backref group casing) pos (pos + count)
  seq : ∀ first rest start middle stop, relation first start middle -> relation rest middle stop ->
    relation (.seq first rest) start stop
  alt : ∀ first rest start stop, relation first start stop \/ relation rest start stop ->
    relation (.alt first rest) start stop
  group : ∀ index body start stop, relation body start stop -> relation (.group index body) start stop
  scope : ∀ body start stop, relation body start stop -> relation (.scope body) start stop
  atomic : ∀ body start stop, relation body start stop -> relation (.atomic body) start stop
  lookAhead : ∀ negated body pos, relation (.lookAhead negated body) pos pos
  lookBehind : ∀ negated width body pos, relation (.lookBehind negated width body) pos pos
  cond : ∀ group yes no start stop, relation yes start stop \/ relation no start stop ->
    relation (.cond group yes no) start stop
  rep : ∀ greed least most body count start stop, least <= count ->
    Repeated (relation body) count start stop -> relation (.rep greed least most body) start stop

theorem run_traced {text : Array Char} {relation : Node -> Nat -> Nat -> Prop}
    (traced : Traced text relation) (node : Node) (goal : Goal) (cursor found : Cursor)
    (ran : run text node goal cursor = some found) :
    ∃ next : Cursor, relation node cursor.pos next.pos /\ goal next = some found := by
  induction node generalizing goal cursor found with
  | empty => exact ⟨cursor, traced.empty _, ran⟩
  | any newline =>
    obtain ⟨code, here, _, reached⟩ := step_spans _ _ _ _ _ ran
    exact ⟨_, traced.any _ _ code here, reached⟩
  | literal negated letter casing =>
    obtain ⟨code, here, accepted, reached⟩ := step_spans _ _ _ _ _ ran
    exact ⟨_, traced.literal _ _ _ _ code here accepted, reached⟩
  | set negated members casing ascii =>
    obtain ⟨code, here, _, reached⟩ := step_spans _ _ _ _ _ ran
    exact ⟨_, traced.set _ _ _ _ _ code here, reached⟩
  | anchor kind =>
    unfold run at ran
    split at ran
    next => exact ⟨cursor, traced.anchor _ _, ran⟩
    next => cases ran
  | backref group casing =>
    unfold run at ran
    split at ran
    next =>
      split at ran
      next same => exact ⟨_, traced.backref _ _ _ _ _ same, ran⟩
      next => cases ran
    next => cases ran
  | seq first rest ihFirst ihRest =>
    obtain ⟨middle, here, later⟩ := ihFirst _ cursor found ran
    obtain ⟨next, there, reached⟩ := ihRest goal middle found later
    exact ⟨next, traced.seq _ _ _ _ _ here there, reached⟩
  | alt first rest ihFirst ihRest =>
    unfold run at ran
    split at ran
    next taken =>
      cases ran
      obtain ⟨next, here, reached⟩ := ihFirst goal cursor _ taken
      exact ⟨next, traced.alt _ _ _ _ (.inl here), reached⟩
    next =>
      obtain ⟨next, here, reached⟩ := ihRest goal cursor found ran
      exact ⟨next, traced.alt _ _ _ _ (.inr here), reached⟩
  | group index body ih =>
    obtain ⟨next, here, reached⟩ := ih _ _ found ran
    exact ⟨next.mark (2 * index + 1), traced.group _ _ _ _ here, reached⟩
  | scope body ih =>
    obtain ⟨next, here, reached⟩ := ih goal cursor found ran
    exact ⟨next, traced.scope _ _ _ here, reached⟩
  | atomic body ih =>
    obtain ⟨inner, taken, reached⟩ := Option.bind_eq_some_iff.1 ran
    obtain ⟨next, here, same⟩ := ih some cursor inner taken
    cases same
    exact ⟨_, traced.atomic _ _ _ here, reached⟩
  | lookAhead negated body =>
    obtain ⟨next, same, reached⟩ := lookAhead_stays text negated body goal cursor found ran
    exact ⟨next, same ▸ traced.lookAhead _ _ _, reached⟩
  | lookBehind negated width body =>
    obtain ⟨next, same, reached⟩ := lookBehind_stays text negated width body goal cursor found ran
    exact ⟨next, same ▸ traced.lookBehind _ _ _ _, reached⟩
  | cond group yes no ihYes ihNo =>
    unfold run at ran
    split at ran
    next =>
      obtain ⟨next, here, reached⟩ := ihYes goal cursor found ran
      exact ⟨next, traced.cond _ _ _ _ _ (.inl here), reached⟩
    next =>
      obtain ⟨next, here, reached⟩ := ihNo goal cursor found ran
      exact ⟨next, traced.cond _ _ _ _ _ (.inr here), reached⟩
  | rep greed least most body ih =>
    obtain ⟨count, enough, next, repeated, reached⟩ :=
      rep_spans text body (relation body) ih greed least most goal cursor found ran
    exact ⟨next, traced.rep _ _ _ _ _ _ _ enough repeated, reached⟩

/-- What is known of the positions between which a part of a pattern matches. Of sets, references
and looks around nothing is said. -/
def Node.Spans (text : Array Char) : Node -> Nat -> Nat -> Prop
  | .empty, start, stop => start = stop
  | .literal false letter casing, start, stop =>
    stop = start + 1 /\ ∃ code, codeAt text start = some code /\ casing.same letter code = true
  | .seq first rest, start, stop =>
    ∃ middle, first.Spans text start middle /\ rest.Spans text middle stop
  | .alt first rest, start, stop => first.Spans text start stop \/ rest.Spans text start stop
  | .group _ body, start, stop => body.Spans text start stop
  | .scope body, start, stop => body.Spans text start stop
  | .atomic body, start, stop => body.Spans text start stop
  | .rep _ least _ body, start, stop =>
    ∃ count, least <= count /\ Repeated (body.Spans text) count start stop
  | _, _, _ => True

theorem spans_traced (text : Array Char) : Traced text (Node.Spans text) where
  empty _ := rfl
  any _ _ _ _ := trivial
  literal negated _ _ _ code here accepted := by
    cases negated with
    | true => trivial
    | false => exact ⟨rfl, code, here, by simpa using accepted⟩
  set _ _ _ _ _ _ _ := trivial
  anchor _ _ := trivial
  backref _ _ _ _ _ _ := trivial
  seq _ _ _ middle _ here later := ⟨middle, here, later⟩
  alt _ _ _ _ either := either
  group _ _ _ _ body := body
  scope _ _ _ body := body
  atomic _ _ _ body := body
  lookAhead _ _ _ := trivial
  lookBehind _ _ _ _ := trivial
  cond _ _ _ _ _ _ := trivial
  rep _ _ _ _ count _ _ enough repeated := ⟨count, enough, repeated⟩

/-- A part that leads to the goal leads to it from a position that it spans. -/
theorem run_spans (text : Array Char) (node : Node) (goal : Goal) (cursor found : Cursor)
    (ran : run text node goal cursor = some found) :
    ∃ next : Cursor, node.Spans text cursor.pos next.pos /\ goal next = some found :=
  run_traced (spans_traced text) node goal cursor found ran

theorem firstMatch_spans (pattern : Regex) (text : Array Char) (count pos : Nat)
    (refuseEmpty : Bool) (found : Match)
    (ran : firstMatch pattern text count pos refuseEmpty = some found) :
    ∃ start stop, pattern.root.Spans text start stop := by
  induction count generalizing pos refuseEmpty with
  | zero => cases ran
  | succ count ih =>
    unfold firstMatch at ran
    split at ran
    next here =>
      obtain ⟨cursor, matched, _⟩ := Option.map_eq_some_iff.1 here
      obtain ⟨next, spans, _⟩ := run_spans _ _ _ _ _ matched
      exact ⟨pos, next.pos, spans⟩
    next => exact ih _ _ ran

theorem search_spans (pattern : Regex) (text : List Char) (found : Match)
    (ran : pattern.search text = some found) :
    ∃ start stop, pattern.root.Spans text.toArray start stop :=
  firstMatch_spans pattern text.toArray _ _ _ found ran

def SpansAll (text : Array Char) : List Node -> Nat -> Nat -> Prop
  | [], start, stop => start = stop
  | node :: rest, start, stop =>
    ∃ middle, node.Spans text start middle /\ SpansAll text rest middle stop

theorem spansAll_append (text : Array Char) (first second : List Node) (start stop : Nat) :
    SpansAll text (first ++ second) start stop <->
      ∃ middle, SpansAll text first start middle /\ SpansAll text second middle stop := by
  induction first generalizing start with
  | nil => simp [SpansAll]
  | cons node rest ih =>
    simp only [List.cons_append, SpansAll, ih]
    constructor
    next =>
      rintro ⟨next, here, middle, before, after⟩
      exact ⟨middle, ⟨next, here, before⟩, after⟩
    next =>
      rintro ⟨middle, ⟨next, here, before⟩, after⟩
      exact ⟨next, here, middle, before, after⟩

theorem spans_ofList (text : Array Char) (nodes : List Node) (start stop : Nat) :
    (Node.ofList nodes).Spans text start stop <-> SpansAll text nodes start stop := by
  match nodes with
  | [] => rfl
  | [node] => simp [Node.ofList, SpansAll]
  | node :: other :: rest =>
    have later := fun middle => spans_ofList text (other :: rest) middle stop
    simp only [Node.ofList, Node.Spans, later]
    rfl

theorem run_ofList_cons (text : Array Char) (node : Node) (rest : List Node) (goal : Goal)
    (cursor : Cursor) :
    run text (Node.ofList (node :: rest)) goal cursor =
      run text node (run text (Node.ofList rest) goal) cursor := by
  cases rest <;> rfl

theorem spansAll_toList (text : Array Char) (node : Node) (start stop : Nat) :
    SpansAll text node.toList start stop <-> node.Spans text start stop := by
  induction node generalizing start stop with
  | seq first rest ihFirst ihRest =>
    simp only [Node.toList, spansAll_append, ihFirst, ihRest, Node.Spans]
  | empty => rfl
  | _ => simp [Node.toList, SpansAll]

end BibEdit.Regex
