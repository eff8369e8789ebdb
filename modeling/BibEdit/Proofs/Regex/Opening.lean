import BibEdit.Proofs.Regex.Reading

set_option autoImplicit false

/-! What the reader passes over between an opening parenthesis and the content of a group. -/

namespace BibEdit.Regex

open Reader Reading

variable {reading after : Reading}

def flagLetters : List Char := ['i', 'm', 's', 'x', 'a', 'u', 't', 'L']

structure TurnedOn (letters : List Char) (before after : Flags) : Prop where
  verbose : after.verbose = true <-> before.verbose = true \/ 'x' ∈ letters
  ignoreCase : after.ignoreCase = true <-> before.ignoreCase = true \/ 'i' ∈ letters
  template : after.template = true <-> before.template = true \/ 't' ∈ letters
  ascii : after.ascii = true <-> before.ascii = true \/ 'a' ∈ letters
  unicode : after.unicode = true <-> before.unicode = true \/ 'u' ∈ letters

theorem TurnedOn.trans {first second : List Char} {before middle after : Flags}
    (here : TurnedOn first before middle) (there : TurnedOn second middle after) :
    TurnedOn (first ++ second) before after where
  verbose := by rw [there.verbose, here.verbose, List.mem_append, or_assoc]
  ignoreCase := by rw [there.ignoreCase, here.ignoreCase, List.mem_append, or_assoc]
  template := by rw [there.template, here.template, List.mem_append, or_assoc]
  ascii := by rw [there.ascii, here.ascii, List.mem_append, or_assoc]
  unicode := by rw [there.unicode, here.unicode, List.mem_append, or_assoc]

theorem turnedOn_letter (c : Char) (flags : Flags) :
    TurnedOn [c] flags ((flagOf c flags).getD flags) := by
  unfold flagOf
  split
  case h_9 =>
    constructor
    all_goals grind
  all_goals constructor <;> simp

theorem mem_flagLetters_of_flagOf (c : Char) (flags on : Flags) (found : flagOf c flags = some on) :
    c ∈ flagLetters := by
  unfold flagOf at found
  split at found
  all_goals first
    | decide
    | cases found

theorem mem_flagLetters (c : Char) (flag : isFlag (.plain c) = true) : c ∈ flagLetters := by
  obtain ⟨on, found⟩ := Option.isSome_iff_exists.1 flag
  exact mem_flagLetters_of_flagOf c {} on found

theorem badFlag_ok {α : Type} {token : Token} {expected : Flaw} {result : α} :
    ¬ badFlag token expected reading = .ok (result, after) := by
  cases token <;> exact fail_ok

theorem flagsOn_ok {fuel : Nat} {c : Char} {on found : Flags} {ending : Token}
    (enough : reading.tokens.length < fuel)
    (ran : flagsOn fuel (.plain c) on reading = .ok ((found, ending), after)) :
    ∃ text : List Char, ∃ last, ending = .plain last /\ last ∈ [')', '-', ':'] /\
      Passes (text.map .plain ++ [ending]) reading after /\ (∀ d ∈ text, d ∈ flagLetters) /\
      TurnedOn (c :: text) on found := by
  induction fuel generalizing reading c on with
  | zero => cases enough
  | succ fuel ih =>
    have here := turnedOn_letter c on
    unfold flagsOn at ran
    dsimp only at ran
    generalize (flagOf c on).getD on = next at ran here
    split at ran
    next => exact absurd ran fail_ok
    next =>
      split at ran
      next => exact absurd ran fail_ok
      next =>
        obtain ⟨following?, second, read, ran⟩ := bind_ok.1 ran
        rcases next_ok read with ⟨rfl, _⟩ | ⟨following, rfl, one⟩
        next => exact absurd ran fail_ok
        next =>
          dsimp only at ran
          split at ran
          next ends =>
            obtain ⟨same, rfl⟩ := pure_ok.1 ran
            cases same
            cases ending with
            | escaped d => cases ends
            | plain last =>
              exact ⟨[], last, rfl, by simpa [isPlain, or_assoc] using ends, one, by simp, here⟩
          next =>
            split at ran
            next flag =>
              cases following with
              | escaped d => cases flag
              | plain d =>
                have shorter : second.tokens.length < fuel := by
                  rw [one.tokens] at enough
                  simpa using enough
                obtain ⟨text, last, is, known, passes, all, there⟩ := ih shorter ran
                refine ⟨d :: text, last, is, known, one.trans passes, ?_, here.trans there⟩
                intro letter member
                rcases List.mem_cons.1 member with rfl | later
                next => exact mem_flagLetters letter flag
                next => exact all letter later
            next => exact absurd ran badFlag_ok

theorem flagsOff_ok {fuel : Nat} {c : Char} {off found : Flags}
    (enough : reading.tokens.length < fuel)
    (ran : flagsOff fuel (.plain c) off reading = .ok (found, after)) :
    ∃ text : List Char, Passes (text.map .plain ++ [.plain ':']) reading after /\
      (∀ d ∈ text, d ∈ flagLetters) /\ TurnedOn (c :: text) off found := by
  induction fuel generalizing reading c off with
  | zero => cases enough
  | succ fuel ih =>
    have here := turnedOn_letter c off
    unfold flagsOff at ran
    dsimp only at ran
    generalize (flagOf c off).getD off = next at ran here
    split at ran
    next => exact absurd ran fail_ok
    next =>
      obtain ⟨following?, second, read, ran⟩ := bind_ok.1 ran
      rcases next_ok read with ⟨rfl, _⟩ | ⟨following, rfl, one⟩
      next => exact absurd ran fail_ok
      next =>
        dsimp only at ran
        split at ran
        next ends =>
          obtain ⟨rfl, rfl⟩ := pure_ok.1 ran
          rw [eq_of_beq ends] at one
          exact ⟨[], one, by simp, here⟩
        next =>
          split at ran
          next flag =>
            cases following with
            | escaped d => cases flag
            | plain d =>
              have shorter : second.tokens.length < fuel := by
                rw [one.tokens] at enough
                simpa using enough
              obtain ⟨text, passes, all, there⟩ := ih shorter ran
              refine ⟨d :: text, one.trans passes, ?_, here.trans there⟩
              intro letter member
              rcases List.mem_cons.1 member with rfl | later
              next => exact mem_flagLetters letter flag
              next => exact all letter later
          next => exact absurd ran badFlag_ok

theorem scopeOff_ok {on : Flags} {found : Scope}
    (ran : scopeOff on reading = .ok (found, after)) :
    ∃ off, found = .within on off /\ ∃ text : List Char,
      Passes (text.map .plain ++ [.plain ':']) reading after /\ (∀ d ∈ text, d ∈ flagLetters) /\
        't' ∉ text := by
  unfold scopeOff at ran
  obtain ⟨token?, second, read, ran⟩ := bind_ok.1 ran
  rcases next_ok read with ⟨rfl, _⟩ | ⟨token, rfl, one⟩
  next =>
    obtain ⟨_, _, failed, _⟩ := bind_ok.1 ran
    exact absurd failed fail_ok
  next =>
    dsimp only at ran
    by_cases flag : isFlag token = true
    next =>
      rw [if_pos flag] at ran
      cases token with
      | escaped d => cases flag
      | plain c =>
        obtain ⟨_, _, got, ran⟩ := bind_ok.1 ran
        obtain ⟨rfl, rfl⟩ := get_ok.1 got
        obtain ⟨off, third, readOff, ran⟩ := bind_ok.1 ran
        obtain ⟨text, passes, all, letters⟩ := flagsOff_ok (Nat.lt_succ_self _) readOff
        split at ran
        next => exact absurd ran fail_ok
        next noTemplate =>
          split at ran
          next => exact absurd ran fail_ok
          next =>
            obtain ⟨rfl, rfl⟩ := pure_ok.1 ran
            refine ⟨off, rfl, c :: text, one.trans passes, ?_,
              fun member => noTemplate (letters.template.2 (.inr member))⟩
            intro letter member
            rcases List.mem_cons.1 member with rfl | later
            next => exact mem_flagLetters letter flag
            next => exact all letter later
    next =>
      rw [if_neg flag] at ran
      obtain ⟨_, _, failed, _⟩ := bind_ok.1 ran
      exact absurd failed badFlag_ok

/-- What flags come to, and how they are written between the question mark and the end. The flag t
is for the whole pattern only. -/
inductive Scoped : Scope -> Char -> List Char -> Prop where
  | global (on : Flags) (first : Char) (text : List Char)
      (all : ∀ d ∈ first :: text, d ∈ flagLetters)
      (letters : TurnedOn (first :: text) {} on) :
      Scoped (.global on) first (text ++ [')'])
  | within (on : Flags) (first : Char) (text : List Char)
      (all : ∀ d ∈ first :: text, d ∈ flagLetters)
      (letters : TurnedOn (first :: text) {} on) (noTemplate : 't' ∉ first :: text) :
      Scoped (.within on {}) first (text ++ [':'])
  | without (on off : Flags) (first : Char) (text later : List Char)
      (all : ∀ d ∈ first :: text, d ∈ flagLetters) (allLater : ∀ d ∈ later, d ∈ flagLetters)
      (letters : TurnedOn (first :: text) {} on) (noTemplate : 't' ∉ first :: text)
      (noTemplateLater : 't' ∉ later) :
      Scoped (.within on off) first (text ++ '-' :: later ++ [':'])
  | onlyWithout (off : Flags) (text : List Char) (all : ∀ d ∈ text, d ∈ flagLetters)
      (noTemplate : 't' ∉ text) :
      Scoped (.within {} off) '-' (text ++ [':'])

theorem scope_ok {c : Char} {found : Scope} (known : c = '-' \/ c ∈ flagLetters)
    (ran : scope (.plain c) reading = .ok (found, after)) :
    ∃ text, Scoped found c text /\ Passes (text.map .plain) reading after := by
  unfold scope at ran
  split at ran
  next hyphen =>
    obtain ⟨off, rfl, text, passes, all, noTemplate⟩ := scopeOff_ok ran
    have is : c = '-' := by simpa using hyphen
    rw [is]
    exact ⟨_, .onlyWithout off text all noTemplate, by simpa using passes⟩
  next other =>
    have letter : c ∈ flagLetters := known.resolve_left fun is => other (by simp [is])
    obtain ⟨_, _, got, ran⟩ := bind_ok.1 ran
    obtain ⟨rfl, rfl⟩ := get_ok.1 got
    obtain ⟨⟨on, ending⟩, second, read, ran⟩ := bind_ok.1 ran
    obtain ⟨text, last, rfl, ends, passes, allText, letters⟩ :=
      flagsOn_ok (Nat.lt_succ_self _) read
    have all : ∀ d ∈ c :: text, d ∈ flagLetters := by
      intro d member
      rcases List.mem_cons.1 member with rfl | later
      next => exact letter
      next => exact allText d later
    dsimp only at ran
    split at ran
    next closed =>
      obtain ⟨rfl, rfl⟩ := pure_ok.1 ran
      have is : last = ')' := by simpa using closed
      rw [is] at passes
      exact ⟨_, .global on c text all letters, by simpa using passes⟩
    next notClosed =>
      split at ran
      next => exact absurd ran fail_ok
      next template =>
        have noTemplate : 't' ∉ c :: text := fun member =>
          template (letters.template.2 (.inr member))
        split at ran
        next hyphen =>
          obtain ⟨off, rfl, later, passesOff, allOff, noTemplateOff⟩ := scopeOff_ok ran
          have is : last = '-' := by simpa using hyphen
          rw [is] at passes
          exact ⟨_, .without on off c text later all allOff letters noTemplate noTemplateOff,
            by simpa using passes.trans passesOff⟩
        next notHyphen =>
          obtain ⟨rfl, rfl⟩ := pure_ok.1 ran
          have is : last = ':' := by
            have notParenthesis : last ≠ ')' := fun same => notClosed (by simp [same])
            have notMinus : last ≠ '-' := fun same => notHyphen (by simp [same])
            simpa [notParenthesis, notMinus] using ends
          rw [is] at passes
          exact ⟨_, .within on c text all letters noTemplate, by simpa using passes⟩

theorem checkName_ok {name : List Char} {done : Unit}
    (ran : checkName name reading = .ok (done, after)) :
    Unicode.isName name = true /\ reading = after := by
  unfold checkName at ran
  split at ran
  next known => exact ⟨known, (pure_ok.1 ran).2⟩
  next => exact absurd ran fail_ok

theorem namedGroup_ok {name : List Char} {group : Nat}
    (ran : namedGroup name reading = .ok (group, after)) : reading = after := by
  unfold namedGroup at ran
  obtain ⟨_, _, got, ran⟩ := bind_ok.1 ran
  obtain ⟨rfl, rfl⟩ := get_ok.1 got
  cases known : reading.names.lookup name with
  | none =>
    rw [known] at ran
    exact absurd ran fail_ok
  | some number =>
    rw [known] at ran
    exact (pure_ok.1 ran).2

theorem numberedGroup_ok {name : List Char} {number group : Nat}
    (ran : numberedGroup name number reading = .ok (group, after)) : Passes [] reading after := by
  unfold numberedGroup at ran
  split at ran
  next => exact absurd ran fail_ok
  next =>
    split at ran
    next => exact absurd ran fail_ok
    next =>
      obtain ⟨_, _, changed, ran⟩ := bind_ok.1 ran
      rw [← (pure_ok.1 ran).2, ← modify_ok.1 changed]
      split
      next => exact Passes.refl _
      next => exact ⟨rfl, rfl, rfl⟩

theorem groupOf_ok {name : List Char} {group : Nat}
    (ran : groupOf name reading = .ok (group, after)) : Passes [] reading after := by
  unfold groupOf at ran
  split at ran
  next =>
    rw [← namedGroup_ok ran]
    exact Passes.refl _
  next =>
    cases numbered : Text.wholeNumber? name with
    | none =>
      rw [numbered] at ran
      exact absurd ran fail_ok
    | some number =>
      rw [numbered] at ran
      cases number with
      | ofNat number => exact numberedGroup_ok ran
      | negSucc below => exact absurd ran fail_ok

theorem condition_ok {group : Nat} (ran : condition reading = .ok (group, after)) :
    ∃ inner, Passes (inner ++ [.plain ')']) reading after /\ Token.plain ')' ∉ inner := by
  unfold condition at ran
  obtain ⟨name, second, read, ran⟩ := bind_ok.1 ran
  obtain ⟨inner, passes, _, clear⟩ := upTo_ok read
  obtain ⟨number, third, found, ran⟩ := bind_ok.1 ran
  have same := groupOf_ok found
  obtain ⟨_, _, looked, ran⟩ := bind_ok.1 ran
  rw [checkLookBehind_ok looked, (pure_ok.1 ran).2] at same
  exact ⟨inner, by simpa using passes.trans same, clear⟩

-- Layout is the mode in which blanks and comments in a pattern stand for nothing.
def Opening.layout : Opening -> Bool
  | .flagged on _ | .globalFlags on => on.verbose
  | _ => false

def Opening.ignoresCase : Opening -> Bool
  | .flagged on _ | .globalFlags on => on.ignoreCase
  | _ => false

/-- What may stand between an opening parenthesis, with the token after it, and the content. -/
inductive Opens : Option Token -> Opening -> List Token -> Prop where
  | capture (head : Option Token) (other : head ≠ some (.plain '?')) :
      Opens head (.capture none) []
  | named (head : Option Token) (inner : List Token)
      (name : Unicode.isName (tokensText inner) = true) :
      Opens head (.capture (some (tokensText inner)))
        (['?', 'P', '<'].map .plain ++ inner ++ [.plain '>'])
  | reference (head : Option Token) (group : Nat) (inner : List Token)
      (clear : Token.plain ')' ∉ inner) :
      Opens head (.reference group) (['?', 'P', '='].map .plain ++ inner ++ [.plain ')'])
  | plain (head : Option Token) : Opens head .plain (['?', ':'].map .plain)
  | comment (head : Option Token) (inner : List Token) (clear : Token.plain ')' ∉ inner) :
      Opens head .comment (['?', '#'].map .plain ++ inner ++ [.plain ')'])
  | lookAhead (head : Option Token) (negated : Bool) :
      Opens head (.lookAhead negated) (['?', if negated then '!' else '='].map .plain)
  | lookBehind (head : Option Token) (negated : Bool) :
      Opens head (.lookBehind negated) (['?', '<', if negated then '!' else '='].map .plain)
  | cond (head : Option Token) (group : Nat) (inner : List Token)
      (clear : Token.plain ')' ∉ inner) :
      Opens head (.cond group) (['?', '('].map .plain ++ inner ++ [.plain ')'])
  | atomic (head : Option Token) : Opens head .atomic (['?', '>'].map .plain)
  | global (head : Option Token) (on : Flags) (first : Char) (text : List Char)
      (written : Scoped (.global on) first text) :
      Opens head (.globalFlags on) (('?' :: first :: text).map .plain)
  | flagged (head : Option Token) (on off : Flags) (first : Char) (text : List Char)
      (written : Scoped (.within on off) first text) :
      Opens head (.flagged on off) (('?' :: first :: text).map .plain)

theorem namedOpening_ok {opened : Opening} (head : Option Token)
    (ran : namedOpening reading = .ok (opened, after)) :
    ∃ passed, Opens head opened ([.plain '?', .plain 'P'] ++ passed) /\
      Passes passed reading after := by
  unfold namedOpening at ran
  obtain ⟨angle, second, accepted, ran⟩ := bind_ok.1 ran
  rcases accept_ok accepted with ⟨rfl, one⟩ | ⟨rfl, rfl, _⟩
  next =>
    obtain ⟨name, third, read, ran⟩ := bind_ok.1 ran
    obtain ⟨inner, passes, rfl, _⟩ := upTo_ok read
    obtain ⟨_, fourth, checked, ran⟩ := bind_ok.1 ran
    obtain ⟨known, rfl⟩ := checkName_ok checked
    obtain ⟨rfl, rfl⟩ := pure_ok.1 ran
    exact ⟨_, by simpa using Opens.named head inner known, one.trans passes⟩
  next =>
    obtain ⟨equals, second, accepted, ran⟩ := bind_ok.1 ran
    rcases accept_ok accepted with ⟨rfl, one⟩ | ⟨rfl, rfl, _⟩
    next =>
      obtain ⟨name, third, read, ran⟩ := bind_ok.1 ran
      obtain ⟨inner, passes, rfl, clear⟩ := upTo_ok read
      obtain ⟨_, fourth, checked, ran⟩ := bind_ok.1 ran
      obtain ⟨_, rfl⟩ := checkName_ok checked
      obtain ⟨group, fifth, found, ran⟩ := bind_ok.1 ran
      rw [← namedGroup_ok found] at ran
      obtain ⟨_, _, got, ran⟩ := bind_ok.1 ran
      obtain ⟨rfl, rfl⟩ := get_ok.1 got
      split at ran
      next => exact absurd ran fail_ok
      next =>
        obtain ⟨_, _, looked, ran⟩ := bind_ok.1 ran
        obtain ⟨rfl, same⟩ := pure_ok.1 ran
        rw [checkLookBehind_ok looked, same] at passes
        exact ⟨_, by simpa using Opens.reference head group inner clear, one.trans passes⟩
    next =>
      obtain ⟨token?, _, read, ran⟩ := bind_ok.1 ran
      cases token? with
      | none => exact absurd ran fail_ok
      | some token => exact absurd ran fail_ok

theorem comment_ok {start : Nat} {opened : Opening}
    (ran : comment start reading = .ok (opened, after)) :
    opened = .comment /\ ∃ inner, Passes (inner ++ [.plain ')']) reading after /\
      Token.plain ')' ∉ inner := by
  unfold comment at ran
  obtain ⟨_, _, got, ran⟩ := bind_ok.1 ran
  obtain ⟨rfl, rfl⟩ := get_ok.1 got
  generalize innerIs : reading.tokens.takeWhile (· != .plain ')') = inner at ran
  obtain ⟨passed, second, skipped, ran⟩ := bind_ok.1 ran
  split at ran
  next more =>
    obtain ⟨rfl, rfl⟩ := pure_ok.1 ran
    exact ⟨rfl, inner, skipThrough_ok innerIs more skipped⟩
  next => exact absurd ran failAt_ok

theorem lookBehindOpening_ok {opened : Opening} (head : Option Token)
    (ran : lookBehindOpening reading = .ok (opened, after)) :
    ∃ passed, Opens head opened ([.plain '?', .plain '<'] ++ passed) /\
      Passes passed reading after := by
  unfold lookBehindOpening at ran
  obtain ⟨token?, second, read, ran⟩ := bind_ok.1 ran
  rcases next_ok read with ⟨rfl, _⟩ | ⟨token, rfl, one⟩
  next => exact absurd ran fail_ok
  next =>
    dsimp only at ran
    split at ran
    next is =>
      obtain ⟨rfl, rfl⟩ := pure_ok.1 ran
      rw [eq_of_beq is] at one
      exact ⟨_, .lookBehind head false, one⟩
    next =>
      split at ran
      next is =>
        obtain ⟨rfl, rfl⟩ := pure_ok.1 ran
        rw [eq_of_beq is] at one
        exact ⟨_, .lookBehind head true, one⟩
      next => exact absurd ran fail_ok

theorem flagOpening_ok {c : Char} {opened : Opening} (head : Option Token)
    (known : c = '-' \/ c ∈ flagLetters)
    (ran : flagOpening c reading = .ok (opened, after)) :
    ∃ passed, Opens head opened ([.plain '?', .plain c] ++ passed) /\
      Passes passed reading after := by
  unfold flagOpening at ran
  obtain ⟨found, second, read, ran⟩ := bind_ok.1 ran
  obtain ⟨text, written, passes⟩ := scope_ok known read
  cases found with
  | global on =>
    obtain ⟨rfl, rfl⟩ := pure_ok.1 ran
    exact ⟨_, .global head on c text written, passes⟩
  | within on off =>
    obtain ⟨rfl, rfl⟩ := pure_ok.1 ran
    exact ⟨_, .flagged head on off c text written, passes⟩

theorem specialOpening_ok {start : Nat} {c : Char} {opened : Opening} (head : Option Token)
    (ran : specialOpening start c reading = .ok (opened, after)) :
    ∃ passed, Opens head opened ([.plain '?', .plain c] ++ passed) /\
      Passes passed reading after := by
  unfold specialOpening at ran
  have alone (opened' : Opening) (opens : Opens head opened' [.plain '?', .plain c])
      (ran : (pure opened' : Reader Opening) reading = .ok (opened, after)) :
      ∃ passed, Opens head opened ([.plain '?', .plain c] ++ passed) /\
        Passes passed reading after := by
    obtain ⟨rfl, rfl⟩ := pure_ok.1 ran
    exact ⟨[], opens, Passes.refl _⟩
  -- The characters are tried one after the other.
  by_cases named : (c == 'P') = true
  next =>
    rw [if_pos named] at ran
    rw [eq_of_beq named]
    exact namedOpening_ok head ran
  rw [if_neg named] at ran
  by_cases plain : (c == ':') = true
  next =>
    rw [if_pos plain] at ran
    exact alone .plain (eq_of_beq plain ▸ .plain head) ran
  rw [if_neg plain] at ran
  by_cases commented : (c == '#') = true
  next =>
    rw [if_pos commented] at ran
    obtain ⟨rfl, inner, passes, clear⟩ := comment_ok ran
    rw [eq_of_beq commented]
    exact ⟨_, by simpa using Opens.comment head inner clear, passes⟩
  rw [if_neg commented] at ran
  by_cases ahead : (c == '=') = true
  next =>
    rw [if_pos ahead] at ran
    exact alone (.lookAhead false) (eq_of_beq ahead ▸ .lookAhead head false) ran
  rw [if_neg ahead] at ran
  by_cases notAhead : (c == '!') = true
  next =>
    rw [if_pos notAhead] at ran
    exact alone (.lookAhead true) (eq_of_beq notAhead ▸ .lookAhead head true) ran
  rw [if_neg notAhead] at ran
  by_cases behind : (c == '<') = true
  next =>
    rw [if_pos behind] at ran
    rw [eq_of_beq behind]
    exact lookBehindOpening_ok head ran
  rw [if_neg behind] at ran
  by_cases conditional : (c == '(') = true
  next =>
    rw [if_pos conditional] at ran
    obtain ⟨group, _, read, ran⟩ := bind_ok.1 ran
    obtain ⟨rfl, rfl⟩ := pure_ok.1 ran
    obtain ⟨inner, passes, clear⟩ := condition_ok read
    rw [eq_of_beq conditional]
    exact ⟨_, by simpa using Opens.cond head group inner clear, passes⟩
  rw [if_neg conditional] at ran
  by_cases atomic : (c == '>') = true
  next =>
    rw [if_pos atomic] at ran
    exact alone .atomic (eq_of_beq atomic ▸ .atomic head) ran
  rw [if_neg atomic] at ran
  by_cases known : (c == '-' || isFlag (.plain c)) = true
  next =>
    rw [if_pos known] at ran
    rw [Bool.or_eq_true] at known
    exact flagOpening_ok head (known.imp (fun is => eq_of_beq is) (mem_flagLetters c)) ran
  next =>
    rw [if_neg known] at ran
    exact absurd ran fail_ok

theorem opening_ok {start : Nat} {opened : Opening}
    (ran : opening start reading = .ok (opened, after)) :
    ∃ passed, Opens reading.tokens.head? opened passed /\ Passes passed reading after := by
  unfold opening at ran
  obtain ⟨question, second, accepted, ran⟩ := bind_ok.1 ran
  rcases accept_ok accepted with ⟨rfl, one⟩ | ⟨rfl, rfl, other⟩
  next =>
    obtain ⟨token?, third, read, ran⟩ := bind_ok.1 ran
    rcases next_ok read with ⟨rfl, _⟩ | ⟨token, rfl, two⟩
    next => exact absurd ran fail_ok
    next =>
      cases token with
      | escaped c => exact absurd ran fail_ok
      | plain c =>
        obtain ⟨passed, opens, passes⟩ := specialOpening_ok reading.tokens.head? ran
        exact ⟨_, opens, (one.trans two).trans passes⟩
  next =>
    obtain ⟨rfl, rfl⟩ := pure_ok.1 ran
    exact ⟨[], .capture _ other, Passes.refl _⟩

theorem openGroup_ok {name : Option (List Char)} {group : Nat}
    (ran : openGroup name reading = .ok (group, after)) : Passes [] reading after := by
  unfold openGroup at ran
  obtain ⟨_, _, got, ran⟩ := bind_ok.1 ran
  obtain ⟨rfl, rfl⟩ := get_ok.1 got
  cases name with
  | none =>
    obtain ⟨_, _, stored, ran⟩ := bind_ok.1 ran
    rw [← (pure_ok.1 ran).2, ← set_ok.1 stored]
    exact ⟨rfl, rfl, rfl⟩
  | some name =>
    cases known : reading.names.lookup name with
    | some earlier =>
      dsimp only at ran
      rw [known] at ran
      exact absurd ran fail_ok
    | none =>
      dsimp only at ran
      rw [known] at ran
      obtain ⟨_, _, stored, ran⟩ := bind_ok.1 ran
      rw [← (pure_ok.1 ran).2, ← set_ok.1 stored]
      exact ⟨rfl, rfl, rfl⟩

theorem closeGroup_ok {group : Nat} {body : Node} {done : Unit}
    (ran : closeGroup group body reading = .ok (done, after)) : Passes [] reading after := by
  rw [← modify_ok.1 ran]
  exact ⟨rfl, rfl, rfl⟩

theorem expectClose_ok {start : Nat} {done : Unit}
    (ran : expectClose start reading = .ok (done, after)) :
    Passes [.plain ')'] reading after := by
  unfold expectClose at ran
  obtain ⟨closed, _, accepted, ran⟩ := bind_ok.1 ran
  rcases accept_ok accepted with ⟨rfl, one⟩ | ⟨rfl, rfl, _⟩
  next =>
    obtain ⟨_, rfl⟩ := pure_ok.1 ran
    exact one
  next => exact absurd ran failAt_ok

end BibEdit.Regex
