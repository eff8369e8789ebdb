import BibEdit.Regex.Basic
import BibEdit.Regex.Error
import BibEdit.Regex.Token
import BibEdit.Unicode.Alphabetic
import BibEdit.Unicode.Identifier
import BibEdit.Unicode.Name

set_option autoImplicit false

namespace BibEdit.Regex

structure Flags where
  ignoreCase : Bool := false
  multiline : Bool := false
  dotAll : Bool := false
  verbose : Bool := false
  ascii : Bool := false
  unicode : Bool := false
  template : Bool := false
  deriving DecidableEq

def Flags.casing (flags : Flags) : Casing :=
  if flags.ignoreCase then (if flags.ascii then .ascii else .unicode) else .exact

/-- What is left to read, and what is known of the groups read so far. -/
structure Reading where
  tokens : List Token
  dangling : Bool
  position : Nat
  flags : Flags
  groupCount : Nat
  widths : List (Nat × Width)
  names : List (List Char × Nat)
  lookBehindGroups : Option Nat
  conditions : List (Nat × Nat)

def Reading.start (pattern : List Char) (flags : Flags) : Reading where
  tokens := (tokenize pattern).1
  dangling := (tokenize pattern).2
  position := 0
  flags := flags
  groupCount := 0
  widths := []
  names := []
  lookBehindGroups := none
  conditions := []

abbrev Reader := StateT Reading (Except Error)

namespace Reader

/-- Reports a flaw `back` characters before the next token. -/
def fail {α : Type} (flaw : Flaw) (back : Nat := 0) : Reader α := do
  throw (.malformed flaw (some ((<- get).position - back)))

def failAt {α : Type} (flaw : Flaw) (position : Nat) : Reader α :=
  throw (.malformed flaw (some position))

def peek : Reader (Option Token) := return (<- get).tokens.head?

/-- Passes over the next tokens. A backslash left alone is reported as soon as it comes next. -/
def skip (count : Nat) : Reader (List Token) := do
  let reading <- get
  let passed := reading.tokens.take count
  let rest := reading.tokens.drop count
  let position := reading.position + tokensWidth passed
  if !passed.isEmpty && rest.isEmpty && reading.dangling
  then failAt .danglingBackslash position
  else
    set { reading with tokens := rest, position := position }
    return passed

def next : Reader (Option Token) := return (<- skip 1).head?

def accept (c : Char) : Reader Bool := do
  if (<- peek) == some (.plain c) then
    let _ <- skip 1
    return true
  else return false

def isPlain (test : Char -> Bool) : Token -> Bool
  | .plain c => test c
  | .escaped _ => false

def runOf (most : Nat) (test : Char -> Bool) : Reader (List Char) := do
  let passed := ((<- get).tokens.take most).takeWhile (isPlain test)
  return tokensText (<- skip passed.length)

def upTo (terminator : Char) (what : String) : Reader (List Char) := do
  let tokens := (<- get).tokens
  let inner := tokens.takeWhile (· != .plain terminator)
  let text := tokensText inner
  if inner.length < tokens.length then
    let _ <- skip (inner.length + 1)
    if text.isEmpty then fail (.missing what) 1 else return text
  else
    let _ <- skip inner.length
    if text.isEmpty then fail (.missing what) else fail (.unterminatedName terminator) text.length

end Reader

open Reader

def controlEscape? : Char -> Option Nat
  | 'a' => some 7
  | 'b' => some 8
  | 'f' => some 12
  | 'n' => some 10
  | 'r' => some 13
  | 't' => some 9
  | 'v' => some 11
  | '\\' => some 92
  | _ => none

def classEscape? : Char -> Option Member
  | 'd' => some (.named false .digit)
  | 'D' => some (.named true .digit)
  | 's' => some (.named false .space)
  | 'S' => some (.named true .space)
  | 'w' => some (.named false .word)
  | 'W' => some (.named true .word)
  | _ => none

def anchorEscape? (ascii : Bool) : Char -> Option Anchor
  | 'A' => some .textStart
  | 'Z' => some .veryEnd
  | 'b' => some (.boundary ascii)
  | 'B' => some (.noBoundary ascii)
  | _ => none

def isAsciiAlpha (c : Char) : Bool := isAsciiLetter c.toNat
where
  isAsciiLetter (code : Nat) : Bool :=
    (0x41 <= code && code <= 0x5a) || (0x61 <= code && code <= 0x7a)

def hexEscape (c : Char) (count : Nat) : Reader Nat := do
  let digits <- runOf count Text.isHexDigit
  let text := '\\' :: c :: digits
  if digits.length = count then
    let code := Text.radixValue 16 digits
    if code < 0x110000 then return code else fail (.badEscape text) text.length
  else fail (.incompleteEscape text) text.length

def namedEscape : Reader Nat := do
  if <- accept '\x7b' then
    let name <- upTo '\x7d' "character name"
    match Unicode.named? name with
    | some code => return code
    | none => fail (.unknownCharacter name) (name.length + 4)
  else fail .missingBrace

def octalEscape (digits : List Char) : Reader Nat := do
  let text := '\\' :: digits
  let code := Text.radixValue 8 digits
  if 255 < code then fail (.largeOctal text) text.length else return code

def otherEscape (c : Char) : Reader Nat := do
  if isAsciiAlpha c then fail (.badEscape ['\\', c]) 2 else return c.toNat

def memberEscape (c : Char) : Reader Member := do
  match controlEscape? c, classEscape? c with
  | some code, _ => return .single code
  | none, some member => return member
  | none, none =>
    if c == 'x' then return .single (<- hexEscape c 2)
    else if c == 'u' then return .single (<- hexEscape c 4)
    else if c == 'U' then return .single (<- hexEscape c 8)
    else if c == 'N' then return .single (<- namedEscape)
    else if Text.isOctalDigit c then
      let more <- runOf 2 Text.isOctalDigit
      return .single (<- octalEscape (c :: more))
    else if Text.isAsciiDigit c then fail (.badEscape ['\\', c]) 2
    else return .single (<- otherEscape c)

def isClosed (reading : Reading) (group : Nat) : Bool := (reading.widths.lookup group).isSome

/-- Inside a look-behind only groups closed before it may be referred to. -/
def checkLookBehind (group : Nat) : Reader Unit := do
  let reading <- get
  match reading.lookBehindGroups with
  | none => return ()
  | some limit =>
    if !isClosed reading group then fail .openGroup
    else if limit <= group then fail .sameLookBehind
    else return ()

def numberedReference (flags : Flags) (group width : Nat) : Reader Node := do
  let reading <- get
  if reading.groupCount < group then fail (.noGroup group) (width - 1)
  else if !isClosed reading group then fail .openGroup width
  else
    checkLookBehind group
    return .backref group flags.casing

/-- A second digit belongs to the reference; three octal digits are a character instead. -/
def digitEscape (flags : Flags) (c : Char) : Reader Node := do
  match <- runOf 1 Text.isAsciiDigit with
  | [] => numberedReference flags (Text.radixValue 10 [c]) 2
  | second =>
    let third <-
      if Text.isOctalDigit c && second.all Text.isOctalDigit then runOf 1 Text.isOctalDigit
      else pure []
    if third.isEmpty then numberedReference flags (Text.radixValue 10 (c :: second)) 3
    else return .literal false (<- octalEscape (c :: second ++ third)) flags.casing

def nodeEscape (flags : Flags) (c : Char) : Reader Node := do
  match classEscape? c, controlEscape? c with
  | some member, _ => return .set false [member] flags.casing flags.ascii
  | none, some code => return .literal false code flags.casing
  | none, none =>
    if c == 'x' then return .literal false (<- hexEscape c 2) flags.casing
    else if c == 'u' then return .literal false (<- hexEscape c 4) flags.casing
    else if c == 'U' then return .literal false (<- hexEscape c 8) flags.casing
    else if c == 'N' then return .literal false (<- namedEscape) flags.casing
    else if c == '0' then
      let more <- runOf 2 Text.isOctalDigit
      return .literal false (Text.radixValue 8 more) flags.casing
    else if Text.isAsciiDigit c then digitEscape flags c
    else return .literal false (<- otherEscape c) flags.casing

def memberOf : Token -> Reader Member
  | .plain c => return .single c.toNat
  | .escaped c => memberEscape c

def rangeOf (low high : Token) (first last : Member) : Reader Member := do
  let flawed : Reader Member :=
    fail (.badRange low.text high.text) (low.width + 1 + high.width)
  match first, last with
  | .single a, .single b => if b < a then flawed else return .range a b
  | _, _ => flawed

/-- The members up to the closing bracket; those read so far come latest first. -/
def members (here : Nat) : Nat -> List Member -> Reader (List Member)
  | 0, _ => failAt .unterminatedSet here
  | fuel + 1, soFar => do
    match <- next with
    | none => failAt .unterminatedSet here
    | some token =>
      -- A closing bracket that comes first is a member.
      if token == .plain ']' && !soFar.isEmpty then return soFar.reverse
      else
        let first <- memberOf token
        if <- accept '-' then
          match <- next with
          | none => failAt .unterminatedSet here
          | some (.plain ']') => return (.single 0x2d :: first :: soFar).reverse
          | some bound =>
            let last <- memberOf bound
            members here fuel ((<- rangeOf token bound first last) :: soFar)
        else members here fuel (first :: soFar)

def uniqueMembers (members : List Member) : List Member :=
  members.foldl (fun kept member => if kept.contains member then kept else kept ++ [member]) []

def setNode (flags : Flags) (negated : Bool) : List Member -> Node
  | [.single code] => .literal negated code flags.casing
  | members => .set negated members flags.casing flags.ascii

def bracketed (flags : Flags) : Reader Node := do
  let here := (<- get).position - 1
  let negated <- accept '^'
  let found <- members here ((<- get).tokens.length + 1) []
  return setNode flags negated (uniqueMembers found)

structure Count where
  least : Nat
  most : Option Nat

def countLimit : Nat := 4294967295

def countOf (digits : List Char) : Reader Nat := do
  match Text.runValue digits with
  | .error numeral => throw (.longNumeral numeral)
  | .ok value => if countLimit <= value then throw .largeCount else return value

/-- The greatest count: without a comma it is the least one too. -/
def highDigits (comma : Bool) (low : List Char) : Reader (List Char) := do
  if comma then runOf (<- get).tokens.length Text.isAsciiDigit else return low

def bounds (here : Nat) (low high : List Char) : Reader Count := do
  let least <- if low.isEmpty then pure 0 else countOf low
  if high.isEmpty then return ⟨least, none⟩
  else
    let most <- countOf high
    if most < least then failAt .leastAboveMost here else return ⟨least, some most⟩

/-- The counts between braces, or nothing if the brace is an ordinary character. -/
def braceCount : Reader (Option Count) := do
  if (<- peek) == some (.plain '\x7d') then return none
  else
    let before <- get
    let low <- runOf before.tokens.length Text.isAsciiDigit
    let comma <- accept ','
    let high <- highDigits comma low
    if <- accept '\x7d' then return some (<- bounds before.position low high)
    else
      -- No count after all: the brace stands for itself, and what follows is read again.
      set before
      return none

def quantifier : Char -> Reader (Option Count)
  | '?' => return some ⟨0, some 1⟩
  | '*' => return some ⟨0, none⟩
  | '+' => return some ⟨1, none⟩
  | _ => braceCount

inductive PieceKind where
  | anchor
  | repetition
  | plainGroup
  | other
  deriving DecidableEq

/-- A part of a sequence. A plain group is one part for a repetition and none of its own after. -/
structure Piece where
  kind : PieceKind
  node : Node

def Piece.of (node : Node) : Piece :=
  match node with
  | .anchor _ => ⟨.anchor, node⟩
  | _ => ⟨.other, node⟩

def Piece.toList (piece : Piece) : List Node :=
  match piece.kind with
  | .plainGroup => piece.node.toList
  | _ => [piece.node]

def greedMark : Reader Greed := do
  if <- accept '?' then return .lazy
  else if <- accept '+' then return .possessive
  else return .greedy

def repeated (here : Nat) (count : Count) : List Piece -> Reader (List Piece)
  | [] => failAt .nothingToRepeat here
  | last :: soFar => do
    match last.kind with
    | .anchor => failAt .nothingToRepeat here
    | .repetition => failAt .repeatedRepeat here
    | _ =>
      return ⟨.repetition, .rep (<- greedMark) count.least count.most last.node⟩ :: soFar

def flagOf (c : Char) (flags : Flags) : Option Flags :=
  match c with
  | 'i' => some { flags with ignoreCase := true }
  | 'm' => some { flags with multiline := true }
  | 's' => some { flags with dotAll := true }
  | 'x' => some { flags with verbose := true }
  | 'a' => some { flags with ascii := true }
  | 'u' => some { flags with unicode := true }
  | 't' => some { flags with template := true }
  | 'L' => some flags
  | _ => none

def isFlag (token : Token) : Bool := isPlain (fun c => (flagOf c {}).isSome) token

def Flags.join (a b : Flags) : Flags where
  ignoreCase := a.ignoreCase || b.ignoreCase
  multiline := a.multiline || b.multiline
  dotAll := a.dotAll || b.dotAll
  verbose := a.verbose || b.verbose
  ascii := a.ascii || b.ascii
  unicode := a.unicode || b.unicode
  template := a.template || b.template

def Flags.overlap (a b : Flags) : Bool :=
  (a.ignoreCase && b.ignoreCase) || (a.multiline && b.multiline) || (a.dotAll && b.dotAll) ||
    (a.verbose && b.verbose)

/-- Flags turned on and off for a group; a named alphabet takes the place of the one before. -/
def Flags.adjust (flags on off : Flags) : Flags where
  ignoreCase := (flags.ignoreCase || on.ignoreCase) && !off.ignoreCase
  multiline := (flags.multiline || on.multiline) && !off.multiline
  dotAll := (flags.dotAll || on.dotAll) && !off.dotAll
  verbose := (flags.verbose || on.verbose) && !off.verbose
  ascii := on.ascii || (flags.ascii && !on.unicode)
  unicode := on.unicode || (flags.unicode && !on.ascii)
  template := flags.template

def badFlag {α : Type} (token : Token) (expected : Flaw) : Reader α :=
  match token with
  | .plain c => fail (if Unicode.isLetter c.toNat then .unknownFlag else expected) 1
  | .escaped _ => fail expected 2

def flagsOn : Nat -> Token -> Flags -> Reader (Flags × Token)
  | 0, token, on => return (on, token)
  | fuel + 1, token, on => do
    match token with
    | .escaped _ => return (on, token)
    | .plain c =>
      if c == 'L' then fail .localeFlag
      else
        let on := (flagOf c on).getD on
        if (on.ascii && on.unicode) && (c == 'a' || c == 'u') then fail .clashingFlags
        else
          match <- next with
          | none => fail .missingFlagEnd
          | some following =>
            if isPlain (fun d => d == ')' || d == '-' || d == ':') following
            then return (on, following)
            else if isFlag following then flagsOn fuel following on
            else badFlag following .missingFlagEnd

def flagsOff : Nat -> Token -> Flags -> Reader Flags
  | 0, _, off => return off
  | fuel + 1, token, off => do
    match token with
    | .escaped _ => return off
    | .plain c =>
      if c == 'a' || c == 'u' || c == 'L' then fail .keptFlags
      else
        let off := (flagOf c off).getD off
        match <- next with
        | none => fail .missingColon
        | some following =>
          if following == .plain ':' then return off
          else if isFlag following then flagsOff fuel following off
          else badFlag following .missingColon

inductive Scope where
  | global (on : Flags)
  | within (on off : Flags)

def scopeOff (on : Flags) : Reader Scope := do
  let off <-
    match <- next with
    | none => fail .missingFlag
    | some token =>
      if isFlag token then flagsOff ((<- get).tokens.length + 1) token {}
      else badFlag token .missingFlag
  if off.template then fail .globalOff 1
  else if on.overlap off then fail .contradiction 1
  else return .within on off

def scope (token : Token) : Reader Scope := do
  if token == .plain '-' then scopeOff {}
  else
    let (on, ending) <- flagsOn ((<- get).tokens.length + 1) token {}
    if ending == .plain ')' then return .global on
    else if on.template then fail .globalOn 1
    else if ending == .plain '-' then scopeOff on
    else return .within on {}

inductive Opening where
  | capture (name : Option (List Char))
  | plain
  | atomic
  | flagged (on off : Flags)
  | lookAhead (negated : Bool)
  | lookBehind (negated : Bool)
  | cond (group : Nat)
  | comment
  | reference (group : Nat)
  | globalFlags (on : Flags)

def checkName (name : List Char) : Reader Unit := do
  if Unicode.isName name then return () else fail (.badName name) (name.length + 1)

def namedGroup (name : List Char) : Reader Nat := do
  match (<- get).names.lookup name with
  | some group => return group
  | none => fail (.unknownName name) (name.length + 1)

def groupLimit : Nat := 1073741823

/-- A group by its number, which may come later; its first mention is kept. -/
def numberedGroup (name : List Char) (group : Nat) : Reader Nat := do
  if group == 0 then fail .groupZero (name.length + 1)
  else if groupLimit <= group then fail (.noGroup group) (name.length + 1)
  else
    modify fun reading =>
      if (reading.conditions.lookup group).isSome then reading
      else { reading with
        conditions := reading.conditions ++ [(group, reading.position - name.length - 1)] }
    return group

def groupOf (name : List Char) : Reader Nat := do
  if Unicode.isName name then namedGroup name
  else
    match Text.wholeNumber? name with
    | some (.ofNat group) => numberedGroup name group
    | _ => fail (.badName name) (name.length + 1)

def condition : Reader Nat := do
  let group <- groupOf (<- upTo ')' "group name")
  checkLookBehind group
  return group

def namedOpening : Reader Opening := do
  if <- accept '<' then
    let name <- upTo '>' "group name"
    checkName name
    return .capture (some name)
  else if <- accept '=' then
    let name <- upTo ')' "group name"
    checkName name
    let group <- namedGroup name
    if !isClosed (<- get) group then fail .openGroup (name.length + 1)
    else
      checkLookBehind group
      return .reference group
  else
    match <- next with
    | none => fail .unexpectedEnd
    | some token => fail (.unknownExtension ('P' :: token.text)) (token.width + 2)

def comment (start : Nat) : Reader Opening := do
  let tokens := (<- get).tokens
  let inner := tokens.takeWhile (· != .plain ')')
  let _ <- skip (inner.length + 1)
  if inner.length < tokens.length then return .comment else failAt .unterminatedComment start

def lookBehindOpening : Reader Opening := do
  match <- next with
  | none => fail .unexpectedEnd
  | some token =>
    if token == .plain '=' then return .lookBehind false
    else if token == .plain '!' then return .lookBehind true
    else fail (.unknownExtension ('<' :: token.text)) (token.width + 2)

def flagOpening (c : Char) : Reader Opening := do
  match <- scope (.plain c) with
  | .global on => return .globalFlags on
  | .within on off => return .flagged on off

def specialOpening (start : Nat) (c : Char) : Reader Opening := do
  if c == 'P' then namedOpening
  else if c == ':' then return .plain
  else if c == '#' then comment start
  else if c == '=' then return .lookAhead false
  else if c == '!' then return .lookAhead true
  else if c == '<' then lookBehindOpening
  else if c == '(' then return .cond (<- condition)
  else if c == '>' then return .atomic
  else if c == '-' || isFlag (.plain c) then flagOpening c
  else fail (.unknownExtension [c]) 2

def opening (start : Nat) : Reader Opening := do
  if !(<- accept '?') then return .capture none
  else
    match <- next with
    | none => fail .unexpectedEnd
    | some (.escaped c) => fail (.unknownExtension ['\\', c]) 3
    | some (.plain c) => specialOpening start c

def openGroup (name : Option (List Char)) : Reader Nat := do
  let reading <- get
  let group := reading.groupCount + 1
  match name with
  | none =>
    set { reading with groupCount := group }
    return group
  | some name =>
    match reading.names.lookup name with
    | some earlier => fail (.repeatedName name group earlier) (name.length + 1)
    | none =>
      set { reading with groupCount := group, names := reading.names ++ [(name, group)] }
      return group

def widthOf (reading : Reading) (node : Node) : Width :=
  node.width fun group => (reading.widths.lookup group).getD .zero

def closeGroup (group : Nat) (body : Node) : Reader Unit :=
  modify fun reading => { reading with widths := (group, widthOf reading body) :: reading.widths }

def expectClose (start : Nat) : Reader Unit := do
  if <- accept ')' then return () else failAt .unterminatedGroup start

/-- The longest run of parts with which all the alternatives begin, and what is left of them. -/
def sharedStart : Nat -> List (List Node) -> List Node × List (List Node)
  | 0, branches => ([], branches)
  | fuel + 1, branches =>
    match branches with
    | (first :: _) :: others =>
      if others.all fun branch => branch.head?.any first.sameStep then
        let (shared, rest) := sharedStart fuel (branches.map List.tail)
        (first :: shared, rest)
      else ([], branches)
    | _ => ([], branches)

def branchMembers : List (List Node) -> Option (List Member)
  | [] => some []
  | [.literal false code _] :: rest => (branchMembers rest).map (.single code :: ·)
  | [.set false members _ _] :: rest => (branchMembers rest).map (members ++ ·)
  | _ :: _ => none

def joinBranches (flags : Flags) : List (List Node) -> List Node
  | [] => []
  | [branch] => branch
  | branches =>
    let (shared, rest) := sharedStart (branches.flatten.length + 1) branches
    match branchMembers rest with
    | some members => shared ++ [.set false (uniqueMembers members) flags.casing flags.ascii]
    | none => shared ++ [.oneOf (rest.map Node.ofList)]

def isPatternBlank (c : Char) : Bool := Text.isAsciiBlank c

def skipLine : Reader Unit := do
  let tokens := (<- get).tokens
  let _ <- skip ((tokens.takeWhile (· != .plain '\n')).length + 1)

def anchorNode (kind : Anchor) : Piece := ⟨.anchor, .anchor kind⟩

def startAnchor (flags : Flags) : Anchor := if flags.multiline then .lineStart else .textStart

def endAnchor (flags : Flags) : Anchor := if flags.multiline then .lineEnd else .textEnd

def escapedPiece (flags : Flags) (c : Char) : Reader Piece := do
  match anchorEscape? flags.ascii c with
  | some kind => return anchorNode kind
  | none => return .of (<- nodeEscape flags c)

/-- Flags for the whole pattern hold in every branch of it. -/
def flagsFor (flags : Flags) (top : Bool) : Reader Flags := do
  if top then return (<- get).flags else return flags

/-- A literal, a set, an anchor or a count for the part before; `c` has been passed over. -/
def ungrouped (flags : Flags) (here : Nat) (c : Char) (soFar : List Piece) :
    Reader (List Piece) := do
  if flags.verbose && isPatternBlank c then return soFar
  else if flags.verbose && c == '#' then
    skipLine
    return soFar
  else if c == '[' then return .of (<- bracketed flags) :: soFar
  else if c == '?' || c == '*' || c == '+' || c == '\x7b' then
    match <- quantifier c with
    | none => return .of (.literal false c.toNat flags.casing) :: soFar
    | some count => repeated here count soFar
  else if c == '.' then return .of (.any flags.dotAll) :: soFar
  else if c == '^' then return anchorNode (startAnchor flags) :: soFar
  else if c == '$' then return anchorNode (endAnchor flags) :: soFar
  else return .of (.literal false c.toNat flags.casing) :: soFar

def otherBranch (branch : Reader (List Node)) : Reader (List Node) := do
  if <- accept '|' then
    let no <- branch
    if (<- peek) == some (.plain '|') then fail .thirdBranch else return no
  else return []

/-- The outermost look-behind ends what may be referred to inside. -/
def behind (body : Reader (List Node)) : Reader Node := do
  let outer := (<- get).lookBehindGroups
  if outer.isNone then
    modify fun reading => { reading with lookBehindGroups := some (reading.groupCount + 1) }
  let nodes <- body
  if outer.isNone then modify fun reading => { reading with lookBehindGroups := none }
  return .ofList nodes

def enclosed (here : Nat) (body : Reader (List Node)) : Reader Node := do
  let nodes <- body
  expectClose here
  return .ofList nodes

def grouped (body branch : Flags -> Reader (List Node)) (flags : Flags) (first : Bool)
    (here : Nat) (soFar : List Piece) : Opening -> Reader (Flags × List Piece)
  | .comment => return (flags, soFar)
  | .globalFlags on => do
    modify fun reading => { reading with flags := reading.flags.join on }
    if first && soFar.isEmpty then return ((<- get).flags, soFar) else failAt .lateFlags here
  | .reference group => return (flags, .of (.backref group flags.casing) :: soFar)
  | .cond group => do
    let yes <- branch flags
    let no <- otherBranch (branch flags)
    expectClose here
    return (flags, .of (.cond group (.ofList yes) (.ofList no)) :: soFar)
  | .lookAhead negated => do
    return (flags, .of (.lookAhead negated (<- enclosed here (body flags))) :: soFar)
  | .lookBehind negated => do
    let node <- behind (body flags)
    expectClose here
    return (flags, .of (.lookBehind negated (widthOf (<- get) node) node) :: soFar)
  | .capture name => do
    let group <- openGroup name
    let node <- enclosed here (body flags)
    closeGroup group node
    return (flags, .of (.group group node) :: soFar)
  | .plain => return (flags, ⟨.plainGroup, <- enclosed here (body flags)⟩ :: soFar)
  | .atomic => return (flags, .of (.atomic (<- enclosed here (body flags))) :: soFar)
  | .flagged on off =>
    return (flags, .of (.scope (<- enclosed here (body (flags.adjust on off)))) :: soFar)

def endsBranch (token : Option Token) : Bool :=
  token == none || token == some (.plain '|') || token == some (.plain ')')

mutual

def alternatives : Nat -> Flags -> Bool -> Reader (List Node)
  | 0, _, _ => fail .unexpectedEnd
  | fuel + 1, flags, top => branches fuel flags top []

def branches : Nat -> Flags -> Bool -> List (List Node) -> Reader (List Node)
  | 0, _, _, _ => fail .unexpectedEnd
  | fuel + 1, flags, top, soFar => do
    let flags <- flagsFor flags top
    let branch <- sequence fuel flags (top && soFar.isEmpty) []
    if <- accept '|' then branches fuel flags top (branch :: soFar)
    else
      let flags <- flagsFor flags top
      return joinBranches flags (branch :: soFar).reverse

def sequence : Nat -> Flags -> Bool -> List Piece -> Reader (List Node)
  | 0, _, _, _ => fail .unexpectedEnd
  | fuel + 1, flags, first, soFar => do
    if endsBranch (<- peek) then return soFar.reverse.flatMap Piece.toList
    else
      let here := (<- get).position
      match <- next with
      | none => fail .unexpectedEnd
      | some (.escaped c) => sequence fuel flags first ((<- escapedPiece flags c) :: soFar)
      | some (.plain c) =>
        if c == '(' then
          let (flags, soFar) <- grouped (fun flags => alternatives fuel flags false)
            (fun flags => sequence fuel flags false []) flags first here soFar (<- opening here)
          sequence fuel flags first soFar
        else sequence fuel flags first (<- ungrouped flags here c soFar)

end

def widthLimit : Nat := Nat.pow 2 32 - 1

def Greed.operator : Greed -> String
  | .greedy => "MAX_REPEAT"
  | .lazy => "MIN_REPEAT"
  | .possessive => "POSSESSIVE_REPEAT"

def Node.check (template : Bool) : Node -> Except Error Unit
  | .seq first rest | .alt first rest => do
    first.check template
    rest.check template
  | .cond _ yes no => do
    yes.check template
    no.check template
  | .group _ body | .scope body | .atomic body | .lookAhead _ body => body.check template
  | .lookBehind _ width body =>
    if widthLimit < width.least then throw (.malformed .farLookBehind none)
    else if width.least != width.most then throw (.malformed .looseLookBehind none)
    else body.check template
  | .rep greed _ _ body =>
    if template then throw (.malformed (.templateOperator greed.operator) none)
    else body.check template
  | _ => return ()

def wholePattern : Reader Node := do
  let node := Node.ofList (<- alternatives (3 * (<- get).tokens.length + 4) (<- get).flags true)
  let reading <- get
  if reading.flags.ascii && reading.flags.unicode then throw .mixedAlphabets
  else if !reading.tokens.isEmpty then fail .unbalanced
  else
    -- A condition may name a group that comes later, so only now is it known to be wrong.
    match reading.conditions.find? fun entry => reading.groupCount < entry.1 with
    | some (group, position) => failAt (.noGroup group) position
    | none =>
      node.check reading.flags.template
      return node

def compile (pattern : List Char) (ignoreCase : Bool) : Except Error Regex := do
  let start := Reading.start pattern { ignoreCase := ignoreCase }
  if start.tokens.isEmpty && start.dangling then throw (.malformed .danglingBackslash (some 0))
  else
    let (root, reading) <- wholePattern start
    return ⟨root, reading.groupCount, reading.names.map fun entry => (String.ofList entry.1, entry.2)⟩

end BibEdit.Regex
