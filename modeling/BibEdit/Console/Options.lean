set_option autoImplicit false

namespace BibEdit.Console

/-- An option of a command: its letter and its word, of which there may be but one, and whether a
value follows. -/
structure OptionSpec where
  letter : Option Char := none
  word : String
  takesValue : Bool := false
  deriving DecidableEq

structure Given where
  word : String
  value : Option String
  deriving DecidableEq

structure Arguments where
  options : List Given
  rest : List String
  deriving DecidableEq

namespace Arguments

def empty : Arguments := ⟨[], []⟩

def has (arguments : Arguments) (word : String) : Bool :=
  arguments.options.any fun given => given.word == word

def values (arguments : Arguments) (word : String) : List String :=
  (arguments.options.filter fun given => given.word == word).filterMap Given.value

def value? (arguments : Arguments) (word : String) : Option String :=
  (arguments.values word).getLast?

def withOption (given : Given) (arguments : Arguments) : Arguments :=
  { arguments with options := given :: arguments.options }

def withRest (argument : String) (arguments : Arguments) : Arguments :=
  { arguments with rest := argument :: arguments.rest }

end Arguments

def isOption (argument : String) : Bool :=
  match argument.toList with
  | '-' :: _ :: _ => true
  | _ => false

def splitValue (argument : String) : String × Option String :=
  let chars := argument.toList
  let word := chars.takeWhile (· != '=')
  match chars.drop word.length with
  | [] => (argument, none)
  | _ :: value => (String.ofList word, some (String.ofList value))

/-- What the letters after a dash give: the options, or the last of them and the value it has in the
same argument or still waits for. Nothing if a letter is unknown. -/
inductive Letters where
  | complete (given : List Given)
  | waiting (given : List Given) (word : String)
  | unknown

def Letters.after (first : Given) : Letters -> Letters
  | .complete given => .complete (first :: given)
  | .waiting given word => .waiting (first :: given) word
  | .unknown => .unknown

def readLetters (specs : List OptionSpec) : List Char -> Letters
  | [] => .complete []
  | letter :: rest =>
    match specs.find? fun spec => spec.letter == some letter with
    | none => .unknown
    | some spec =>
      if !spec.takesValue then (readLetters specs rest).after ⟨spec.word, none⟩
      else if rest.isEmpty then .waiting [] spec.word
      else .complete [⟨spec.word, some (String.ofList rest)⟩]

def readOption (specs : List OptionSpec) (argument : String) : Letters :=
  let (word, value) := splitValue argument
  match specs.find? fun spec => "--" ++ spec.word == word with
  | some spec =>
    match spec.takesValue, value with
    | true, some value => .complete [⟨spec.word, some value⟩]
    | true, none => .waiting [] spec.word
    | false, none => .complete [⟨spec.word, none⟩]
    | false, some _ => .unknown
  | none =>
    if argument.startsWith "--" then .unknown else readLetters specs (argument.toList.drop 1)

def addAll (given : List Given) (arguments : Arguments) : Arguments :=
  given.foldr Arguments.withOption arguments

/-- Takes a command line apart. Options end at two dashes, and, unless they may stand anywhere, at
the first argument that is none. Nothing if an option is unknown or lacks its value. -/
def readArguments (specs : List OptionSpec) (anywhere : Bool) : List String -> Option Arguments
  | [] => some .empty
  | argument :: rest =>
    if argument == "--" then some ⟨[], rest⟩
    else if isOption argument then
      match readOption specs argument with
      | .unknown => none
      | .complete given => (readArguments specs anywhere rest).map (addAll given)
      | .waiting given word =>
        match rest with
        | [] => none
        | value :: rest =>
          (readArguments specs anywhere rest).map (addAll (given ++ [⟨word, some value⟩]))
    else if anywhere then (readArguments specs anywhere rest).map (Arguments.withRest argument)
    else some ⟨[], argument :: rest⟩

end BibEdit.Console
