import StoryGraph.Text.DecimalDigit
import StoryGraph.Text.Numeral

/-!
The arguments of a command line. An argument that starts with a dash names an
option: by its full name, or by the start of one long name and no other, and
with a value after an equals sign where the option takes one. Numbers below
zero and arguments with a space name no option. After two dashes nothing does.

All arguments are sorted out before the first one takes effect, so an ambiguous
name is refused wherever it stands; after that they count in order, and a
request for help ends the reading.
-/

set_option autoImplicit false

namespace StoryGraph.Terminal

inductive StepWish where
  | unsaid
  | number (value : Int)
  /-- Two dashes stood where the number belongs. -/
  | blank
  deriving DecidableEq, Repr

structure Arguments where
  story : Option String
  /-- The knot to start from; nothing if two dashes stood where it belongs. -/
  start : Option String
  maxSteps : StepWish
  config : Option String
  showTags : Bool
  hideSpeaker : Bool
  saveConfig : Bool
  deriving DecidableEq, Repr

def Arguments.standard : Arguments := ⟨none, some "start", .unsaid, none, false, false, false⟩

inductive ArgumentsEnd where
  | help
  | refused
  deriving DecidableEq, Repr

/-- The options, in the order in which they are told. -/
inductive Flag where
  | help
  | start
  | maxSteps
  | config
  | showTags
  | hideSpeaker
  | saveConfig
  deriving DecidableEq, Repr

namespace Flag

def longNames : List (String × Flag) := [
  ("--help", .help), ("--start", .start), ("--max-steps", .maxSteps), ("--config", .config),
  ("--show-tags", .showTags), ("--hide-speaker", .hideSpeaker), ("--save-config", .saveConfig)]

def names : List (String × Flag) := ("-h", .help) :: longNames

def ofName? (name : List Char) : Option Flag :=
  (names.find? fun entry => entry.1.toList = name).map Prod.snd

def startingWith (text : List Char) : List Flag :=
  (longNames.filter fun entry => text.isPrefixOf entry.1.toList).map Prod.snd

def takesValue : Flag → Bool
  | .start | .maxSteps | .config => true
  | _ => false

end Flag

inductive Token where
  | value (text : String)
  /-- An option, with what stands behind an equals sign in the same argument. -/
  | flag (flag : Flag) (attached : Option String)
  /-- The short name of help with more letters, each of them a short name. -/
  | letters (more : List Char)
  | unknown
  /-- Two dashes: only values follow. -/
  | separator
  deriving DecidableEq, Repr

def splitEquals (text : List Char) : List Char × Option String :=
  match text.dropWhile (· ≠ '=') with
  | [] => (text, none)
  | _ :: attached => (text.takeWhile (· ≠ '='), some (String.ofList attached))

def isDecimal (character : Char) : Bool := (Text.decimalValue? character).isSome

/-- Whether a text is a number below zero: digits, or a point with digits behind it. A
line feed at its end does not count. -/
def isNegativeNumber (text : List Char) : Bool :=
  match text with
  | '-' :: digits =>
      let digits := if digits.getLast? = some '\n' then digits.dropLast else digits
      match digits.dropWhile isDecimal with
      | [] => !digits.isEmpty
      | '.' :: fraction => !fraction.isEmpty && fraction.all isDecimal
      | _ => false
  | _ => false

/-- Sort out one argument; nothing if it starts more than one name. -/
def token? (argument : String) : Option Token :=
  let text := argument.toList
  match text with
  | '-' :: second :: rest =>
      match Flag.ofName? text with
      | some flag => some (.flag flag none)
      | none =>
          let (name, attached) := splitEquals text
          match attached, Flag.ofName? name with
          | some attached, some flag =>
              some (if second = '-' then .flag flag (some attached) else .letters attached.toList)
          | _, _ =>
              let plain :=
                if isNegativeNumber text || ' ' ∈ text then Token.value argument else .unknown
              if second = '-' then
                match Flag.startingWith name with
                | [] => some plain
                | [flag] => some (.flag flag attached)
                | _ => none
              else if second = 'h' then some (.letters rest)
              else some plain
  | _ => some (.value argument)

def tokens? : List String → Option (List Token)
  | [] => some []
  | argument :: rest =>
      if argument = "--" then some (.separator :: rest.map .value)
      else do
        let token ← token? argument
        return token :: (← tokens? rest)

/-- Whether letters behind the short name of help ask for help again, and for nothing else. -/
def isHelpAgain (letters : List Char) : Bool := !letters.isEmpty && letters.all (· = 'h')

def Arguments.assign (arguments : Arguments) (value : String) : Flag → Option Arguments
  | .start => some { arguments with start := some value }
  | .maxSteps =>
      (Text.wholeNumber? value.toList).map fun number =>
        { arguments with maxSteps := .number number }
  | .config => some { arguments with config := some value }
  | _ => none

def Arguments.clear (arguments : Arguments) : Flag → Option Arguments
  | .start => some { arguments with start := none }
  | .maxSteps => some { arguments with maxSteps := .blank }
  | .config => some { arguments with config := none }
  | _ => none

/-- Give an option what stands behind its equals sign. Two dashes are no value, there as
elsewhere, and leave the option without one. -/
def Arguments.attach (arguments : Arguments) (attached : String) (flag : Flag) :
    Option Arguments :=
  if attached = "--" then arguments.clear flag else arguments.assign attached flag

def Arguments.turnOn (arguments : Arguments) : Flag → Arguments
  | .showTags => { arguments with showTags := true }
  | .hideSpeaker => { arguments with hideSpeaker := true }
  | .saveConfig => { arguments with saveConfig := true }
  | _ => arguments

/-- Let arguments take effect, one after another. What has no place is remembered, and
refused at the end. Two dashes beside the story go with it. -/
def readTokens (arguments : Arguments) (misplaced : Bool) :
    List Token → Except ArgumentsEnd Arguments
  | [] => if misplaced then .error .refused else .ok arguments
  | .unknown :: rest => readTokens arguments true rest
  | .separator :: rest => readTokens arguments (misplaced || arguments.story.isSome) rest
  | .value story :: .separator :: rest =>
      if arguments.story.isSome then readTokens arguments true rest
      else readTokens { arguments with story := some story } misplaced rest
  | .value story :: rest =>
      if arguments.story.isSome then readTokens arguments true rest
      else readTokens { arguments with story := some story } misplaced rest
  | .letters more :: _ => .error (if isHelpAgain more then .help else .refused)
  | .flag .help none :: _ => .error .help
  | .flag flag (some attached) :: rest =>
      match arguments.attach attached flag with
      | some arguments => readTokens arguments misplaced rest
      | none => .error .refused
  | .flag flag none :: rest =>
      if flag.takesValue then
        match rest with
        | .value value :: rest =>
            match arguments.assign value flag with
            | some arguments => readTokens arguments misplaced rest
            | none => .error .refused
        | _ => .error .refused
      else readTokens (arguments.turnOn flag) misplaced rest

def Arguments.read (line : List String) : Except ArgumentsEnd Arguments :=
  match tokens? line with
  | some tokens => readTokens .standard false tokens
  | none => .error .refused

end StoryGraph.Terminal
