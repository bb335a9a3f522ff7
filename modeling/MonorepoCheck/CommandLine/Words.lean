import MonorepoCheck.Text.Search

/-!
Reading the words of a command line: switches with a letter or a name, alone or with a value, and
names of subcommands. The first word that is out of place decides what comes of the line.
-/
namespace MonorepoCheck.CommandLine

/-- How often a switch may stand, and whether it takes a value. -/
inductive Arity where
  /-- at most once, without a value -/
  | once
  /-- any number of times, without a value -/
  | counted
  /-- at most once, with a value -/
  | value
  /-- any number of times, each time with a value -/
  | values
  deriving DecidableEq, Repr

def Arity.takesValue : Arity → Bool
  | value | values => true
  | once | counted => false

structure Switch where
  name : String
  letter : Option Char
  arity : Arity
  /-- the values that it takes -/
  accepts : String → Bool

/-- Why reading stops before the end. -/
inductive Stop where
  /-- a word is out of place -/
  | misused
  | help
  | version
  deriving DecidableEq, Repr, Inhabited

/-- The switches found so far, with their values. -/
abbrev Found := List (String × Option String)

/-- What a level of the command line knows. -/
structure Grammar where
  switches : List Switch
  subcommands : List String
  /-- whether the version can be asked for -/
  hasVersion : Bool

/-- What reading a level comes to: its switches, and a subcommand with the words after it. -/
structure Level where
  found : Found
  subcommand : Option (String × List String) := none
  deriving Repr

/-- Whether a word can be no value because it looks like a switch. -/
def looksLikeSwitch (word : List Char) : Bool := word.head? == some '-' && 1 < word.length

/-- Notes a switch down. One that stands only once must not stand again. -/
def note (found : Found) (switch : Switch) (value : Option String) : Except Stop Found :=
  let repeated := found.any fun entry => entry.1 == switch.name
  if repeated && (switch.arity == .once || switch.arity == .value) then .error .misused
  else if !(value.all switch.accepts) then .error .misused
  else .ok (found ++ [(switch.name, value)])

/-- Takes the value of a switch from the next word. -/
def takeValue (found : Found) (switch : Switch) :
    List String → Except Stop (Found × List String)
  | [] => .error .misused
  | word :: rest =>
    if looksLikeSwitch word.toList then .error .misused
    else (note found switch (some word)).map fun found => (found, rest)

/-- Cuts a word at its first equals sign. -/
def cutAtEquals (word : List Char) : List Char × Option String :=
  match word.dropWhile (· != '=') with
  | [] => (word, none)
  | _ :: value => (word.takeWhile (· != '='), some (String.ofList value))

/-- Reads a switch that is given by its name, after the two dashes. -/
def readNamed (grammar : Grammar) (found : Found) (word : List Char) (rest : List String) :
    Except Stop (Found × List String) :=
  let (name, value) := cutAtEquals word
  let name := String.ofList name
  match grammar.switches.find? fun switch => switch.name == name with
  | some switch =>
    match switch.arity.takesValue, value with
    | true, some value => (note found switch (some value)).map fun found => (found, rest)
    | true, none => takeValue found switch rest
    | false, none => (note found switch none).map fun found => (found, rest)
    | false, some _ => .error .misused
  | none =>
    if value.isSome then .error .misused
    else if name == "help" then .error .help
    else if name == "version" && grammar.hasVersion then .error .version
    else .error .misused

/-- Reads switches that are given by their letters, after one dash. What follows the letter of a
switch with a value is its value. -/
def readLetters (grammar : Grammar) (found : Found) (rest : List String) :
    List Char → Except Stop (Found × List String)
  | [] => .ok (found, rest)
  | letter :: more =>
    match grammar.switches.find? fun switch => switch.letter == some letter with
    | some switch =>
      if switch.arity.takesValue then
        match more with
        | [] => takeValue found switch rest
        | '=' :: value =>
          (note found switch (some (String.ofList value))).map fun found => (found, rest)
        | value => (note found switch (some (String.ofList value))).map fun found => (found, rest)
      else
        match note found switch none with
        | .ok found => readLetters grammar found rest more
        | .error stop => .error stop
    | none =>
      if letter = 'h' then .error .help
      else if letter = 'V' && grammar.hasVersion then .error .version
      else .error .misused

/-- Reads one level up to a subcommand or to the end. `rounds` bounds the number of words. -/
def readLevel (grammar : Grammar) : Nat → Found → List String → Except Stop Level
  | 0, _, _ => .error .misused
  | rounds + 1, found, words =>
    match words with
    | [] => .ok { found := found }
    | word :: rest =>
      match word.toList with
      | ['-', '-'] => if rest.isEmpty then .ok { found := found } else .error .misused
      | '-' :: '-' :: name =>
        match readNamed grammar found name rest with
        | .ok (found, rest) => readLevel grammar rounds found rest
        | .error stop => .error stop
      | '-' :: letter :: letters =>
        match readLetters grammar found rest (letter :: letters) with
        | .ok (found, rest) => readLevel grammar rounds found rest
        | .error stop => .error stop
      | _ =>
        if grammar.subcommands.contains word then .ok ⟨found, some (word, rest)⟩
        else .error .misused

def read (grammar : Grammar) (words : List String) : Except Stop Level :=
  readLevel grammar (words.length + 1) [] words

namespace Level

def has (level : Level) (name : String) : Bool := level.found.any fun entry => entry.1 == name

/-- The value of a switch that stands at most once. -/
def value? (level : Level) (name : String) : Option String :=
  (level.found.find? fun entry => entry.1 == name).bind Prod.snd

/-- The values of a switch, each cut at its commas. -/
def values (level : Level) (name : String) : List String :=
  (level.found.filter fun entry => entry.1 == name).flatMap fun entry =>
    match entry.2 with
    | some value => (Text.splitOn ',' value.toList).map String.ofList
    | none => []

end Level
end MonorepoCheck.CommandLine
