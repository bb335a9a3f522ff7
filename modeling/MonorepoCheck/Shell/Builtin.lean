import MonorepoCheck.Shell.Fields
import MonorepoCheck.Shell.Stream
import MonorepoCheck.Shell.Token

/-!
The commands that the shell carries out itself, those aside that run scripts or other commands.
-/
namespace MonorepoCheck.Shell

open Text (Bytes)

/-- Commands that a script cannot do without: mistakes in them end it. -/
def specialBuiltins : List String :=
  [":", ".", "break", "continue", "eval", "exec", "exit", "export", "local", "readonly", "return",
   "set", "shift", "times", "trap", "unset"]

def otherBuiltins : List String :=
  ["[", "alias", "bg", "cd", "command", "echo", "false", "fg", "getopts", "hash", "jobs", "kill",
   "printf", "pwd", "read", "test", "true", "type", "ulimit", "umask", "unalias", "wait"]

/-- The letters of the options that have names. -/
def optionLetters : List (String × Char) :=
  [("errexit", 'e'), ("noglob", 'f'), ("ignoreeof", 'I'), ("interactive", 'i'), ("monitor", 'm'),
   ("noexec", 'n'), ("stdin", 's'), ("xtrace", 'x'), ("verbose", 'v'), ("vi", 'V'), ("emacs", 'E'),
   ("noclobber", 'C'), ("allexport", 'a'), ("notify", 'b'), ("nounset", 'u'), ("privileged", 'p')]

/-- A text that the shell reads as the same text. -/
def inQuotes (text : Bytes) : Bytes :=
  '\'' :: Text.replace ['\''] "'\"'\"'".toList text ++ ['\'']

namespace Session

/-- The variables that a shell starts with, those aside that it is given. -/
def withUsual (session : Session) : Session :=
  let usual : List (String × Bytes) :=
    [("IFS", [' ', '\t', '\n']), ("OPTIND", ['1']), ("PATH", Program.usualPath.toList),
     ("PPID", Text.decimal session.parent), ("PS1", ['$', ' ']), ("PS2", ['>', ' ']),
     ("PS4", ['+', ' ']), ("PWD", Text.bytesOfText (FileTree.pathOf session.host.here).text)]
  let missing := usual.filter fun (name, _) => (session.host.valueOf? name).isNone || name == "IFS"
  { session with bindings := missing.map fun (name, value) => (name.toList, value) }

/-- The directories that programs are looked for in. -/
def searched (session : Session) : String := Text.decode (session.valueOf "PATH".toList)

/-- Sets a variable, unless its value is fixed. -/
def assignOrFail (session : Session) (name value : Bytes) : Session :=
  if session.fixed.contains name then session.fail (Text.decode name ++ ": is read only")
  else
    let session := session.assign name value
    if session.hasOption 'a' then { session with exports := name :: session.exports } else session

/-- A number that a builtin is given. -/
def numberOf (word : Bytes) : Except String Nat :=
  match decimalInteger? word with
  | some number =>
    if 0 ≤ number && number < (Nat.pow 2 31 : Nat) then .ok number.toNat
    else .error ("Illegal number: " ++ Text.decode word)
  | none => .error ("Illegal number: " ++ Text.decode word)

/-- Ends the process with a status, of which one byte is kept, or leaves a function. -/
def runExit (session : Session) (leaves : Bool) (words : List Bytes) : Session :=
  let done (session : Session) : Session :=
    if leaves then session.exit .returned else session.exit (.exited session.status)
  match words.tail with
  | [] => done session
  | word :: _ =>
    match numberOf word with
    | .ok status => done (session.withStatus (status % 256))
    | .error text => session.fail text

def runBreak (session : Session) (again : Bool) (words : List Bytes) : Session :=
  let levels := match words.tail with
    | [] => Except.ok 1
    | word :: _ => numberOf word
  match levels with
  | .ok 0 => session.fail "Illegal number: 0"
  | .ok levels =>
    let session := session.withStatus 0
    if session.loops = 0 then session else session.exit (.loop again (min levels session.loops))
  | .error text => session.fail text

def runShift (session : Session) (words : List Bytes) : Session :=
  match (words.tail.head?.map numberOf).getD (.ok 1) with
  | .ok count =>
    if session.parameters.length ≤ count then session.fail "can't shift that many"
    else
      { session with
        parameters := session.parameters.take 1 ++ session.parameters.drop (count + 1), status := 0 }
  | .error text => session.fail text

/-- Sets options, by letters or names, and then the parameters of the script. -/
def runSet (session : Session) : List Bytes → Session
  | [] => session.withStatus 0
  | ['-', '-'] :: rest => renewed session rest
  | ['-'] :: rest =>
    if rest.isEmpty then session.withStatus 0
    else renewed session rest
  | [['-', 'o']] | [['+', 'o']] => session.withStatus 0
  | ['-', 'o'] :: name :: rest => named session true name rest
  | ['+', 'o'] :: name :: rest => named session false name rest
  | ('-' :: letters) :: rest => runSet (letters.foldl (lettered true) session) rest
  | ('+' :: letters) :: rest => runSet (letters.foldl (lettered false) session) rest
  | words => renewed session words
where
  renewed (session : Session) (words : List Bytes) : Session :=
    { session with parameters := session.parameters.take 1 ++ words, status := 0 }
  change (session : Session) (on : Bool) (letter : Char) : Session :=
    let others := session.options.filter (· != letter)
    { session with options := if on then letter :: others else others }
  lettered (on : Bool) (session : Session) (letter : Char) : Session :=
    if optionLetters.any fun entry => entry.2 == letter then change session on letter
    else if session.ending.isSome then session
    else session.fail ("Illegal option -" ++ String.singleton letter)
  named (session : Session) (on : Bool) (name : Bytes) (rest : List Bytes) : Session :=
    match optionLetters.lookup (String.ofList name) with
    | some letter => runSet (change session on letter) rest
    | none => session.fail ("Illegal option -o " ++ Text.decode name)

/-- Goes over names, with values where words like `name=value` give them. -/
def eachName (session : Session) (use : Session → Bytes → Option Bytes → Session)
    (words : List Bytes) : Session :=
  words.foldl (fun session word =>
    let name := word.takeWhile (· != '=')
    if session.ending.isSome then session
    else if !isName name then
      session.fail (Text.decode name ++ ": bad variable name")
    else
      use session name
        (if name.length < word.length then some (word.drop (name.length + 1)) else none))
    (session.withStatus 0)

def runExport (session : Session) (words : List Bytes) : Session :=
  session.eachName (fun session name value =>
    let session := { session with exports := name :: session.exports }
    match value with
    | some value => session.assignOrFail name value
    | none => session) (words.filter fun word => word != ['-', 'p'])

def runReadOnly (session : Session) (words : List Bytes) : Session :=
  let names := words.filter fun word => word != ['-', 'p']
  if names.isEmpty then
    (session.emit (session.fixed.reverse.flatMap fun name =>
      "readonly ".toList ++ name ++ (match session.value? name with
        | some value => '=' :: inQuotes value
        | none => []) ++ ['\n'])).withStatus 0
  else
    session.eachName (fun session name value =>
      let session := match value with
        | some value => session.assignOrFail name value
        | none => session
      { session with fixed := name :: session.fixed.filter (· != name) }) names

def runUnset (session : Session) (words : List Bytes) : Session :=
  let functions := words.head? == some ['-', 'f']
  let names := words.filter fun word => !isOption word
  if functions then
    { session with
      functions := session.functions.filter fun entry => !names.contains entry.1, status := 0 }
  else
    session.eachName (fun session name _ =>
      if session.fixed.contains name then
        session.fail (Text.decode name ++ ": is read only")
      else session.unset name) names

def runLocal (session : Session) (words : List Bytes) : Session :=
  if session.calls = 0 then session.fail "not in a function"
  else
    session.eachName (fun session name value =>
      let session := { session with hidden := (name, session.bindings.lookup name) :: session.hidden }
      match value with
      | some value => session.assignOrFail name value
      | none => session) words

/-- Takes a line of the input; the status tells whether there was one. -/
def runRead (session : Session) (words : List Bytes) : Session :=
  let names := words.filter fun word => !isOption word
  match names.find? fun name => !isName name || session.fixed.contains name with
  | some name =>
    session.fail (Text.decode name
      ++ (if isName name then ": is read only" else ": bad variable name"))
  | none =>
    if names.isEmpty then session.fail "arg count"
    else
      let raw := (words.filter isOption).any fun word => word.contains 'r'
      let (line, rest, ended) := takeLine raw session.input
      let session := { session with
        input := rest
        elapsed := if rest.isEmpty then max session.elapsed session.inputReady else session.elapsed }
      ((shareOut session.separators names line).foldl
        (fun session (name, share) => session.assign name share) session).withStatus
        (if ended then 0 else 1)

def runChangeDirectory (session : Session) (words : List Bytes) : Session :=
  let words := words.filter fun word => word == ['-'] || !isOption word
  let back := words.head? == some ['-']
  let target := match words.head? with
    | none => session.value? "HOME".toList
    | some ['-'] => session.value? "OLDPWD".toList
    | some word => some word
  let refused : Session := session.fail ("can't cd to " ++ Text.decode (target.getD []))
  match target with
  | none => session.withStatus 0
  | some target =>
    let host := session.host
    match host.files.locate host.here (path target) with
    | .error _ => refused
    | .ok place =>
      if !host.isDirectoryAt (path target) then refused
      else
        let moved := { session.assign "OLDPWD".toList (session.valueOf "PWD".toList) with
          host := { host with here := place }, status := 0 }
        let text := Text.bytesOfText (FileTree.pathOf place).text
        let moved := moved.assign "PWD".toList text
        if back then moved.emit (text ++ ['\n']) else moved

/-- Keeps a script for signals, or tells which ones are kept. -/
def runTrap (session : Session) (words : List Bytes) : Session :=
  let words := if words.head? == some ['-', '-'] then words.tail else words
  match words with
  | [] =>
    let sorted := session.traps.mergeSort fun a b => a.1 ≤ b.1
    (session.emit (sorted.flatMap fun (number, script) =>
      "trap -- ".toList ++ inQuotes script ++ (" " ++ signalName number ++ "\n").toList)).withStatus 0
  | action :: names =>
    let resets := action = ['-'] || (names.isEmpty && (signal? action).isSome)
    let names := if names.isEmpty then [action] else names
    names.foldl (fun session name =>
      match signal? name with
      | none =>
        (session.emitTo (session.sinkOf 2)
          ("trap: ".toList ++ name ++ ": bad trap\n".toList)).withStatus 1
      | some number =>
        let others := session.traps.filter fun entry => entry.1 != number
        { session with traps := if resets then others else (number, action) :: others })
      (session.withStatus 0)

/-- Ends a job at this time; nothing that it would write later is written. -/
def endJob (session : Session) (job : Job) (signal : Nat) : Session :=
  if job.ends ≤ session.elapsed || isHarmless signal then session
  else
    let ended : Job := ⟨job.number, session.elapsed, 128 + signal, some signal⟩
    { session with
      jobs := session.jobs.map fun other => if other.number = job.number then ended else other
      chunks := session.chunks.filter fun chunk =>
        !(firstNumber + chunk.job == job.number && session.elapsed < chunk.time) }

/-- Sends a signal to a process by its number. -/
def sendSignal (signal : Nat) (session : Session) (word : Bytes) : Session :=
  let unknown : Session := (session.complainOwn "No such process\n").withStatus 1
  match Text.readNumeral? word with
  | none =>
    if word.head? == some '%' || word.head? == some '-' then unknown
    else session.fail ("Illegal number: " ++ Text.decode word)
  | some number =>
    match session.jobs.find? fun job => job.number == number with
    | some job => session.endJob job signal
    | none =>
      if number = session.number || number = 0 || (number = session.parent && number != 1) then
        let target := if number = 0 then session.number else number
        if signal = 0 then session else session.send target signal
      else unknown

def runKill (session : Session) (words : List Bytes) : Session :=
  let illegal (option : Bytes) : Session :=
    session.fail ("Illegal option -" ++ Text.decode (option.take 1))
  let upper (word : Bytes) : Bytes :=
    word.map fun c => if 'a' ≤ c && c ≤ 'z' then Char.ofNat (c.toNat - 32) else c
  let usage : Session :=
    session.fail ("Usage: kill [-s sigspec | -signum | -sigspec] [pid | job]... or\n"
      ++ "kill -l [exitstatus]")
  let send (signal : Nat) (targets : List Bytes) : Session :=
    if targets.isEmpty then usage
    else targets.foldl (sendSignal signal) (session.withStatus 0)
  match words with
  | [] => usage
  | ['-', 'l'] :: numbers =>
    numbers.foldl (fun session word =>
      match numberOf word with
      | .ok number => session.emit ((signalName (number % 128)).toList ++ ['\n'])
      | .error text => session.fail text) (session.withStatus 0)
  | ['-', '-'] :: targets => send 15 targets
  | ['-', 's'] :: name :: targets =>
    match signal? (upper name) with
    | some signal => send signal targets
    | none => session.fail ("invalid signal number or name: " ++ Text.decode name)
  | ('-' :: name) :: targets =>
    match signal? (upper name) with
    | some signal => send signal targets
    | none => illegal name
  | targets => send 15 targets

/-- Waits for jobs: all of them, or those that are named. -/
def runWait (session : Session) (words : List Bytes) : Session :=
  let reached (session : Session) (time : Nat) : Session := session.wait (time - session.elapsed)
  let jobs := if words.isEmpty then session.jobs
    else session.jobs.filter fun job => words.any fun word => Text.decimal job.number == word
  let last := (jobs.map Job.ends).foldl max session.elapsed
  match session.arrival? last true with
  | some arrival =>
    -- a script for a signal cuts the waiting short
    (session.wait (arrival.time - session.elapsed)).withStatus (128 + arrival.signal)
  | none =>
  if words.isEmpty then
    { session.jobs.foldl (fun session job => reached session job.ends) (session.withStatus 0) with
      jobs := [] }
  else
    words.foldl (fun session word =>
      match session.jobs.find? fun job => Text.decimal job.number == word with
      | none => session.withStatus 127
      | some job =>
        let session := (reached session job.ends).withStatus job.status
        match job.signal.map signalNotice with
        | some notice =>
          if notice.isEmpty then session
          else session.emitTo (session.sinkOf 2) (Text.bytesOfText (notice ++ "\n"))
        | none => session) session

/-- What a name means as a command. -/
inductive Meaning where
  | keyword
  | function (body : Script)
  | special
  | builtin
  | program (path : String)
  | nothing

def meaningOf (session : Session) (name : Bytes) : Meaning :=
  let text := Text.decode name
  if keywords.contains text then .keyword
  else if specialBuiltins.contains text then .special
  else
    match session.functions.lookup name with
    | some body => .function body
    | none =>
      if otherBuiltins.contains text then .builtin
      else
        match Program.located? session.host session.searched text with
        | some found => .program found
        | none => .nothing

/-- Tells what names mean as commands. -/
def describe (session : Session) (names : List Bytes) : Session :=
  names.foldl (fun session name =>
    let told (session : Session) (text : String) : Session :=
      session.emit (name ++ Text.bytesOfText (text ++ "\n"))
    match session.meaningOf name with
    | .keyword => told session " is a shell keyword"
    | .function _ => told session " is a shell function"
    | .special => told session " is a special shell builtin"
    | .builtin => told session " is a shell builtin"
    | .program found => told session (" is " ++ found)
    | .nothing => (told session ": not found").withStatus 127) (session.withStatus 0)

/-- Tells how a command would be found. -/
def locate (session : Session) (names : List Bytes) : Session :=
  match names with
  | [] => session.withStatus 0
  | name :: _ =>
    match session.meaningOf name with
    | .program found => (session.emit (Text.bytesOfText (found ++ "\n"))).withStatus 0
    | .nothing => session.withStatus 127
    | _ => (session.emit (name ++ ['\n'])).withStatus 0

def runEcho (session : Session) (words : List Bytes) : Session :=
  if (session.streams.lookup 1).isNone then
    (session.complainOwn "echo: I/O error").withStatus 1
  else (session.emit (echoed words)).withStatus 0

def runPrint (session : Session) (words : List Bytes) : Session :=
  let (bytes, problems, status) := printed words
  (problems.foldl (fun session text => session.complainOwn text)
    (session.emit bytes)).withStatus status

def runQuestion (session : Session) (words : List Bytes) : Session :=
  match session.runTest words with
  | (status, some text) =>
    (session.complainOwn text).withStatus status
  | (status, none) => session.withStatus status

/-- Takes the next option from words, by the letters that are known; a colon after one asks for a
value. -/
def runOptions (session : Session) (words : List Bytes) : Session :=
  let known := words.head?.getD []
  let name := (words[1]?).getD []
  let given := if words.length ≤ 2 then session.parameters.tail else words.drop 2
  let index := (decimalInteger? (session.valueOf "OPTIND".toList)).getD 1 |>.toNat
  let set (session : Session) (letter : Bytes) (next : Nat) (within : Nat) : Session :=
    ((session.assign name letter).assign "OPTIND".toList (Text.decimal next)).assign
      "OPTPOS".toList (Text.decimal within)
  let within := (decimalInteger? (session.valueOf "OPTPOS".toList)).getD 0 |>.toNat
  match given[index - 1]? with
  | some ('-' :: letters) =>
    if letters.isEmpty then (set session ['?'] index 0).withStatus 1
    else if letters = ['-'] then (set session ['?'] (index + 1) 0).withStatus 1
    else
      let letter := (letters[within]?).getD '?'
      let left := letters.drop (within + 1)
      let after := if left.isEmpty then (index + 1, 0) else (index, within + 1)
      match known.dropWhile (· != letter) with
      | _ :: ':' :: _ =>
        let value := if left.isEmpty then given[index]? else some left
        match value with
        | some value =>
          ((set session [letter] (if left.isEmpty then index + 2 else index + 1) 0).assign
            "OPTARG".toList value).withStatus 0
        | none =>
          ((set session ['?'] (index + 1) 0).emitTo (session.sinkOf 2)
            (("No arg for -" ++ String.singleton letter ++ " option\n").toList)).withStatus 0
      | _ :: _ => ((set session [letter] after.1 after.2).unset "OPTARG".toList).withStatus 0
      | [] =>
        ((set session ['?'] after.1 after.2).emitTo (session.sinkOf 2)
          (("Illegal option -" ++ String.singleton letter ++ "\n").toList)).withStatus 0
  | _ => (set session ['?'] index 0).withStatus 1

/-- Carries out a command by its name, if it is one of these. -/
def runBuiltin? (session : Session) (words : List Bytes) : Option Session :=
  let rest := words.tail
  let before := session.caller
  let session := { session with caller := words.head?.getD [] }
  Option.map (fun after => { after with caller := before }) <|
  match String.ofList (words.head?.getD []) with
  | ":" | "true" | "alias" | "bg" | "fg" | "hash" | "jobs" | "times" | "ulimit" | "unalias" =>
    some (session.withStatus 0)
  | "false" => some (session.withStatus 1)
  | "exit" => some (session.runExit false words)
  | "return" => some (session.runExit true words)
  | "break" => some (session.runBreak false words)
  | "continue" => some (session.runBreak true words)
  | "shift" => some (session.runShift words)
  | "set" => some (session.runSet rest)
  | "export" => some (session.runExport rest)
  | "readonly" => some (session.runReadOnly rest)
  | "unset" => some (session.runUnset rest)
  | "local" => some (session.runLocal rest)
  | "read" => some (session.runRead rest)
  | "cd" => some (session.runChangeDirectory rest)
  | "trap" => some (session.runTrap rest)
  | "kill" => some (session.runKill rest)
  | "wait" => some (session.runWait rest)
  | "type" => some (session.describe rest)
  | "umask" =>
    some (if rest.isEmpty then (session.emit "0022\n".toList).withStatus 0
      else if rest = [['-', 'S']] then (session.emit "u=rwx,g=rx,o=rx\n".toList).withStatus 0
      else session.withStatus 0)
  | "echo" => some (session.runEcho rest)
  | "printf" => some (session.runPrint rest)
  | "pwd" => some ((session.emit (session.valueOf "PWD".toList ++ ['\n'])).withStatus 0)
  | "test" | "[" => some (session.runQuestion words)
  | "getopts" => some (session.runOptions rest)
  | _ => none

end Session
end MonorepoCheck.Shell
