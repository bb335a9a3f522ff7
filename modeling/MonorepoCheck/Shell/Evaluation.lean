import MonorepoCheck.Shell.Builtin
import MonorepoCheck.Shell.Reader

/-!
Running shell scripts, and the programs that they start. A script that does not end within the rounds
it is given counts as one that is still running when its time is over.
-/
namespace MonorepoCheck.Shell

open Text (Bytes)

/-- How the pieces of a word are expanded: into fields or one text, and whether plain text is split,
too. -/
structure Mode where
  split : Bool
  splitText : Bool := false

/-- Calls of functions within functions. -/
def deepestCall : Nat := 1000

/-- The mistake in a script, if there is one, and the text after it. -/
def mistake? : Nat → Nat → Bytes → Option Trouble
  | 0, _, _ => none
  | fuel + 1, lines, text =>
    match readLine? lines text with
    | .error trouble => some trouble
    | .ok none => none
    | .ok (some (_, rest)) => mistake? fuel lines rest

/-- How many lines a script has. -/
def lineCount (source : Bytes) : Nat := source.count '\n' + 1

/-- What is set for `env`: names without values, the values of others, and the command. -/
structure Launch where
  environment : List (String × String)
  words : List Bytes

def readLaunch : Launch → List Bytes → Launch
  | launch, [] => launch
  | launch, word :: rest =>
    if word = ['-', 'i'] || word = ['-'] || word = "--ignore-environment".toList then
      readLaunch { launch with environment := [] } rest
    else
      match word, rest with
      | ['-', 'u'], name :: rest =>
        readLaunch { launch with
          environment := launch.environment.filter fun entry => entry.1 != Text.decode name } rest
      | ['-', '-'], rest => assignments launch rest
      | _, _ => assignments launch (word :: rest)
where
  assignments (launch : Launch) : List Bytes → Launch
    | [] => launch
    | word :: rest =>
      let name := word.takeWhile (· != '=')
      if name.length = word.length then { launch with words := word :: rest }
      else
        let entry := (Text.decode name, Text.decode (word.drop (name.length + 1)))
        assignments { launch with
          environment := launch.environment.filter (fun old => old.1 != entry.1) ++ [entry] } rest

namespace Session

/-- A home directory in place of the sign for it at the start of a word. -/
def withHome (session : Session) (word : Word) : Word :=
  match word, session.value? "HOME".toList with
  | .text false ('~' :: content) :: rest, some home =>
    if content.head? = some '/' || (content.isEmpty && rest.isEmpty) then
      .text true home :: .text false content :: rest
    else word
  | word, _ => word

/-- Adds the parameters of a script: one text if they are meant as one, else a field each. -/
def addParameters (session : Session) (mode : Mode) (quoted together : Bool) (fields : Fields) :
    Fields :=
  let values := session.parameters.tail
  if !mode.split || (quoted && together) then
    let joint := if together then session.joint else [' ']
    fields.add (marked quoted (Text.join joint values))
  else if quoted then fields.addEach (fun fields text => fields.add (marked true text)) values
  else fields.addEach (fun fields text => fields.addSplit session.separators text) values

/-- Adds the value of a parameter. -/
def addValue (session : Session) (mode : Mode) (quoted : Bool) (fields : Fields) (value : Bytes) :
    Fields :=
  if quoted || !mode.split then fields.add (marked quoted value)
  else fields.addSplit session.separators value

/-- With errors not allowed, a status other than zero ends the process where nobody asks for it. -/
def checked (session : Session) : Session :=
  if session.status != 0 && session.hasOption 'e' && !session.tested then
    session.exit (.exited session.status)
  else session

/-- A complaint about a name that no command has, and the status for it. -/
def cannotRun (session : Session) (name : Bytes) (refusal : Program.Refusal) : Session :=
  let (text, status) := match refusal with
    | .unreached .notFound | .unreached .notDirectory => ("not found", 127)
    | refusal => (unnumbered refusal.message, 126)
  (session.complainOwn (Text.decode name ++ ": " ++ text)).withStatus status

/-- A script cannot be read any further. -/
def refuseScript (session : Session) (lines : Nat) (trouble : Trouble) : Session :=
  { session with line := lineOf lines trouble.2 }.fail trouble.1.message

/-- A process that goes on beside this one has been carried out. -/
def withJob (before other : Session) (number : Nat) : Session :=
  let job : Job :=
    { number := firstNumber + number
      ends := other.elapsed
      status := other.finalStatus
      signal := match other.ending with
        | some (.killed signal) => some signal
        | _ => none }
  { before with
    host := { other.host with here := before.host.here, environment := before.host.environment }
    chunks := other.chunks
    started := other.started
    pending := other.pending
    jobs := before.jobs ++ [job]
    latestJob := some job.number
    status := 0 }

/-- A process that was given so many milliseconds, after which it is ended. -/
def cutOff (before : Session) (milliseconds : Nat) (other : Session) : Session :=
  let time := before.elapsed + milliseconds
  if milliseconds = 0 || (other.elapsed < time && other.ending != some .late) then other
  else
    { other with
      elapsed := time, status := 124, ending := some (.exited 124)
      chunks := other.chunks.filter fun chunk => chunk.time < time }

mutual

/-- The fields that the pieces of a word stand for. -/
def expand : Nat → Mode → Fields → Word → Session → Fields × Session
  | 0, _, fields, _, session => (fields, session.exit .late)
  | _ + 1, _, fields, [], session => (fields, session)
  | fuel + 1, mode, fields, piece :: rest, session =>
    if session.ending.isSome then (fields, session)
    else
      let (fields, session) := match piece with
        | .text quoted content =>
          (if mode.splitText && !quoted then fields.addSplit session.separators content
            else fields.add (marked quoted content), session)
        | .parameter quoted name form word =>
          expandParameter fuel mode fields quoted name form word session
        | .arithmetic quoted expression =>
          let (inner, session) := expandText fuel expression session
          if session.ending.isSome then (fields, session)
          else
            match evaluate session.valueOf inner.text with
            | .error text => (fields, session.fail text)
            | .ok (value, changes) =>
              let session := changes.foldl
                (fun session (name, value) => session.assignOrFail name (decimalBytes value)) session
              (session.addValue mode quoted fields (decimalBytes value), session)
        | .output quoted source =>
          let (bytes, session) := capture fuel source session
          (session.addValue mode quoted fields bytes, session)
      expand fuel mode fields rest session

/-- A word as one text. -/
def expandText : Nat → Word → Session → Marked × Session
  | 0, _, session => ([], session.exit .late)
  | fuel + 1, word, session =>
    let (fields, session) := expand fuel { split := false } {} (session.withHome word) session
    (Fields.text fields, session)

/-- Adds what a parameter in its form stands for. -/
def expandParameter :
    Nat → Mode → Fields → Bool → Bytes → Form → Word → Session → Fields × Session
  | 0, _, fields, _, _, _, _, session => (fields, session.exit .late)
  | fuel + 1, mode, fields, quoted, name, form, word, session =>
    let together := name = ['*']
    let several := together || name = ['@']
    let value := session.parameter? name
    let present (orEmpty : Bool) : Bool := match value with
      | some value => !(orEmpty && value.isEmpty)
      | none => false
    let inserted (session : Session) : Fields × Session :=
      if several then (session.addParameters mode quoted together fields, session)
      else (session.addValue mode quoted fields (value.getD []), session)
    let replaced (session : Session) : Fields × Session :=
      let fields := if quoted then fields.add [] else fields
      expand fuel { mode with splitText := mode.split && !quoted } fields word session
    let missing : Bool := value.isNone && session.hasOption 'u' && !several
    let unset (session : Session) : Session :=
      session.fail (Text.decode name ++ ": parameter not set")
    if name.isEmpty then (fields, session.fail "Bad substitution")
    else
      match form with
      | .plain => if missing then (fields, unset session) else inserted session
      | .length =>
        if missing then (fields, unset session)
        else
          let length := Text.decimal (value.getD []).length
          (session.addValue mode quoted fields length, session)
      | .otherwise orEmpty => if present orEmpty then inserted session else replaced session
      | .instead orEmpty =>
        if present orEmpty then replaced session
        else (if quoted then fields.add [] else fields, session)
      | .assigned orEmpty =>
        if present orEmpty then inserted session
        else if !isName name then (fields, session.fail (Text.decode name ++ ": bad variable name"))
        else
          let (text, session) := expandText fuel word session
          let session := session.assignOrFail name text.text
          (session.addValue mode quoted fields text.text, session)
      | .required orEmpty =>
        if present orEmpty then inserted session
        else
          let (text, session) := expandText fuel word session
          let text := if !word.isEmpty then Text.decode text.text
            else if orEmpty then "parameter not set or null" else "parameter not set"
          (fields, session.fail (Text.decode name ++ ": " ++ text))
      | .withoutStart longest =>
        if missing then (fields, unset session)
        else
          let (pattern, session) := expandText fuel word session
          let kept := withoutStart longest (patternOf pattern) (value.getD [])
          (session.addValue mode quoted fields kept, session)
      | .withoutEnd longest =>
        if missing then (fields, unset session)
        else
          let (pattern, session) := expandText fuel word session
          let kept := withoutEnd longest (patternOf pattern) (value.getD [])
          (session.addValue mode quoted fields kept, session)

/-- The output of a script without line feeds at its end. -/
def capture : Nat → Bytes → Session → Bytes × Session
  | 0, _, session => ([], session.exit .late)
  | fuel + 1, source, session =>
    let lines := lineCount source
    match mistake? lines lines source with
    | some (mistake, _) => ([], session.fail mistake.inParentheses.message)
    | none =>
      let (channel, started) := session.fresh
      let inner := { started.copied with chunks := [], tested := false }
      let inner := inner.setStream 1 (.channel channel)
      let inner := finish fuel (runText fuel lines source inner)
      let bytes := written channel inner.chunks
      let others := inner.chunks.filter fun chunk => chunk.channel != channel
      let after := session.after { inner with chunks := others ++ session.chunks }
      (Text.dropEndWhile (· == '\n') (bytes.filter (· != Char.ofNat 0)),
        { after with status := session.status, substituted := some after.status })

/-- The fields of words, and the paths that they mean. -/
def expandAll : Nat → List Word → Session → List Bytes × Session
  | 0, _, session => ([], session.exit .late)
  | _ + 1, [], session => ([], session)
  | fuel + 1, word :: rest, session =>
    let (fields, session) := expand fuel { split := true } {} (session.withHome word) session
    if session.ending.isSome then ([], session)
    else
      let found := fields.toList.flatMap fun field =>
        if session.hasOption 'f' then [field.text]
        else pathsOf session.host.files session.host.here field
      let (more, session) := expandAll fuel rest session
      (found ++ more, session)

/-- Follows redirections from the left to the right; tells whether all of them could be followed. -/
def redirect : Nat → List Redirection → Session → Bool × Session
  | 0, _, session => (false, session.exit .late)
  | _ + 1, [], session => (true, session)
  | fuel + 1, redirection :: rest, session =>
    let refused (session : Session) (text : String) : Bool × Session :=
      (false, (session.complainOwn text).withStatus 2)
    let opened (keep : Bool) (stream : Nat) (word : Word) : Bool × Session :=
      let (file, session) := expandText fuel word session
      if session.ending.isSome then (false, session)
      else
        match session.openForWriting keep file.text with
        | .ok (session, sink) => redirect fuel rest (session.setStream stream sink)
        | .error cause => refused session ("cannot create " ++ Text.decode file.text ++ ": "
            ++ openingReason "Directory nonexistent" cause)
    match redirection with
    | .write stream word => opened false stream word
    | .append stream word => opened true stream word
    | .input stream word =>
      let (file, session) := expandText fuel word session
      if session.ending.isSome then (false, session)
      else
        match session.openForReading file.text with
        | .ok content => redirect fuel rest (session.readFrom stream content)
        | .error cause => refused session ("cannot open " ++ Text.decode file.text ++ ": "
            ++ openingReason "No such file" cause)
    | .here stream word =>
      let (content, session) := expandText fuel word session
      if session.ending.isSome then (false, session)
      else redirect fuel rest (session.readFrom stream content.text)
    | .duplicate stream word =>
      let (target, session) := expandText fuel word session
      if session.ending.isSome then (false, session)
      else
        match session.duplicate? stream target.text with
        | some session => redirect fuel rest session
        | none => refused session (Text.decode target.text ++ ": Bad file descriptor")

/-- Sets variables, and tells what was set. -/
def setAll : Nat → List (Bytes × Word) → Session → List (Bytes × Bytes) × Session
  | 0, _, session => ([], session.exit .late)
  | _ + 1, [], session => ([], session)
  | fuel + 1, (name, word) :: rest, session =>
    let (text, session) := expandText fuel word session
    if session.ending.isSome then ([], session)
    else
      let session := session.assignOrFail name text.text
      if session.ending.isSome then ([], session)
      else
        let (more, session) := setAll fuel rest session
        ((name, text.text) :: more, session)

/-- Runs a program with its words. -/
def launch : Nat → Program → List Bytes → Session → Session
  | 0, _, _, session => session.exit .late
  | fuel + 1, program, words, session =>
    match program with
    | .shell => finish fuel (runShell fuel (words.head?.getD []) words.tail session)
    | .environment =>
      let asked := readLaunch ⟨session.host.environment, []⟩ words.tail
      let session := { session with host := { session.host with environment := asked.environment } }
      match asked.words with
      | [] =>
        (session.emit (asked.environment.flatMap fun (name, value) =>
          Text.bytesOfText (name ++ "=" ++ value ++ "\n"))).withStatus 0
      | name :: _ =>
        match Program.find session.host (Program.searchPath session.host) (Text.decode name) with
        | .ok program => launch fuel program asked.words session
        | .error refusal =>
          (session.complain (words.head?.getD [])
            ("'" ++ Text.decode name ++ "': " ++ unnumbered refusal.message)).withStatus
            (if refusal = .unreached .notFound then 127 else 126)
    | .timeout =>
      match words.tail with
      | word :: name :: rest =>
        match Program.find session.host (Program.searchPath session.host) (Text.decode name) with
        | .ok program =>
          session.cutOff (milliseconds word) (launch fuel program (name :: rest) session)
        | .error refusal =>
          (session.complain (words.head?.getD []) ("failed to run command '" ++ Text.decode name
            ++ "': " ++ unnumbered refusal.message)).withStatus
            (if refusal = .unreached .notFound then 127 else 126)
      | _ => session.withStatus 125
    | program => session.runProgram program words

/-- Runs a file that is a script, by the program that its first line names. -/
def launchScript : Nat → List Bytes → Session → Session
  | 0, _, session => session.exit .late
  | fuel + 1, words, session =>
    let file := words.head?.getD []
    match session.openForReading file with
    | .error _ => session.withStatus 126
    | .ok content =>
      match content.takeWhile (· != '\n') with
      | '#' :: '!' :: line =>
        let parts := (Text.splitOn ' ' line).filter fun part => !part.isEmpty
        let interpreter := parts.head?.getD []
        match Program.atPath session.host (path interpreter) with
        | .ok program => launch fuel program (parts ++ words) session
        | .error _ => session.withStatus 127
      | _ => launch fuel .shell ("sh".toList :: words) session

/-- Runs a program by its name and waits for it. -/
def callProgram : Nat → List Bytes → Session → Session
  | 0, _, session => session.exit .late
  | fuel + 1, words, session =>
    let name := words.head?.getD []
    if name.isEmpty then (session.cannotRun name .notProgram).withStatus 127
    else
      match Program.find session.host session.searched (Text.decode name) with
      | .ok program => session.after (launch fuel program words session.inherited)
      | .error refusal =>
        if refusal = .notProgram && session.isExecutable (path name) then
          session.after (launchScript fuel words session.inherited)
        else session.cannotRun name refusal

/-- Lets the process become a program, and end as that ends. -/
def become : Nat → List Bytes → Session → Session
  | 0, _, session => session.exit .late
  | fuel + 1, words, session =>
    let name := words.head?.getD []
    match Program.find session.host session.searched (Text.decode name) with
    | .error refusal =>
      let refused := { session with caller := "exec".toList }.cannotRun name refusal
      refused.exit (.exited refused.status)
    | .ok program =>
      let started := session.inherited
      let started := if session.isCopy then started
        else { started with number := session.number, parent := session.parent }
      let other := launch fuel program words started
      match other.ending with
      | some (.killed signal) =>
        { session.after { other with ending := none } with
          traps := [], ending := some (.killed signal) }
      | _ =>
        let after := { session.after other with traps := [] }
        after.exit (.exited after.status)

/-- Runs a function with its words as parameters. -/
def callFunction : Nat → Script → List Bytes → Session → Session
  | 0, _, _, session => session.exit .late
  | fuel + 1, body, words, session =>
    if deepestCall ≤ session.calls then
      session.fail ("Maximum function recursion depth (" ++ Text.decimalText deepestCall
        ++ ") reached")
    else
      let inner := { session with
        parameters := session.parameters.take 1 ++ words.tail
        calls := session.calls + 1, loops := 0, hidden := [] }
      let after := run fuel body inner
      let restored :=
        after.hidden.foldl (fun session (name, value) => session.restore name value) after
      { restored with
        parameters := session.parameters, calls := session.calls, loops := session.loops
        hidden := session.hidden
        ending := if after.ending == some Ending.returned then none else after.ending }

/-- Runs a script on behalf of a command. -/
def runFor : Nat → Bytes → Bytes → Session → Session
  | 0, _, _, session => session.exit .late
  | fuel + 1, caller, source, session =>
    let inner := { session.withStatus 0 with caller := caller }
    { runText fuel (lineCount source) source inner with caller := session.caller }

/-- Runs a command of the shell itself, or else a program. -/
def callPlain : Nat → Bool → List Bytes → Session → Session
  | 0, _, _, session => session.exit .late
  | fuel + 1, forgiving, words, session =>
    let name := words.head?.getD []
    let rest := words.tail
    let after := match String.ofList name with
      | "eval" => runFor fuel name (Text.join [' '] rest) session
      | "." =>
        match rest with
        | [] => session.withStatus 0
        | file :: _ =>
          let own := { session with caller := name }
          if !file.contains '/' then own.fail (Text.decode file ++ ": not found")
          else
            match session.openForReading file with
            | .ok source =>
              let after := runFor fuel file source session
              { after with
                ending := if after.ending == some Ending.returned then none else after.ending }
            | .error cause =>
              own.fail ("cannot open " ++ Text.decode file ++ ": "
                ++ openingReason "No such file" cause)
      | "command" =>
        match rest with
        | ['-', 'v'] :: names => session.locate names
        | ['-', 'V'] :: names => session.describe names
        | [] | [['-', 'p']] => session.withStatus 0
        | ['-', 'p'] :: words => callPlain fuel true words session
        | words => callPlain fuel true words session
      | "exec" => if rest.isEmpty then session.withStatus 0 else become fuel rest session
      | _ =>
        match session.runBuiltin? words with
        | some session => session
        | none => callProgram fuel words session
    -- mistakes in what a script can do without leave a status alone
    if after.ending == some Ending.failed
        && (forgiving || !specialBuiltins.contains (String.ofList name)) then
      { after with ending := none, status := 2, caller := session.caller }
    else after

/-- Runs a command that is found by its name. -/
def call : Nat → List Bytes → Session → Session
  | 0, _, session => session.exit .late
  | fuel + 1, words, session =>
    match session.functions.lookup (words.head?.getD []) with
    | some body => callFunction fuel body words session
    | none => callPlain fuel false words session

/-- Lets the script that is kept for a signal run, once the signal has come. -/
def deliver : Nat → Session → Session
  | 0, session => session.exit .late
  | fuel + 1, session =>
    let session := session.arrive
    match session.arrival? session.elapsed true with
    | none => session
    | some arrival =>
      if session.ending.isSome then session
      else
        let session := session.withoutArrival arrival
        let script := (session.traps.lookup arrival.signal).getD []
        let after := runText fuel (lineCount script) script session
        if after.ending.isSome then after else after.withStatus session.status

/-- Ends a process that runs a script: what is kept for its end runs last. -/
def finish : Nat → Session → Session
  | 0, session => session.exit .late
  | fuel + 1, session =>
    let ended : Session := match session.ending with
      | some (.killed _) | some .late | some (.exited _) => session
      | _ => { session with ending := some (.exited session.finalStatus) }
    match ended.ending, ended.traps.lookup 0 with
    | some (.exited status), some script =>
      let last := { ended with
        ending := none, status := status, loops := 0
        traps := ended.traps.filter fun entry => entry.1 != 0 }
      let after := runText fuel (lineCount script) script last
      match after.ending with
      | some .failed => { after with ending := some (.exited 2) }
      | none | some .returned => { after with ending := some (.exited status) }
      | some _ => after
    | _, _ => ended

/-- Runs a text as a script, line by line. -/
def runText : Nat → Nat → Bytes → Session → Session
  | 0, _, _, session => session.exit .late
  | fuel + 1, lines, text, session =>
    if session.ending.isSome then session
    else
      match readLine? lines text with
      | .error trouble => session.refuseScript lines trouble
      | .ok none => session
      | .ok (some (script, rest)) => runText fuel lines rest (run fuel script session)

/-- Runs a shell by its words: options, and then a script, a file with one, or nothing. -/
def runShell : Nat → Bytes → List Bytes → Session → Session
  | 0, _, _, session => session.exit .late
  | fuel + 1, name, words, session =>
    let session := session.withUsual
    let own := { session with parameters := [name], line := 0 }
    match words with
    | ('-' :: c :: letters) :: rest =>
      let letters := c :: letters
      let options := letters.filter fun c => c != 'c' && c != 's' && c != '-'
      match options.find? fun c => !(optionLetters.any fun entry => entry.2 == c) with
      | some c => own.fail ("Illegal option -" ++ String.singleton c)
      | none =>
        let session := { session with options := options.reverse ++ session.options }
        if letters.contains 'c' then
          match rest with
          | [] => own.fail "-c requires an argument"
          | source :: more =>
            runText fuel (lineCount source) source
              { session with parameters := if more.isEmpty then [name] else more, line := 1 }
        else if letters.contains 's' then
          let (source, session) := session.takeInput
          runText fuel (lineCount source) source { session with parameters := name :: rest, line := 1 }
        else runShell fuel name rest session
    | [] =>
      let (source, session) := session.takeInput
      runText fuel (lineCount source) source { session with parameters := [name], line := 1 }
    | file :: more =>
      match session.openForReading file with
      | .ok source =>
        runText fuel (lineCount source) source { session with parameters := file :: more, line := 1 }
      | .error cause =>
        own.fail ("cannot open " ++ Text.decode file ++ ": " ++ openingReason "No such file" cause)

/-- Runs a script as a condition. -/
def runTested : Nat → Script → Session → Session
  | 0, _, session => session.exit .late
  | fuel + 1, script, session =>
    { run fuel script { session with tested := true } with tested := session.tested }

/-- Repeats a body as long as a condition holds, or as long as it does not. `last` is the status of
the body before. -/
def repeatWhile : Nat → Bool → Nat → Script → Script → Session → Session
  | 0, _, _, _, _, session => session.exit .late
  | fuel + 1, whileTrue, last, condition, body, session =>
    let asked := runTested fuel condition session
    match asked.ending with
    | some (.loop true 1) =>
      repeatWhile fuel whileTrue last condition body { asked with ending := none }
    | some (.loop again (levels + 1)) => leaveLoop again levels asked
    | some _ => asked
    | none =>
      if (asked.status == 0) != whileTrue then asked.withStatus last
      else
        let after := run fuel body asked
        match after.ending with
        | none | some (.loop true 1) =>
          repeatWhile fuel whileTrue after.status condition body { after with ending := none }
        | some (.loop again (levels + 1)) => leaveLoop again levels after
        | some _ => after

/-- Runs a body once for each value. -/
def repeatEach : Nat → Bytes → List Bytes → Script → Session → Session
  | 0, _, _, _, session => session.exit .late
  | _ + 1, _, [], _, session => session
  | fuel + 1, name, value :: rest, body, session =>
    let session := session.assignOrFail name value
    if session.ending.isSome then session
    else
      let after := run fuel body session
      match after.ending with
      | none | some (.loop true 1) => repeatEach fuel name rest body { after with ending := none }
      | some (.loop again (levels + 1)) => leaveLoop again levels after
      | some _ => after

/-- Leaves the innermost loop, and more if so many are left. -/
def leaveLoop (again : Bool) (levels : Nat) (session : Session) : Session :=
  { session with ending := if levels = 0 then none else some (.loop again levels) }

/-- Whether a text matches one of some patterns. -/
def matchesAny : Nat → Bytes → List Word → Session → Bool × Session
  | 0, _, _, session => (false, session.exit .late)
  | _ + 1, _, [], session => (false, session)
  | fuel + 1, text, word :: rest, session =>
    let (pattern, session) := expandText fuel word session
    if session.ending.isSome then (false, session)
    else if matchesAll (patternOf pattern) text then (true, session)
    else matchesAny fuel text rest session

/-- Runs the script of the first case that matches. -/
def choose : Nat → Bytes → List (List Word × Script) → Session → Session
  | 0, _, _, session => session.exit .late
  | _ + 1, _, [], session => session.withStatus 0
  | fuel + 1, text, (patterns, body) :: rest, session =>
    let (holds, session) := matchesAny fuel text patterns session
    if session.ending.isSome then session
    else if holds then
      match body with
      | .empty => session.withStatus 0
      | body => run fuel body session
    else choose fuel text rest session

/-- Runs a command with its words, variables and streams. -/
def runSimple : Nat → List (Bytes × Word) → List Word → List Redirection → Session → Session
  | 0, _, _, _, session => session.exit .late
  | fuel + 1, assignments, words, redirections, session =>
    let (values, session) := expandAll fuel words { session with substituted := none }
    if session.ending.isSome then session
    else
      let name := values.head?.getD []
      let special := specialBuiltins.contains (String.ofList name)
      let ownInput := redirections.any fun redirection => match redirection with
        | .input 0 _ | .here 0 _ | .duplicate 0 _ => true
        | _ => false
      let (followed, started) := redirect fuel redirections session
      if started.ending.isSome then started.withStreamsOf session ownInput
      else if !followed then
        let refused := started.withStreamsOf session ownInput
        if special then refused.exit (.exited 2) else refused
      else
        let before := assignments.map fun (name, _) => (name, started.bindings.lookup name)
        let (changes, ready) := setAll fuel assignments started
        if ready.ending.isSome then ready.withStreamsOf session ownInput
        else
          let shown := changes.map (fun (name, value) => name ++ '=' :: value) ++ values
          let ready := if ready.hasOption 'x' && !shown.isEmpty then
              ready.emitTo (session.sinkOf 2)
                (ready.valueOf "PS4".toList ++ Text.join [' '] shown ++ ['\n'])
            else ready
          if values.isEmpty then
            { ready with status := ready.substituted.getD 0 }.withStreamsOf session ownInput
          else
            let temporary := !special && !changes.isEmpty
            let ready := if temporary then
                { ready with exports := changes.map Prod.fst ++ ready.exports }
              else ready
            let after := call fuel values ready
            let after := if temporary then
                { before.foldl (fun session (name, value) => session.restore name value) after with
                  exports := session.exports }
              else after
            -- streams that `exec` changes alone stay as they are
            if name = "exec".toList && values.tail.isEmpty then after
            else after.withStreamsOf session ownInput

def run : Nat → Script → Session → Session
  | 0, _, session => session.exit .late
  | fuel + 1, script, session =>
    if session.ending.isSome || session.hasOption 'n' then session
    else
      match script with
      | .empty => session
      | .simple line assignments words redirections =>
        let after := runSimple fuel assignments words redirections { session with line := line }
        (deliver fuel after).checked
      | .sequence left right => run fuel right (run fuel left session)
      | .both left right =>
        let session := runTested fuel left session
        if session.ending.isNone && session.status = 0 then run fuel right session else session
      | .either left right =>
        let session := runTested fuel left session
        if session.ending.isNone && session.status != 0 then run fuel right session else session
      | .negate inner =>
        let session := runTested fuel inner session
        if session.ending.isSome then session
        else session.withStatus (if session.status = 0 then 1 else 0)
      | .branch condition yes no =>
        let session := runTested fuel condition session
        if session.ending.isSome then session
        else if session.status = 0 then run fuel yes session
        else
          match no with
          | .empty => session.withStatus 0
          | no => run fuel no session
      | .loop whileTrue condition body =>
        let after := repeatWhile fuel whileTrue 0 condition body
          { session with loops := session.loops + 1 }
        { after with loops := session.loops }
      | .each name words body =>
        let (values, session) := match words with
          | some words => expandAll fuel words session
          | none => (session.parameters.tail, session)
        if session.ending.isSome then session
        else if values.isEmpty then session.withStatus 0
        else
          let after := repeatEach fuel name values body
            { session with loops := session.loops + 1 }
          { after with loops := session.loops }
      | .choice subject cases =>
        let (text, session) := expandText fuel subject session
        if session.ending.isSome then session else choose fuel text.text cases session
      | .definition name body =>
        let others := session.functions.filter fun entry => entry.1 != name
        { session with functions := (name, body) :: others, status := 0 }
      | .subshell body =>
        let after := session.after (finish fuel (run fuel body session.copied))
        (deliver fuel after).checked
      | .background body =>
        let (number, session) := session.fresh
        let inner := { session.copied with
          job := number, elapsed := session.elapsed + 1, input := [], tested := false }
        session.withJob (finish fuel (run fuel body inner)) number
      | .pipe left right =>
        let (channel, session) := session.fresh
        let start := { session.copied with chunks := [] }
        let source := finish fuel (run fuel left (start.setStream 1 (.channel channel)))
        let bytes := written channel source.chunks
        let others := source.chunks.filter fun chunk => chunk.channel != channel
        -- a source that has more to say than anybody reads ends when its reader does
        let source := { source with
          chunks := others ++ session.chunks
          ending := if source.ending == some Ending.late && !source.isOverdue then
              some (.killed 13) else source.ending }
        let middle := session.after source
        if middle.ending.isSome then middle
        else
          let target := { middle.copied with
            input := bytes, inputReady := source.elapsed, inputStream := none
            elapsed := session.elapsed, status := session.status }
          let after := middle.after (finish fuel (run fuel right target))
          let after := { after with
            input := middle.input, inputReady := session.inputReady
            elapsed := max after.elapsed source.elapsed }
          (deliver fuel after).checked
      | .redirected body redirections =>
        let ownInput := redirections.any fun redirection => match redirection with
          | .input 0 _ | .here 0 _ | .duplicate 0 _ => true
          | _ => false
        let (followed, started) := redirect fuel redirections session
        if started.ending.isSome || !followed then started.withStreamsOf session ownInput
        else (run fuel body started).withStreamsOf session ownInput

end

end Session
end MonorepoCheck.Shell
