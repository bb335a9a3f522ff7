import MonorepoCheck.Shell.Filter
import MonorepoCheck.Shell.Test

/-!
What the small programs do, those aside that start others.
-/
namespace MonorepoCheck.Shell

open Text (Bytes)

/-- A message about a cause without the number of the cause. -/
def unnumbered (message : String) : String :=
  String.ofList ((Text.splitOn '(' message.toList).head?.getD []).dropLast

/-- Why a request about files cannot be met. -/
def reason (cause : FileError) : String := unnumbered cause.message

def isOption (word : Bytes) : Bool := word.head? == some '-' && 1 < word.length

/-- Options of one letter without values, and the other words. -/
def cutOptions (words : List Bytes) : List Char × List Bytes :=
  let before := words.takeWhile fun word => word != ['-', '-']
  let after := (words.drop before.length).tail
  ((before.filter isOption).flatMap List.tail, (before.filter fun word => !isOption word) ++ after)

namespace Session

/-- The content of a file; `-` is the input. -/
def contentOf (session : Session) (file : Bytes) : Except FileError (Bytes × Session) :=
  if file = ['-'] then .ok session.takeInput
  else
    match session.host.files.find session.host.here (path file) with
    | .ok (.file content _) => .ok (Text.bytesOf content, session)
    | .ok .directory => .error .isDirectory
    | .error cause => .error cause

/-- Reads files, or the input where none is named, and complains of those that cannot be read. -/
def readAll (session : Session) (name : Bytes) (complaint : String → String → String)
    (files : List Bytes) : Session × List (Bytes × Bytes) :=
  if files.isEmpty then
    let (input, session) := session.takeInput
    (session, [(['-'], input)])
  else
    files.foldl (fun (session, read) file =>
      match session.contentOf file with
      | .ok (content, session) => (session, read ++ [(file, content)])
      | .error cause =>
        ((session.complain name (complaint (Text.decode file) (reason cause))).withStatus 1, read))
      (session, [])

/-- Removes a file, or with `below` all of a directory. -/
def removePath (session : Session) (name : Bytes) (force below : Bool) (file : Bytes) : Session :=
  let host := session.host
  let refused (text : String) : Session :=
    (session.complain name ("cannot remove '" ++ Text.decode file ++ "': " ++ text)).withStatus 1
  match host.files.find host.here (path file), host.files.locate host.here (path file) with
  | .ok (.file ..), .ok place => session.setFiles (host.files.erase place)
  | .ok .directory, .ok place =>
    if below then
      session.setFiles ⟨host.files.entries.filter fun (other, _) => !place.isPrefixOf other⟩
    else refused "Is a directory"
  | .error cause, _ | _, .error cause =>
    if force && (cause == .notFound || cause == .notDirectory) then session
    else refused (reason cause)

def helpNotice (name : Bytes) : Bytes :=
  "Try '".toList ++ name ++ " --help' for more information.\n".toList

/-- Whether a word is a number with a fraction or without, and maybe a unit of time. -/
def isInterval (word : Bytes) : Bool :=
  let rest := word.dropWhile Text.isAsciiDigit
  let rest := match rest with
    | '.' :: fraction => fraction.dropWhile Text.isAsciiDigit
    | rest => rest
  word.any Text.isAsciiDigit && (rest.isEmpty || ["s", "m", "h", "d"].any fun u => u.toList == rest)

/-- Milliseconds of a number of seconds with a fraction. -/
def milliseconds (word : Bytes) : Nat :=
  let (digits, scale) := readDecimal word
  let unit := match word.getLast? with
    | some 'm' => 60
    | some 'h' => 3600
    | some 'd' => 86400
    | _ => 1
  digits * 1000 * unit / Nat.pow 10 scale

def makePaths (session : Session) (name : Bytes) (above : Bool) (files : List Bytes) : Session :=
  files.foldl (fun session file =>
    let host := session.host
    let made := if above then host.files.makeDirectories host.here (path file)
      else host.files.makeDirectory host.here (path file)
    match made with
    | .ok files => session.setFiles files
    | .error cause =>
      (session.complain name
        ("cannot create directory '" ++ Text.decode file ++ "': " ++ reason cause)).withStatus 1)
    session

/-- Renews the time of files, or makes empty ones. -/
def touchPaths (session : Session) (name : Bytes) (files : List Bytes) : Session :=
  files.foldl (fun session file =>
    let host := session.host
    let changed := if host.existsAt (path file) then
        host.files.setModified host.here (path file) host.now
      else host.files.writeBytes host.here (path file) .empty host.now
    match changed with
    | .ok files => session.setFiles files
    | .error cause =>
      (session.complain name
        ("cannot touch '" ++ Text.decode file ++ "': " ++ reason cause)).withStatus 1) session

/-- Copies or moves a file to a path, or into a directory; with `below` directories, too. -/
def transfer (session : Session) (name : Bytes) (moves below : Bool) (target file : Bytes) : Session :=
  let host := session.host
  let verb := if moves then "cannot move '" else "cannot stat '"
  let goal := if host.isDirectoryAt (path target) then
      (path target).join ⟨((path file).fileName?).getD ""⟩
    else path target
  match host.files.find host.here (path file), host.files.locate host.here (path file) with
  | .ok (.file content modified), .ok place =>
    let time := if moves then modified else host.now
    match host.files.writeBytes host.here goal content time with
    | .ok files => session.setFiles (if moves then files.erase place else files)
    | .error cause =>
      (session.complain name
        ("cannot create regular file '" ++ goal.text ++ "': " ++ reason cause)).withStatus 1
  | .ok .directory, .ok place =>
    if moves || below then
      match host.files.locate host.here goal with
      | .error cause =>
        (session.complain name
          ("cannot create directory '" ++ goal.text ++ "': " ++ reason cause)).withStatus 1
      | .ok goal =>
        let inner := host.files.entries.filterMap fun (other, entry) =>
          if place.isPrefixOf other then some (goal ++ other.drop place.length, entry) else none
        let kept := if moves then
            host.files.entries.filter fun (other, _) => !place.isPrefixOf other
          else host.files.entries
        session.setFiles (inner.foldl (fun files (other, entry) => files.put other entry) ⟨kept⟩)
    else (session.complain name
      ("-r not specified; omitting directory '" ++ Text.decode file ++ "'")).withStatus 1
  | .error cause, _ | _, .error cause =>
    let verb := if moves then "cannot stat '" else verb
    (session.complain name (verb ++ Text.decode file ++ "': " ++ reason cause)).withStatus 1

/-- Removes empty directories. -/
def removeEmpty (session : Session) (name : Bytes) (files : List Bytes) : Session :=
  files.foldl (fun session file =>
    match session.host.files.removeDirectory session.host.here (path file) with
    | .ok files => session.setFiles files
    | .error cause =>
      (session.complain name
        ("failed to remove '" ++ Text.decode file ++ "': " ++ reason cause)).withStatus 1) session

/-- The names in a directory, a line each; those that start with a point on demand. -/
def listed (session : Session) (name : Bytes) (options : List Char) (several : Bool)
    (word : Bytes) : Session :=
  let host := session.host
  match host.files.find host.here (path word), host.files.locate host.here (path word) with
  | .ok .directory, .ok place =>
    let shown := (host.files.children place).filterMap fun (name, _) =>
      if name.toList.head? = some '.' && !options.contains 'A' && !options.contains 'a' then none
      else some name
    let shown := if options.contains 'a' then "." :: ".." :: shown else shown
    let shown := if options.contains 'r' then shown.reverse else shown
    if options.contains 'd' then session.emit (word ++ ['\n'])
    else
      session.emit ((if several then word ++ ":\n".toList else [])
        ++ shown.flatMap fun name => Text.bytesOfText name ++ ['\n'])
  | .ok (.file ..), _ => session.emit (word ++ ['\n'])
  | .error cause, _ | _, .error cause =>
    (session.complain name
      ("cannot access '" ++ Text.decode word ++ "': " ++ reason cause)).withStatus 2

/-- Shows a share of each text, under its name where there are several. -/
def showShares (session : Session) (name : Bytes) (share : Share) (cut : Bytes → Bytes) : Session :=
  let zeros := "/dev/zero".toList
  let (session, texts) := session.readAll name
    (fun file cause => "cannot open '" ++ file ++ "' for reading: " ++ cause)
    (share.files.filter (· != zeros))
  let (session, texts) : Session × List (Bytes × Bytes) :=
    if share.files = [zeros] then
      ({ session with status := 0 }, [(zeros, List.replicate share.count (Char.ofNat 0))])
    else (session, texts)
  if texts.length ≤ 1 then texts.foldl (fun session (_, text) => session.emit (cut text)) session
  else
    (texts.zipIdx).foldl (fun session ((file, text), index) =>
      let header := "==> ".toList ++ file ++ " <==\n".toList
      session.emit ((if index = 0 then [] else ['\n']) ++ header ++ cut text)) session

/-- The lines, words and bytes of texts. -/
def runCount (session : Session) (name : Bytes) (options : List Char) (files : List Bytes) :
    Session :=
  let (session, texts) := session.readAll name (fun file cause => file ++ ": " ++ cause) files
  let counts (text : Bytes) : List Nat :=
    let words := (text.foldl (fun (count, inside) c =>
      if isSpace c || c == '\r' then (count, false)
      else (if inside then count else count + 1, true)) ((0, false) : Nat × Bool)).1
    let all := [('l', text.count '\n'), ('w', words), ('c', text.length)]
    let shown := if options.isEmpty then all else all.filter fun entry => options.contains entry.1
    shown.map Prod.snd
  let total := (texts.map fun (_, text) => text.length).foldl (· + ·) 0
  let shownCount := if options.isEmpty then 3 else options.eraseDups.length
  let width := if shownCount = 1 && texts.length ≤ 1 then 1
    else if files.isEmpty then 7 else (Text.decimal total).length
  let line (numbers : List Nat) (file : Bytes) : Bytes :=
    let padded := numbers.map fun n =>
      let digits := Text.decimal n
      List.replicate (width - digits.length) ' ' ++ digits
    Text.join [' '] padded ++ (if files.isEmpty then [] else ' ' :: file) ++ ['\n']
  let session :=
    texts.foldl (fun session (file, text) => session.emit (line (counts text) file)) session
  if texts.length < 2 then session
  else session.emit (line (counts (texts.flatMap Prod.snd)) "total".toList)

/-- Prints the lines in which a pattern occurs. -/
def runSearch (session : Session) (name : Bytes) (words : List Bytes) : Session :=
  let (options, operands) := cutOptions words
  let pattern := operands.head?.getD []
  let lower (text : Bytes) : Bytes := if options.contains 'i' then text.map fun c =>
    if 'A' ≤ c && c ≤ 'Z' then Char.ofNat (c.toNat + 32) else c else text
  let found (line : Bytes) : Bool :=
    let hit := if options.contains 'F' then Text.contains (lower pattern) (lower line)
      else occurs (lower pattern) (lower line)
    hit != options.contains 'v'
  let (session, texts) := session.readAll name (fun file cause => file ++ ": " ++ cause) operands.tail
  let failed := session.status != 0
  let several := 1 < operands.tail.length
  let hits : List (Bytes × List (Bytes × Nat)) := texts.map fun (file, text) =>
    (file, ((bareLines text).zipIdx 1).filter fun entry => found entry.1)
  let session := if options.contains 'q' then session
    else hits.foldl (fun session (file, lines) =>
      let label := if several then file ++ [':'] else []
      if options.contains 'c' then session.emit (label ++ Text.decimal lines.length ++ ['\n'])
      else if options.contains 'l' then
        if lines.isEmpty then session else session.emit (file ++ ['\n'])
      else session.emit (lines.flatMap fun (line, number) =>
        label ++ (if options.contains 'n' then Text.decimal number ++ [':'] else [])
          ++ line ++ ['\n']))
      session
  session.withStatus (if hits.any fun hit => !hit.2.isEmpty then if failed then 2 else 0
    else if failed then 2 else 1)

/-- Whether a mode lets a file be run; nothing if it says nothing about that. -/
def mayRun? (mode : Bytes) : Option Bool :=
  if mode.all isOctal then some (mode.any fun c => Text.digitValue c % 2 = 1)
  else if !mode.contains 'x' then none
  else some (mode.contains '+' || mode.contains '=')

/-- Lets files be run, or not any longer; `taken` is the mode `-x`. -/
def changeModes (session : Session) (name : Bytes) (words : List Bytes) (taken : Bool) : Session :=
  let (mode, files) := if taken then (some false, words)
    else ((words.head?.bind mayRun?), words.tail)
  files.foldl (fun session file =>
    match session.host.files.find session.host.here (path file),
        session.host.files.locate session.host.here (path file) with
    | .ok _, .ok place =>
      let others := session.executables.filter (· != place)
      { session with executables := match mode with
          | some true => place :: others
          | some false => others
          | none => session.executables }
    | .error cause, _ | _, .error cause =>
      (session.complain name
        ("cannot access '" ++ Text.decode file ++ "': " ++ reason cause)).withStatus 1) session

/-- The value of three words, the middle one an operator. -/
def computed (words : List Bytes) : Bytes :=
  match words with
  | [left, sign, right] =>
    let bool (holds : Bool) : Bytes := if holds then ['1'] else ['0']
    match decimalInteger? left, decimalInteger? right, String.ofList sign with
    | some a, some b, "+" => decimalBytes (a + b)
    | some a, some b, "-" => decimalBytes (a - b)
    | some a, some b, "*" => decimalBytes (a * b)
    | some a, some b, "/" => decimalBytes (Int.tdiv a b)
    | some a, some b, "%" => decimalBytes (Int.tmod a b)
    | some a, some b, "<" => bool (decide (a < b))
    | some a, some b, ">" => bool (decide (b < a))
    | some a, some b, "=" => bool (a == b)
    | _, _, "=" => bool (left == right)
    | _, _, _ => []
  | [word] => word
  | _ => []

/-- Runs a program that starts no other one. -/
def runProgram (session : Session) (program : Program) (words : List Bytes) : Session :=
  let name := words.head?.getD []
  let rest := words.tail
  let (options, files) := cutOptions rest
  let session := session.withStatus 0
  let missing (session : Session) : Session :=
    ((session.complain name "missing operand").emitTo (session.sinkOf 2)
      (helpNotice name)).withStatus 1
  let eachText (change : Bytes → Bytes) : Session :=
    let (session, texts) := session.readAll name (fun file cause => file ++ ": " ++ cause) files
    session.emit (change (texts.flatMap Prod.snd))
  match program with
  | .succeed | .shell | .environment | .timeout => session
  | .changeMode => session.changeModes name files (options.contains 'x')
  | .fail => session.withStatus 1
  | .echo => session.emit (echoedPlainly rest)
  | .yes =>
    let line := (if rest.isEmpty then ['y'] else Text.join [' '] rest) ++ ['\n']
    (session.emit (List.replicate (400000 / line.length) line).flatten).exit .late
  | .printf =>
    let (bytes, problems, status) := printed rest
    (problems.foldl (fun session text => session.complain name text)
      (session.emit bytes)).withStatus status
  | .printDirectory =>
    session.emit (Text.bytesOfText (FileTree.pathOf session.host.here).text ++ ['\n'])
  | .head => let share := readShare {} rest; session.showShares name share share.first
  | .tail => let share := readShare {} rest; session.showShares name share share.last
  | .sequence => session.emit (numbers rest)
  | .list => (if files.isEmpty then [['.']] else files).foldl
      (fun session word => session.listed name options (1 < files.length) word) session
  | .cat =>
    (if files.isEmpty then [['-']] else files).foldl (fun session file =>
      match session.contentOf file with
      | .ok (content, session) =>
        session.emit (if options.contains 'n' then numberedLines content else content)
      | .error cause =>
        (session.complain name (Text.decode file ++ ": " ++ reason cause)).withStatus 1) session
  | .remove =>
    if files.isEmpty && !options.contains 'f' then missing session
    else files.foldl (fun session file => session.removePath name (options.contains 'f')
      (options.contains 'r' || options.contains 'R') file) session
  | .removeDirectory => if files.isEmpty then missing session else session.removeEmpty name files
  | .sleep =>
    match rest.find? fun word => !isInterval word with
    | some word =>
      ((session.complain name ("invalid time interval '" ++ Text.decode word ++ "'")).emitTo
        (session.sinkOf 2) (helpNotice name)).withStatus 1
    | none =>
      if rest.isEmpty then missing session
      else session.wait ((rest.map milliseconds).foldl (· + ·) 0)
  | .makeDirectory => if files.isEmpty then missing session
    else session.makePaths name (options.contains 'p') files
  | .touch => session.touchPaths name files
  | .copy | .move =>
    let target := files.getLast?.getD []
    let lacking (text : String) : Session :=
      ((session.complain name text).emitTo (session.sinkOf 2) (helpNotice name)).withStatus 1
    match files with
    | [] => lacking "missing file operand"
    | [file] => lacking ("missing destination file operand after '" ++ Text.decode file ++ "'")
    | files =>
      if 2 < files.length && !session.host.isDirectoryAt (path target) then
        (session.complain name ("target '" ++ Text.decode target ++ "'"
          ++ (if session.host.existsAt (path target) then " is not a directory"
            else ": No such file or directory"))).withStatus 1
      else
        files.dropLast.foldl (fun session file =>
          session.transfer name (program == .move)
            (options.any fun c => c == 'r' || c == 'R' || c == 'a') target file) session
  | .baseName =>
    let text := Text.dropEndWhile (· == '/') (files.head?.getD [])
    let base := (text.reverse.takeWhile (· != '/')).reverse
    let ending := (files[1]?).getD []
    session.emit ((if ending.isSuffixOf base && ending != base then
      base.take (base.length - ending.length) else base) ++ ['\n'])
  | .directoryName =>
    let text := Text.dropEndWhile (· == '/') (files.head?.getD [])
    let above := Text.dropEndWhile (· == '/') (Text.dropEndWhile (· != '/') text)
    session.emit ((if above.isEmpty then if text.head? = some '/' then ['/'] else ['.'] else above)
      ++ ['\n'])
  | .wordCount => session.runCount name options files
  | .sort => eachText fun text => endLines (sortedLines options (bareLines text))
  | .unique =>
    eachText fun text => (runsOf (bareLines text)).flatMap fun (count, line) =>
      if options.contains 'd' && count = 1 then []
      else
        let digits := Text.decimal count
        let label := List.replicate (7 - digits.length) ' ' ++ digits ++ [' ']
        (if options.contains 'c' then label else []) ++ line ++ ['\n']
  | .translate =>
    let (input, session) := session.takeInput
    session.emit (translated options files input)
  | .cut =>
    let (input, session) := session.takeInput
    session.emit (endLines ((bareLines input).map (cutLine rest)))
  | .matchLines => session.runSearch name rest
  | .tee =>
    let (input, session) := session.takeInput
    let session := files.foldl (fun session file =>
      let old := if options.contains 'a' then ((session.contentOf file).toOption.map Prod.fst).getD []
        else []
      match session.host.files.writeBytes session.host.here (path file)
          (Text.byteArrayOf (old ++ input)) session.host.now with
      | .ok files => session.setFiles files
      | .error cause =>
        (session.complain name (Text.decode file ++ ": " ++ reason cause)).withStatus 1) session
    session.emit input
  | .compute =>
    let value := computed rest
    (session.emit (value ++ ['\n'])).withStatus (if value.isEmpty || value = ['0'] then 1 else 0)
  | .test =>
    let (status, complaint) := session.runTest words
    match complaint with
    | some text => (session.complain name text).withStatus status
    | none => session.withStatus status

end Session
end MonorepoCheck.Shell
