import MonorepoCheck.Shell.Utility

/-!
Opening files for the streams of a process, and sending streams where others go.
-/
namespace MonorepoCheck.Shell.Session

open Text (Bytes)

/-- The files that stand for nothing and for streams. -/
def specialSink? (session : Session) (file : Bytes) : Option Sink :=
  match Text.decode file with
  | "/dev/null" => some .nowhere
  | "/dev/stdout" | "/dev/fd/1" => some (session.sinkOf 1)
  | "/dev/stderr" | "/dev/fd/2" => some (session.sinkOf 2)
  | _ => none

/-- Opens a file for writing, empty or at its end. -/
def openForWriting (session : Session) (keep : Bool) (file : Bytes) :
    Except FileError (Session × Sink) :=
  match session.specialSink? file with
  | some sink => .ok (session, sink)
  | none => do
    let host := session.host
    let target := path file
    let place ← host.files.locate host.here target
    if keep && host.isFileAt target then pure (session, .file place)
    else
      let files ← host.files.writeBytes host.here target .empty host.now
      pure (session.setFiles files, .file place)

/-- The content of a file that is opened for reading. -/
def openForReading (session : Session) (file : Bytes) : Except FileError Bytes :=
  match Text.decode file with
  | "/dev/null" => .ok []
  | "/dev/stdin" => .ok session.input
  | _ =>
    match session.host.files.find session.host.here (path file) with
    | .ok (.file content _) => .ok (Text.bytesOf content)
    | .ok .directory => .ok []
    | .error cause => .error cause

/-- Why a file cannot be opened, in the words of the shell. -/
def openingReason (missing : String) (cause : FileError) : String :=
  if cause = .notFound || cause = .notDirectory then missing else reason cause

/-- Lets a stream read a text. -/
def readFrom (session : Session) (stream : Nat) (content : Bytes) : Session :=
  if stream = 0 then
    { session with input := content, inputReady := session.elapsed, inputStream := none }
  else
    { session with
      sources := (stream, content) :: session.sources.filter fun entry => entry.1 != stream }

/-- What another stream reads, if it reads anything. -/
def sourceOf? (session : Session) (stream : Nat) : Option Bytes :=
  if stream = 0 then some session.input else session.sources.lookup stream

/-- Sends a stream where another one goes, or closes it; nothing if there is no such stream. -/
def duplicate? (session : Session) (stream : Nat) (target : Bytes) : Option Session :=
  if target = ['-'] then some (session.closeStream stream)
  else do
    let number ← Text.readNumeral? target
    match session.streams.lookup number with
    | some sink => pure (session.setStream stream sink)
    | none =>
      let content ← session.sourceOf? number
      let redirected := session.readFrom stream content
      pure (if stream = 0 && number != 0 then { redirected with inputStream := some number }
        else redirected)

/-- The streams as they were before a command with its own ones, except that what the command has
read stays read. -/
def withStreamsOf (after before : Session) (ownInput : Bool) : Session :=
  let sources := match after.inputStream with
    | some number =>
      if before.inputStream = some number then after.sources
      else after.sources.map fun (stream, content) =>
        (stream, if stream = number then after.input else content)
    | none => after.sources
  { after with
    streams := before.streams
    sources := before.sources.map fun (stream, content) =>
      (stream, (sources.lookup stream).getD content)
    input := if ownInput then before.input else after.input
    inputReady := if ownInput then before.inputReady else after.inputReady
    inputStream := before.inputStream }

end MonorepoCheck.Shell.Session
