import MonorepoCheck.Shell.Evaluation

/-!
Starting processes on the machine, and what comes of them. What a process wrote is its output
followed by its errors.
-/
namespace MonorepoCheck.Shell

open Text (Bytes)

/-- Rounds that a script may take. -/
def rounds : Nat := 200000

/-- Why a process cannot be started, if it cannot. -/
def startFailure? (command : Command) (directory : Path) (host : Host) : Option String :=
  let texts := command.program :: directory.text :: command.arguments
  if texts.any fun text => text.toList.contains (Char.ofNat 0) then
    some "nul byte found in provided data"
  else
    match host.files.find host.here directory with
    | .error cause => some cause.message
    | .ok (.file ..) => some FileError.notDirectory.message
    | .ok .directory => none

def captured (session : Session) : String :=
  Outcome.captured (Session.written 1 session.chunks) (Session.written 2 session.chunks)

def outcome (session : Session) : Outcome :=
  let completed (status : Nat) : Outcome :=
    .completed (status == 0) (some status) (captured session)
  if session.isOverdue then .timedOut session.limit
  else
    match session.ending with
    | some .late => .timedOut session.limit
    | some (.killed _) => .completed false none (captured session)
    | _ => completed session.finalStatus

/-- Bytes that a word of a command may have, a zero at its end included. -/
def wordLimit : Nat := 131072

/-- Runs a process in a directory for at most so many milliseconds. -/
def start (command : Command) (directory : Path) (limit : Nat) (host : Host) : Outcome × Host :=
  match startFailure? command directory host with
  | some reason => (.failedToStart reason, host)
  | none =>
    match host.files.locate host.here directory with
    | .error cause => (.failedToStart cause.message, host)
    | .ok place =>
      let inside := { host with here := place }
      match Program.find inside (Program.searchPath inside) command.program with
      | .error refusal => (.failedToStart refusal.message, host)
      | .ok program =>
        let words := (command.program :: command.arguments).map Text.bytesOfText
        if words.any fun word => wordLimit ≤ word.length then
          (.failedToStart "Argument list too long (os error 7)", host)
        else
        let session := Session.launch rounds program words { host := inside, limit := limit }
        (outcome session, { session.host with here := host.here })

/-- Runs the commands of a scan as processes. -/
def runner : Runner := fun invocation host =>
  start invocation.command invocation.directory (invocation.timeoutSeconds * 1000) host

end MonorepoCheck.Shell
