import MonorepoCheck.Host
import MonorepoCheck.Shell.Arithmetic
import MonorepoCheck.Shell.Script
import MonorepoCheck.Shell.Signal
import MonorepoCheck.Text.Blank

/-!
A process on the machine while it runs: the machine, what has been written so far and when, and the
time it has taken. Processes that go on beside it are carried out when they are started; what all of
them write is put in order by its time at the end.
-/
namespace MonorepoCheck.Shell

open Text (Bytes)

/-- How a process ends, or what part of a script it leaves. -/
inductive Ending where
  | exited (status : Nat)
  /-- a mistake ended it -/
  | failed
  /-- a signal ended it -/
  | killed (signal : Nat)
  /-- it was still running when its time was over -/
  | late
  /-- it leaves so many loops, or goes on with the next round of the last one of them -/
  | loop (again : Bool) (levels : Nat)
  /-- it leaves a function -/
  | returned
  deriving DecidableEq, Repr, Inhabited

/-- Where a stream goes: to a file, or to a channel that somebody reads. -/
inductive Sink where
  | channel (number : Nat)
  | file (place : Location)
  | nowhere
  deriving DecidableEq, Repr, Inhabited

/-- What was written to a channel at one time. -/
structure Chunk where
  time : Nat
  job : Nat
  channel : Nat
  content : Bytes
  deriving Repr, Inhabited

/-- A process that goes on beside the one that started it. -/
structure Job where
  number : Nat
  /-- when it ends -/
  ends : Nat
  status : Nat
  /-- the signal that ended it -/
  signal : Option Nat := none
  deriving Repr, Inhabited

/-- A signal on its way to a process. -/
structure Arrival where
  time : Nat
  /-- the identity of the process -/
  target : Nat
  signal : Nat
  deriving Repr, Inhabited

/-- The identity of the first process. -/
def firstNumber : Nat := 1000

structure Session where
  /-- its working directory is that of the process -/
  host : Host
  /-- milliseconds that the process may take -/
  limit : Nat
  bindings : List (Bytes × Bytes) := []
  /-- the names that the processes it starts know, too -/
  exports : List Bytes := []
  /-- names whose values stay as they are -/
  fixed : List Bytes := []
  /-- values that come back when the function ends -/
  hidden : List (Bytes × Option Bytes) := []
  functions : List (Bytes × Script) := []
  /-- the files that may be run -/
  executables : List Location := []
  /-- the words the process was started with, its name first -/
  parameters : List Bytes := []
  /-- letters of the options that are set -/
  options : List Char := []
  /-- scripts for signals, by their numbers -/
  traps : List (Nat × Bytes) := []
  streams : List (Nat × Sink) := [(1, .channel 1), (2, .channel 2)]
  /-- what other streams than the usual one read -/
  sources : List (Nat × Bytes) := []
  status : Nat := 0
  /-- the status of the last script whose output was put into a word -/
  substituted : Option Nat := none
  /-- what was written, latest first -/
  chunks : List Chunk := []
  input : Bytes := []
  /-- the other stream that the input comes from -/
  inputStream : Option Nat := none
  /-- when the whole input is there -/
  inputReady : Nat := 0
  /-- milliseconds -/
  elapsed : Nat := 0
  line : Nat := 1
  /-- the process that was asked for is job 0 -/
  job : Nat := 0
  jobs : List Job := []
  /-- the identity of the job that was started last -/
  latestJob : Option Nat := none
  /-- how many processes and channels have been started so far -/
  started : Nat := 2
  /-- the identity that the process gives itself, which its copies give themselves, too -/
  number : Nat := firstNumber
  parent : Nat := 1
  isCopy : Bool := false
  /-- signals that have not reached their processes yet -/
  pending : List Arrival := []
  /-- how many loops it is in -/
  loops : Nat := 0
  /-- how many functions it is in -/
  calls : Nat := 0
  /-- the command on whose behalf things are done -/
  caller : Bytes := []
  /-- whether a status other than zero is asked for, as in conditions -/
  tested : Bool := false
  ending : Option Ending := none
  deriving Inhabited

namespace Session

/-- What was written to a channel, in the order of time. -/
def written (channel : Nat) (chunks : List Chunk) : Bytes :=
  let here := chunks.reverse.filter fun chunk => chunk.channel == channel
  (here.mergeSort fun a b => a.time ≤ b.time).flatMap Chunk.content

def sinkOf (session : Session) (stream : Nat) : Sink :=
  (session.streams.lookup stream).getD .nowhere

def setStream (session : Session) (stream : Nat) (sink : Sink) : Session :=
  { session with
    streams := (stream, sink) :: session.streams.filter fun entry => entry.1 != stream }

def closeStream (session : Session) (stream : Nat) : Session :=
  { session with
    streams := session.streams.filter fun entry => entry.1 != stream
    sources := session.sources.filter fun entry => entry.1 != stream
    input := if stream = 0 then [] else session.input }

def setFiles (session : Session) (files : FileTree) : Session :=
  { session with host := { session.host with files := files } }

def emitTo (session : Session) (sink : Sink) (bytes : Bytes) : Session :=
  match sink with
  | .channel number =>
    { session with chunks := ⟨session.elapsed, session.job, number, bytes⟩ :: session.chunks }
  | .nowhere => session
  | .file place =>
    let path := FileTree.pathOf place
    let files := session.host.files
    let old := match files.find [] path with
      | .ok (.file content _) => content
      | _ => .empty
    match files.writeBytes [] path (old ++ Text.byteArrayOf bytes) session.host.now with
    | .ok files => session.setFiles files
    | .error _ => session

/-- Writes to the output. -/
def emit (session : Session) (bytes : Bytes) : Session :=
  session.emitTo (session.sinkOf 1) bytes

/-- Takes the whole input, once it is there. -/
def takeInput (session : Session) : Bytes × Session :=
  (session.input,
    { session with input := [], elapsed := max session.elapsed session.inputReady })

def withStatus (session : Session) (status : Nat) : Session := { session with status := status }

/-- Ends the process. -/
def exit (session : Session) (ending : Ending) : Session :=
  if session.ending.isSome then session else { session with ending := some ending }

/-- Whether the process that was asked for has used up its time. -/
def isOverdue (session : Session) : Bool := session.job = 0 && session.limit ≤ session.elapsed

/-- The value of a variable. -/
def value? (session : Session) (name : Bytes) : Option Bytes :=
  match session.bindings.lookup name with
  | some value => some value
  | none =>
    if name = "LINENO".toList then some (Text.decimal session.line)
    else (session.host.valueOf? (Text.decode name)).map Text.bytesOfText

def valueOf (session : Session) (name : Bytes) : Bytes := (session.value? name).getD []

def unset (session : Session) (name : Bytes) : Session :=
  { session with
    bindings := session.bindings.filter fun entry => entry.1 != name
    exports := session.exports.filter (· != name)
    host := { session.host with
      environment := session.host.environment.filter fun entry => entry.1 != Text.decode name } }

def assign (session : Session) (name value : Bytes) : Session :=
  { session with
    bindings := (name, value) :: session.bindings.filter fun entry => entry.1 != name }

/-- Gives a variable the value it had before. -/
def restore (session : Session) (name : Bytes) (value : Option Bytes) : Session :=
  match value with
  | some value => session.assign name value
  | none => session.unset name

/-- Another number for a process or a channel. -/
def fresh (session : Session) : Nat × Session :=
  (session.started + 1, { session with started := session.started + 1 })

/-- What a program that is started knows: values that are exported, as its environment, and which
signals are to pass it by. -/
def inherited (session : Session) : Session :=
  let kept := session.bindings.filter fun (name, _) =>
    session.exports.contains name || (session.host.valueOf? (Text.decode name)).isSome
  let names := kept.map fun (name, _) => Text.decode name
  let environment := (session.host.environment.filter fun entry => !names.contains entry.1)
    ++ kept.map fun (name, value) => (Text.decode name, Text.decode value)
  let (own, session) := session.fresh
  { session with
    host := { session.host with environment := environment }
    number := firstNumber + own, parent := session.number, isCopy := false
    traps := session.traps.filter fun entry => entry.2.isEmpty
    bindings := [], exports := [], fixed := [], functions := [], options := []
    hidden := [], jobs := [], latestJob := none, loops := 0, calls := 0, status := 0, line := 1
    caller := [], tested := false, ending := none }

/-- The process as a copy of itself starts, which has other things to do. -/
def copied (session : Session) : Session :=
  { session with
    isCopy := true, traps := session.traps.filter fun entry => entry.2.isEmpty, jobs := [] }

def hasOption (session : Session) (letter : Char) : Bool := session.options.contains letter

/-- The value of a parameter of a script. -/
def parameter? (session : Session) (name : Bytes) : Option Bytes :=
  match name with
  | ['?'] => some (Text.decimal session.status)
  | ['$'] => some (Text.decimal session.number)
  | ['#'] => some (Text.decimal (session.parameters.length - 1))
  | ['-'] => some session.options
  | ['!'] => session.latestJob.map Text.decimal
  | ['@'] | ['*'] =>
    if session.parameters.length ≤ 1 then none
    else some (Text.join [' '] session.parameters.tail)
  | name =>
    match Text.readNumeral? name with
    | some n => session.parameters[n]?
    | none => session.value? name

def path (bytes : Bytes) : Path := ⟨Text.decode bytes⟩

/-- A message on the stream for errors, after the name of the process. -/
def complain (session : Session) (name : Bytes) (text : String) : Session :=
  session.emitTo (session.sinkOf 2) (name ++ Text.bytesOfText (": " ++ text ++ "\n"))

/-- A complaint of the shell itself. -/
def complainOwn (session : Session) (text : String) : Session :=
  let caller := if session.caller.isEmpty then "" else Text.decode session.caller ++ ": "
  session.complain (session.parameters.head?.getD [])
    (Text.decimalText session.line ++ ": " ++ caller ++ text)

/-- A mistake that ends the script. -/
def fail (session : Session) (text : String) : Session :=
  (session.complainOwn text).exit .failed

/-- What a signal does to the process it reaches, where no script is kept for it. -/
def receive (session : Session) (signal : Nat) : Session :=
  if isHarmless signal then session
  else if isStopping signal then session.exit .late
  else session.exit (.killed signal)

/-- The first signal that has come to the process by a time, of those with or without a script. -/
def arrival? (session : Session) (time : Nat) (trapped : Bool) : Option Arrival :=
  if session.isCopy then none
  else
    session.pending.find? fun arrival =>
      arrival.target == session.number && arrival.time ≤ time
        && (!isFinal arrival.signal && (session.traps.lookup arrival.signal).isSome) == trapped

def withoutArrival (session : Session) (arrival : Arrival) : Session :=
  { session with
    pending := session.pending.filter fun other =>
      !(other.time == arrival.time && other.target == arrival.target
        && other.signal == arrival.signal) }

/-- A signal that has come to its process takes effect, if no script is kept for it. -/
def arrive (session : Session) : Session :=
  match session.arrival? session.elapsed false with
  | some arrival => (session.withoutArrival arrival).receive arrival.signal
  | none => session

/-- Sends a signal to a process now. -/
def send (session : Session) (target signal : Nat) : Session :=
  let arrival : Arrival := ⟨session.elapsed, target, signal⟩
  { session with pending := session.pending ++ [arrival] }.arrive

/-- Lets time pass, unless a signal ends the process before. -/
def wait (session : Session) (milliseconds : Nat) : Session :=
  let time := session.elapsed + milliseconds
  match session.arrival? time false with
  | some arrival =>
    ({ session with elapsed := max session.elapsed arrival.time }.withoutArrival arrival).receive
      arrival.signal
  | none =>
    let session := { session with elapsed := time }
    if session.isOverdue then session.exit .late else session

/-- The status that a process leaves behind. -/
def finalStatus (session : Session) : Nat :=
  match session.ending with
  | some (.exited status) => status
  | some .failed => 2
  | some (.killed signal) => 128 + signal
  | _ => session.status

/-- The session after another process: what that one did to the machine stays, what it did to itself
is forgotten. One that a signal has ended is noted. -/
def after (before other : Session) : Session :=
  let session := { before with
    host := { other.host with here := before.host.here, environment := before.host.environment }
    chunks := other.chunks
    sources := before.sources.map fun (stream, old) =>
      (stream, (other.sources.lookup stream).getD old)
    input := other.input
    elapsed := other.elapsed
    started := other.started
    executables := other.executables
    pending := other.pending
    status := other.finalStatus
    ending := if other.ending == some Ending.late then some Ending.late else before.ending }
  match other.ending with
  | some (.killed signal) =>
    let notice := signalNotice signal
    let noted := if notice.isEmpty then session
      else session.emitTo (session.sinkOf 2) (Text.bytesOfText (notice ++ "\n"))
    noted.arrive
  | _ => session.arrive

end Session
end MonorepoCheck.Shell
