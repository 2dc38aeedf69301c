import ChatRooms.Session
import ChatRooms.Terminal.Entry
import ChatRooms.Terminal.Render
import ChatRooms.Text.Utf8
import ChatRooms.Wire.Event

/-! A console reads lines of input and prints what the hub delivers to its session. A line or an
event is turned into a list of tasks, and nothing else is read before they are done. The session
leaves the hub when a line asks for it or the input ends; an error ends the console where it
stands. -/
namespace ChatRooms.Terminal

inductive Mode where
  | text
  | json
  deriving DecidableEq, Repr

inductive ConsoleError where
  | session (reason : SessionError)
  | outputClosed
  | inputInvalid (fault : Text.Utf8.Fault)
  deriving DecidableEq, Repr

def ConsoleError.message : ConsoleError → String
  | .session reason => reason.message
  | .outputClosed => "terminal I/O failed: output closed"
  | .inputInvalid fault => "terminal I/O failed: " ++ fault.message

-- The end of a line and a prompt are flushed, and so is the output once more to finish.
inductive Task where
  | move (move : Move)
  | write (text : String)
  | endLine
  | prompt
  | finish
  deriving DecidableEq, Repr

/-- What an output takes before it fails: so many octets and so many flushes, none when it takes any
number. A console ends over the first failure, so nothing more of an output matters to it. -/
structure Sink where
  octets : Option Nat
  flushes : Option Nat
  deriving DecidableEq, Repr

namespace Sink

def unlimited : Sink := ⟨none, none⟩

def isLimited (sink : Sink) : Bool :=
  sink.octets.isSome || sink.flushes.isSome

-- An output of so many octets is flushed as often as one likes.
instance : Coe (Option Nat) Sink := ⟨fun octets => ⟨octets, none⟩⟩

end Sink

/-- `pending` is the input that has arrived and has not been read. -/
structure Console where
  session : Session
  mode : Mode
  sink : Sink
  pending : List UInt8
  inputEnded : Bool
  tasks : List Task
  written : List String
  outcome : Option (Except ConsoleError Unit)

inductive Input where
  | waiting
  | ended
  | line (octets rest : List UInt8)
  deriving DecidableEq, Repr

def newline : UInt8 := 10

/-- The next line, its line feed included. Without one it is a line only when the input has
ended. -/
def nextInput (pending : List UInt8) (inputEnded : Bool) : Input :=
  match pending.dropWhile (· ≠ newline) with
  | _ :: rest => .line (pending.takeWhile (· ≠ newline) ++ [newline]) rest
  | [] =>
      if !inputEnded then .waiting
      else if pending.isEmpty then .ended
      else .line pending []

def stripLineEnd (line : String) : String :=
  match line.toList.reverse with
  | '\n' :: '\r' :: before => String.ofList before.reverse
  | '\n' :: before => String.ofList before.reverse
  | _ => line

def prompt (session : Session) : String :=
  "[" ++ session.user ++ " @ " ++ session.room ++ "] > "

def writeLine (text : String) : List Task := [.write text, .endLine]

def promptTasks : Mode → List Task
  | .text => [.prompt]
  | .json => []

def wishTasks (session : Session) (now : Timestamp) (wish : Wish) : List Task :=
  (session.moves now wish).map .move

def leaveTasks (session : Session) (now : Timestamp) : List Task :=
  wishTasks session now .disconnect ++ [.finish]

def entryTasks (session : Session) (now : Timestamp) : Entry → List Task
  | .blank => []
  | .say content => wishTasks session now (.post content)
  | .help => writeLine helpText
  | .users => wishTasks session now .listUsers
  | .quit => []
  | .join room => wishTasks session now (.switchRoom room) ++ writeLine ("Joined room: " ++ room)
  | .direct recipient content => wishTasks session now (.direct recipient content)

def lineTasks (session : Session) (mode : Mode) (now : Timestamp) (line : String) : List Task :=
  match Entry.parse line with
  | .ok .quit => leaveTasks session now
  | .ok entry => entryTasks session now entry ++ promptTasks mode
  | .error reason => writeLine reason.message ++ promptTasks mode

def eventTasks (session : Session) (event : Event) : Mode → List Task
  | .text => writeLine ("\r" ++ render event session.room) ++ [.prompt]
  | .json => writeLine (Wire.renderEvent event)

namespace Console

def create (session : Session) (mode : Mode) (sink : Sink) (now : Timestamp) : Console :=
  let greeting := match mode with
    | .text => writeLine helpText ++ [.prompt]
    | .json => []
  { session, mode, sink, pending := [], inputEnded := false,
    tasks := wishTasks session now .connect ++ greeting, written := [], outcome := none }

def hasEnded (console : Console) : Bool :=
  console.outcome.isSome

def conclude (console : Console) (outcome : Except ConsoleError Unit) : Console :=
  { console with tasks := [], outcome := some outcome }

def enter (console : Console) (room : String) : Console :=
  { console with session := console.session.enter room }

def write (console : Console) (text : String) : Console :=
  match console.sink.octets with
  | none => { console with written := console.written ++ [text] }
  | some left =>
      if text.utf8ByteSize ≤ left then
        { console with written := console.written ++ [text],
                       sink := { console.sink with octets := some (left - text.utf8ByteSize) } }
      else console.conclude (.error .outputClosed)

def flush (console : Console) : Console :=
  match console.sink.flushes with
  | none => console
  | some 0 => console.conclude (.error .outputClosed)
  | some (left + 1) => { console with sink := { console.sink with flushes := some left } }

def put (console : Console) (text : String) : Console :=
  let written := console.write text
  if written.hasEnded then written else written.flush

def finish (console : Console) : Console :=
  console.conclude (if console.sink.flushes = some 0 then .error .outputClosed else .ok ())

def readLine? (console : Console) (now : Timestamp) : Option Console :=
  match nextInput console.pending console.inputEnded with
  | .waiting => none
  | .ended => some { console with tasks := leaveTasks console.session now }
  | .line octets rest =>
      let read := { console with pending := rest }
      match Text.Utf8.decode octets with
      | .error fault => some (read.conclude (.error (.inputInvalid fault)))
      | .ok line =>
          some { read with tasks := lineTasks console.session console.mode now (stripLineEnd line) }

def take (console : Console) (event : Event) : Console :=
  { console with tasks := eventTasks console.session event console.mode }

def feed (console : Console) (octets : List UInt8) : Console :=
  { console with pending := console.pending ++ octets }

def endInput (console : Console) : Console :=
  { console with inputEnded := true }

/-- No less than the number of tasks and lines that are left for the console to do. A line makes at
most six tasks. -/
def workload (console : Console) : Nat :=
  console.tasks.length + 8 * (console.pending.length + 1)

end Console
end ChatRooms.Terminal
