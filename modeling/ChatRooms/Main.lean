import ChatRooms.Program
import Std.Time.DateTime.Timestamp

/-! The command line of the program: a console is fed one line of standard input at a time. -/
namespace ChatRooms.Main

open Program

def clockTime : IO Timestamp := do
  let now ← Std.Time.Timestamp.now
  let nanoseconds : Int := now.toNanosecondsSinceUnixEpoch.val
  let found := Timestamp.ofUnix? (nanoseconds / 1000000000) (nanoseconds % 1000000000).toNat
  match found with
  | some time => return time
  | none => throw (IO.userError "the clock is out of range")

def environment : IO (List (String × String)) := do
  let names := [CommandLine.Setting.defaultRoom, .maxHistory].filterMap (·.environmentName?)
  names.filterMapM fun name => do
    return (← IO.getEnv name).map (name, ·)

def finish (ending : Ending) (shown : Nat) : IO UInt32 := do
  let output ← IO.getStdout
  output.putStr (String.ofList (ending.output.toList.drop shown))
  output.flush
  for line in ending.log do IO.eprintln line
  if let some complaint := ending.complaint then IO.eprintln complaint
  return ending.code.toUInt32

/-- The octets of the next line of standard input, its line feed included; none at its end. -/
partial def readLine (input : IO.FS.Stream) (before : Array UInt8) : IO (Array UInt8) := do
  let read ← input.read 1
  match read.data[0]? with
  | none => return before
  | some octet =>
      let line := before.push octet
      if octet = Terminal.newline then return line else readLine input line

/-- Shows what is new, and goes on with the next line unless the console has ended. -/
partial def converse (server : Server) (id : ClientId) (shown : Nat) : IO UInt32 := do
  let now ← clockTime
  let settled := server.settle .enrolled now
  match settled.console? id with
  | none => finish aborted 0
  | some console =>
      if console.hasEnded then finish (close .enrolled now settled id) shown
      else
        let text := (String.join console.written).toList
        let output ← IO.getStdout
        output.putStr (String.ofList (text.drop shown))
        output.flush
        let line ← readLine (← IO.getStdin) #[]
        let ended := line.back? ≠ some Terminal.newline
        let fed := settled.feed id line.toList
        converse (if ended then fed.endInput id else fed) id text.length

end ChatRooms.Main

def main (arguments : List String) : IO UInt32 := do
  let now ← ChatRooms.Main.clockTime
  match ChatRooms.Program.start .enrolled now (← ChatRooms.Main.environment) arguments with
  | .over ending => ChatRooms.Main.finish ending 0
  | .console server id => ChatRooms.Main.converse server id 0
