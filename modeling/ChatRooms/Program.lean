import ChatRooms.CommandLine.Reader
import ChatRooms.Demo
import ChatRooms.Text.Quoted

/-! The program as a whole: from its arguments, environment and input to its output and exit code. A
console is opened, fed and closed in separate steps, so that it can be run on input that arrives
little by little. -/
namespace ChatRooms.Program

def versionText : String := "chat-hub 0.1.0\n"

def usageText : String :=
  "Chat rooms around a single hub\n\n" ++
  "Usage: chat-hub [OPTIONS] <COMMAND>\n\n" ++
  "Commands:\n" ++
  "  demo  Play a scripted conversation between a few users\n" ++
  "  repl  Chat interactively from the terminal\n" ++
  "  help  Print this message\n\n" ++
  "Options:\n" ++
  "      --log-format <compact|pretty>  Layout of log lines\n" ++
  "      --default-room <ROOM>          Room of users who connect without naming one\n" ++
  "      --max-history <COUNT>          Messages kept per room and replayed to new members\n" ++
  "      --user <USER>                  User name shown to others (repl, required)\n" ++
  "      --room <ROOM>                  Room to join (repl)\n" ++
  "      --json                         Print deliveries as JSON objects (repl)\n" ++
  "  -h, --help                         Print this message\n" ++
  "  -V, --version                      Print the version\n"

structure Ending where
  code : Nat
  output : String
  log : List String
  complaint : Option String
  deriving DecidableEq, Repr

def doneCode : Nat := 0

def failedCode : Nat := 1

def usageCode : Nat := 2

def abortCode : Nat := 101

def succeeded (output : String) (log : List String) : Ending :=
  ⟨doneCode, output, log, none⟩

def failed (reason : String) (output : String) (log : List String) : Ending :=
  ⟨failedCode, output, log, some ("Error: " ++ Text.quoted reason)⟩

def aborted : Ending := ⟨abortCode, "", [], none⟩

def stopped (stop : CommandLine.Stop) : Ending :=
  match stop with
  | .help => succeeded usageText []
  | .version => succeeded versionText []
  | _ => ⟨usageCode, "", [usageText], none⟩

def demoLine (line : Demo.Line) : String :=
  match line.recipient with
  | some role => role.name ++ ": " ++ line.text
  | none => line.text

def runDemo (visit : Visit) (now : Timestamp) (config : Config) : Ending :=
  match Demo.run? visit now config with
  | none => aborted
  | some report =>
      let log := report.lines.map demoLine
      match report.outcome with
      | .ok () => succeeded "" log
      | .error reason => failed reason.message "" log

inductive State where
  | over (ending : Ending)
  | console (server : Server) (id : ClientId)

def openConsole? (now : Timestamp) (config : Config) (user room : String)
    (mode : Terminal.Mode) : Option State := do
  let server ← Server.start? config
  let (session, server) ← server.openConsole? user room mode .unlimited now
  return .console server session.id

def start (visit : Visit) (now : Timestamp) (environment : List (String × String))
    (arguments : List String) : State :=
  match CommandLine.read environment arguments with
  | .error stop => .over (stopped stop)
  | .ok invocation =>
      match invocation.config.check with
      | .error reason => .over (failed reason.message "" [])
      | .ok () =>
          match invocation.job with
          | .demo => .over (runDemo visit now invocation.config)
          | .console user room mode =>
              (openConsole? now invocation.config user room mode).getD (.over aborted)

/-- Stops the hub and tells how the console went. One that has not ended is taken to be done. -/
def close (visit : Visit) (now : Timestamp) (server : Server) (id : ClientId) : Ending :=
  match (server.shutDown visit now).console? id with
  | none => aborted
  | some console =>
      let output := String.join console.written
      match console.outcome with
      | some (.error reason) => failed reason.message output []
      | _ => succeeded output []

def run (visit : Visit) (now : Timestamp) (environment : List (String × String))
    (arguments : List String) (input : List UInt8) : Ending :=
  match start visit now environment arguments with
  | .over ending => ending
  | .console server id =>
      let fed := (server.feed id input).endInput id
      close visit now (fed.settle visit now) id

end ChatRooms.Program
