import ChatRooms.Config
import ChatRooms.Terminal.Console

/-! What a command line can ask for, and the reasons why it asks for nothing. -/
namespace ChatRooms.CommandLine

inductive LogFormat where
  | compact
  | pretty
  deriving DecidableEq, Repr

inductive Job where
  | demo
  | console (user room : String) (mode : Terminal.Mode)
  deriving DecidableEq, Repr

structure Invocation where
  logFormat : LogFormat
  config : Config
  job : Job
  deriving DecidableEq, Repr

inductive Stop where
  | help
  | version
  | nothingGiven
  | missingCommand
  | unknownCommand
  | unknownArgument
  | missingArgument
  | repeatedArgument
  | excessValue
  | unsuitableValue
  | unreadableNumber
  deriving DecidableEq, Repr

def Stop.isRequested : Stop → Bool
  | .help | .version => true
  | _ => false

inductive Level where
  | program
  | demo
  | console
  deriving DecidableEq, Repr

def Level.ofCommand? (name : String) : Option Level :=
  if name = "demo" then some .demo
  else if name = "repl" then some .console
  else none

inductive Setting where
  | logFormat
  | defaultRoom
  | maxHistory
  | user
  | room
  deriving DecidableEq, Repr

def Setting.name : Setting → String
  | .logFormat => "log-format"
  | .defaultRoom => "default-room"
  | .maxHistory => "max-history"
  | .user => "user"
  | .room => "room"

def Level.settings : Level → List Setting
  | .program => [.logFormat]
  | .demo => [.logFormat, .defaultRoom, .maxHistory]
  | .console => [.logFormat, .defaultRoom, .maxHistory, .user, .room]

inductive Flag where
  | help
  | version
  | json
  deriving DecidableEq, Repr

def Flag.name : Flag → String
  | .help => "help"
  | .version => "version"
  | .json => "json"

def Level.flags : Level → List Flag
  | .program => [.help, .version]
  | .demo => [.help]
  | .console => [.help, .json]

def Setting.environmentName? : Setting → Option String
  | .defaultRoom => some "CHAT_HUB_DEFAULT_ROOM"
  | .maxHistory => some "CHAT_HUB_MAX_HISTORY"
  | _ => none

end ChatRooms.CommandLine
