import ChatRooms.Text.Blank
import ChatRooms.Text.Lowercase

/-! The grammar of a line of input. A line that begins with a slash is a command word and up to two
arguments, parted by single spaces; the second argument runs to the end of the line. Everything
else is said to the room. -/
namespace ChatRooms.Terminal

inductive Entry where
  | blank
  | say (content : String)
  | help
  | users
  | quit
  | join (room : String)
  | direct (recipient content : String)
  deriving DecidableEq, Repr

inductive EntryError where
  | joinUsage
  | directUsage
  | unknown (word : String)
  deriving DecidableEq, Repr

def EntryError.message : EntryError → String
  | .joinUsage => "Usage: /join <room>"
  | .directUsage => "Usage: /dm <user> <message>"
  | .unknown word => "Unknown command: " ++ word ++ "  (type /help)"

def helpText : String :=
  "Commands:\n" ++
  "  /help              show this help\n" ++
  "  /users             list online users in the current room\n" ++
  "  /join <room>       switch to a different room\n" ++
  "  /dm <user> <msg>   send a private message to a user\n" ++
  "  /quit              disconnect and exit"

def splitSpace (text : List Char) : List Char × List Char :=
  (text.takeWhile (· ≠ ' '), (text.dropWhile (· ≠ ' ')).drop 1)

namespace Entry

def ofWord (word : String) (first second : List Char) : Except EntryError Entry :=
  if word = "/help" then .ok .help
  else if word = "/users" then .ok .users
  else if word = "/quit" then .ok .quit
  else if word = "/join" then
    if first.isEmpty then .error .joinUsage else .ok (.join (String.ofList first))
  else if word = "/dm" then
    if first.isEmpty || second.isEmpty then .error .directUsage
    else .ok (.direct (String.ofList first) (String.ofList second))
  else .error (.unknown word)

def ofSlashed (text : List Char) : Except EntryError Entry :=
  let (word, rest) := splitSpace text
  let (first, second) := splitSpace rest
  ofWord (Text.lowercase (String.ofList word)) (Text.trimChars first) (Text.trimChars second)

def ofTrimmed (text : List Char) : Except EntryError Entry :=
  match text with
  | [] => .ok .blank
  | c :: _ => if c = '/' then ofSlashed text else .ok (.say (String.ofList text))

def parse (line : String) : Except EntryError Entry :=
  ofTrimmed (Text.trimChars line.toList)

end Entry
end ChatRooms.Terminal
