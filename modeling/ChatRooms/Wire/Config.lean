import ChatRooms.Config
import ChatRooms.Json.Skip
import ChatRooms.Wire.Tagged

/-! The JSON form of settings: an object of the four fields, or an array of their values in the
declared order. A field that is left out, or that the array is too short for, has its default. -/
namespace ChatRooms.Wire

open Json

inductive Setting where
  | defaultRoom
  | historySize
  | hubCapacity
  | clientCapacity
  deriving DecidableEq, Repr

namespace Setting

def name : Setting → String
  | .defaultRoom => "default_room"
  | .historySize => "max_history"
  | .hubCapacity => "hub_buffer"
  | .clientCapacity => "client_buffer"

def all : List Setting := [.defaultRoom, .historySize, .hubCapacity, .clientCapacity]

def ofName? (name : String) : Option Setting :=
  all.find? (·.name = name)

def put? (setting : Setting) (config : Config) (value : Json) : Option Config :=
  match setting with
  | .defaultRoom => value.string?.map fun room => { config with defaultRoom := room }
  | .historySize => value.word?.map fun size => { config with historySize := size }
  | .hubCapacity => value.word?.map fun size => { config with hubCapacity := size }
  | .clientCapacity => value.word?.map fun size => { config with clientCapacity := size }

end Setting

def readSetting (setting : Setting) (config : Config) : Read Config := fun text =>
  match skipSpace text with
  | [] => .error .truncated
  | c :: rest =>
      if c = '[' ∨ c = '\x7b' then .error .misshapen
      else do
        let (found, rest) ← scalar (c :: rest)
        match setting.put? config found with
        | some config => return (config, rest)
        | none => .error .misshapen

/-- One member of the object. A setting may be given once; the value of another name is passed
over. -/
def takeSetting (state : List Setting × Config) (name : String) :
    Read (List Setting × Config) := fun text =>
  match Setting.ofName? name with
  | none => do
      let rest ← skipValue (← colon text)
      return (state, rest)
  | some setting =>
      if state.1.contains setting then .error .misshapen
      else do
        let (config, rest) ← readSetting setting state.2 (← colon text)
        return ((setting :: state.1, config), rest)

/-- The values of the array for the settings that remain. A comma after the last setting is a
fault of the text. -/
def readSettings : List Setting → Bool → Config → Read Config
  | [], _, config, text =>
      match skipSpace text with
      | [] => .error .truncated
      | c :: rest => if c = ']' then .ok (config, rest) else .error .malformed
  | setting :: settings, first, config, text => do
      match ← nextEntry ']' first text with
      | .done rest => return (config, rest)
      | .more rest =>
          let (config, rest) ← readSetting setting config rest
          readSettings settings false config rest

def readConfigFrom : Read Config := fun text =>
  match skipSpace text with
  | '\x7b' :: rest => do
      let ((_, config), rest) ← members takeSetting (rest.length + 1) true ([], Config.default) rest
      return (config, rest)
  | '[' :: rest => readSettings Setting.all true Config.default rest
  | rest => .error (refuse rest)

def readConfig (text : String) : Except Fault Config :=
  whole readConfigFrom text

def putMembers? : List (String × Json) → Config → Option Config
  | [], config => some config
  | (name, value) :: members, config =>
      match Setting.ofName? name with
      | none => putMembers? members config
      | some setting => (setting.put? config value).bind (putMembers? members)

def putItems? : List Setting → List Json → Config → Option Config
  | _, [], config => some config
  | [], _ :: _, _ => none
  | setting :: settings, value :: values, config =>
      (setting.put? config value).bind (putItems? settings values)

def config? : Json → Option Config
  | .object members => putMembers? members Config.default
  | .array values => putItems? Setting.all values Config.default
  | _ => none

def configMembers (config : Config) : List (String × Json) :=
  [(Setting.defaultRoom.name, .string config.defaultRoom),
    (Setting.historySize.name, .natural config.historySize),
    (Setting.hubCapacity.name, .natural config.hubCapacity),
    (Setting.clientCapacity.name, .natural config.clientCapacity)]

end ChatRooms.Wire
