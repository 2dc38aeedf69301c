import ChatRooms.Mailbox.Basic
import ChatRooms.Text.Blank

/-! What can be set for a hub. The numbers are 64-bit words. -/
namespace ChatRooms

structure Config where
  defaultRoom : String
  historySize : Nat
  hubCapacity : Nat
  clientCapacity : Nat
  deriving DecidableEq, Repr

inductive ConfigError where
  | emptyDefaultRoom
  | zero (setting : String)
  deriving DecidableEq, Repr

def ConfigError.message : ConfigError → String
  | .emptyDefaultRoom => "default room must not be empty"
  | .zero setting => setting ++ " must be at least 1"

namespace Config

def default : Config := ⟨"general", 20, 64, 64⟩

def largestWord : Nat := Nat.pow 2 64 - 1

/-- The capacity of a session's mailbox: a whole history and one event more have to fit, as far as
a word can count them. -/
def sessionCapacity (config : Config) : Nat :=
  max config.clientCapacity (min (config.historySize + 1) largestWord)

def check (config : Config) : Except ConfigError Unit :=
  if (Text.trimChars config.defaultRoom.toList).isEmpty then .error .emptyDefaultRoom
  else if config.historySize = 0 then .error (.zero "max_history")
  else if config.hubCapacity = 0 then .error (.zero "hub_buffer")
  else if config.clientCapacity = 0 then .error (.zero "client_buffer")
  else .ok ()

end Config
end ChatRooms
