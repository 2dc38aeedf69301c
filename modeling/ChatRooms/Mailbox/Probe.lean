import ChatRooms.Mailbox.Channel
import ChatRooms.Text.Quoted

/-! Expectations on a mailbox of texts, and the complaint when one is not met. -/
namespace ChatRooms.Probe

inductive Complaint where
  | nothingArrived
  | closedWhileWaiting
  | unexpected (content : String)
  deriving DecidableEq, Repr

/-- An expectation waits for one second. -/
def Complaint.message : Complaint → String
  | .nothingArrived => "No message arrived within 1s"
  | .closedWhileWaiting => "Probe closed while waiting for a message"
  | .unexpected content => "Expected no messages, got " ++ Text.quoted content

def expectNext (channel : Channel String) : Except Complaint String × Channel String :=
  match channel.receive with
  | (.message content, channel) => (.ok content, channel)
  | (.empty, channel) => (.error .nothingArrived, channel)
  | (.disconnected, channel) => (.error .closedWhileWaiting, channel)

def expectEmpty (channel : Channel String) : Except Complaint Unit × Channel String :=
  match channel.box.take? with
  | some (content, box) => (.error (.unexpected content), { channel with box })
  | none => (.ok (), channel)

end ChatRooms.Probe
