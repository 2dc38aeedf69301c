import ChatRooms.Actor.Loop

/-! An actor that keeps a record of what was called on it. -/
namespace ChatRooms

inductive Call where
  | start
  | handle (content : String)
  | stop
  deriving DecidableEq, Repr

def Call.text : Call → String
  | .start => "start"
  | .handle content => "handle " ++ content
  | .stop => "stop"

def recorder (hooks : Bool) : Actor (List Call) String where
  start calls := if hooks then calls ++ [.start] else calls
  handle calls content := calls ++ [.handle content]
  stop calls := if hooks then calls ++ [.stop] else calls
  discard calls _ := calls

end ChatRooms
