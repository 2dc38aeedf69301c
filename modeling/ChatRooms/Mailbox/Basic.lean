/-! A bounded mailbox: first in, first out, with a capacity that is never exceeded. A message is
refused when the mailbox is full and when its owner has let go of it; letting go discards what is
still inside. -/
namespace ChatRooms

variable {α : Type}

structure ClientId where
  number : Nat
  deriving DecidableEq, Repr

def ClientId.label (id : ClientId) : String :=
  "client-" ++ toString id.number

structure Mailbox (α : Type) where
  capacity : Nat
  queue : List α
  isOpen : Bool
  deriving Repr

inductive MailboxError where
  | full
  | closed
  deriving DecidableEq, Repr

def MailboxError.message : MailboxError → String
  | .full => "Mailbox full"
  | .closed => "Actor closed"

namespace Mailbox

def maxCapacity : Nat := 2305843009213693951

def admits (capacity : Nat) : Bool :=
  1 ≤ capacity && capacity ≤ maxCapacity

def create? (capacity : Nat) : Option (Mailbox α) :=
  if admits capacity then some ⟨capacity, [], true⟩ else none

def absent : Mailbox α := ⟨0, [], false⟩

def hasRoom (box : Mailbox α) : Bool :=
  box.queue.length < box.capacity

def offer (box : Mailbox α) (message : α) : Except MailboxError (Mailbox α) :=
  if !box.isOpen then .error .closed
  else if box.hasRoom then .ok { box with queue := box.queue ++ [message] }
  else .error .full

def take? (box : Mailbox α) : Option (α × Mailbox α) :=
  match box.queue with
  | [] => none
  | message :: rest => some (message, { box with queue := rest })

def drain (box : Mailbox α) : List α × Mailbox α :=
  (box.queue, { box with queue := [] })

def close (box : Mailbox α) : Mailbox α :=
  { box with queue := [], isOpen := false }

end Mailbox
end ChatRooms
