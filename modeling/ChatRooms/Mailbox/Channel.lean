import ChatRooms.Mailbox.Basic

/-! A mailbox together with the number of addresses that still lead to it. Without an address
nothing more can arrive, which the owner learns once the queue is empty. -/
namespace ChatRooms

variable {α : Type}

structure Channel (α : Type) where
  box : Mailbox α
  addresses : Nat
  deriving Repr

inductive Receipt (α : Type) where
  | message (content : α)
  | empty
  | disconnected
  deriving DecidableEq, Repr

namespace Channel

def create? (capacity : Nat) : Option (Channel α) :=
  (Mailbox.create? capacity).map fun box => ⟨box, 1⟩

def offer (channel : Channel α) (message : α) : Except MailboxError (Channel α) :=
  (channel.box.offer message).map fun box => { channel with box }

def addAddress (channel : Channel α) : Channel α :=
  { channel with addresses := channel.addresses + 1 }

def dropAddress (channel : Channel α) : Channel α :=
  { channel with addresses := channel.addresses - 1 }

def close (channel : Channel α) : Channel α :=
  { channel with box := channel.box.close }

def receive (channel : Channel α) : Receipt α × Channel α :=
  match channel.box.take? with
  | some (message, box) => (.message message, { channel with box })
  | none => (if channel.addresses = 0 then .disconnected else .empty, channel)

end Channel
end ChatRooms
