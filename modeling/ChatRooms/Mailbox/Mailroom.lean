import ChatRooms.Event
import ChatRooms.Mailbox.Channel

/-! The mailboxes of the clients, with the number of addresses that lead to each. An identity
without a mailbox is treated as one whose owner has let go of it. -/
namespace ChatRooms

structure Mailroom where
  channels : List (ClientId × Channel Event)

namespace Mailroom

def empty : Mailroom := ⟨[]⟩

def channel (mail : Mailroom) (id : ClientId) : Channel Event :=
  match mail.channels.find? (·.1 = id) with
  | some entry => entry.2
  | none => ⟨Mailbox.absent, 0⟩

def setChannel (mail : Mailroom) (id : ClientId) (channel : Channel Event) : Mailroom :=
  ⟨(id, channel) :: mail.channels.filter (·.1 ≠ id)⟩

@[simp] theorem channel_setChannel_self (mail : Mailroom) (id : ClientId)
    (channel : Channel Event) : (mail.setChannel id channel).channel id = channel := by
  simp [Mailroom.channel, setChannel]

theorem channel_setChannel_ne (mail : Mailroom) {id other : ClientId} (channel : Channel Event)
    (different : other ≠ id) :
    (mail.setChannel id channel).channel other = mail.channel other := by
  have apart : ¬ id = other := fun same => different same.symm
  have kept : (mail.channels.filter (·.1 ≠ id)).find? (·.1 = other) =
      mail.channels.find? (·.1 = other) := by
    rw [List.find?_filter]
    congr 1
    funext entry
    by_cases same : entry.1 = other
    · simp [same, different]
    · simp [same]
  simp only [Mailroom.channel, setChannel, List.find?_cons, apart, decide_false, kept]

def box (mail : Mailroom) (id : ClientId) : Mailbox Event :=
  (mail.channel id).box

def setBox (mail : Mailroom) (id : ClientId) (box : Mailbox Event) : Mailroom :=
  mail.setChannel id { mail.channel id with box }

@[simp] theorem box_setBox_self (mail : Mailroom) (id : ClientId) (box : Mailbox Event) :
    (mail.setBox id box).box id = box := by
  simp [Mailroom.box, setBox]

theorem box_setBox_ne (mail : Mailroom) {id other : ClientId} (box : Mailbox Event)
    (different : other ≠ id) : (mail.setBox id box).box other = mail.box other := by
  simp [Mailroom.box, setBox, channel_setChannel_ne mail _ different]

def open? (mail : Mailroom) (id : ClientId) (capacity : Nat) : Option Mailroom :=
  (Channel.create? capacity).map (mail.setChannel id)

def share (mail : Mailroom) (id : ClientId) : Mailroom :=
  mail.setChannel id (mail.channel id).addAddress

def release (mail : Mailroom) (id : ClientId) : Mailroom :=
  mail.setChannel id (mail.channel id).dropAddress

@[simp] theorem box_share (mail : Mailroom) (id other : ClientId) :
    (mail.share id).box other = mail.box other := by
  by_cases same : other = id
  · subst same; simp [Mailroom.box, share, Channel.addAddress]
  · simp [Mailroom.box, share, channel_setChannel_ne mail _ same]

@[simp] theorem box_release (mail : Mailroom) (id other : ClientId) :
    (mail.release id).box other = mail.box other := by
  by_cases same : other = id
  · subst same; simp [Mailroom.box, release, Channel.dropAddress]
  · simp [Mailroom.box, release, channel_setChannel_ne mail _ same]

def close (mail : Mailroom) (id : ClientId) : Mailroom :=
  mail.setBox id (mail.box id).close

def receive (mail : Mailroom) (id : ClientId) : Receipt Event × Mailroom :=
  let (receipt, channel) := (mail.channel id).receive
  (receipt, mail.setChannel id channel)

end Mailroom
end ChatRooms
