import ChatRooms.Mailbox.Mailroom
import ChatRooms.Proofs.Mailbox.Offers
import Mathlib.Data.List.Forall2

/-! Two mailboxes side by side that hold the like at the same places. As long as the same is done to
both, and the like is offered to both, they take in and lose the messages of the same places. -/
namespace ChatRooms

namespace Mailbox

variable {α : Type} {like : α → α → Prop} {left right : Mailbox α}

structure Matches (like : α → α → Prop) (left right : Mailbox α) : Prop where
  capacity : left.capacity = right.capacity
  opened : left.isOpen = right.isOpen
  queue : List.Forall₂ like left.queue right.queue

theorem putAll_capacity (box : Mailbox α) (messages : List α) :
    (box.putAll messages).capacity = box.capacity := by
  induction messages generalizing box with
  | nil => rfl
  | cons message rest ih => rw [putAll_cons, ih, put_capacity]

def free (box : Mailbox α) : Nat :=
  if box.isOpen then box.capacity - box.queue.length else 0

theorem free_of_closed {box : Mailbox α} (closed : box.isOpen = false) : box.free = 0 := by
  simp [free, closed]

theorem taken_eq_take (box : Mailbox α) (messages : List α) :
    box.taken messages = messages.take box.free := by
  unfold taken free
  split <;> rfl

def isFull (box : Mailbox α) : Bool :=
  box.isOpen && !box.hasRoom

-- A message that does not fit leaves the mailbox full.
theorem length_le_free {box : Mailbox α} {messages : List α} (opened : box.isOpen = true)
    (roomy : (box.putAll messages).isFull = false) : messages.length ≤ box.free := by
  simp only [isFull, hasRoom, putAll_capacity, putAll_queue, putAll_open, List.length_append,
    taken, opened, ↓reduceIte, List.length_take, Bool.true_and, Bool.not_eq_false',
    decide_eq_true_eq] at roomy
  simp only [free, opened, ↓reduceIte]
  omega

theorem Matches.free (box : left.Matches like right) : left.free = right.free := by
  simp only [Mailbox.free, box.opened, box.capacity, box.queue.length_eq]

theorem Matches.taken (box : left.Matches like right) {offered offered' : List α}
    (alike : List.Forall₂ like offered offered') :
    List.Forall₂ like (left.taken offered) (right.taken offered') := by
  rw [taken_eq_take, taken_eq_take, box.free]
  exact List.forall₂_take _ alike

theorem Matches.putAll (box : left.Matches like right) {offered offered' : List α}
    (alike : List.Forall₂ like offered offered') :
    (left.putAll offered).Matches like (right.putAll offered') := by
  refine ⟨?_, ?_, ?_⟩
  · simp only [putAll_capacity, box.capacity]
  · simp only [putAll_open, box.opened]
  · rw [putAll_queue, putAll_queue]
    exact List.rel_append box.queue (box.taken alike)

theorem Matches.close (box : left.Matches like right) :
    left.close.Matches like right.close :=
  ⟨box.capacity, rfl, .nil⟩

theorem Matches.tail (box : left.Matches like right) :
    Matches like { left with queue := left.queue.tail } { right with queue := right.queue.tail } :=
  ⟨box.capacity, box.opened, by simpa using List.forall₂_drop 1 box.queue⟩

theorem Matches.mono {other : α → α → Prop} (box : left.Matches like right)
    (weaker : ∀ one two, like one two → other one two) : left.Matches other right :=
  ⟨box.capacity, box.opened, box.queue.imp weaker⟩

theorem matches_refl (reflexive : ∀ message, like message message) (box : Mailbox α) :
    box.Matches like box :=
  ⟨rfl, rfl, List.forall₂_same.mpr fun message _ => reflexive message⟩

theorem eq_of_matches (box : left.Matches (· = ·) right) : left = right := by
  obtain ⟨capacity, opened, queue⟩ := box
  rw [List.forall₂_eq_eq_eq] at queue
  cases left
  cases right
  simp_all

end Mailbox

namespace Mailroom

def knows (mail : Mailroom) (id : ClientId) : Bool :=
  mail.channels.any (·.1 = id)

theorem knows_setChannel (mail : Mailroom) (id other : ClientId) (channel : Channel Event) :
    (mail.setChannel id channel).knows other = (decide (other = id) || mail.knows other) := by
  rw [Bool.eq_iff_iff]
  simp only [knows, setChannel, List.any_cons, List.any_filter, Bool.or_eq_true,
    decide_eq_true_eq, List.any_eq_true, Bool.and_eq_true]
  constructor
  · rintro (same | ⟨entry, listed, _, same⟩)
    · exact Or.inl same.symm
    · exact Or.inr ⟨entry, listed, same⟩
  · rintro (same | ⟨entry, listed, same⟩)
    · exact Or.inl same.symm
    · by_cases here : entry.1 = id
      · exact Or.inl (here.symm.trans same)
      · exact Or.inr ⟨entry, listed, here, same⟩

theorem knows_setChannel_known {mail : Mailroom} {id : ClientId} (other : ClientId)
    (channel : Channel Event) (known : mail.knows id = true) :
    (mail.setChannel id channel).knows other = mail.knows other := by
  rw [knows_setChannel]
  by_cases same : other = id
  · simp [same, known]
  · simp [same]

theorem knows_of_open {mail : Mailroom} {id : ClientId} (opened : (mail.box id).isOpen = true) :
    mail.knows id = true := by
  cases unknown : mail.channels.any (·.1 = id) with
  | true => exact unknown
  | false =>
      have absent : mail.channels.find? (·.1 = id) = none := by simpa using unknown
      simp [box, channel, absent, Mailbox.absent] at opened

theorem box_receive (mail : Mailroom) (reader id : ClientId) : (mail.receive reader).2.box id =
    if id = reader then { mail.box id with queue := (mail.box id).queue.tail }
    else mail.box id := by
  by_cases same : id = reader
  · subst same
    cases queued : (mail.channel id).box.queue with
    | nil =>
        simp only [receive, Channel.receive, Mailbox.take?, queued, box, channel_setChannel_self,
          ↓reduceIte, List.tail_nil]
        rw [← queued]
    | cons event rest => simp [receive, Channel.receive, Mailbox.take?, box, queued]
  · simp [receive, box, channel_setChannel_ne _ _ same, same]

theorem box_close (mail : Mailroom) (owner id : ClientId) : (mail.close owner).box id =
    if id = owner then (mail.box id).close else mail.box id := by
  by_cases same : id = owner
  · subst same
    simp [close]
  · simp [close, box_setBox_ne _ _ same, same]

variable {like : Event → Event → Prop} {ours : ClientId → Prop} {left right : Mailroom}

structure Matches (like : Event → Event → Prop) (ours : ClientId → Prop)
    (left right : Mailroom) : Prop where
  box : ∀ id, ours id → (left.box id).Matches like (right.box id)
  known : ∀ id, ours id → left.knows id = right.knows id

theorem Matches.share (mail : left.Matches like ours right) (client : ClientId) :
    (left.share client).Matches like ours (right.share client) where
  box id mine := by
    rw [box_share, box_share]
    exact mail.box id mine
  known id mine := by simp only [Mailroom.share, knows_setChannel, mail.known id mine]

theorem Matches.release (mail : left.Matches like ours right) (client : ClientId) :
    (left.release client).Matches like ours (right.release client) where
  box id mine := by
    rw [box_release, box_release]
    exact mail.box id mine
  known id mine := by simp only [Mailroom.release, knows_setChannel, mail.known id mine]

theorem Matches.receive (mail : left.Matches like ours right) (reader : ClientId) :
    (left.receive reader).2.Matches like ours (right.receive reader).2 where
  box id mine := by
    rw [box_receive, box_receive]
    split
    · exact (mail.box id mine).tail
    · exact mail.box id mine
  known id mine := by simp only [Mailroom.receive, knows_setChannel, mail.known id mine]

theorem Matches.close (mail : left.Matches like ours right) (owner : ClientId) :
    (left.close owner).Matches like ours (right.close owner) where
  box id mine := by
    rw [box_close, box_close]
    split
    · exact (mail.box id mine).close
    · exact mail.box id mine
  known id mine := by
    simp only [Mailroom.close, setBox, knows_setChannel, mail.known id mine]

end Mailroom
end ChatRooms
