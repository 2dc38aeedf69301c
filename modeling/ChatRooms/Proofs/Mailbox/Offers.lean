import ChatRooms.Mailbox.Basic

/-! Messages offered to a mailbox one after the other. What finds it closed or full is lost, so the
queue grows by the first of the messages, as many as fit. -/
namespace ChatRooms.Mailbox
variable {α : Type}

def put (box : Mailbox α) (message : α) : Mailbox α :=
  match box.offer message with
  | .ok filled => filled
  | .error _ => box

def putAll (box : Mailbox α) (messages : List α) : Mailbox α :=
  messages.foldl put box

def acceptsAll : Mailbox α → List α → Bool
  | _, [] => true
  | box, message :: rest =>
      match box.offer message with
      | .ok filled => acceptsAll filled rest
      | .error _ => false

def taken (box : Mailbox α) (messages : List α) : List α :=
  if box.isOpen then messages.take (box.capacity - box.queue.length) else []

theorem put_capacity (box : Mailbox α) (message : α) :
    (box.put message).capacity = box.capacity := by
  unfold put offer
  cases box.isOpen <;> cases box.hasRoom <;> rfl

theorem put_open (box : Mailbox α) (message : α) : (box.put message).isOpen = box.isOpen := by
  unfold put offer
  cases opened : box.isOpen <;> cases box.hasRoom <;> simp [opened]

theorem put_queue (box : Mailbox α) (message : α) :
    (box.put message).queue =
      if box.isOpen && box.hasRoom then box.queue ++ [message] else box.queue := by
  unfold put offer
  cases box.isOpen <;> cases box.hasRoom <;> rfl

@[simp] theorem putAll_nil (box : Mailbox α) : box.putAll [] = box := rfl

@[simp] theorem putAll_cons (box : Mailbox α) (message : α) (rest : List α) :
    box.putAll (message :: rest) = (box.put message).putAll rest := rfl

theorem putAll_append (box : Mailbox α) (first second : List α) :
    box.putAll (first ++ second) = (box.putAll first).putAll second := by
  simp [putAll]

@[simp] theorem putAll_open (box : Mailbox α) (messages : List α) :
    (box.putAll messages).isOpen = box.isOpen := by
  induction messages generalizing box with
  | nil => rfl
  | cons message rest ih => rw [putAll_cons, ih, put_open]

theorem taken_closed (box : Mailbox α) (messages : List α) (shut : box.isOpen = false) :
    box.taken messages = [] := by
  simp [taken, shut]

theorem taken_cons (box : Mailbox α) (message : α) (rest : List α) (opened : box.isOpen = true)
    (room : box.hasRoom = true) :
    box.taken (message :: rest) = message :: (box.put message).taken rest := by
  have free : box.queue.length < box.capacity := by simpa [hasRoom] using room
  have fewer : box.capacity - box.queue.length = box.capacity - (box.queue.length + 1) + 1 := by
    omega
  simp [taken, put_open, put_queue, put_capacity, opened, room, fewer]

theorem put_full (box : Mailbox α) (message : α) (full : (box.isOpen && box.hasRoom) = false) :
    box.put message = box := by
  unfold put offer
  cases opened : box.isOpen <;> cases room : box.hasRoom <;> simp_all

theorem taken_full (box : Mailbox α) (messages : List α)
    (full : (box.isOpen && box.hasRoom) = false) : box.taken messages = [] := by
  cases opened : box.isOpen with
  | false => exact taken_closed box messages opened
  | true =>
      have none_left : box.capacity - box.queue.length = 0 := by
        simp only [opened, Bool.true_and, hasRoom, decide_eq_false_iff_not, Nat.not_lt] at full
        omega
      simp [taken, none_left]

-- The queue keeps what it held and grows by the messages taken.
theorem putAll_queue (box : Mailbox α) (messages : List α) :
    (box.putAll messages).queue = box.queue ++ box.taken messages := by
  induction messages generalizing box with
  | nil => simp [taken]
  | cons message rest ih =>
      rw [putAll_cons, ih]
      cases accepted : (box.isOpen && box.hasRoom) with
      | false =>
          have none_now := taken_full box (message :: rest) accepted
          rw [put_full box message accepted, taken_full box rest accepted, none_now]
      | true =>
          obtain ⟨opened, room⟩ := Bool.and_eq_true_iff.mp accepted
          rw [taken_cons box message rest opened room, put_queue, accepted]
          simp

-- What is offered later finds the mailbox as what was offered before has left it.
theorem taken_append (box : Mailbox α) (first second : List α) :
    box.taken (first ++ second) = box.taken first ++ (box.putAll first).taken second := by
  have queue := putAll_queue box (first ++ second)
  rw [putAll_append, putAll_queue, putAll_queue, List.append_assoc] at queue
  exact (List.append_cancel_left queue).symm

theorem putAll_closed (box : Mailbox α) (messages : List α) (shut : box.isOpen = false) :
    box.putAll messages = box := by
  induction messages with
  | nil => rfl
  | cons message rest ih => rw [putAll_cons, put_full box message (by simp [shut]), ih]

theorem taken_sublist (box : Mailbox α) (messages : List α) :
    (box.taken messages).Sublist messages := by
  unfold taken
  split
  · exact List.take_sublist _ _
  · exact List.nil_sublist _

theorem taken_of_acceptsAll (box : Mailbox α) (messages : List α)
    (accepted : box.acceptsAll messages = true) : box.taken messages = messages := by
  induction messages generalizing box with
  | nil => simp [taken]
  | cons message rest ih =>
      cases opened : box.isOpen with
      | false => simp [acceptsAll, offer, opened] at accepted
      | true =>
          cases room : box.hasRoom with
          | false => simp [acceptsAll, offer, opened, room] at accepted
          | true =>
              have rest_accepted : (box.put message).acceptsAll rest = true := by
                simpa [acceptsAll, put, offer, opened, room] using accepted
              rw [taken_cons box message rest opened room, ih _ rest_accepted]

theorem open_of_acceptsAll {box : Mailbox α} {message : α} {rest : List α}
    (accepted : box.acceptsAll (message :: rest) = true) : box.isOpen = true := by
  cases opened : box.isOpen with
  | false => simp [acceptsAll, offer, opened] at accepted
  | true => rfl

end ChatRooms.Mailbox
