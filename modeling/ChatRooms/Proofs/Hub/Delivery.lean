import ChatRooms.Hub.Exchange
import ChatRooms.Proofs.Mailbox.Offers

/-! Deliveries one after the other. A delivery touches nothing but the mailbox it goes to and the
list of the clients found closed, so whatever is delivered in between, a mailbox is offered the
events addressed to its client, in their order. -/
namespace ChatRooms

abbrev Delivery := ClientId × Event

def addressed (client : ClientId) (tried : List Delivery) : List Event :=
  (tried.filter (·.1 = client)).map (·.2)

@[simp] theorem addressed_nil (client : ClientId) : addressed client [] = [] := rfl

@[simp] theorem addressed_append (client : ClientId) (first second : List Delivery) :
    addressed client (first ++ second) = addressed client first ++ addressed client second := by
  simp [addressed]

theorem addressed_cons (client : ClientId) (delivery : Delivery) (rest : List Delivery) :
    addressed client (delivery :: rest) =
      (if delivery.1 = client then [delivery.2] else []) ++ addressed client rest := by
  by_cases same : delivery.1 = client <;> simp [addressed, same]

theorem addressed_to (client other : ClientId) (events : List Event) :
    addressed client (events.map (other, ·)) = if other = client then events else [] := by
  by_cases same : other = client
  · simp [addressed, List.filter_map, same, Function.comp_def]
  · simp [addressed, List.filter_map, same, Function.comp_def]

-- An event sent to several clients, none of them twice, goes to each of them once.
theorem addressed_fanout (client : ClientId) (clients : List ClientId) (event : Event)
    (once : clients.Nodup) :
    addressed client (clients.map (·, event)) = if client ∈ clients then [event] else [] := by
  induction clients with
  | nil => rfl
  | cons head rest ih =>
      obtain ⟨absent, rest_once⟩ := List.nodup_cons.mp once
      rw [List.map_cons, addressed_cons, ih rest_once]
      by_cases same : head = client
      · subst same
        simp [absent]
      · simp [same, Ne.symm same]

theorem mem_addressed {client : ClientId} {event : Event} {tried : List Delivery} :
    event ∈ addressed client tried ↔ (client, event) ∈ tried := by
  simp [addressed]

namespace Exchange

def deliverEach (exchange : Exchange) (tried : List Delivery) : Exchange :=
  tried.foldl (fun exchange delivery => exchange.deliver delivery.1 delivery.2) exchange

theorem deliverAll_eq (exchange : Exchange) (client : ClientId) (events : List Event) :
    exchange.deliverAll client events = exchange.deliverEach (events.map (client, ·)) := by
  simp [deliverAll, deliverEach, List.foldl_map]

theorem announce_eq (visit : Visit) (exchange : Exchange) (room : String) (absent : ClientId)
    (event : Event) : announce visit exchange room absent event =
      exchange.deliverEach ((audience visit exchange.hub room absent).map (·, event)) := by
  simp [announce, deliverEach, List.foldl_map]

theorem deliver_box (exchange : Exchange) (client other : ClientId) (event : Event) :
    (exchange.deliver client event).mail.box other =
      if other = client then (exchange.mail.box other).put event
      else exchange.mail.box other := by
  by_cases same : other = client
  · subst same
    cases answer : (exchange.mail.box other).offer event with
    | ok box => simp [deliver, Mailbox.put, answer]
    | error reason => cases reason <;> simp [deliver, Mailbox.put, answer]
  · simp only [deliver, same, ↓reduceIte]
    split <;> simp [Mailroom.box_setBox_ne, same]

theorem deliver_hub (exchange : Exchange) (client : ClientId) (event : Event) :
    (exchange.deliver client event).hub =
      { exchange.hub with closed :=
          if (exchange.mail.box client).isOpen then exchange.hub.closed
          else client :: exchange.hub.closed } := by
  unfold deliver Mailbox.offer
  cases (exchange.mail.box client).isOpen <;> cases (exchange.mail.box client).hasRoom <;> rfl

theorem deliverEach_box (exchange : Exchange) (client : ClientId) (tried : List Delivery) :
    (exchange.deliverEach tried).mail.box client =
      (exchange.mail.box client).putAll (addressed client tried) := by
  induction tried generalizing exchange with
  | nil => rfl
  | cons delivery rest ih =>
      have tail := ih (exchange.deliver delivery.1 delivery.2)
      rw [deliver_box] at tail
      rw [addressed_cons, Mailbox.putAll_append]
      by_cases same : delivery.1 = client
      · simpa [deliverEach, same] using tail
      · simpa [deliverEach, same, Ne.symm same] using tail

theorem deliverEach_open (exchange : Exchange) (client : ClientId) (tried : List Delivery) :
    ((exchange.deliverEach tried).mail.box client).isOpen =
      (exchange.mail.box client).isOpen := by
  rw [deliverEach_box, Mailbox.putAll_open]

def foundClosed (mail : Mailroom) (tried : List Delivery) : List ClientId :=
  ((tried.map (·.1)).filter fun client => !(mail.box client).isOpen).reverse

theorem deliverEach_hub (exchange : Exchange) (tried : List Delivery) :
    (exchange.deliverEach tried).hub =
      { exchange.hub with closed := foundClosed exchange.mail tried ++ exchange.hub.closed } := by
  induction tried generalizing exchange with
  | nil => rfl
  | cons delivery rest ih =>
      have opened (client : ClientId) :
          ((exchange.deliver delivery.1 delivery.2).mail.box client).isOpen =
            (exchange.mail.box client).isOpen := by
        simpa [deliverEach] using exchange.deliverEach_open client [delivery]
      have tail := ih (exchange.deliver delivery.1 delivery.2)
      simp only [deliver_hub, foundClosed, opened] at tail
      simp only [deliverEach, List.foldl_cons, foundClosed, List.map_cons] at tail ⊢
      rw [tail]
      cases shut : (exchange.mail.box delivery.1).isOpen <;> simp [shut]

@[simp] theorem deliverEach_members (exchange : Exchange) (tried : List Delivery) :
    (exchange.deliverEach tried).hub.members = exchange.hub.members := by
  rw [deliverEach_hub]

@[simp] theorem deliverEach_history (exchange : Exchange) (tried : List Delivery) :
    (exchange.deliverEach tried).hub.history = exchange.hub.history := by
  rw [deliverEach_hub]

@[simp] theorem deliverEach_defaultRoom (exchange : Exchange) (tried : List Delivery) :
    (exchange.deliverEach tried).hub.defaultRoom = exchange.hub.defaultRoom := by
  rw [deliverEach_hub]

theorem mem_deliverEach_closed {exchange : Exchange} {tried : List Delivery} {client : ClientId} :
    client ∈ (exchange.deliverEach tried).hub.closed ↔
      client ∈ exchange.hub.closed ∨
        ((exchange.mail.box client).isOpen = false ∧ ∃ event, (client, event) ∈ tried) := by
  rw [deliverEach_hub]
  simp [foundClosed, or_comm, and_comm]

end Exchange
end ChatRooms
