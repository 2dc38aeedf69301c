import ChatRooms.Mailbox.Channel

/-! A task that owns a state and a mailbox and handles one message at a time. It starts once, stops
once, and between the two handles messages in the order of their arrival, until it is told to stop
or no address is left. A stop is seen before the next message, so what is queued then is lost. -/
namespace ChatRooms

variable {σ μ : Type}

/-- `discard` is what becomes of the state when a message is lost unhandled. -/
structure Actor (σ μ : Type) where
  start : σ → σ
  handle : σ → μ → σ
  stop : σ → σ
  discard : σ → μ → σ

inductive Phase where
  | made
  | scheduled
  | running
  | finished
  | dropped
  deriving DecidableEq, Repr

inductive StopSignal where
  | none
  | armed
  | raised
  deriving DecidableEq, Repr

structure Loop (σ μ : Type) where
  state : σ
  channel : Channel μ
  phase : Phase
  signal : StopSignal

namespace Loop

def create? (state : σ) (capacity : Nat) : Option (Loop σ μ) :=
  (Channel.create? capacity).map fun channel => ⟨state, channel, .made, .none⟩

def schedule (loop : Loop σ μ) (signal : StopSignal) : Loop σ μ :=
  { loop with phase := .scheduled, signal }

def close (actor : Actor σ μ) (loop : Loop σ μ) : Loop σ μ :=
  { loop with state := loop.channel.box.queue.foldl actor.discard loop.state,
              channel := loop.channel.close }

def drop (actor : Actor σ μ) (loop : Loop σ μ) : Loop σ μ :=
  { loop.close actor with phase := .dropped }

def raiseStop (loop : Loop σ μ) : Loop σ μ :=
  { loop with signal := .raised }

def finish (actor : Actor σ μ) (loop : Loop σ μ) : Loop σ μ :=
  let stopped := { loop with state := actor.stop loop.state }
  { stopped.close actor with phase := .finished }

def turn? (actor : Actor σ μ) (loop : Loop σ μ) : Option (Loop σ μ) :=
  match loop.phase with
  | .scheduled => some { loop with state := actor.start loop.state, phase := .running }
  | .running =>
      if loop.signal = .raised then some (finish actor loop)
      else match loop.channel.receive with
        | (.message content, channel) =>
            some { loop with state := actor.handle loop.state content, channel }
        | (.empty, _) => none
        | (.disconnected, _) => some (finish actor loop)
  | _ => none

def turns (actor : Actor σ μ) : Nat → Loop σ μ → Loop σ μ
  | 0, loop => loop
  | count + 1, loop =>
      match loop.turn? actor with
      | none => loop
      | some next => turns actor count next

def settle (actor : Actor σ μ) (loop : Loop σ μ) : Loop σ μ :=
  turns actor (loop.channel.box.queue.length + 2) loop

def offer (loop : Loop σ μ) (message : μ) : Except MailboxError (Loop σ μ) :=
  (loop.channel.offer message).map fun channel => { loop with channel }

/-- Puts a message in. While the mailbox is full the task runs; if that makes no room, the sender
would wait for ever and `full` is the answer. -/
def tell (actor : Actor σ μ) (loop : Loop σ μ) (message : μ) :
    Loop σ μ × Except MailboxError Unit :=
  match loop.offer message with
  | .ok accepted => (accepted, .ok ())
  | .error .closed => (loop, .error .closed)
  | .error .full =>
      let waited := loop.settle actor
      match waited.offer message with
      | .ok accepted => (accepted, .ok ())
      | .error reason => (waited, .error reason)

end Loop
end ChatRooms
