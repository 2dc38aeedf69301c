import ChatRooms.Terminal.Console

/-! What happens at a console, one thing after the other. Whether the hub takes a request and what
there is to be delivered is not for the console to say, so both are part of what happens. -/
namespace ChatRooms.Terminal

inductive Supply where
  | octets (octets : List UInt8)
  | ended
  deriving DecidableEq, Repr

/-- The supplies are of this input, in chunks. The rest of it, and its end, may be yet to come. -/
def Feeds : List UInt8 → List Supply → Prop
  | _, [] => True
  | input, .octets chunk :: later => ∃ rest, input = chunk ++ rest ∧ Feeds rest later
  | input, .ended :: later => input = [] ∧ Feeds [] later

inductive Happening where
  | supplied (supply : Supply)
  | sent (command : Command)
  | refused
  | worked
  | read
  | took (event : Event)
  deriving DecidableEq, Repr

namespace Happening

def supply? : Happening → Option Supply
  | .supplied supply => some supply
  | _ => none

def sent? : Happening → Option Command
  | .sent command => some command
  | _ => none

def took? : Happening → Option Event
  | .took event => some event
  | _ => none

end Happening

def Task.text? (session : Session) : Task → Option String
  | .write text => some text
  | .endLine => some "\n"
  | .prompt => some (Terminal.prompt session)
  | .move _ | .finish => none

theorem unfinished_of_text {session : Session} {task : Task} {text : String}
    (prints : task.text? session = some text) : task ≠ .finish := by
  rintro rfl
  contradiction

structure Sink.Like (sink other : Sink) : Prop where
  octets : sink.octets.isSome = other.octets.isSome
  flushes : sink.flushes.isSome = other.flushes.isSome

theorem Sink.Like.refl (sink : Sink) : sink.Like sink := ⟨rfl, rfl⟩

theorem Sink.Like.trans {first second third : Sink} (one : second.Like first)
    (two : third.Like second) : third.Like first :=
  ⟨two.octets.trans one.octets, two.flushes.trans one.flushes⟩

theorem Sink.Like.isLimited {sink other : Sink} (like : sink.Like other) :
    sink.isLimited = other.isLimited := by
  rw [Sink.isLimited, like.octets, like.flushes, Sink.isLimited]

theorem Sink.isLimited_of_flushes {sink : Sink} (limited : sink.flushes.isSome = true) :
    sink.isLimited = true := by
  rw [isLimited, limited, Bool.or_true]

theorem Sink.Like.of_unlimited {sink : Sink} (like : sink.Like .unlimited) :
    sink = .unlimited := by
  obtain ⟨octets, flushes⟩ := sink
  obtain ⟨taken, flushed⟩ := like
  obtain rfl : octets = none := Option.not_isSome_iff_eq_none.mp (Bool.eq_false_iff.mp taken)
  obtain rfl : flushes = none := Option.not_isSome_iff_eq_none.mp (Bool.eq_false_iff.mp flushed)
  rfl

namespace Console

/-- What printing makes of a console: the text is written, or the output is closed before or after
that. -/
inductive Emits (console : Console) (text : String) : Console → Prop where
  | whole (sink : Sink) (like : sink.Like console.sink) :
      Emits console text { console with sink, written := console.written ++ [text] }
  | closed (sink : Sink) (written : List String) (like : sink.Like console.sink)
      (limited : console.sink.isLimited = true)
      (either : written = console.written ∨ written = console.written ++ [text]) :
      Emits console text ({ console with sink, written }.conclude (.error .outputClosed))

inductive Finishes (console : Console) : Console → Prop where
  | well : Finishes console (console.conclude (.ok ()))
  | closed (limited : console.sink.flushes.isSome = true) :
      Finishes console (console.conclude (.error .outputClosed))

def isReady (console : Console) : Bool :=
  !console.hasEnded && console.tasks.isEmpty

inductive Goes (console : Console) : Happening → Console → Prop where
  | feed (octets : List UInt8) : Goes console (.supplied (.octets octets)) (console.feed octets)
  | endInput : Goes console (.supplied .ended) console.endInput
  | send (command : Command) (tasks : List Task)
      (first : console.tasks = .move (.send command) :: tasks) :
      Goes console (.sent command) { console with tasks }
  | refuse (command : Command) (tasks : List Task)
      (first : console.tasks = .move (.send command) :: tasks) :
      Goes console .refused
        ({ console with tasks }.conclude (.error (.session .hubGone)))
  | enter (room : String) (tasks : List Task)
      (first : console.tasks = .move (.enter room) :: tasks) :
      Goes console .worked ({ console with tasks }.enter room)
  | print (task : Task) (text : String) (tasks : List Task) (next : Console)
      (first : console.tasks = task :: tasks) (prints : task.text? console.session = some text)
      (emits : { console with tasks }.Emits text next) : Goes console .worked next
  | finish (tasks : List Task) (next : Console) (first : console.tasks = .finish :: tasks)
      (finishes : { console with tasks }.Finishes next) : Goes console .worked next
  | read (now : Timestamp) (next : Console) (ready : console.isReady = true)
      (reads : console.readLine? now = some next) : Goes console .read next
  | take (event : Event) (ready : console.isReady = true) :
      Goes console (.took event) (console.take event)

inductive Reaches : Console → List Happening → Console → Prop where
  | none (console : Console) : Reaches console [] console
  | next {before middle after : Console} {happening : Happening} {later : List Happening}
      (goes : before.Goes happening middle) (rest : Reaches middle later after) :
      Reaches before (happening :: later) after

theorem Reaches.trans {first second third : Console} {earlier later : List Happening}
    (one : first.Reaches earlier second) (two : second.Reaches later third) :
    first.Reaches (earlier ++ later) third := by
  induction one with
  | none => exact two
  | next goes _ ih => exact .next goes (ih two)

variable {console next : Console} {happening : Happening}

theorem isReady_iff : console.isReady = true ↔ console.outcome = none ∧ console.tasks = [] := by
  simp [isReady, hasEnded]

theorem write_emits (console : Console) (text : String) :
    console.Emits text (console.write text) := by
  unfold write
  split
  · exact .whole console.sink (.refl _)
  · rename_i left limited
    split
    · exact .whole _ ⟨by rw [limited]; rfl, rfl⟩
    · exact .closed console.sink console.written (.refl _) (by simp [Sink.isLimited, limited])
        (.inl rfl)

/-- A flush that goes well counts, and another ends the console. -/
theorem flush_cases (console : Console) :
    (∃ sink : Sink, sink.Like console.sink ∧ console.flush = { console with sink }) ∨
      console.sink.flushes.isSome = true ∧
        console.flush = console.conclude (.error .outputClosed) := by
  unfold flush
  split
  · exact .inl ⟨console.sink, .refl _, rfl⟩
  · rename_i limited
    exact .inr ⟨by rw [limited]; rfl, rfl⟩
  · rename_i left limited
    have like : Sink.Like { console.sink with flushes := some left } console.sink :=
      ⟨rfl, by rw [limited]; rfl⟩
    exact .inl ⟨_, like, rfl⟩

theorem put_emits (console : Console) (text : String) :
    console.Emits text (console.put text) := by
  have emits := write_emits console text
  unfold put
  generalize console.write text = written at emits
  dsimp only
  split
  · exact emits
  · rename_i goes_on
    cases emits with
    | closed => exact absurd rfl goes_on
    | whole sink like =>
        rcases flush_cases { console with sink, written := console.written ++ [text] } with
          ⟨left, flushed, same⟩ | ⟨limited, same⟩
        · rw [same]
          exact .whole left (like.trans flushed)
        · rw [same]
          refine .closed sink _ like ?_ (.inr rfl)
          rw [← like.isLimited]
          exact Sink.isLimited_of_flushes limited

theorem finish_finishes (console : Console) : console.Finishes console.finish := by
  unfold finish
  split
  · rename_i spent
    exact .closed (by rw [spent]; rfl)
  · exact .well

theorem Emits.of_unlimited {text : String} (emits : console.Emits text next)
    (free : console.sink = .unlimited) :
    next = { console with written := console.written ++ [text] } := by
  cases emits with
  | whole sink like =>
      rw [free] at like
      rw [like.of_unlimited, ← free]
  | closed sink written like limited =>
      rw [free] at limited
      contradiction

theorem Finishes.of_unlimited (finishes : console.Finishes next)
    (free : console.sink = .unlimited) : next = console.conclude (.ok ()) := by
  cases finishes with
  | well => rfl
  | closed limited =>
      rw [free] at limited
      contradiction

/-- What is so of a console with its text written and of one that has ended is so after printing. -/
theorem Emits.elim {text : String} {motive : Console → Prop} (emits : console.Emits text next)
    (whole : ∀ sink, motive { console with sink, written := console.written ++ [text] })
    (closed : ∀ sink written, written = console.written ∨ written = console.written ++ [text] →
      motive ({ console with sink, written }.conclude (.error .outputClosed))) : motive next := by
  cases emits with
  | whole sink => exact whole sink
  | closed sink written _ _ either => exact closed sink written either

theorem Emits.session {text : String} (emits : console.Emits text next) :
    next.session = console.session := by
  cases emits <;> rfl

theorem Finishes.session (finishes : console.Finishes next) :
    next.session = console.session := by
  cases finishes <;> rfl

inductive ReadsTo (console : Console) (now : Timestamp) : Console → Prop where
  | ended (found : nextInput console.pending console.inputEnded = .ended) :
      ReadsTo console now { console with tasks := leaveTasks console.session now }
  | garbled (octets rest : List UInt8) (fault : Text.Utf8.Fault)
      (found : nextInput console.pending console.inputEnded = .line octets rest)
      (decoded : Text.Utf8.decode octets = .error fault) :
      ReadsTo console now
        ({ console with pending := rest }.conclude (.error (.inputInvalid fault)))
  | line (octets rest : List UInt8) (line : String)
      (found : nextInput console.pending console.inputEnded = .line octets rest)
      (decoded : Text.Utf8.decode octets = .ok line) :
      ReadsTo console now
        { console with
          pending := rest
          tasks := lineTasks console.session console.mode now (stripLineEnd line) }

theorem readsTo_of_readLine? {now : Timestamp} (reads : console.readLine? now = some next) :
    console.ReadsTo now next := by
  unfold readLine? at reads
  split at reads
  · contradiction
  · rename_i found
    cases reads
    exact .ended found
  · rename_i octets rest found
    split at reads
    · rename_i fault decoded
      cases reads
      exact .garbled octets rest fault found decoded
    · rename_i line decoded
      cases reads
      exact .line octets rest line found decoded

theorem readLine?_session {now : Timestamp} (reads : console.readLine? now = some next) :
    next.session = console.session := by
  cases readsTo_of_readLine? reads <;> rfl

-- The session stays the same one, whatever room it goes to.
theorem Goes.session_id (goes : console.Goes happening next) :
    next.session.id = console.session.id := by
  cases goes with
  | print task text tasks _ first prints emits => exact congrArg Session.id emits.session
  | finish tasks _ first finishes => exact congrArg Session.id finishes.session
  | read now _ _ reads => exact congrArg Session.id (readLine?_session reads)
  | feed | endInput | send | refuse | enter | take => rfl

-- In what respects the output is limited is settled from the start.
theorem Goes.sink (goes : console.Goes happening next) : next.sink.Like console.sink := by
  cases goes with
  | print task text tasks _ first prints emits =>
      cases emits with
      | whole sink like => exact like
      | closed sink written like => exact like
  | finish tasks _ first finishes =>
      cases finishes <;> exact .refl _
  | read now _ ready reads =>
      cases readsTo_of_readLine? reads <;> exact .refl _
  | feed | endInput | send | refuse | enter | take => exact .refl _

theorem Goes.unlimited (goes : console.Goes happening next) (free : console.sink = .unlimited) :
    next.sink = .unlimited :=
  (free ▸ goes.sink).of_unlimited

def Settled (console : Console) : Prop :=
  console.hasEnded = true → console.tasks = []

theorem Settled.running (settled : console.Settled) {task : Task} {tasks : List Task}
    (first : console.tasks = task :: tasks) : console.outcome = none := by
  cases outcome : console.outcome with
  | none => rfl
  | some done =>
      have nothing := settled (by simp [hasEnded, outcome])
      rw [first] at nothing
      contradiction

-- Nothing but input comes to a console that has ended.
theorem Goes.running (settled : console.Settled) (goes : console.Goes happening next)
    (own : happening.supply? = none) : console.outcome = none := by
  cases goes with
  | feed | endInput => contradiction
  | send _ tasks first | refuse _ tasks first | enter _ tasks first
  | print _ _ tasks _ first | finish tasks _ first => exact settled.running first
  | read now _ ready | take event ready => exact (isReady_iff.mp ready).1

theorem settled_of_running (running : console.outcome = none) : console.Settled := by
  intro ended
  simp [hasEnded, running] at ended

theorem readLine?_settled {now : Timestamp} (running : console.outcome = none)
    (reads : console.readLine? now = some next) : next.Settled := by
  cases readsTo_of_readLine? reads with
  | ended | line => exact settled_of_running running
  | garbled => exact fun _ => rfl

theorem Goes.settled (settled : console.Settled) (goes : console.Goes happening next) :
    next.Settled := by
  cases goes with
  | feed | endInput => exact settled
  | refuse => exact fun _ => rfl
  | print task text tasks _ first prints emits =>
      exact emits.elim (fun _ => settled_of_running (settled.running first)) fun _ _ _ _ => rfl
  | finish tasks _ first finishes => cases finishes <;> exact fun _ => rfl
  | send command tasks first | enter room tasks first =>
      exact settled_of_running (settled.running first)
  | take event ready => exact settled_of_running (isReady_iff.mp ready).1
  | read now _ ready reads => exact readLine?_settled (isReady_iff.mp ready).1 reads

end Console
end ChatRooms.Terminal
