import ChatRooms.Proofs.Hub.Comparison
import ChatRooms.Proofs.Hub.Confinement

/-! Who is registered, told from the acts of a run: whoever has connected last and has not been
removed since. After a reset nothing is left of what was before. -/
namespace ChatRooms.Exchange

def Registers (client : ClientId) (user room : String) (exchange : Exchange) : Act → Prop
  | .ask visit now request =>
      request = ⟨client, .connect user room⟩ ∧ (exchange.apply visit now request).2 = .ok ()
  | _ => False

def Removes (client : ClientId) (exchange : Exchange) : Act → Prop
  | .ask visit now request =>
      (request = ⟨client, .disconnect⟩ ∧ (exchange.apply visit now request).2 = .ok ()) ∨
        client ∈ (swept visit now exchange request).map (·.id)
  | .reset => True
  | _ => False

def Lasts (client : ClientId) : Exchange → List Act → Prop
  | _, [] => True
  | exchange, act :: rest =>
      (¬Removes client exchange act ∧ ∀ user room, ¬Registers client user room exchange act) ∧
        Lasts client (exchange.step act) rest

variable {exchange : Exchange} {client : ClientId} {member : Member}

theorem lasts_append (first second : List Act) :
    Lasts client exchange (first ++ second) ↔
      Lasts client exchange first ∧ Lasts client (exchange.run first) second := by
  induction first generalizing exchange with
  | nil => simp [Lasts]
  | cons act rest ih => simp [Lasts, ih, and_assoc]

-- The one who connects is entered under its name, in its room.
theorem entrant?_eq_some_iff {hub : Hub} {request : Request}
    (stranger : hub.member? client = none) :
    (entrant? hub request).filter (·.id = client) = some member ↔
      ∃ user room, request = ⟨client, .connect user room⟩ ∧
        member = ⟨client, client, user, hub.roomOrDefault room⟩ := by
  constructor
  · intro entered
    obtain ⟨found, self⟩ := Option.filter_eq_some_iff.mp entered
    obtain ⟨user, room, asked, _, same⟩ := entrant?_eq_some found
    have sender : request.sender = client := by simpa [same] using self
    subst sender
    exact ⟨user, room, by rw [← asked], same⟩
  · rintro ⟨user, room, rfl, rfl⟩
    simp [entrant?, Hub.member?_eq_none_iff.mp stranger, Option.filter]

/-- An act leaves those registered who were so or have just connected, and whom it does not
remove. -/
theorem step_member?_eq_some (act : Act) :
    (exchange.step act).hub.member? client = some member ↔
      ¬Removes client exchange act ∧
        (exchange.hub.member? client = some member ∨
          ∃ user room, Registers client user room exchange act ∧
            member = ⟨client, client, user, exchange.hub.roomOrDefault room⟩) := by
  cases act with
  | ask visit now request =>
      have entered : (exchange.hub.member? client).or
            ((entrant? exchange.hub request).filter (·.id = client)) = some member ↔
          exchange.hub.member? client = some member ∨
            ∃ user room, Registers client user room exchange (.ask visit now request) ∧
              member = ⟨client, client, user, exchange.hub.roomOrDefault room⟩ := by
        rw [Option.or_eq_some_iff]
        refine or_congr_right ?_
        constructor
        · rintro ⟨stranger, entered⟩
          obtain ⟨user, room, rfl, same⟩ := (entrant?_eq_some_iff stranger).mp entered
          exact ⟨user, room, ⟨rfl, (answer_connect ..).mpr stranger⟩, same⟩
        · rintro ⟨user, room, ⟨rfl, accepted⟩, same⟩
          have stranger := (answer_connect ..).mp accepted
          exact ⟨stranger, (entrant?_eq_some_iff stranger).mpr ⟨user, room, rfl, same⟩⟩
      rw [step, apply_member?]
      by_cases gone : client ∈ (swept visit now exchange request).map (·.id)
      · simp only [gone, ↓reduceIte, Removes, or_true, not_true_eq_false, false_and, reduceCtorEq]
      by_cases quits : request = ⟨client, .disconnect⟩
      · subst quits
        cases registered : exchange.hub.member? client <;>
          simp [Removes, answer_disconnect, registered, Registers]
      · have goes_on : ¬(request.command = .disconnect ∧ request.sender = client) := by
          rintro ⟨asked, rfl⟩
          exact quits (by rw [← asked])
        simp only [gone, goes_on, ↓reduceIte, entered, Removes, quits, false_and, or_self,
          not_false_eq_true, true_and]
  | arrive newcomer capacity => simp [step, arrive_hub, Removes, Registers]
  | reset => simp [step, reset, Hub.reset, Hub.member?, Removes]
  | share | release | read | close => simp [step, Removes, Registers]

-- A client that lasts is registered as it was, until the next act and after it.
theorem member?_of_lasts {later : List Act} (found : exchange.hub.member? client = some member)
    (lasts : Lasts client exchange later) :
    (exchange.run later).hub.member? client = some member := by
  induction later generalizing exchange with
  | nil => exact found
  | cons act rest ih =>
      obtain ⟨⟨stays, _⟩, rest_lasts⟩ := lasts
      exact ih ((step_member?_eq_some act).mpr ⟨stays, Or.inl found⟩) rest_lasts

theorem not_registers_of_member {act : Act} (found : exchange.hub.member? client = some member)
    (user room : String) : ¬Registers client user room exchange act := by
  intro connects
  cases act with
  | ask visit now request =>
      obtain ⟨rfl, accepted⟩ := connects
      rw [(answer_connect ..).mp accepted] at found
      contradiction
  | arrive | share | release | read | close | reset => exact connects

/-- Whoever is registered has connected, and nothing has removed it since. -/
theorem member?_iff_registers (config : Config) (acts : List Act) :
    (reached config acts).hub.member? client = some member ↔
      ∃ earlier joining user room later, acts = earlier ++ joining :: later ∧
        Registers client user room (reached config earlier) joining ∧
        ¬Removes client (reached config earlier) joining ∧
        Lasts client ((reached config earlier).step joining) later ∧
        member = ⟨client, client, user, if room.isEmpty then config.defaultRoom else room⟩ := by
  have resolved (acts : List Act) (room : String) : (reached config acts).hub.roomOrDefault room =
      if room.isEmpty then config.defaultRoom else room := by
    rw [Hub.roomOrDefault, (reached_settings config acts).1]
  constructor
  · intro found
    induction acts using List.reverseRecOn with
    | nil => contradiction
    | append_singleton acts act ih =>
        rw [reached_append] at found
        obtain ⟨stays, before | ⟨user, room, connects, same⟩⟩ :=
          (step_member?_eq_some act).mp found
        · obtain ⟨earlier, joining, user, room, later, split, connects, kept, lasts, same⟩ :=
            ih before
          refine ⟨earlier, joining, user, room, later ++ [act], by simp [split], connects, kept, ?_,
            same⟩
          have now_here : ((reached config earlier).step joining).run later =
              reached config acts := by
            rw [split, reached_append, run_cons]
          refine (lasts_append later [act]).mpr ⟨lasts, ?_⟩
          rw [now_here]
          exact ⟨⟨stays, not_registers_of_member before⟩, trivial⟩
        · exact ⟨acts, act, user, room, [], rfl, connects, stays, trivial, by rw [same, resolved]⟩
  · rintro ⟨earlier, joining, user, room, later, rfl, connects, kept, lasts, same⟩
    have joined := (step_member?_eq_some joining).mpr
      ⟨kept, Or.inr ⟨user, room, connects, rfl⟩⟩
    rw [reached_append, run_cons, same, ← resolved earlier]
    exact member?_of_lasts joined lasts

-- A client with an open mailbox is removed at its own wish, or when everybody is forgotten.
theorem removes_open {act : Act} (sound : exchange.Sound)
    (opened : (exchange.mail.box client).isOpen = true) (gone : Removes client exchange act) :
    act = .reset ∨ ∃ visit now, act = .ask visit now ⟨client, .disconnect⟩ := by
  cases act with
  | ask visit now request =>
      rcases gone with ⟨rfl, _⟩ | is_swept
      · exact Or.inr ⟨visit, now, rfl⟩
      · exact absurd is_swept (not_swept_of_open sound opened)
  | reset => exact Or.inl rfl
  | arrive | share | release | read | close => exact gone.elim

-- A hub that has been reset is as it was created, only that it has had addresses.
theorem reset_twins (config : Config) (acts : List Act) :
    Twins (reached config acts).reset ⟨Hub.create config, (reached config acts).mail⟩ where
  hub := by
    obtain ⟨room, capacity⟩ := reached_settings config acts
    simp only [reset, Hub.reset, History.clear, Hub.create, History.empty, room, capacity]
  mail.box client _ := by
    rw [box_reset]
    exact Mailbox.matches_refl (fun _ => rfl) _
  mail.known client _ := knows_reset (reached_acquainted config acts) client
  left_acquainted _ present := by contradiction
  right_acquainted _ present := by contradiction

/-- The registry after any run. No client waits to be removed; whoever is registered is so once,
as it asked to be the last time it connected, and has not been removed since. Nobody else's request
removes a client with an open mailbox, and after a reset the hub is as good as new. -/
theorem registry_follows_connects (config : Config) (acts : List Act) :
    let before := reached config acts
    before.hub.closed = [] ∧
    before.hub.Keyed ∧
    (∀ client member, before.hub.member? client = some member →
      member.id = client ∧ member.handle = client ∧
      (∀ act after, (before.step act).hub.member? client = some after → after = member) ∧
      ((before.mail.box client).isOpen = true → ∀ act,
        act ≠ .reset → (∀ visit now, act ≠ .ask visit now ⟨client, .disconnect⟩) →
          (before.step act).hub.member? client = some member)) ∧
    (∀ client member, before.hub.member? client = some member ↔
      ∃ earlier joining user room later, acts = earlier ++ joining :: later ∧
        Registers client user room (reached config earlier) joining ∧
        ¬Removes client (reached config earlier) joining ∧
        Lasts client ((reached config earlier).step joining) later ∧
        member = ⟨client, client, user, if room.isEmpty then config.defaultRoom else room⟩) ∧
    before.reset.hub = Hub.create config ∧
    ∀ later,
      let renewed := before.reset.run later
      let fresh := Exchange.run ⟨Hub.create config, before.mail⟩ later
      renewed.hub = fresh.hub ∧
      (∀ client, renewed.mail.box client = fresh.mail.box client) ∧
      ∀ visit now request,
        (renewed.apply visit now request).2 = (fresh.apply visit now request).2 := by
  intro before
  have sound : before.Sound := reached_sound config acts
  refine ⟨sound.swept, sound.keyed, ?_, fun _ _ => member?_iff_registers config acts,
    (reset_twins config acts).hub, ?_⟩
  · intro client member found
    refine ⟨Hub.id_of_member? found, Hub.handle_of_member? sound.keyed found,
      fun act _ => step_member? act found, ?_⟩
    intro opened act no_reset no_farewell
    refine (step_member?_eq_some act).mpr ⟨fun gone => ?_, Or.inl found⟩
    rcases removes_open sound opened gone with is_reset | ⟨visit, now, quits⟩
    · exact no_reset is_reset
    · exact no_farewell visit now quits
  · intro later renewed fresh
    have twins : Twins renewed fresh := (reset_twins config acts).run later
    exact ⟨twins.hub, twins.box, fun visit now request => by
      rw [apply_answer, apply_answer, twins.hub]⟩

theorem registry_follows_connects_of_return :
    let now : Timestamp := ⟨0, 0, by decide, by decide, by decide⟩
    let ann : ClientId := ⟨1⟩
    let bob : ClientId := ⟨2⟩
    let acts : List Act :=
      [.arrive ann 8, .arrive bob 8, .ask .enrolled now ⟨ann, .connect "ann" ""⟩,
        .ask .enrolled now ⟨ann, .disconnect⟩, .ask .enrolled now ⟨ann, .connect "anna" "den"⟩,
        .ask .enrolled now ⟨bob, .connect "bob" "den"⟩, .close bob]
    let before := reached .default acts
    let posting : Act := .ask .enrolled now ⟨ann, .post "ann" "hello" ""⟩
    let quitting : Act := .ask .enrolled now ⟨bob, .disconnect⟩
    before.hub.member? ann = some ⟨ann, ann, "anna", "den"⟩ ∧
      (before.mail.box ann).isOpen = true ∧
      (before.step quitting).hub.member? ann = some ⟨ann, ann, "anna", "den"⟩ ∧
      before.hub.isRegistered bob = true ∧
      (before.step posting).hub.member? bob = none ∧
      (∃ earlier joining user room later, acts = earlier ++ joining :: later ∧
        Registers ann user room (reached .default earlier) joining ∧
        ¬Removes ann (reached .default earlier) joining ∧
        Lasts ann ((reached .default earlier).step joining) later ∧
        (⟨ann, ann, "anna", "den"⟩ : Member) =
          ⟨ann, ann, user, if room.isEmpty then Config.default.defaultRoom else room⟩) ∧
      (before.reset.step quitting).hub =
        (step ⟨Hub.create .default, before.mail⟩ quitting).hub := by
  intro now ann bob acts before posting quitting
  obtain ⟨_, _, kept, joined, _, renewed⟩ := registry_follows_connects .default acts
  have found : before.hub.member? ann = some ⟨ann, ann, "anna", "den"⟩ := by decide +kernel
  have opened : (before.mail.box ann).isOpen = true := by decide +kernel
  have stays := (kept ann _ found).2.2.2 opened quitting (by simp [quitting])
    (by simp [quitting, bob, ann])
  exact ⟨found, opened, stays, by decide +kernel, by decide +kernel, (joined ann _).mp found,
    (renewed [quitting]).1⟩

end ChatRooms.Exchange
