import ChatRooms.Proofs.Hub.Addresses
import ChatRooms.Proofs.Hub.Comparison

/-! Some of the clients and nobody else. They share a room that the others are not in, so whatever
happens elsewhere they are told nothing of it; and those of them that are swept away go in the same
order as if there were no others. -/
namespace ChatRooms.Exchange

section Setting

variable (ours : ClientId → Bool) (names : String → Bool) (home : String)

/-- Those of ours, and nobody else, are at home and have one of the names. -/
def Housed (members : List Member) : Prop :=
  ∀ member ∈ members, (member.room = home ↔ ours member.id = true) ∧
    (names member.name = true ↔ ours member.id = true)

def Visit.AgreeOn (visit visit' : Visit) (members members' : List Member) : Prop :=
  ∀ part part', part.Sublist members → part'.Sublist members' →
    part.filter (ours ·.id) = part'.filter (ours ·.id) →
    (visit.arrange part).filter (ours ·.id) = (visit'.arrange part').filter (ours ·.id)

def thin (seen : Timestamp → Timestamp) (tried : List Delivery) : List Delivery :=
  (tried.filter fun delivery => ours delivery.1).map fun delivery =>
    (delivery.1, delivery.2.restamp seen)

end Setting

variable {ours : ClientId → Bool} {names : String → Bool} {home : String}
  {seen : Timestamp → Timestamp} {visit visit' : Visit} {now now' : Timestamp}
  {client : ClientId}

theorem Housed.mono {members members' : List Member} (housed : Housed ours names home members)
    (fewer : members' ⊆ members) : Housed ours names home members' :=
  fun member listed => housed member (fewer listed)

theorem Housed.elsewhere {members : List Member} (housed : Housed ours names home members)
    {member : Member} (present : member ∈ members) (theirs : ours member.id = false) :
    member.room ≠ home := by
  intro there
  rw [(housed member present).1.mp there] at theirs
  contradiction

theorem thin_append (first second : List Delivery) :
    thin ours seen (first ++ second) = thin ours seen first ++ thin ours seen second := by
  simp [thin]

theorem thin_fanout (clients : List ClientId) (event : Event) :
    thin ours seen (clients.map (·, event)) =
      (clients.filter ours).map (·, event.restamp seen) := by
  simp [thin, List.filter_map, Function.comp_def]

theorem thin_to (mine : ours client = true) (events : List Event) :
    thin ours seen (events.map (client, ·)) = (events.map (.restamp seen)).map (client, ·) := by
  simp [thin, List.filter_map, Function.comp_def, mine]

theorem thin_to_theirs (theirs : ours client = false) (events : List Event) :
    thin ours seen (events.map (client, ·)) = [] := by
  simp [thin, List.filter_map, Function.comp_def, theirs]

theorem addressed_thin (mine : ours client = true) (tried : List Delivery) :
    addressed client (thin ours seen tried) = (addressed client tried).map (.restamp seen) := by
  simp only [addressed, thin, List.filter_map, List.map_map, List.filter_filter,
    Function.comp_def]
  congr 1
  apply List.filter_congr
  intro delivery _
  by_cases same : delivery.1 = client
  · simp [same, mine]
  · simp [same]

-- Those of ours that are found closed can be told from the deliveries to ours.
theorem filter_foundClosed (seen : Timestamp → Timestamp) (mail : Mailroom)
    (tried : List Delivery) :
    (foundClosed mail tried).filter ours = foundClosed mail (thin ours seen tried) := by
  simp only [foundClosed, thin, List.filter_reverse, List.filter_map, List.map_map,
    List.filter_filter, Function.comp_def]
  congr 2
  apply List.filter_congr
  intro delivery _
  rw [Bool.and_comm]

theorem foundClosed_thin {mail other : Mailroom}
    (alike : ∀ client, ours client = true →
      (mail.box client).isOpen = (other.box client).isOpen) (tried : List Delivery) :
    foundClosed mail (thin ours seen tried) = foundClosed other (thin ours seen tried) := by
  unfold foundClosed
  congr 1
  apply List.filter_congr
  intro client listed
  obtain ⟨delivery, kept, rfl⟩ := List.mem_map.mp listed
  obtain ⟨original, mine, rfl⟩ := List.mem_map.mp kept
  rw [alike original.1 (List.mem_filter.mp mine).2]

/-! ### What is tried at ours -/

section Tries

variable {hub other : Hub} {members members' : List Member}

theorem member?_of_filter (same : hub.members.filter (ours ·.id) = other.members)
    (mine : ours client = true) : hub.member? client = other.member? client := by
  rw [Hub.member?, Hub.member?, ← same, List.find?_filter]
  congr 1
  funext member
  by_cases self : member.id = client <;> simp [self, mine]

theorem isRegistered_of_filter (same : hub.members.filter (ours ·.id) = other.members)
    (mine : ours client = true) : hub.isRegistered client = other.isRegistered client := by
  rw [Hub.isRegistered_eq_isSome, Hub.isRegistered_eq_isSome, member?_of_filter same mine]

theorem mine_of_filter (same : hub.members.filter (ours ·.id) = other.members) {member : Member}
    (present : member ∈ other.members) : ours member.id = true := by
  rw [← same] at present
  exact (List.mem_filter.mp present).2

theorem filter_of_filter (same : members.filter (ours ·.id) = members') :
    members.filter (ours ·.id) = members'.filter (ours ·.id) := by
  rw [← same, List.filter_filter]
  simp

theorem strike_sublist (hub : Hub) (id : ClientId) :
    (hub.strike id).members.Sublist hub.members :=
  List.filter_sublist

theorem filter_strike (hub : Hub) (id : ClientId) :
    (hub.strike id).members.filter (ours ·.id) =
      (hub.members.filter (ours ·.id)).filter (·.id ≠ id) := by
  rw [Hub.strike, List.filter_comm]

theorem filter_strike_theirs (hub : Hub) (theirs : ours client = false) :
    (hub.strike client).members.filter (ours ·.id) = hub.members.filter (ours ·.id) := by
  rw [filter_strike]
  apply List.filter_eq_self.mpr
  intro member listed
  have mine := (List.mem_filter.mp listed).2
  simp only [ne_eq, decide_not, Bool.not_eq_true', decide_eq_false_iff_not]
  rintro rfl
  rw [theirs] at mine
  contradiction

theorem filter_strike_congr
    (same : hub.members.filter (ours ·.id) = other.members.filter (ours ·.id)) (id : ClientId) :
    (hub.strike id).members.filter (ours ·.id) =
      (other.strike id).members.filter (ours ·.id) := by
  rw [filter_strike, filter_strike, same]

theorem filter_audience (keyed : hub.Keyed) (keyed' : other.Keyed)
    (ordered : Visit.AgreeOn ours visit visit' members members')
    (part : hub.members.Sublist members) (part' : other.members.Sublist members')
    (same : hub.members.filter (ours ·.id) = other.members.filter (ours ·.id))
    (room : String) (absent : ClientId) :
    (audience visit hub room absent).filter ours =
      (audience visit' other room absent).filter ours := by
  simp only [audience_eq keyed, audience_eq keyed', List.filter_map, Function.comp_def]
  rw [List.filter_comm, ordered _ _ part part' same, List.filter_comm]

-- Elsewhere nobody of ours is listening.
theorem filter_audience_elsewhere (visit : Visit) (keyed : hub.Keyed)
    (housed : Housed ours names home hub.members) {room : String} (elsewhere : room ≠ home)
    (absent : ClientId) :
    (audience visit hub room absent).filter ours = [] := by
  apply List.filter_eq_nil_iff.mpr
  intro id heard mine
  obtain ⟨_, member, present, rfl, there⟩ := (mem_audience keyed).mp heard
  exact elsewhere (there.symm.trans ((housed member present).1.mpr mine))

theorem thin_farewell (keyed : hub.Keyed) (keyed' : other.Keyed)
    (ordered : Visit.AgreeOn ours visit visit' members members')
    {leaver : Member} (part : (hub.strike leaver.id).members.Sublist members)
    (part' : (other.strike leaver.id).members.Sublist members')
    (same : hub.members.filter (ours ·.id) = other.members.filter (ours ·.id))
    (clock : seen now = seen now') :
    thin ours seen (farewell visit now hub leaver) =
      thin ours seen (farewell visit' now' other leaver) := by
  have heard := filter_audience (Hub.strike_keyed leaver.id keyed)
    (Hub.strike_keyed leaver.id keyed') ordered part part' (filter_strike_congr same leaver.id)
    leaver.room leaver.id
  rw [farewell, farewell, thin_fanout, thin_fanout, Event.restamp_left, Event.restamp_left, clock]
  rw [heard]

theorem thin_farewell_theirs (keyed : hub.Keyed) (housed : Housed ours names home hub.members)
    {leaver : Member} (elsewhere : leaver.room ≠ home) :
    thin ours seen (farewell visit now hub leaver) = [] := by
  have struck : Housed ours names home (hub.strike leaver.id).members :=
    housed.mono (strike_sublist hub _).subset
  rw [farewell, thin_fanout,
    filter_audience_elsewhere visit (Hub.strike_keyed leaver.id keyed) struck elsewhere]
  rfl

-- Of all that depart, ours hear of ours only.
theorem thin_farewells (keyed : hub.Keyed) (keyed' : other.Keyed)
    (ordered : Visit.AgreeOn ours visit visit' members members')
    (clock : seen now = seen now') (gone : List Member) (gone_housed : Housed ours names home gone)
    (housed : Housed ours names home hub.members)
    (part : hub.members.Sublist members) (part' : other.members.Sublist members')
    (same : hub.members.filter (ours ·.id) = other.members.filter (ours ·.id)) :
    thin ours seen (farewells visit now hub gone) =
      thin ours seen (farewells visit' now' other (gone.filter (ours ·.id))) := by
  induction gone generalizing hub other with
  | nil => rfl
  | cons leaver rest ih =>
      have rest_housed := gone_housed.mono (List.subset_cons_self leaver rest)
      have struck : Housed ours names home (hub.strike leaver.id).members :=
        housed.mono (strike_sublist hub _).subset
      have struck_part := (strike_sublist hub leaver.id).trans part
      have struck_part' := (strike_sublist other leaver.id).trans part'
      rw [farewells, thin_append]
      cases mine : ours leaver.id with
      | true =>
          have later := ih (Hub.strike_keyed _ keyed) (Hub.strike_keyed _ keyed') rest_housed
            struck struck_part struck_part' (filter_strike_congr same leaver.id)
          simp only [List.filter_cons, mine, ↓reduceIte, farewells, thin_append,
            thin_farewell keyed keyed' ordered struck_part struck_part' same clock, later]
      | false =>
          have elsewhere := gone_housed.elsewhere List.mem_cons_self mine
          have later := ih (Hub.strike_keyed _ keyed) keyed' rest_housed struck struck_part part'
            ((filter_strike_theirs hub mine).trans same)
          simp only [List.filter_cons, mine, Bool.false_eq_true, ↓reduceIte, List.nil_append,
            thin_farewell_theirs keyed housed elsewhere, later]

theorem thin_farewells_theirs (keyed : hub.Keyed) (gone : List Member)
    (elsewhere : ∀ leaver ∈ gone, leaver.room ≠ home)
    (housed : Housed ours names home hub.members) :
    thin ours seen (farewells visit now hub gone) = [] := by
  induction gone generalizing hub with
  | nil => rfl
  | cons leaver rest ih =>
      have later := ih (Hub.strike_keyed leaver.id keyed)
        (fun other listed => elsewhere other (List.mem_cons_of_mem _ listed))
        (housed.mono (strike_sublist hub leaver.id).subset)
      rw [farewells, thin_append, later,
        thin_farewell_theirs keyed housed (elsewhere leaver List.mem_cons_self), List.append_nil]

end Tries

/-! ### Who of ours is swept away -/

def waiting (hub : Hub) : List ClientId :=
  hub.closed.filter hub.isRegistered

section Rounds

variable {hub other : Hub} {first : Member} {rest : List ClientId} {shut shut' : ClientId → Bool}

theorem waiting_none (nobody : nextClosed? hub = none) : waiting hub = [] := by
  apply List.filter_eq_nil_iff.mpr
  intro client listed
  simp [nextClosed?_none nobody client listed]

theorem waiting_next (found : nextClosed? hub = some (first, rest)) :
    waiting hub = first.id :: rest.filter hub.isRegistered := by
  obtain ⟨is_member, strangers, closed, unknown⟩ := nextClosed?_split found
  have registered : hub.isRegistered first.id = true := by
    rw [Hub.isRegistered_eq_isSome, is_member]
    rfl
  have none_of_them : strangers.filter hub.isRegistered = [] := by
    apply List.filter_eq_nil_iff.mpr
    intro stranger listed
    simp [unknown stranger listed]
  rw [waiting, closed, List.filter_append, none_of_them, List.nil_append,
    List.filter_cons_of_pos registered]

-- Whoever hears of the departure and is found closed goes before those who wait already.
theorem waiting_without (visit : Visit) (keyed : hub.Keyed)
    (found : nextClosed? hub = some (first, rest)) :
    waiting (without visit shut hub first rest) =
      ((audience visit (hub.strike first.id) first.room first.id).filter shut).reverse ++
        (waiting hub).filter (· ≠ first.id) := by
  have heard : ∀ client ∈ ((audience visit (hub.strike first.id) first.room first.id).filter
      shut).reverse, (hub.strike first.id).isRegistered client = true := by
    intro client listed
    have told := List.mem_of_mem_filter (List.mem_reverse.mp listed)
    obtain ⟨_, member, present, same, _⟩ := (mem_audience (Hub.strike_keyed _ keyed)).mp told
    exact Hub.isRegistered_iff.mpr ⟨member, present, same⟩
  have stays : (without visit shut hub first rest).isRegistered =
      fun client => hub.isRegistered client && decide (client ≠ first.id) :=
    funext (Hub.isRegistered_strike hub first.id)
  rw [waiting, stays, without, List.filter_append, waiting_next found]
  congr 1
  · apply List.filter_eq_self.mpr
    intro client listed
    rw [← Hub.isRegistered_strike]
    exact heard client listed
  · rw [List.filter_cons_of_neg (by simp), List.filter_filter]
    apply List.filter_congr
    intro client _
    rw [Bool.and_comm]

-- If one of ours is the next to go, it is so when there is nobody but ours.
theorem next_of_waiting (keyed : other.Keyed)
    (same : hub.members.filter (ours ·.id) = other.members)
    (waits : (waiting hub).filter ours = waiting other)
    (found : nextClosed? hub = some (first, rest)) (mine : ours first.id = true) :
    ∃ rest', nextClosed? other = some (first, rest') := by
  have present : first ∈ other.members := by
    rw [← same]
    exact List.mem_filter.mpr ⟨Hub.mem_of_member? (nextClosed?_split found).1, mine⟩
  rw [waiting_next found, List.filter_cons_of_pos mine] at waits
  cases found' : nextClosed? other with
  | none =>
      rw [waiting_none found'] at waits
      contradiction
  | some next =>
      obtain ⟨member, rest'⟩ := next
      rw [waiting_next found', List.cons.injEq] at waits
      have self := keyed.eq_of_id
        (Hub.mem_of_member? (nextClosed?_split found').1) present waits.1.symm
      exact ⟨rest', by rw [self]⟩

theorem sweep_of_none_waiting (rounds : Nat) (nobody : waiting hub = []) :
    sweep visit shut rounds hub = [] := by
  cases rounds with
  | zero => rfl
  | succ rounds =>
      cases found : nextClosed? hub with
      | none => simp [sweep, found]
      | some next =>
          rw [waiting_next found] at nobody
          contradiction

-- Nobody of ours hears of it when one of the others departs.
theorem waiting_without_theirs (visit : Visit) (keyed : hub.Keyed)
    (housed : Housed ours names home hub.members)
    (found : nextClosed? hub = some (first, rest)) (theirs : ours first.id = false) :
    (waiting (without visit shut hub first rest)).filter ours = (waiting hub).filter ours := by
  have elsewhere :=
    housed.elsewhere (Hub.mem_of_member? (nextClosed?_split found).1) theirs
  have unheard := filter_audience_elsewhere visit (Hub.strike_keyed first.id keyed)
    (housed.mono (strike_sublist hub first.id).subset) elsewhere first.id
  rw [waiting_without visit keyed found, List.filter_append, List.filter_reverse, List.filter_comm,
    unheard, List.filter_filter]
  apply List.filter_congr
  intro client _
  by_cases gone : client = first.id
  · simp [gone, theirs]
  · simp [gone]

variable {members members' : List Member}

-- Who of ours is found closed when one of ours departs.
theorem filter_found (keyed : hub.Keyed) (keyed' : other.Keyed)
    (ordered : Visit.AgreeOn ours visit visit' members members')
    (alike : ∀ client, ours client = true → shut client = shut' client)
    (part : hub.members.Sublist members) (part' : other.members.Sublist members')
    (same : hub.members.filter (ours ·.id) = other.members) (room : String)
    (absent : ClientId) :
    ((audience visit hub room absent).filter shut).reverse.filter ours =
      ((audience visit' other room absent).filter shut').reverse := by
  have only_ours : (audience visit' other room absent).filter ours =
      audience visit' other room absent := by
    apply List.filter_eq_self.mpr
    intro client heard
    obtain ⟨_, member, present, self, _⟩ := (mem_audience keyed').mp heard
    exact self ▸ mine_of_filter same present
  have heard := filter_audience keyed keyed' ordered part part' (filter_of_filter same) room absent
  rw [only_ours] at heard
  rw [List.filter_reverse, List.filter_comm, heard]
  congr 1
  apply List.filter_congr
  intro client listed
  rw [← only_ours] at listed
  exact alike client (List.mem_filter.mp listed).2

/-- Of those swept away, ours go in the order in which they go when there is nobody but ours. -/
theorem sweep_thinned (ordered : Visit.AgreeOn ours visit visit' members members')
    (alike : ∀ client, ours client = true → shut client = shut' client) (rounds rounds' : Nat)
    (housed : Housed ours names home hub.members) (keyed : hub.Keyed) (keyed' : other.Keyed)
    (part : hub.members.Sublist members) (part' : other.members.Sublist members')
    (same : hub.members.filter (ours ·.id) = other.members)
    (waits : (waiting hub).filter ours = waiting other)
    (enough : hub.members.length ≤ rounds) (enough' : other.members.length ≤ rounds') :
    (sweep visit shut rounds hub).filter (ours ·.id) = sweep visit' shut' rounds' other := by
  induction rounds generalizing hub other rounds' with
  | zero =>
      have nobody : hub.members = [] := List.eq_nil_of_length_eq_zero (Nat.le_zero.mp enough)
      have none_wait : waiting hub = [] := by simp [waiting, Hub.isRegistered, nobody]
      rw [none_wait] at waits
      rw [sweep_of_none_waiting rounds' waits.symm]
      rfl
  | succ rounds ih =>
      cases found : nextClosed? hub with
      | none =>
          rw [waiting_none found] at waits
          rw [sweep_of_none_waiting rounds' waits.symm]
          simp [sweep, found]
      | some next =>
          obtain ⟨first, rest⟩ := next
          have is_member := (nextClosed?_split found).1
          have shorter := length_strike keyed is_member
          have struck : Housed ours names home (hub.strike first.id).members :=
            housed.mono (strike_sublist hub first.id).subset
          have struck_part := (strike_sublist hub first.id).trans part
          simp only [sweep, found]
          cases mine : ours first.id with
          | false =>
              have still_waits : (waiting (without visit shut hub first rest)).filter ours =
                  waiting other :=
                (waiting_without_theirs visit keyed housed found mine).trans waits
              have later : (sweep visit shut rounds (without visit shut hub first rest)).filter
                  (ours ·.id) = sweep visit' shut' rounds' other :=
                ih rounds' struck (keyed.sublist List.filter_sublist) keyed' struck_part part'
                  ((filter_strike_theirs hub mine).trans same) still_waits
                  (by simp only [without]; omega) enough'
              simpa only [List.filter_cons, mine, Bool.false_eq_true, ↓reduceIte] using later
          | true =>
              obtain ⟨rest', found'⟩ := next_of_waiting keyed' same waits found mine
              have shorter' := length_strike keyed' (nextClosed?_split found').1
              have struck_same : (hub.strike first.id).members.filter (ours ·.id) =
                  (other.strike first.id).members := by
                rw [filter_strike, same, Hub.strike]
              have struck_part' := (strike_sublist other first.id).trans part'
              have still_waits : (waiting (without visit shut hub first rest)).filter ours =
                  waiting (without visit' shut' other first rest') := by
                rw [waiting_without visit keyed found, waiting_without visit' keyed' found',
                  List.filter_append, filter_found (Hub.strike_keyed _ keyed)
                    (Hub.strike_keyed _ keyed') ordered alike struck_part struck_part' struck_same,
                  ← waits, List.filter_comm]
              obtain _ | rounds' := rounds'
              · omega
              have later : (sweep visit shut rounds (without visit shut hub first rest)).filter
                  (ours ·.id) =
                    sweep visit' shut' rounds' (without visit' shut' other first rest') :=
                ih rounds' struck (keyed.sublist List.filter_sublist)
                  (keyed'.sublist List.filter_sublist) struck_part struck_part' struck_same
                  still_waits (by simp only [without]; omega) (by simp only [without]; omega)
              simp only [sweep, found', List.filter_cons, mine, ↓reduceIte, later]

end Rounds

end ChatRooms.Exchange
