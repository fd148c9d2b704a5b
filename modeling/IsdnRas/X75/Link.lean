import IsdnRas.X75.Turns

/-!
# Two control blocks joined by channels

A link is two control blocks in state 3 and a channel in each direction. The
channels keep the order of the frames and may lose any of them. Every step of a
link is a step of the go-back-N protocol (`EndOutcome.simulates`), so the link
stays safe: a frame in flight always carries an N(R) that its receiver accepts.

Therefore neither end ever sends a FRMR or enters state 4
(`link_never_rejects`). The retransmissions of `x75RequeueFrames` may be in the
wrong order, which is the subject of the next module. Their numbers are right.
-/

set_option autoImplicit false

namespace IsdnRas.X75

open GoBackN

/-! ## Links -/

/-- Two control blocks and the frames on their way, oldest first. -/
structure X75Link where
  a : X75Cb
  b : X75Cb
  ab : List Bytes
  ba : List Bytes

/-- The same link seen from the other end. -/
def X75Link.swap (link : X75Link) : X75Link := ⟨link.b, link.a, link.ba, link.ab⟩

/-- What may happen at one end. A frame that arrives or is lost is the oldest
one on its way to this end. -/
inductive EndOp where
  | dataRequest (skb : Bytes)
  | deliver (stack : X75Frame)
  | lose
  | t1Expiry
  | t2Expiry
deriving Repr, DecidableEq

/-- What may happen to a link. -/
inductive LinkOp where
  | atA (op : EndOp)
  | atB (op : EndOp)
deriving Repr, DecidableEq

/-- The frames handed to `data_transmit` since `before`. -/
def framesSince (before after : X75Cb) : List Bytes :=
  sentOf (after.events.drop before.events.length)

/-- End A runs an operation and leaves `ba` on its way to it. -/
def runA (link : X75Link) (op : Op) (ba : List Bytes) : Option X75Link :=
  (exec link.a op).map fun after => ⟨after, link.b, link.ab ++ framesSince link.a after, ba⟩

/-- One step at end A. -/
def stepA (link : X75Link) : EndOp → Option X75Link
  | .dataRequest skb => runA link (.dataRequest skb) link.ba
  | .deliver stack =>
      match link.ba with
      | [] => none
      | frame :: rest => runA link (.dataReceived frame stack) rest
  | .lose =>
      match link.ba with
      | [] => none
      | _ :: rest => some { link with ba := rest }
  | .t1Expiry => runA link .t1Expiry link.ba
  | .t2Expiry => runA link .t2Expiry link.ba

/-- The operation that a step at end A runs on the control block. -/
def EndOp.run (link : X75Link) : EndOp → Option Op
  | .dataRequest skb => some (.dataRequest skb)
  | .deliver stack => link.ba.head?.map fun frame => .dataReceived frame stack
  | .lose => none
  | .t1Expiry => some .t1Expiry
  | .t2Expiry => some .t2Expiry

/-- One step of a link. -/
def linkStep (link : X75Link) : LinkOp → Option X75Link
  | .atA op => stepA link op
  | .atB op => (stepA link.swap op).map X75Link.swap

/-- One end of a new connection. -/
structure FreshEnd (x75 : X75Cb) : Prop where
  connected : x75.state = .state3
  vs : x75.vs = 0
  vr : x75.vr = 0
  va : x75.va = 0
  condition : x75.condition = 0
  writeQueue : x75.writeQueue = .empty
  ackQueue : x75.ackQueue = .empty
  t1timer : x75.t1timerRunning = false ∧ x75.t1timer.active = false
  t2timer : x75.t2timerRunning = false ∧ x75.t2timer.active = false
  window_pos : 0 < x75.window
  window_lt : x75.window < x75.modulus
  /-- The record of the link starts here. -/
  events : x75.events = []

/-- A new connection: two ends with opposite roles and the same modulus, and
nothing on its way. -/
structure FreshLink (link : X75Link) : Prop where
  a : FreshEnd link.a
  b : FreshEnd link.b
  roles : link.a.dce ≠ link.b.dce
  same : link.a.extended = link.b.extended
  ab : link.ab = []
  ba : link.ba = []

/-- Both ends are in state 3. -/
def BothConnected (link : X75Link) : Prop :=
  link.a.state = .state3 ∧ link.b.state = .state3

instance (link : X75Link) : Decidable (BothConnected link) := inferInstanceAs (Decidable (_ ∧ _))

/-! ## Simulation -/

/-- A link of the code and the link of the protocol that it implements. -/
structure Implements (link : X75Link) (abstract : GoBackN.Link Bytes) : Prop where
  a : Tracks link.a abstract.a
  b : Tracks link.b abstract.b
  ab : List.Forall₂ (Represents link.a.mode) link.ab abstract.ab
  ba : List.Forall₂ (Represents link.b.mode) link.ba abstract.ba
  same : link.a.extended = link.b.extended

theorem Implements.swap {link : X75Link} {abstract : GoBackN.Link Bytes}
    (implements : Implements link abstract) : Implements link.swap abstract.swap :=
  ⟨implements.b, implements.a, implements.ba, implements.ab, implements.same.symm⟩

/-- A new end has counted nothing. -/
theorem FreshEnd.tracks {x75 : X75Cb} (fresh : FreshEnd x75) : Tracks x75 ⟨0, 0, 0⟩ where
  connected := fresh.connected
  va := by rw [fresh.va, Nat.zero_mod]
  vs := by rw [fresh.vs, Nat.zero_mod]
  vr := by rw [fresh.vr, Nat.zero_mod]
  idle := by rw [fresh.condition, testFlag_zero]
  window_lt := fresh.window_lt
  acked_le := Nat.le_refl 0
  within := Nat.zero_le _
  unacked := .inl (by rw [fresh.ackQueue]; rfl)
  stock := Nat.zero_le _
  ackCount := by rw [fresh.ackQueue]; rfl
  writeCount := by rw [fresh.writeQueue]; rfl

theorem FreshLink.implements {link : X75Link} (fresh : FreshLink link) :
    Implements link ⟨⟨0, 0, 0⟩, ⟨0, 0, 0⟩, [], []⟩ where
  a := fresh.a.tracks
  b := fresh.b.tracks
  ab := by rw [fresh.ab]; exact .nil
  ba := by rw [fresh.ba]; exact .nil
  same := fresh.same

/-- What a step at end A does. -/
inductive EndOutcome (link : X75Link) (abstract : GoBackN.Link Bytes) : EndOp → X75Link → Prop where
  | lost {frame : Frame Bytes} {rest : List Bytes} {rest' : List (Frame Bytes)}
      (reads : abstract.ba = frame :: rest')
      (represents : List.Forall₂ (Represents link.b.mode) rest rest') :
      EndOutcome link abstract .lose { link with ba := rest }
  | ended {op : EndOp} {after : X75Cb} {ba : List Bytes} (ended : Ended link.a after) :
      EndOutcome link abstract op ⟨after, link.b, link.ab ++ framesSince link.a after, ba⟩
  | turn {op : EndOp} {run : Op} {after : X75Cb} {ba : List Bytes} {input : Option (Frame Bytes)}
      {rest' : List (Frame Bytes)} {station : Station} {log : List Event}
      {out : List (Frame Bytes)} (runs : op.run link = some run)
      (taken : exec link.a run = some after)
      (reads : abstract.ba = input.toList ++ rest')
      (represents : List.Forall₂ (Represents link.b.mode) ba rest')
      (turn : TurnTaken link.a abstract.a input after station log out) :
      EndOutcome link abstract op ⟨after, link.b, link.ab ++ framesSince link.a after, ba⟩

theorem framesSince_eq {before after : X75Cb} {log : List Event}
    (events : after.events = before.events ++ log) : framesSince before after = sentOf log := by
  rw [framesSince, events, List.drop_left]

section Step

variable {link next : X75Link} {abstract : GoBackN.Link Bytes}

/-- A frame on its way to end A is lost on both levels. -/
theorem Implements.lose (implements : Implements link abstract) {rest : List Bytes}
    {rest' : List (Frame Bytes)} (represents : List.Forall₂ (Represents link.b.mode) rest rest') :
    Implements { link with ba := rest } { abstract with ba := rest' } :=
  ⟨implements.a, implements.b, implements.ab, represents, implements.same⟩

/-- End A takes its turn on both levels. -/
theorem Implements.turn (implements : Implements link abstract) {after : X75Cb} {ba : List Bytes}
    {input : Option (Frame Bytes)} {rest' out : List (Frame Bytes)} {station : Station}
    {log : List Event} (represents : List.Forall₂ (Represents link.b.mode) ba rest')
    (turn : TurnTaken link.a abstract.a input after station log out) :
    Implements ⟨after, link.b, link.ab ++ framesSince link.a after, ba⟩
      ⟨station, abstract.b, abstract.ab ++ out, rest'⟩ := by
  refine ⟨turn.tracks, implements.b, ?_, represents, ?_⟩
  · rw [framesSince_eq turn.events]
    have old := implements.ab
    rw [← turn.mode] at old
    exact List.rel_append old turn.emits.represents
  · have same := implements.same
    simp only [X75Cb.extended] at same ⊢
    rw [turn.mode]
    exact same

/-- The oldest frame on its way to end A, if the channel is not empty. -/
theorem Implements.oldest (implements : Implements link abstract) {bytes : Bytes}
    {rest : List Bytes} (channel : link.ba = bytes :: rest) :
    ∃ frame rest', abstract.ba = frame :: rest' ∧ Represents link.b.mode bytes frame ∧
      List.Forall₂ (Represents link.b.mode) rest rest' := by
  have represents := implements.ba
  rw [channel] at represents
  obtain ⟨frame, rest', first, later, eq⟩ := List.forall₂_cons_left_iff.mp represents
  exact ⟨frame, rest', eq, first, later⟩

/-- **Every frame that arrives is acceptable.** -/
theorem Implements.receive (implements : Implements link abstract)
    (safe : Safe link.a.window link.b.window abstract) {bytes : Bytes} {rest : List Bytes}
    (channel : link.ba = bytes :: rest) (stack : X75Frame) :
    ∃ frame rest', abstract.ba = frame :: rest' ∧
      List.Forall₂ (Represents link.b.mode) rest rest' ∧
      (∃ decoded body, x75Decode link.a bytes stack = some (decoded, body) ∧
        CarriesNr decoded.type ∧ x75ValidateNr link.a decoded.nr = true) ∧
      ∀ after, exec link.a (.dataReceived bytes stack) = some after → ∃ station log out,
        TurnTaken link.a abstract.a (some frame) after station log out := by
  obtain ⟨frame, rest', reads, represents, later⟩ := implements.oldest channel
  have member : frame ∈ abstract.ba := reads ▸ List.mem_cons_self ..
  obtain ⟨low, high⟩ := safe.ab.nr_bounds member
  have modulus : link.b.modulus = link.a.modulus := by
    simp only [X75Cb.modulus, modulusOf]
    rw [show extendedMode link.b.mode = extendedMode link.a.mode from implements.same.symm]
  have window_lt : link.b.window < link.a.modulus := modulus ▸ implements.b.window_lt
  obtain ⟨valid, turn⟩ := implements.a.receive represents implements.same low high
    (fun entry data => safe.ba.number_eq window_lt
      (mem_dataOf.mpr ⟨frame, member, data⟩)) stack
  exact ⟨frame, rest', reads, later, valid, turn⟩

/-- **What a step at end A does.** -/
theorem stepA_outcome (implements : Implements link abstract)
    (safe : Safe link.a.window link.b.window abstract) {op : EndOp}
    (taken : stepA link op = some next) : EndOutcome link abstract op next := by
  have expiry : ∀ timer, timer = .t1Expiry ∨ timer = .t2Expiry → op.run link = some timer →
      runA link timer link.ba = some next → EndOutcome link abstract op next := by
    intro timer kind runs ran
    obtain ⟨after, executed, rfl⟩ := Option.map_eq_some_iff.mp ran
    rcases implements.a.expire kind executed with ended | ⟨station, log, out, turn⟩
    · exact .ended ended
    · exact .turn runs executed (List.nil_append _).symm implements.ba turn
  cases op with
  | dataRequest skb =>
      obtain ⟨after, executed, rfl⟩ := Option.map_eq_some_iff.mp taken
      obtain ⟨station, log, out, turn⟩ := implements.a.request executed
      exact .turn rfl executed (List.nil_append _).symm implements.ba turn
  | deliver stack =>
      rcases channel : link.ba with - | ⟨bytes, rest⟩
      · simp [stepA, channel] at taken
      · simp only [stepA, channel] at taken
        obtain ⟨after, executed, rfl⟩ := Option.map_eq_some_iff.mp taken
        obtain ⟨frame, rest', reads, later, -, turns⟩ := implements.receive safe channel stack
        obtain ⟨station, log, out, turn⟩ := turns after executed
        exact .turn (by simp [EndOp.run, channel]) executed reads later turn
  | lose =>
      rcases channel : link.ba with - | ⟨bytes, rest⟩
      · simp [stepA, channel] at taken
      · simp only [stepA, channel, Option.some.injEq] at taken
        obtain ⟨frame, rest', reads, -, later⟩ := implements.oldest channel
        subst taken
        exact .lost reads later
  | t1Expiry => exact expiry .t1Expiry (.inl rfl) rfl taken
  | t2Expiry => exact expiry .t2Expiry (.inr rfl) rfl taken

/-- **A step at end A that stays in state 3 is a step of the protocol.** -/
theorem EndOutcome.simulates {op : EndOp} (implements : Implements link abstract)
    (outcome : EndOutcome link abstract op next) (connected : next.a.state = .state3) :
    ∃ abstract', Step link.a.window link.b.window abstract abstract' ∧ Implements next abstract' ∧
      next.a.window = link.a.window ∧ next.b.window = link.b.window := by
  rcases abstract with ⟨a, b, ab, ba⟩
  cases outcome with
  | lost reads represents =>
      cases reads
      exact ⟨_, .loseA, implements.lose represents, rfl, rfl⟩
  | ended ended => exact absurd (connected.symm.trans ended.state) (by decide)
  | turn _ _ reads represents turn =>
      cases reads
      exact ⟨_, .turnA turn.turn, implements.turn represents turn, turn.window, rfl⟩

end Step

/-! ## No frame is rejected -/

/-- The control block has sent no FRMR and is not in state 4. -/
structure NeverRejected (x75 : X75Cb) : Prop where
  state : x75.state ≠ .state4
  unsent : ∀ bytes ∈ sentOf x75.events, ¬ IsFrmr bytes

/-- The oldest frame on its way to end A passes `x75ValidateNr` there. -/
def AcceptsOldest (link : X75Link) : Prop :=
  ∀ bytes ∈ link.ba.head?, ∀ stack, ∃ decoded body,
    x75Decode link.a bytes stack = some (decoded, body) ∧ CarriesNr decoded.type ∧
      x75ValidateNr link.a decoded.nr = true

/-- A link that implements a safe link of the protocol. -/
def Implementing (link : X75Link) : Prop :=
  ∃ abstract, Implements link abstract ∧ Safe link.a.window link.b.window abstract

section Reject

variable {link next : X75Link}

theorem Implementing.swap (implementing : Implementing link) : Implementing link.swap := by
  obtain ⟨abstract, implements, safe⟩ := implementing
  exact ⟨abstract.swap, implements.swap, safe.swap⟩

theorem Implementing.acceptsOldest (implementing : Implementing link) : AcceptsOldest link := by
  obtain ⟨abstract, implements, safe⟩ := implementing
  intro bytes oldest stack
  obtain ⟨rest, channel⟩ := List.head?_eq_some_iff.mp oldest
  obtain ⟨_, _, _, _, valid, _⟩ := implements.receive safe channel stack
  exact valid

/-- A represented frame is no FRMR. -/
theorem not_isFrmr_of_forall₂ {mode : UInt32} {sent : List Bytes} {out : List (Frame Bytes)}
    (represents : List.Forall₂ (Represents mode) sent out) : ∀ bytes ∈ sent, ¬ IsFrmr bytes := by
  induction represents with
  | nil =>
      intro bytes member
      cases member
  | cons first _ ih =>
      intro bytes member
      rcases List.mem_cons.mp member with rfl | later
      · exact first.not_isFrmr
      · exact ih bytes later

theorem NeverRejected.append {x75 after : X75Cb} {log : List Event} (never : NeverRejected x75)
    (events : after.events = x75.events ++ log) (state : after.state ≠ .state4)
    (unsent : ∀ bytes ∈ sentOf log, ¬ IsFrmr bytes) : NeverRejected after where
  state := state
  unsent := by
    intro bytes member
    rw [events, sentOf_append] at member
    rcases List.mem_append.mp member with old | new
    · exact never.unsent bytes old
    · exact unsent bytes new

/-- One step at end A. -/
theorem stepA_never {op : EndOp} (implementing : Implementing link)
    (never : NeverRejected link.a) (taken : stepA link op = some next) :
    (next.a.state = .state3 → Implementing next) ∧ NeverRejected next.a ∧ next.b = link.b := by
  obtain ⟨abstract, implements, safe⟩ := implementing
  have outcome := stepA_outcome implements safe taken
  refine ⟨fun connected => ?_, ?_⟩
  · obtain ⟨abstract', step, implements', windowA, windowB⟩ :=
      outcome.simulates implements connected
    exact ⟨abstract', implements', windowA ▸ windowB ▸ safe.step step⟩
  · cases outcome with
    | lost => exact ⟨never, rfl⟩
    | ended ended =>
        obtain ⟨log, events, silent⟩ := ended.silent
        refine ⟨never.append events (by rw [ended.state]; decide) ?_, rfl⟩
        rw [silent]
        exact fun _ member => by cases member
    | turn _ _ _ _ turn =>
        refine ⟨never.append turn.events (by rw [turn.tracks.connected]; decide) ?_, rfl⟩
        exact not_isFrmr_of_forall₂ turn.emits.represents

/-- The invariant of runs of a link. -/
structure LinkInvariant (link : X75Link) : Prop where
  implementing : BothConnected link → Implementing link
  neverA : NeverRejected link.a
  neverB : NeverRejected link.b

theorem LinkInvariant.swap (invariant : LinkInvariant link) : LinkInvariant link.swap where
  implementing := fun connected => (invariant.implementing ⟨connected.2, connected.1⟩).swap
  neverA := invariant.neverB
  neverB := invariant.neverA

theorem LinkInvariant.stepA {op : EndOp} (invariant : LinkInvariant link)
    (connected : BothConnected link) (taken : stepA link op = some next) : LinkInvariant next := by
  obtain ⟨implementing, never, same⟩ :=
    stepA_never (invariant.implementing connected) invariant.neverA taken
  exact ⟨fun both => implementing both.1, never, same ▸ invariant.neverB⟩

theorem LinkInvariant.step {op : LinkOp} (invariant : LinkInvariant link)
    (connected : BothConnected link) (taken : linkStep link op = some next) :
    LinkInvariant next := by
  cases op with
  | atA op => exact invariant.stepA connected taken
  | atB op =>
      obtain ⟨swapped, stepped, rfl⟩ := Option.map_eq_some_iff.mp taken
      exact (invariant.swap.stepA ⟨connected.2, connected.1⟩ stepped).swap

theorem FreshEnd.neverRejected {x75 : X75Cb} (fresh : FreshEnd x75) : NeverRejected x75 where
  state := by
    rw [fresh.connected]
    decide
  unsent := by
    rw [fresh.events]
    exact fun _ member => by cases member

theorem FreshLink.invariant (fresh : FreshLink link) : LinkInvariant link where
  implementing := fun _ => ⟨_, fresh.implements, safe_initial _ _⟩
  neverA := fresh.a.neverRejected
  neverB := fresh.b.neverRejected

end Reject

/-- **Neither end of a link rejects a frame.** From a new connection on, in every
interleaving of data requests, deliveries, losses and timer expiries, as long as
both ends are in state 3, the frame that arrives next passes `x75ValidateNr`, and
no end has sent a FRMR or is in state 4. -/
theorem link_never_rejects {start link : X75Link} (fresh : FreshLink start)
    (reached : Reached linkStep (fun link _ => BothConnected link) start link) :
    (BothConnected link → AcceptsOldest link ∧ AcceptsOldest link.swap) ∧
      NeverRejected link.a ∧ NeverRejected link.b := by
  have invariant : LinkInvariant link :=
    reached.invariant LinkInvariant fresh.invariant fun _ inv connected => inv.step connected
  refine ⟨fun connected => ?_, invariant.neverA, invariant.neverB⟩
  have implementing := invariant.implementing connected
  exact ⟨implementing.acceptsOldest, implementing.swap.acceptsOldest⟩

/-- One end of a new connection with the standard modulus. -/
def newEnd (mode : UInt32) (window : Nat) : X75Cb :=
  { zeroed with
    mode := mode
    window := window
    n2 := x75DefaultN2
    t1 := x75DefaultT1
    t2 := x75DefaultT2
    state := .state3
    callbacks := .all }

/-- A new connection between a DCE and a DTE. -/
def newLink (window : Nat) : X75Link := ⟨newEnd x75Dce window, newEnd x75Dte window, [], []⟩

theorem freshEnd_newEnd {mode : UInt32} {window : Nat} (window_pos : 0 < window)
    (window_lt : window < modulusOf mode) : FreshEnd (newEnd mode window) :=
  ⟨rfl, rfl, rfl, rfl, rfl, rfl, rfl, ⟨rfl, rfl⟩, ⟨rfl, rfl⟩, window_pos, window_lt, rfl⟩

theorem freshLink_newLink {window : Nat} (window_pos : 0 < window) (window_lt : window < 8) :
    FreshLink (newLink window) :=
  ⟨freshEnd_newEnd window_pos window_lt, freshEnd_newEnd window_pos window_lt,
    show (x75Dce &&& x75Dce != 0) ≠ (x75Dte &&& x75Dce != 0) by decide,
    show extendedMode x75Dce = extendedMode x75Dte by decide, rfl, rfl⟩

/-- A payload is sent and its frame is lost. T1 expires, and the second copy
arrives. -/
theorem link_never_rejects_retry :
    ∃ link, runOps linkStep (newLink 7) [.atA (.dataRequest [0x41]), .atB .lose, .atA .t1Expiry,
        .atB (.deliver .zero)] = some link ∧
      (BothConnected link → AcceptsOldest link ∧ AcceptsOldest link.swap) ∧
        NeverRejected link.a ∧ NeverRejected link.b := by
  have meets : MeetsAlong linkStep (fun link _ => BothConnected link) (newLink 7)
      [.atA (.dataRequest [0x41]), .atB .lose, .atA .t1Expiry, .atB (.deliver .zero)] := by decide
  exact ⟨_, rfl, link_never_rejects (freshLink_newLink (by decide) (by decide))
    (reached_of_meetsAlong _ .refl meets rfl)⟩

end IsdnRas.X75
