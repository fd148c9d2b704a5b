import IsdnRas.X75.Reset

/-!
# Two ends from the call on

Both ends start in state 0 and there is nothing between them. Either may ask for a
connection, or both at once, and every frame may be lost. A SABM is repeated until a UA
comes back, so it may arrive at an end that is connected already.

What is on its way tells how far its sender is (`Course`). An idle end has sent DMs alone.
A DM that is still on its way is ahead of what connects the receiver, and a SABM is ahead of
every frame with an N(R). So an end that reads a SABM in state 3 has had nothing
acknowledged and has received nothing, and the reset is harmless.

The ends agree about the connection (`call_agreed`), a connection is lost only when the
retries of T1 are used up (`call_kept`), and the payloads arrive as in a connection that was
there from the start (`call_in_order`).
-/

set_option autoImplicit false

namespace IsdnRas.X75

open GoBackN

/-! ## Steps -/

/-- What may happen at one end from its registration on. -/
inductive CallOp where
  | connectRequest
  | line (op : EndOp)
deriving Repr, DecidableEq

/-- What may happen to a link from the registration of its ends on. -/
inductive CallLinkOp where
  | atA (op : CallOp)
  | atB (op : CallOp)
deriving Repr, DecidableEq

/-- One step at end A. -/
def callA (link : X75Link) : CallOp → Option X75Link
  | .connectRequest => runA link .connectRequest link.ba
  | .line op => stepA link op

/-- The operation that a step at end A runs on the control block. -/
def CallOp.run (link : X75Link) : CallOp → Option Op
  | .connectRequest => some .connectRequest
  | .line op => op.run link

/-- One step of a link. -/
def callStep (link : X75Link) : CallLinkOp → Option X75Link
  | .atA op => callA link op
  | .atB op => (callA link.swap op).map X75Link.swap

/-- The condition holds for the operation that the step runs at its end. -/
def RunMeets (good : X75Cb → Op → Prop) (link : X75Link) : CallLinkOp → Prop
  | .atA op => ∀ run ∈ op.run link, good link.a run
  | .atB op => ∀ run ∈ op.run link.swap, good link.b run

instance {good : X75Cb → Op → Prop} [∀ x75 op, Decidable (good x75 op)] (link : X75Link) :
    (op : CallLinkOp) → Decidable (RunMeets good link op)
  | .atA _ => inferInstanceAs (Decidable (∀ _ ∈ _, _))
  | .atB _ => inferInstanceAs (Decidable (∀ _ ∈ _, _))

theorem RunMeets.mono {good other : X75Cb → Op → Prop}
    (weaker : ∀ x75 op, good x75 op → other x75 op) {link : X75Link} {op : CallLinkOp}
    (meets : RunMeets good link op) : RunMeets other link op := by
  cases op with
  | atA op => exact fun run runs => weaker _ _ (meets run runs)
  | atB op => exact fun run runs => weaker _ _ (meets run runs)

/-- The end does not give up, and an accepted payload has room. -/
def GoesOn (x75 : X75Cb) (op : Op) : Prop :=
  ¬ GivesUp x75 op ∧ (op.isRequest = true →
    x75.writeQueue.msgs.length + x75.ackQueue.msgs.length + 1 < 2 ^ 32)

instance (x75 : X75Cb) (op : Op) : Decidable (GoesOn x75 op) :=
  inferInstanceAs (Decidable (_ ∧ _))

/-- An end that has been registered and given its parameters. -/
structure IdleEnd (x75 : X75Cb) : Prop where
  idle : x75.state = .state0
  writeQueue : x75.writeQueue = .empty
  ackQueue : x75.ackQueue = .empty
  undelayed : x75.t2timerRunning = false
  window_pos : 0 < x75.window
  window_lt : x75.window < x75.modulus
  /-- The record of the link starts here. -/
  events : x75.events = []

/-- Two idle ends with the same modulus, and nothing on its way. -/
structure IdleLink (link : X75Link) : Prop where
  a : IdleEnd link.a
  b : IdleEnd link.b
  same : link.a.extended = link.b.extended
  ab : link.ab = []
  ba : link.ba = []

/-- An end that has been registered, and whatever parameters it was then given. -/
theorem idleEnd_setparms (callbacks : RegisterStruct) (parms : ParmsStruct) :
    IdleEnd (x75Setparms (x75Register zeroed callbacks) parms).2 := by
  have wellFormed := (wellFormed_register zeroed callbacks).step
    (show exec (x75Register zeroed callbacks) (.setparms parms) = some _ from rfl)
  have kept : ∀ {x75 : X75Cb}, (x75Setparms (x75Register zeroed callbacks) parms).2 = x75 →
      x75.state = .state0 ∧ x75.writeQueue = .empty ∧ x75.ackQueue = .empty ∧
        x75.t2timerRunning = false ∧ x75.events = [] := by
    rintro _ rfl
    unfold x75Setparms
    split
    · exact ⟨rfl, rfl, rfl, rfl, rfl⟩
    split
    · exact ⟨rfl, rfl, rfl, rfl, rfl⟩
    · exact ⟨rfl, rfl, rfl, rfl, rfl⟩
  obtain ⟨idle, writeQueue, ackQueue, undelayed, events⟩ := kept rfl
  exact ⟨idle, writeQueue, ackQueue, undelayed, wellFormed.window_pos, wellFormed.window_lt, events⟩

/-- An end that is registered in a mode, with the default window. -/
def registeredEnd (mode : UInt32) : X75Cb :=
  (x75Setparms (x75Register zeroed .all) ⟨5, 1, 20, 7, mode⟩).2

/-- A DCE and a DTE that have been registered. -/
def registeredLink : X75Link := ⟨registeredEnd x75Dce, registeredEnd x75Dte, [], []⟩

theorem idleLink_registeredLink : IdleLink registeredLink :=
  ⟨idleEnd_setparms .all _, idleEnd_setparms .all _,
    show extendedMode (registeredEnd x75Dce).mode = extendedMode (registeredEnd x75Dte).mode by
      decide, rfl, rfl⟩

/-- What a step at end A does. -/
inductive CallOutcome (link : X75Link) : CallOp → X75Link → Prop where
  | lost {bytes : Bytes} {rest : List Bytes} (channel : link.ba = bytes :: rest) :
      CallOutcome link (.line .lose) { link with ba := rest }
  | own {op : CallOp} {run : Op} {after : X75Cb} (runs : op.run link = some run)
      (own : IsOwn run) (taken : exec link.a run = some after) :
      CallOutcome link op ⟨after, link.b, link.ab ++ framesSince link.a after, link.ba⟩
  | read {op : CallOp} {bytes : Bytes} {rest : List Bytes} {stack : X75Frame} {after : X75Cb}
      (runs : op.run link = some (.dataReceived bytes stack)) (channel : link.ba = bytes :: rest)
      (taken : exec link.a (.dataReceived bytes stack) = some after) :
      CallOutcome link op ⟨after, link.b, link.ab ++ framesSince link.a after, rest⟩

theorem callA_outcome {link next : X75Link} {op : CallOp} (taken : callA link op = some next) :
    CallOutcome link op next := by
  have ran : ∀ {run : Op}, op.run link = some run → IsOwn run →
      runA link run link.ba = some next → CallOutcome link op next := by
    intro run runs own ran
    obtain ⟨after, executed, rfl⟩ := Option.map_eq_some_iff.mp ran
    exact .own runs own executed
  cases op with
  | connectRequest => exact ran rfl .connectRequest taken
  | line op =>
      cases op with
      | dataRequest skb => exact ran rfl (.dataRequest skb) taken
      | t1Expiry => exact ran rfl .t1Expiry taken
      | t2Expiry => exact ran rfl .t2Expiry taken
      | lose =>
          rcases channel : link.ba with - | ⟨bytes, rest⟩
          · simp [callA, stepA, channel] at taken
          · simp only [callA, stepA, channel, Option.some.injEq] at taken
            exact taken ▸ .lost channel
      | deliver stack =>
          rcases channel : link.ba with - | ⟨bytes, rest⟩
          · simp [callA, stepA, channel] at taken
          · simp only [callA, stepA, channel] at taken
            obtain ⟨after, executed, rfl⟩ := Option.map_eq_some_iff.mp taken
            exact .read (by simp [CallOp.run, EndOp.run, channel]) channel executed

/-! ## What is on its way -/

/-- The frames on their way tell how far their sender is. -/
structure Course (sender receiver : X75Cb) (forward : List Bytes) (target : Station) : Prop where
  idle : sender.state = .state0 → (∀ bytes ∈ forward, IsDm bytes) ∧ receiver.state ≠ .state3
  awaiting : sender.state = .state1 → ∀ bytes ∈ forward, IsUnnumbered bytes
  connected : receiver.state = .state3 → ∀ bytes ∈ forward, ¬ IsDm bytes
  ordered : forward.Pairwise fun early late =>
    (IsDm late → IsDm early) ∧ (IsSetUp sender.mode late → IsUnnumbered early)
  unread : ∀ bytes ∈ forward, IsSetUp sender.mode bytes → target.acked = 0 ∧ target.received = 0

section Sends

variable {after : X75Cb} {bytes : Bytes}

/-- A UA is not taken for the frame that sets the link up. -/
theorem IsUa.not_isSetUp {mode : UInt32} (ua : IsUa bytes) : ¬ IsSetUp mode bytes := by
  intro setUp
  obtain ⟨pollBit, ua⟩ := ua
  obtain ⟨decoded, rest, read, type, -⟩ :=
    HasControl.decode ua (.inr (.inr (.inr (.inr rfl)))) zeroed .zero
  obtain ⟨decoded', rest', read', type', -⟩ :=
    HasControl.decode setUp (setUpType_known mode) zeroed .zero
  rw [read] at read'
  obtain ⟨rfl, -⟩ := Prod.mk.inj (Option.some.inj read')
  have same := type.symm.trans type'
  revert same
  unfold setUpType
  split <;> decide

/-- Only an idle end sends a DM. -/
theorem SendsIn.idle_of_dm (sends : SendsIn after bytes) (dm : IsDm bytes) :
    after.state = .state0 := by
  cases sends with
  | dm _ idle => exact idle
  | setUp setUp => exact absurd dm (not_isDm (.inl setUp))
  | ua ua => exact absurd dm (not_isDm (.inr ua : IsSetUp 0 bytes ∨ IsUa bytes))
  | numbered numbered => exact absurd dm.isUnnumbered numbered

/-- Only an end that awaits its connection sends the frame that sets the link up. -/
theorem SendsIn.awaiting_of_setUp (sends : SendsIn after bytes)
    (setUp : IsSetUp after.mode bytes) : after.state = .state1 := by
  cases sends with
  | dm dm => exact absurd dm (not_isDm (.inl setUp))
  | setUp _ awaiting => exact awaiting
  | ua ua => exact absurd setUp ua.not_isSetUp
  | numbered numbered => exact absurd setUp.isUnnumbered numbered

/-- Before it is connected an end sends unnumbered frames. -/
theorem SendsIn.isUnnumbered (sends : SendsIn after bytes) (waiting : after.state ≠ .state3) :
    IsUnnumbered bytes := by
  cases sends with
  | dm dm => exact dm.isUnnumbered
  | setUp setUp => exact setUp.isUnnumbered
  | ua ua => exact ua.isUnnumbered
  | numbered _ connected => exact absurd connected waiting

/-- No frame is a FRMR. -/
theorem Carries.not_isFrmr {mode : UInt32} {frame : Frame Bytes}
    (carries : Carries mode bytes frame) : ¬ IsFrmr bytes := by
  have other : ∀ {frametype : UInt16} {pollBit : UInt8}, IsUnnumberedType frametype →
      HasControl frametype pollBit bytes → ¬ IsFrmr bytes := by
    intro frametype pollBit known control frmr
    have same := Option.some.inj (control.symm.trans frmr)
    obtain ⟨-, -, type, -⟩ := unnumbered_bits known pollBit
    rw [same] at type
    rcases known with rfl | rfl | rfl | rfl | rfl <;> exact absurd type (by decide)
  cases carries with
  | numbered represents => exact represents.not_isFrmr
  | unnumbered kind =>
      rcases kind with dm | setUp | ⟨pollBit, ua⟩
      · exact other (.inr (.inr (.inr (.inl rfl)))) dm
      · exact other (setUpType_known mode) setUp
      · exact other (.inr (.inr (.inr (.inr rfl)))) ua

end Sends

namespace Course

variable {sender receiver after : X75Cb} {forward rest sent : List Bytes}
  {target target' : Station} {read : Option Bytes} {mode : UInt32}

theorem lose (course : Course sender receiver forward target) (sublist : rest.Sublist forward) :
    Course sender receiver rest target where
  idle zero := ⟨fun bytes member => (course.idle zero).1 bytes (sublist.subset member),
    (course.idle zero).2⟩
  awaiting one bytes member := course.awaiting one bytes (sublist.subset member)
  connected three bytes member := course.connected three bytes (sublist.subset member)
  ordered := course.ordered.sublist sublist
  unread bytes member := course.unread bytes (sublist.subset member)

/-- The sender takes a turn. Before its connection nothing of it has been received, and
nothing of the receiver has been acknowledged. -/
theorem send (course : Course sender receiver forward target)
    (onward : Onward mode sender after read) (same : after.mode = sender.mode)
    (sends : ∀ bytes ∈ sent, SendsIn after bytes)
    (states : sender.state = .state0 ∨ sender.state = .state1 ∨ sender.state = .state3)
    (unread : sender.state ≠ .state3 → target.acked = 0 ∧ target.received = 0) :
    Course after receiver (forward ++ sent) target := by
  -- before the connection of the sender, what is on its way is unnumbered
  have waiting : after.state = .state1 →
      sender.state ≠ .state3 ∧ ∀ bytes ∈ forward, IsUnnumbered bytes := by
    intro one
    rcases states with zero | one' | three
    · refine ⟨by rw [zero]; decide, fun bytes member => ?_⟩
      exact ((course.idle zero).1 bytes member).isUnnumbered
    · exact ⟨by rw [one']; decide, course.awaiting one'⟩
    · exact absurd ((onward.held three).symm.trans one) (by decide)
  refine ⟨fun zero => ⟨?_, (course.idle (onward.started zero)).2⟩, fun one => ?_, fun three => ?_,
    ?_, ?_⟩
  · intro bytes member
    rcases List.mem_append.mp member with old | new
    · exact (course.idle (onward.started zero)).1 bytes old
    · cases sends bytes new with
      | dm dm => exact dm
      | setUp _ awaiting => exact absurd (zero.symm.trans awaiting) (by decide)
      | ua _ started => exact absurd zero started
      | numbered _ connected => exact absurd (zero.symm.trans connected) (by decide)
  · intro bytes member
    rcases List.mem_append.mp member with old | new
    · exact (waiting one).2 bytes old
    · exact (sends bytes new).isUnnumbered (by rw [one]; decide)
  · intro bytes member dm
    rcases List.mem_append.mp member with old | new
    · exact course.connected three bytes old dm
    · exact (course.idle (onward.started ((sends bytes new).idle_of_dm dm))).2 three
  · rw [List.pairwise_append, same]
    refine ⟨course.ordered, ?_, ?_⟩
    · refine List.pairwise_of_forall_mem_list fun early early_mem late late_mem => ⟨?_, ?_⟩
      · intro dm
        have zero := (sends late late_mem).idle_of_dm dm
        cases sends early early_mem with
        | dm dm => exact dm
        | setUp _ awaiting => exact absurd (zero.symm.trans awaiting) (by decide)
        | ua _ started => exact absurd zero started
        | numbered _ connected => exact absurd (zero.symm.trans connected) (by decide)
      · intro setUp
        have one := (sends late late_mem).awaiting_of_setUp (same ▸ setUp)
        exact (sends early early_mem).isUnnumbered (by rw [one]; decide)
    · intro early early_mem late late_mem
      refine ⟨fun dm => ?_, fun setUp => ?_⟩
      · have zero := (sends late late_mem).idle_of_dm dm
        exact (course.idle (onward.started zero)).1 early early_mem
      · have one := (sends late late_mem).awaiting_of_setUp (same ▸ setUp)
        exact (waiting one).2 early early_mem
  · rw [same]
    intro bytes member setUp
    rcases List.mem_append.mp member with old | new
    · exact course.unread bytes old setUp
    · exact unread (waiting ((sends bytes new).awaiting_of_setUp (same ▸ setUp))).1

/-- The receiver takes a turn. -/
theorem receive (course : Course sender receiver (read.toList ++ rest) target)
    (onward : Onward sender.mode receiver after read)
    (kept : (∀ bytes ∈ read, IsUnnumbered bytes) → target.acked = 0 ∧ target.received = 0 →
      target'.acked = 0 ∧ target'.received = 0) :
    Course sender after rest target' := by
  have later := course.lose (List.sublist_append_right read.toList rest)
  have first : ∀ bytes ∈ read, bytes ∈ read.toList ++ rest := fun bytes member =>
    List.mem_append_left _ (Option.mem_toList.mpr member)
  have ordered := List.pairwise_append.mp course.ordered
  refine ⟨fun zero => ⟨(later.idle zero).1, fun three => ?_⟩, later.awaiting, fun three => ?_,
    later.ordered, fun bytes member setUp => ?_⟩
  · rcases onward.connects three with connected | ⟨bytes, member, connects⟩
    · exact (course.idle zero).2 connected
    · exact not_isDm connects ((course.idle zero).1 bytes (first bytes member))
  · rcases onward.connects three with connected | ⟨bytes, member, connects⟩
    · exact later.connected connected
    · intro late late_mem dm
      exact not_isDm connects
        ((ordered.2.2 bytes (Option.mem_toList.mpr member) late late_mem).1 dm)
  · refine kept (fun early early_mem => ?_) (later.unread bytes member setUp)
    exact (ordered.2.2 early (Option.mem_toList.mpr early_mem) bytes member).2 setUp

end Course

/-! ## Simulation -/

/-- A link of the code, from the call on, and the link of the protocol that it implements. -/
structure Joined (link : X75Link) (abstract : GoBackN.Link Bytes) : Prop where
  a : Stands link.a abstract.a
  b : Stands link.b abstract.b
  ab : List.Forall₂ (Carries link.a.mode) link.ab abstract.ab
  ba : List.Forall₂ (Carries link.b.mode) link.ba abstract.ba
  same : link.a.extended = link.b.extended
  windows : 0 < link.a.window ∧ 0 < link.b.window
  bounded : InOneCounter link.a ∧ InOneCounter link.b
  courseAB : Course link.a link.b link.ab abstract.b
  courseBA : Course link.b link.a link.ba abstract.a
  safe : Safe link.a.window link.b.window abstract

theorem Joined.swap {link : X75Link} {abstract : GoBackN.Link Bytes}
    (joined : Joined link abstract) : Joined link.swap abstract.swap :=
  ⟨joined.b, joined.a, joined.ba, joined.ab, joined.same.symm, joined.windows.symm,
    joined.bounded.symm, joined.courseBA, joined.courseAB, joined.safe.swap⟩

theorem IdleEnd.waits {x75 : X75Cb} (idle : IdleEnd x75) : Waits x75 :=
  ⟨.inl idle.idle, idle.writeQueue, idle.ackQueue, idle.window_lt, idle.undelayed⟩

theorem IdleEnd.inOneCounter {x75 : X75Cb} (idle : IdleEnd x75) : InOneCounter x75 := by
  rw [InOneCounter, idle.writeQueue, idle.ackQueue]
  exact Nat.two_pow_pos 32

/-- Nothing is on its way. -/
theorem Course.initial {sender receiver : X75Cb} (idle : IdleEnd receiver) :
    Course sender receiver [] ⟨0, 0, 0⟩ where
  idle _ := by
    refine ⟨fun _ member => absurd member List.not_mem_nil, ?_⟩
    rw [idle.idle]
    decide
  awaiting _ _ member := absurd member List.not_mem_nil
  connected _ _ member := absurd member List.not_mem_nil
  ordered := .nil
  unread _ member := absurd member List.not_mem_nil

theorem IdleLink.joined {link : X75Link} (idle : IdleLink link) :
    Joined link ⟨⟨0, 0, 0⟩, ⟨0, 0, 0⟩, [], []⟩ where
  a := .waits idle.a.waits rfl
  b := .waits idle.b.waits rfl
  ab := by rw [idle.ab]; exact .nil
  ba := by rw [idle.ba]; exact .nil
  same := idle.same
  windows := ⟨idle.a.window_pos, idle.b.window_pos⟩
  bounded := ⟨idle.a.inOneCounter, idle.b.inOneCounter⟩
  courseAB := by rw [idle.ab]; exact .initial idle.b
  courseBA := by rw [idle.ba]; exact .initial idle.a
  safe := safe_initial _ _

/-- What a step at end A does, on both levels. -/
inductive CallTaken (link : X75Link) (abstract : GoBackN.Link Bytes) :
    CallOp → X75Link → Prop where
  | lost {bytes : Bytes} {rest : List Bytes} {frame : Frame Bytes} {rest' : List (Frame Bytes)}
      (channel : link.ba = bytes :: rest) (reads : abstract.ba = frame :: rest')
      (carries : List.Forall₂ (Carries link.b.mode) rest rest') :
      CallTaken link abstract (.line .lose) { link with ba := rest }
  | turn {op : CallOp} {run : Op} {after : X75Cb} {read : Option Bytes} {rest : List Bytes}
      {input : Option (Frame Bytes)} {rest' out : List (Frame Bytes)} {station : Station}
      {log : List Event} (runs : op.run link = some run) (taken : exec link.a run = some after)
      (channel : link.ba = read.toList ++ rest) (reads : abstract.ba = input.toList ++ rest')
      (carries : List.Forall₂ (Carries link.b.mode) rest rest')
      (alike : ∀ frame ∈ input, ∃ bytes ∈ read, Carries link.b.mode bytes frame)
      (onward : Onward link.b.mode link.a after read)
      (turn : CallTurn link.a abstract.a input after station log out) :
      CallTaken link abstract op ⟨after, link.b, link.ab ++ framesSince link.a after, rest⟩

section Step

variable {link next : X75Link} {abstract : GoBackN.Link Bytes} {op : CallOp}

/-- Before its connection an end has had nothing acknowledged, and nothing of it has been
received. -/
theorem Joined.unread (joined : Joined link abstract) (waiting : link.a.state ≠ .state3) :
    abstract.b.acked = 0 ∧ abstract.b.received = 0 := by
  have none : abstract.a = ⟨0, 0, 0⟩ := by
    cases joined.a with
    | waits _ none => exact none
    | connected tracks => exact absurd tracks.connected waiting
  have acked_le := joined.safe.ba.acked_le
  have received_le := joined.safe.ab.received_le
  rw [none] at acked_le received_le
  exact ⟨Nat.le_zero.mp acked_le, Nat.le_zero.mp received_le⟩

/-- The oldest frame on its way to end A, if the channel is not empty. -/
theorem Joined.oldest (joined : Joined link abstract) {bytes : Bytes} {rest : List Bytes}
    (channel : link.ba = bytes :: rest) :
    ∃ frame rest', abstract.ba = frame :: rest' ∧ Carries link.b.mode bytes frame ∧
      List.Forall₂ (Carries link.b.mode) rest rest' := by
  have carries := joined.ba
  rw [channel] at carries
  obtain ⟨frame, rest', first, later, eq⟩ := List.forall₂_cons_left_iff.mp carries
  exact ⟨frame, rest', eq, first, later⟩

theorem Joined.window_lt (joined : Joined link abstract) : link.b.window < link.a.modulus := by
  have modulus : link.b.modulus = link.a.modulus := by
    simp only [X75Cb.modulus, modulusOf]
    rw [show extendedMode link.b.mode = extendedMode link.a.mode from joined.same.symm]
  rw [← modulus]
  cases joined.b with
  | waits waits => exact waits.window_lt
  | connected tracks => exact tracks.window_lt

/-- **What a step at end A does.** -/
theorem callA_taken (joined : Joined link abstract)
    (goesOn : ∀ run ∈ op.run link, GoesOn link.a run) (taken : callA link op = some next) :
    CallTaken link abstract op next := by
  cases callA_outcome taken with
  | lost channel =>
      obtain ⟨frame, rest', reads, -, later⟩ := joined.oldest channel
      exact .lost channel reads later
  | @own op run after runs own executed =>
      have acted : Taken link.b.mode link.a abstract.a none none after :=
        joined.a.act joined.windows.1 own (goesOn _ runs).1 executed
      obtain ⟨onward, station, log, out, turn⟩ := acted
      have channel : link.ba = (none : Option Bytes).toList ++ link.ba := (List.nil_append _).symm
      exact .turn runs executed channel (List.nil_append _).symm joined.ba
        (fun _ member => by cases member) onward turn
  | @read op bytes rest stack after runs channel executed =>
      obtain ⟨frame, rest', reads, carries, later⟩ := joined.oldest channel
      have member : frame ∈ abstract.ba := reads ▸ List.mem_cons_self ..
      obtain ⟨low, high⟩ := joined.safe.ab.nr_bounds member
      have first : bytes ∈ link.ba := channel ▸ List.mem_cons_self ..
      obtain ⟨onward, station, log, out, turn⟩ := joined.a.receive joined.windows.1
        joined.bounded.1 carries joined.same low high
        (fun entry data => joined.safe.ba.number_eq joined.window_lt
          (mem_dataOf.mpr ⟨frame, member, data⟩))
        (fun three => joined.courseBA.connected three bytes first)
        (joined.courseBA.unread bytes first) stack executed
      have channel : link.ba = (some bytes).toList ++ rest := channel
      refine .turn runs executed channel reads later (fun other same => ?_) onward turn
      obtain rfl := Option.some.inj same
      exact ⟨bytes, rfl, carries⟩

/-- A frame on its way to end A is lost on both levels. -/
theorem Joined.lose {a b : Station} {ab rest' : List (Frame Bytes)} {frame : Frame Bytes}
    (joined : Joined link ⟨a, b, ab, frame :: rest'⟩) {bytes : Bytes} {rest : List Bytes}
    (channel : link.ba = bytes :: rest)
    (carries : List.Forall₂ (Carries link.b.mode) rest rest') :
    Joined { link with ba := rest } ⟨a, b, ab, rest'⟩ :=
  ⟨joined.a, joined.b, joined.ab, carries, joined.same, joined.windows, joined.bounded,
    joined.courseAB, joined.courseBA.lose (channel ▸ List.sublist_cons_self ..),
    joined.safe.step .loseA⟩

/-- End A takes its turn on both levels. -/
theorem Joined.turn {a b station : Station} {ab rest' out : List (Frame Bytes)}
    {input : Option (Frame Bytes)} (joined : Joined link ⟨a, b, ab, input.toList ++ rest'⟩)
    {after : X75Cb} {read : Option Bytes} {rest : List Bytes} {log : List Event}
    (bounded : InOneCounter after) (channel : link.ba = read.toList ++ rest)
    (carries : List.Forall₂ (Carries link.b.mode) rest rest')
    (alike : ∀ frame ∈ input, ∃ bytes ∈ read, Carries link.b.mode bytes frame)
    (onward : Onward link.b.mode link.a after read)
    (turn : CallTurn link.a a input after station log out) :
    Joined ⟨after, link.b, link.ab ++ framesSince link.a after, rest⟩
      ⟨station, b, ab ++ out, rest'⟩ := by
  have stepped := joined.safe.step (.turnA turn.turn)
  have since := framesSince_eq turn.events
  refine ⟨turn.stands, joined.b, ?_, carries, ?_, ?_, ⟨bounded, joined.bounded.2⟩, ?_, ?_, ?_⟩
  · have old := joined.ab
    rw [← turn.mode] at old
    rw [since]
    exact List.rel_append old turn.carries
  · have same := joined.same
    simp only [X75Cb.extended] at same ⊢
    rw [turn.mode]
    exact same
  · rw [turn.window]
    exact joined.windows
  · rw [since]
    exact joined.courseAB.send onward turn.mode turn.sends joined.a.state joined.unread
  · have course := joined.courseBA
    rw [channel] at course
    refine course.receive onward fun unnumbered zero => ?_
    -- a frame of the set-up acknowledges nothing and carries nothing
    have blank : ∀ frame ∈ input, frame = ⟨0, none⟩ := by
      intro frame member
      obtain ⟨bytes, first, carries⟩ := alike frame member
      exact carries.blank (unnumbered bytes first)
    constructor
    · rcases turn.turn.released with same | ⟨frame, member, le⟩
      · exact same.trans zero.1
      · rw [blank frame member] at le
        exact Nat.le_zero.mp le
    · rcases turn.turn.received with same | ⟨-, frame, member, payload, data⟩
      · exact same.trans zero.2
      · rw [blank frame member] at data
        cases data
  · rw [turn.window]
    exact stepped

/-- **A step at end A keeps the two levels together.** -/
theorem CallTaken.joined (outcome : CallTaken link abstract op next)
    (joined : Joined link abstract) (goesOn : ∀ run ∈ op.run link, GoesOn link.a run) :
    ∃ abstract', Joined next abstract' := by
  rcases abstract with ⟨a, b, ab, ba⟩
  cases outcome with
  | lost channel reads carries =>
      obtain rfl := reads
      exact ⟨_, joined.lose channel carries⟩
  | turn runs executed channel reads carries alike onward turn =>
      obtain rfl := reads
      have bounded := joined.bounded.1.step (joined.a.wellFormed joined.windows.1)
        (goesOn _ runs).2 executed
      exact ⟨_, joined.turn bounded channel carries alike onward turn⟩

end Step

/-! ## Runs -/

/-- A link that implements a safe link of the protocol, from the call on. -/
def Underway (link : X75Link) : Prop := ∃ abstract, Joined link abstract

/-- **Both ends take their steps alike**: what a step at end A keeps, and what does not
depend on the end it is looked at from, is kept by every step. -/
theorem callStep_keeps {good : X75Cb → Op → Prop} {inv : X75Link → Prop}
    (swap : ∀ {link : X75Link}, inv link → inv link.swap)
    (atA : ∀ {link next : X75Link} {op : CallOp}, inv link →
      (∀ run ∈ op.run link, good link.a run) → callA link op = some next → inv next)
    {link next : X75Link} (op : CallLinkOp) (now : inv link) (meets : RunMeets good link op)
    (taken : callStep link op = some next) : inv next := by
  cases op with
  | atA op => exact atA now meets taken
  | atB op =>
      obtain ⟨swapped, stepped, rfl⟩ := Option.map_eq_some_iff.mp taken
      exact swap (atA (swap now) meets stepped)

section Runs

variable {start mid link next : X75Link}

theorem Underway.swap (underway : Underway link) : Underway link.swap := by
  obtain ⟨abstract, joined⟩ := underway
  exact ⟨abstract.swap, joined.swap⟩

theorem Underway.callA {op : CallOp} (underway : Underway link)
    (goesOn : ∀ run ∈ op.run link, GoesOn link.a run) (taken : callA link op = some next) :
    Underway next := by
  obtain ⟨abstract, joined⟩ := underway
  exact (callA_taken joined goesOn taken).joined joined goesOn

theorem Underway.step (op : CallLinkOp) (underway : Underway link)
    (meets : RunMeets GoesOn link op) (taken : callStep link op = some next) : Underway next :=
  @callStep_keeps GoesOn Underway Underway.swap Underway.callA link next op underway meets taken

theorem underway_of_reached (idle : IdleLink start)
    (reached : Reached callStep (RunMeets GoesOn) start link) : Underway link :=
  reached.invariant Underway ⟨_, idle.joined⟩ Underway.step

/-! ## Agreement -/

/-- If the oldest frame on its way to end A carries an N(R), it passes `x75ValidateNr`. -/
def AcceptsNumbered (link : X75Link) : Prop :=
  ∀ bytes ∈ link.ba.head?, ∀ stack decoded body,
    x75Decode link.a bytes stack = some (decoded, body) → CarriesNr decoded.type →
      x75ValidateNr link.a decoded.nr = true

/-- When end A is connected, end B has at least asked for the connection, and end A accepts
what arrives. -/
structure Agrees (link : X75Link) : Prop where
  peer : link.a.state = .state3 → link.b.state = .state1 ∨ link.b.state = .state3
  accepts : link.a.state = .state3 → AcceptsNumbered link

theorem Underway.agrees (underway : Underway link) : Agrees link := by
  obtain ⟨abstract, joined⟩ := underway
  refine ⟨fun three => ?_, fun three bytes oldest stack decoded body read carriesNr => ?_⟩
  · rcases joined.b.state with zero | later
    · exact absurd three (joined.courseBA.idle zero).2
    · exact later
  · obtain ⟨rest, channel⟩ := List.head?_eq_some_iff.mp oldest
    obtain ⟨frame, rest', reads, carries, -⟩ := joined.oldest channel
    obtain ⟨low, high⟩ := joined.safe.ab.nr_bounds
      (show frame ∈ abstract.ba from reads ▸ List.mem_cons_self ..)
    have tracks : Tracks link.a abstract.a := by
      cases joined.a with
      | waits waits => exact absurd waits.state (by simp [three])
      | connected tracks => exact tracks
    have other : ∀ {frametype : UInt16} {pollBit : UInt8}, IsUnnumberedType frametype →
        ¬ HasControl frametype pollBit bytes := by
      intro frametype pollBit known control
      obtain ⟨decoded', rest', read', type, -⟩ := control.decode known link.a stack
      rw [read] at read'
      obtain ⟨rfl, -⟩ := Prod.mk.inj (Option.some.inj read')
      rw [type] at carriesNr
      rcases known with rfl | rfl | rfl | rfl | rfl <;> exact absurd carriesNr (by decide)
    cases carries with
    | numbered represents =>
        obtain ⟨decoded', rest', read', nr, -⟩ := represents.decode joined.same stack
        rw [read] at read'
        obtain ⟨rfl, -⟩ := Prod.mk.inj (Option.some.inj read')
        exact nr ▸ tracks.validateNr low high
    | unnumbered kind =>
        rcases kind with dm | setUp | ⟨pollBit, ua⟩
        · exact absurd dm (other (.inr (.inr (.inr (.inl rfl)))))
        · exact absurd setUp (other (setUpType_known link.b.mode))
        · exact absurd ua (other (.inr (.inr (.inr (.inr rfl)))))

/-- **The ends agree about the connection.** From two idle ends on, in every interleaving of
requests to connect, data requests, deliveries, losses and timer expiries in which neither
end gives up: an end is connected only while its peer is connected or awaits the
connection, and accepts every N(R) that reaches it. -/
theorem call_agreed (idle : IdleLink start)
    (reached : Reached callStep (RunMeets GoesOn) start link) :
    Agrees link ∧ Agrees link.swap := by
  have underway := underway_of_reached idle reached
  exact ⟨underway.agrees, underway.swap.agrees⟩

/-- Both ends ask for the connection at once. The first to have the answer is connected while
the other one still awaits it. -/
theorem call_agreed_collision :
    ∃ link, runOps callStep registeredLink [.atA .connectRequest, .atB .connectRequest,
        .atB (.line (.deliver .zero)), .atA (.line (.deliver .zero)),
        .atA (.line (.deliver .zero))] = some link ∧
      link.a.state = .state3 ∧ link.b.state = .state1 ∧ Agrees link ∧ Agrees link.swap := by
  have meets : MeetsAlong callStep (RunMeets GoesOn) registeredLink [.atA .connectRequest,
      .atB .connectRequest, .atB (.line (.deliver .zero)), .atA (.line (.deliver .zero)),
      .atA (.line (.deliver .zero))] := by decide +kernel
  exact ⟨_, rfl, by decide +kernel, by decide +kernel,
    call_agreed idleLink_registeredLink (reached_of_meetsAlong _ .refl meets rfl)⟩

/-! ## The connection is kept -/

/-- A connection is kept, nothing is purged, and no frame is rejected. -/
structure EndKept (x75 after : X75Cb) : Prop where
  connected : x75.state = .state3 → after.state = .state3
  unpurged : purges after = purges x75
  unrejected : NeverRejected x75 → NeverRejected after
  callbacks : after.callbacks = x75.callbacks

theorem EndKept.refl (x75 : X75Cb) : EndKept x75 x75 := ⟨id, rfl, id, rfl⟩

theorem EndKept.trans {x75 middle after : X75Cb} (first : EndKept x75 middle)
    (second : EndKept middle after) : EndKept x75 after :=
  ⟨second.connected ∘ first.connected, second.unpurged.trans first.unpurged,
    second.unrejected ∘ first.unrejected, second.callbacks.trans first.callbacks⟩

theorem Underway.kept {op : CallOp} (underway : Underway link)
    (goesOn : ∀ run ∈ op.run link, GoesOn link.a run) (taken : X75.callA link op = some next) :
    EndKept link.a next.a ∧ EndKept link.b next.b := by
  obtain ⟨abstract, joined⟩ := underway
  cases callA_taken joined goesOn taken with
  | lost => exact ⟨.refl _, .refl _⟩
  | @turn _ _ after _ _ _ _ _ _ log _ _ _ _ _ _ onward turn =>
      refine ⟨⟨onward.held, onward.unpurged, fun never => never.append turn.events ?_ ?_,
        turn.callbacks⟩, .refl _⟩
      · intro four
        rcases turn.stands.state with zero | one | three
        · exact absurd (zero.symm.trans four) (by decide)
        · exact absurd (one.symm.trans four) (by decide)
        · exact absurd (three.symm.trans four) (by decide)
      · have clean := ((List.forall₂_and_left _ _).mp (turn.carries.imp fun _ _ carries =>
          ⟨carries.not_isFrmr, carries⟩)).1
        exact clean

theorem underway_kept (op : CallLinkOp) (underway : Underway link)
    (meets : RunMeets GoesOn link op) (taken : callStep link op = some next) :
    EndKept link.a next.a ∧ EndKept link.b next.b := by
  cases op with
  | atA op => exact underway.kept meets taken
  | atB op =>
      obtain ⟨swapped, stepped, rfl⟩ := Option.map_eq_some_iff.mp taken
      exact (underway.swap.kept meets stepped).symm

theorem kept_of_reached (underway : Underway mid)
    (reached : Reached callStep (RunMeets GoesOn) mid link) :
    EndKept mid.a link.a ∧ EndKept mid.b link.b := by
  have both := reached.invariant
    (fun link => Underway link ∧ EndKept mid.a link.a ∧ EndKept mid.b link.b)
    ⟨underway, .refl _, .refl _⟩ fun op ⟨now, keptA, keptB⟩ meets taken => ?_
  · exact both.2
  · obtain ⟨stepA, stepB⟩ := underway_kept op now meets taken
    exact ⟨now.step op meets taken, keptA.trans stepA, keptB.trans stepB⟩

theorem IdleEnd.neverRejected {x75 : X75Cb} (idle : IdleEnd x75) : NeverRejected x75 where
  state := by
    rw [idle.idle]
    decide
  unsent := by
    rw [idle.events]
    exact fun _ member => absurd member List.not_mem_nil

/-- **A connection is lost only when the retries of T1 are used up.** From two idle ends on,
in every interleaving in which neither end gives up: an end that is connected stays
connected, whatever arrives, and no end purges its queues, sends a FRMR or enters state 4. -/
theorem call_kept (idle : IdleLink start)
    (before : Reached callStep (RunMeets GoesOn) start mid)
    (later : Reached callStep (RunMeets GoesOn) mid link) :
    (mid.a.state = .state3 → link.a.state = .state3) ∧
      (mid.b.state = .state3 → link.b.state = .state3) ∧
      purges link.a = 0 ∧ purges link.b = 0 ∧ NeverRejected link.a ∧ NeverRejected link.b := by
  obtain ⟨laterA, laterB⟩ := kept_of_reached (underway_of_reached idle before) later
  obtain ⟨keptA, keptB⟩ := kept_of_reached ⟨_, idle.joined⟩ (before.trans later)
  have none : ∀ {x75 : X75Cb}, IdleEnd x75 → purges x75 = 0 := by
    intro x75 idle
    rw [purges, idle.events]
    rfl
  exact ⟨laterA.connected, laterB.connected, keptA.unpurged.trans (none idle.a),
    keptB.unpurged.trans (none idle.b), keptA.unrejected idle.a.neverRejected,
    keptB.unrejected idle.b.neverRejected⟩

/-- The answer is lost and the SABM comes again, to an end that is connected and has sent a
payload. -/
theorem call_kept_repeated :
    ∃ mid link, runOps callStep registeredLink [.atA .connectRequest,
        .atB (.line (.deliver .zero)), .atB (.line (.dataRequest [0x41]))] = some mid ∧
      runOps callStep mid [.atA (.line .lose), .atA (.line .t1Expiry),
        .atB (.line (.deliver .zero))] = some link ∧
      mid.b.state = .state3 ∧ (mid.a.state = .state3 → link.a.state = .state3) ∧
        (mid.b.state = .state3 → link.b.state = .state3) ∧
        purges link.a = 0 ∧ purges link.b = 0 ∧ NeverRejected link.a ∧ NeverRejected link.b := by
  have before : MeetsAlong callStep (RunMeets GoesOn) registeredLink [.atA .connectRequest,
      .atB (.line (.deliver .zero)), .atB (.line (.dataRequest [0x41]))] := by decide +kernel
  have later : ∀ mid, runOps callStep registeredLink [.atA .connectRequest,
      .atB (.line (.deliver .zero)), .atB (.line (.dataRequest [0x41]))] = some mid →
      MeetsAlong callStep (RunMeets GoesOn) mid [.atA (.line .lose), .atA (.line .t1Expiry),
        .atB (.line (.deliver .zero))] := by
    intro mid ran
    obtain rfl := Option.some.inj ran
    decide +kernel
  exact ⟨_, _, rfl, rfl, by decide +kernel, call_kept idleLink_registeredLink
    (reached_of_meetsAlong _ .refl before rfl) (reached_of_meetsAlong _ .refl (later _ rfl) rfl)⟩

end Runs

end IsdnRas.X75
