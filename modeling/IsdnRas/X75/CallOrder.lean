import IsdnRas.X75.Calls

/-!
# Payloads in order from the call on

`InOrder` follows the payloads of a connection that is there from the start. Here they are
followed from two idle ends on, through connection requests that cross or are repeated and
through the resets that repeated requests cause.

Between what an end has accepted and what its peer has delivered stands what has been
released: a payload is released when its acknowledgement comes, and by then it has been
delivered (`Direction.confirmed`). So an end whose queues are empty has had everything
delivered (`call_in_order`).
-/

set_option autoImplicit false

namespace IsdnRas.X75

open GoBackN

/-! ## One direction -/

namespace Direction

variable {sender receiver after : X75Cb} {source target station : Station}
  {forward rest out : List (Frame Bytes)} {input : Option (Frame Bytes)} {log : List Event}

/-- A turn of the sender. -/
theorem callSender (direction : Direction sender receiver source target forward)
    (turn : CallTurn sender source input after station log out)
    (balanced : Balanced zeroed after) :
    Direction after receiver station target (forward ++ out) := by
  have length : (releasedOf after.events).length = station.acked := by
    rw [turn.events, releasedOf_append, List.length_append, direction.released, turn.acked_eq]
  obtain ⟨delivered, delivery, indicated⟩ := direction.delivery
  refine ⟨length, balanced, delivered, delivery.send ?_ fun entry member => ?_, indicated⟩
  · rw [turn.events, acceptedOf_append]
    exact List.prefix_append ..
  · have low := (turn.turn.numbers entry member).1
    rw [balanced.accepted_eq, List.getElem?_append_right (length ▸ low), length]
    exact turn.queued entry member

/-- A turn of the receiver. -/
theorem callReceiver
    (direction : Direction sender receiver source target (input.toList ++ rest))
    (turn : CallTurn receiver target input after station log out) :
    Direction sender after source station rest := by
  obtain ⟨delivered, delivery, indicated⟩ := direction.delivery
  have remaining := List.sublist_append_right input.toList rest
  refine ⟨direction.released, direction.balanced, ?_⟩
  rw [turn.events, indicatedOf_append, indicated, turn.callbacks]
  rcases turn.delivers with ⟨still, none⟩ | ⟨next, frame, read, skb, data, one⟩
  · refine ⟨delivered, ?_, ?_⟩
    · rw [still]
      exact delivery.lose remaining
    · rw [none, List.append_nil]
  · have member : (target.received, skb) ∈ dataOf (input.toList ++ rest) :=
      mem_dataOf.mpr ⟨frame, List.mem_append_left _ (Option.mem_toList.mpr read), data⟩
    refine ⟨delivered ++ [skb], ?_, ?_⟩
    · rw [next]
      exact (delivery.receive member).lose remaining
    · rw [one]
      split <;> rfl

theorem idle (sends : IdleEnd sender) (receives : IdleEnd receiver) :
    Direction sender receiver ⟨0, 0, 0⟩ ⟨0, 0, 0⟩ [] := by
  refine ⟨by rw [sends.events]; rfl, ?_, [], ?_, ?_⟩
  · refine ⟨[], [], by rw [sends.events]; rfl, by rw [sends.events]; rfl, ?_⟩
    rw [sends.ackQueue, sends.writeQueue]
    rfl
  · rw [sends.events]
    exact .initial
  · rw [receives.events]
    split <;> rfl

/-- **What has been released has been delivered.** -/
theorem confirmed (direction : Direction sender receiver source target forward)
    (acked_le : source.acked ≤ target.received)
    (heard : receiver.callbacks.dataIndication = true) :
    releasedOf sender.events <+: indicatedOf receiver.events := by
  obtain ⟨delivered, delivery, indicated⟩ := direction.delivery
  have released : releasedOf sender.events = (acceptedOf sender.events).take source.acked := by
    rw [direction.balanced.accepted_eq, ← direction.released, List.take_left']
    rfl
  rw [indicated, if_pos heard, released, delivery.delivered_eq]
  exact List.take_prefix_take_left acked_le

/-- **An end with empty queues has had everything delivered.** -/
theorem complete (direction : Direction sender receiver source target forward)
    (acked_le : source.acked ≤ target.received)
    (heard : receiver.callbacks.dataIndication = true)
    (empty : sender.ackQueue.msgs = [] ∧ sender.writeQueue.msgs = []) :
    indicatedOf receiver.events = acceptedOf sender.events := by
  have accepted := direction.balanced.accepted_eq
  rw [empty.1, empty.2, List.append_nil, List.append_nil] at accepted
  refine direction.isPrefix.eq_of_length_le ?_
  rw [accepted]
  exact (direction.confirmed acked_le heard).length_le

end Direction

/-! ## Runs -/

/-- The end goes on, and frames that it queues again commute with those that wait. -/
def GoesOnInOrder (x75 : X75Cb) (op : Op) : Prop := GoesOn x75 op ∧ KeepsOrder x75 op

instance (x75 : X75Cb) (op : Op) : Decidable (GoesOnInOrder x75 op) :=
  inferInstanceAs (Decidable (_ ∧ _))

/-- A link on its way, with the payloads in order in both directions. -/
def OrderedCall (link : X75Link) : Prop :=
  ∃ abstract, Joined link abstract ∧
    Direction link.a link.b abstract.a abstract.b abstract.ab ∧
    Direction link.b link.a abstract.b abstract.a abstract.ba

section Runs

variable {start link next : X75Link}

theorem OrderedCall.swap (ordered : OrderedCall link) : OrderedCall link.swap := by
  obtain ⟨abstract, joined, forward, backward⟩ := ordered
  exact ⟨abstract.swap, joined.swap, backward, forward⟩

theorem IdleLink.orderedCall (idle : IdleLink start) : OrderedCall start :=
  ⟨_, idle.joined, .idle idle.a idle.b, .idle idle.b idle.a⟩

/-- **One step at end A** that keeps the order. -/
theorem OrderedCall.callA {op : CallOp} (ordered : OrderedCall link)
    (goesOn : ∀ run ∈ op.run link, GoesOnInOrder link.a run)
    (taken : X75.callA link op = some next) : OrderedCall next := by
  obtain ⟨⟨a, b, ab, ba⟩, joined, forward, backward⟩ := ordered
  cases callA_taken joined (fun run runs => (goesOn run runs).1) taken with
  | lost channel reads carries =>
      obtain rfl := reads
      exact ⟨_, joined.lose channel carries, forward, backward.lose (List.sublist_cons_self ..)⟩
  | turn runs executed channel reads carries alike onward turn =>
      obtain rfl := reads
      have wellFormed := joined.a.wellFormed joined.windows.1
      have bounded := joined.bounded.1.step wellFormed (goesOn _ runs).1.2 executed
      have balanced := balanced_step wellFormed (goesOn _ runs).2 executed forward.balanced
        (Nat.le_of_eq onward.unpurged)
      exact ⟨_, joined.turn bounded channel carries alike onward turn,
        forward.callSender turn balanced, backward.callReceiver turn⟩

theorem OrderedCall.step (op : CallLinkOp) (ordered : OrderedCall link)
    (meets : RunMeets GoesOnInOrder link op) (taken : callStep link op = some next) :
    OrderedCall next :=
  @callStep_keeps GoesOnInOrder OrderedCall OrderedCall.swap OrderedCall.callA link next op
    ordered meets taken

/-- What end B has delivered lies between what end A has had acknowledged and what it has
accepted. -/
structure DeliversBetween (link : X75Link) : Prop where
  acknowledged : releasedOf link.a.events <+: indicatedOf link.b.events
  accepted : indicatedOf link.b.events <+: acceptedOf link.a.events
  complete : link.a.ackQueue.msgs = [] ∧ link.a.writeQueue.msgs = [] →
    indicatedOf link.b.events = acceptedOf link.a.events

theorem OrderedCall.deliversBetween (ordered : OrderedCall link)
    (heard : link.b.callbacks.dataIndication = true) : DeliversBetween link := by
  obtain ⟨abstract, joined, forward, -⟩ := ordered
  exact ⟨forward.confirmed joined.safe.ab.acked_le heard, forward.isPrefix,
    forward.complete joined.safe.ab.acked_le heard⟩

/-- **Payloads arrive in order from the call on.** From two idle ends on, in every
interleaving of requests to connect, data requests, deliveries, losses and timer expiries in
which neither end gives up and frames that are queued again commute with those that wait:
each end has delivered at least what its peer has had acknowledged and at most what the peer
has accepted, in that order, and everything once the queues of the peer are empty. -/
theorem call_in_order (idle : IdleLink start)
    (heard : start.a.callbacks.dataIndication = true ∧ start.b.callbacks.dataIndication = true)
    (reached : Reached callStep (RunMeets GoesOnInOrder) start link) :
    DeliversBetween link ∧ DeliversBetween link.swap := by
  have ordered := reached.invariant OrderedCall idle.orderedCall OrderedCall.step
  obtain ⟨keptA, keptB⟩ := kept_of_reached ⟨_, idle.joined⟩
    (reached.mono fun _ _ => RunMeets.mono fun _ _ goesOn => goesOn.1)
  have heardA : link.a.callbacks.dataIndication = true := keptA.callbacks ▸ heard.1
  have heardB : link.b.callbacks.dataIndication = true := keptB.callbacks ▸ heard.2
  exact ⟨ordered.deliversBetween heardB, ordered.swap.deliversBetween heardA⟩

/-- The answer to the SABM is lost, and a payload comes too early. The SABM is repeated, the
peer resets the link and sends the payload again, and an I-frame acknowledges it. -/
theorem call_in_order_reset :
    ∃ link, runOps callStep registeredLink [.atA .connectRequest, .atB (.line (.deliver .zero)),
        .atB (.line (.dataRequest [0x41])), .atA (.line .lose), .atA (.line (.deliver .zero)),
        .atA (.line .t1Expiry), .atB (.line (.deliver .zero)), .atA (.line (.deliver .zero)),
        .atA (.line (.deliver .zero)), .atA (.line (.dataRequest [0x42])),
        .atB (.line (.deliver .zero))] = some link ∧
      releasedOf link.b.events = [[0x41]] ∧ indicatedOf link.b.events = [[0x42]] ∧
      DeliversBetween link ∧ DeliversBetween link.swap := by
  have meets : MeetsAlong callStep (RunMeets GoesOnInOrder) registeredLink [.atA .connectRequest,
      .atB (.line (.deliver .zero)), .atB (.line (.dataRequest [0x41])), .atA (.line .lose),
      .atA (.line (.deliver .zero)), .atA (.line .t1Expiry), .atB (.line (.deliver .zero)),
      .atA (.line (.deliver .zero)), .atA (.line (.deliver .zero)),
      .atA (.line (.dataRequest [0x42])), .atB (.line (.deliver .zero))] := by decide +kernel
  exact ⟨_, rfl, by decide +kernel, by decide +kernel, call_in_order idleLink_registeredLink
    ⟨rfl, rfl⟩ (reached_of_meetsAlong _ .refl meets rfl)⟩

end Runs

end IsdnRas.X75
