import IsdnRas.X75.Link

/-!
# Payloads arrive in order

The numbers of a link are always right. The payloads they number are right as
long as `x75RequeueFrames` keeps the order of the queues: then the frame with
number `n` carries the payload that was accepted as number `n`, and each end
delivers a prefix of what the other end has accepted (`link_in_order`).

When frames are queued again while others wait, the order may change. A payload
that has never been sent then takes a number for which the peer still expects
another one (`requeue_reorders_link`).
-/

set_option autoImplicit false

namespace IsdnRas.X75

open GoBackN

/-! ## No purge in a connection -/

section Purges

variable {x75 after : X75Cb}

theorem purges_acknowledge (x75 : X75Cb) (rounds : Nat) :
    purges (acknowledge x75 rounds) = purges x75 := by
  have quiet : ∀ msgs : List Bytes,
      (msgs.map fun skb => Event.acked (some skb)).count .queuesCleared = 0 := by
    intro msgs
    refine List.count_eq_zero.mpr fun member => ?_
    obtain ⟨_, -, same⟩ := List.mem_map.mp member
    cases same
  rw [purges, acknowledge_events, List.count_append, List.count_append, quiet,
    List.count_replicate, purges]
  rfl

/-- Only `x75Unregister` purges and stays in a connection. -/
theorem purges_of_connected {op : Op} (wellFormed : x75.WellFormed)
    (taken : exec x75 op = some after) (connected : after.state = .state3)
    (staying : op ≠ .unregister) : purges after = purges x75 := by
  obtain ⟨before, sent, change, kicked, same, still⟩ := exec_change wellFormed taken
  have last : purges after = purges before := by
    rw [← purges_kick kicked, purges, same.count_eq rfl, purges]
  have state : before.state = .state3 := by
    rw [← kicked.state, ← still]
    exact connected
  have of_same : ∀ {base : X75Cb}, SameTraffic base before → purges before = purges base :=
    fun same => same.count_eq rfl
  rw [last]
  cases change with
  | kept same => exact of_same same
  | accepted skb => exact List.count_append.trans rfl
  | purged _ _ moved =>
      rcases moved with zero | two | ⟨leaving, -⟩
      · exact absurd (state.symm.trans zero) (by decide)
      · exact absurd (state.symm.trans two) (by decide)
      · exact absurd leaving staying
  | setUp _ same => exact same.count_eq rfl
  | acked frame _ _ _ _ same => exact (of_same same).trans (purges_acknowledge x75 _)
  | requeued vs va _ _ same => exact (of_same same).trans (purges_acknowledge x75 _)
  | parameters => rfl
  | registered => rfl

end Purges

/-! ## One direction -/

/-- The accepted payloads are the released ones and the two queues. -/
theorem Balanced.accepted_eq {x75 : X75Cb} (balanced : Balanced zeroed x75) :
    acceptedOf x75.events =
      releasedOf x75.events ++ (x75.ackQueue.msgs ++ x75.writeQueue.msgs) := by
  obtain ⟨released, accepted, reads, reads', rfl⟩ := balanced
  rw [reads, reads', List.append_assoc released]
  rfl

/-- What one end has accepted, what is on its way, and what the other end has
delivered. The released payloads are those with acknowledged numbers. -/
structure Direction (sender receiver : X75Cb) (source target : Station)
    (forward : List (Frame Bytes)) : Prop where
  released : (releasedOf sender.events).length = source.acked
  balanced : Balanced zeroed sender
  delivery : ∃ delivered, Delivery (acceptedOf sender.events) delivered target.received forward ∧
    indicatedOf receiver.events = if receiver.callbacks.dataIndication then delivered else []

namespace Direction

variable {sender receiver after : X75Cb} {source target station : Station}
  {forward rest out : List (Frame Bytes)} {input : Option (Frame Bytes)} {log : List Event}

/-- **Delivered payloads are a prefix of the accepted ones.** -/
theorem isPrefix (direction : Direction sender receiver source target forward) :
    indicatedOf receiver.events <+: acceptedOf sender.events := by
  obtain ⟨delivered, delivery, indicated⟩ := direction.delivery
  rw [indicated]
  split
  · exact delivery.isPrefix
  · exact List.nil_prefix

theorem lose (direction : Direction sender receiver source target forward)
    (sublist : rest.Sublist forward) : Direction sender receiver source target rest where
  released := direction.released
  balanced := direction.balanced
  delivery := by
    obtain ⟨delivered, delivery, indicated⟩ := direction.delivery
    exact ⟨delivered, delivery.lose sublist, indicated⟩

/-- A turn of the sender. -/
theorem turnSender (direction : Direction sender receiver source target forward)
    (turn : TurnTaken sender source input after station log out)
    (balanced : Balanced zeroed after) :
    Direction after receiver station target (forward ++ out) where
  released := by
    rw [turn.events, releasedOf_append, List.length_append, direction.released, turn.acked_eq]
  balanced := balanced
  delivery := by
    obtain ⟨delivered, delivery, indicated⟩ := direction.delivery
    refine ⟨delivered, delivery.send ?_ ?_, indicated⟩
    · rw [turn.events, acceptedOf_append]
      exact List.prefix_append ..
    · intro entry member
      have length : (releasedOf after.events).length = station.acked := by
        rw [turn.events, releasedOf_append, List.length_append, direction.released, turn.acked_eq]
      have low := (turn.emits.numbers entry member).1
      rw [balanced.accepted_eq, List.getElem?_append_right (length ▸ low), length]
      exact turn.emits.queued entry member

/-- A turn of the receiver. -/
theorem turnReceiver (direction : Direction sender receiver source target (input.toList ++ rest))
    (turn : TurnTaken receiver target input after station log out) :
    Direction sender after source station rest where
  released := direction.released
  balanced := direction.balanced
  delivery := by
    obtain ⟨delivered, delivery, indicated⟩ := direction.delivery
    have remaining := List.sublist_append_right input.toList rest
    rw [turn.events, indicatedOf_append, indicated, turn.callbacks]
    rcases turn.delivers with ⟨still, none⟩ | ⟨next, frame, read, skb, data, one⟩
    · refine ⟨delivered, ?_, ?_⟩
      · rw [still]
        exact delivery.lose remaining
      · rw [none, List.append_nil]
    · refine ⟨delivered ++ [skb], ?_, ?_⟩
      · rw [next]
        refine (delivery.receive (mem_dataOf.mpr ⟨frame, ?_, data⟩)).lose remaining
        exact List.mem_append_left _ (Option.mem_toList.mpr read)
      · rw [one]
        split <;> rfl

theorem initial (fresh : FreshEnd sender) (fresh' : FreshEnd receiver) :
    Direction sender receiver ⟨0, 0, 0⟩ ⟨0, 0, 0⟩ [] where
  released := by rw [fresh.events]; rfl
  balanced := ⟨[], [], by rw [fresh.events]; rfl, by rw [fresh.events]; rfl, by
    rw [fresh.ackQueue, fresh.writeQueue]
    rfl⟩
  delivery := by
    refine ⟨[], ?_, ?_⟩
    · rw [fresh.events]
      exact .initial
    · rw [fresh'.events]
      split <;> rfl

end Direction

/-! ## Runs -/

/-- Both ends are in state 3, and frames that the step queues again commute with
those that wait. -/
def KeepsLinkOrder (link : X75Link) : LinkOp → Prop
  | .atA op => BothConnected link ∧ ∀ run ∈ op.run link, KeepsOrder link.a run
  | .atB op => BothConnected link ∧ ∀ run ∈ op.run link.swap, KeepsOrder link.b run

instance (link : X75Link) : (op : LinkOp) → Decidable (KeepsLinkOrder link op)
  | .atA _ => inferInstanceAs (Decidable (_ ∧ ∀ _ ∈ _, _))
  | .atB _ => inferInstanceAs (Decidable (_ ∧ ∀ _ ∈ _, _))

/-- A link that implements a safe link of the protocol, with the payloads in
order in both directions. -/
def DeliversInOrder (link : X75Link) : Prop :=
  ∃ abstract, Implements link abstract ∧ Safe link.a.window link.b.window abstract ∧
    0 < link.a.window ∧ 0 < link.b.window ∧
    Direction link.a link.b abstract.a abstract.b abstract.ab ∧
    Direction link.b link.a abstract.b abstract.a abstract.ba

section Step

variable {link next : X75Link}

theorem DeliversInOrder.swap (inOrder : DeliversInOrder link) : DeliversInOrder link.swap := by
  obtain ⟨abstract, implements, safe, windowA, windowB, ab, ba⟩ := inOrder
  exact ⟨abstract.swap, implements.swap, safe.swap, windowB, windowA, ba, ab⟩

/-- No step of a link unregisters a control block. -/
theorem EndOp.run_ne_unregister {op : EndOp} {run : Op} (runs : op.run link = some run) :
    run ≠ .unregister := by
  rintro rfl
  cases op with
  | deliver stack => simp [EndOp.run] at runs
  | _ => cases runs

/-- **One step at end A** that keeps the order. -/
theorem DeliversInOrder.stepA {op : EndOp} (inOrder : DeliversInOrder link)
    (keeps : ∀ run ∈ op.run link, KeepsOrder link.a run) (taken : stepA link op = some next)
    (connected : next.a.state = .state3) : DeliversInOrder next := by
  obtain ⟨⟨a, b, ab, ba⟩, implements, safe, windowA, windowB, forward, backward⟩ := inOrder
  have outcome := stepA_outcome implements safe taken
  cases outcome with
  | @lost frame rest rest' reads represents =>
      cases reads
      refine ⟨⟨a, b, ab, rest'⟩, implements.lose represents, safe.step .loseA, windowA, windowB,
        forward, ?_⟩
      exact backward.lose (List.sublist_cons_self ..)
  | ended ended => exact absurd (connected.symm.trans ended.state) (by decide)
  | @turn _ run after rest input rest' station log out runs executed reads represents turn =>
      cases reads
      have wellFormed := implements.a.wellFormed windowA
      have unpurged : purges after = purges link.a := purges_of_connected wellFormed executed
        turn.tracks.connected (EndOp.run_ne_unregister runs)
      have balanced := balanced_step wellFormed (keeps _ runs) executed forward.balanced
        (Nat.le_of_eq unpurged)
      have stepped := safe.step (.turnA turn.turn)
      refine ⟨⟨station, b, ab ++ out, rest'⟩, implements.turn represents turn, ?_, ?_, windowB,
        forward.turnSender turn balanced, backward.turnReceiver turn⟩
      · rw [turn.window]
        exact stepped
      · rw [turn.window]
        exact windowA

theorem DeliversInOrder.step {op : LinkOp} (inOrder : DeliversInOrder link)
    (keeps : KeepsLinkOrder link op) (taken : linkStep link op = some next)
    (connected : BothConnected next) : DeliversInOrder next := by
  cases op with
  | atA op => exact inOrder.stepA keeps.2 taken connected.1
  | atB op =>
      obtain ⟨swapped, stepped, rfl⟩ := Option.map_eq_some_iff.mp taken
      exact (inOrder.swap.stepA keeps.2 stepped connected.2).swap

theorem FreshLink.deliversInOrder (fresh : FreshLink link) : DeliversInOrder link := by
  refine ⟨_, fresh.implements, safe_initial _ _, fresh.a.window_pos, fresh.b.window_pos, ?_, ?_⟩
  · exact Direction.initial fresh.a fresh.b
  · exact Direction.initial fresh.b fresh.a

end Step

/-- The condition speaks about connected links only. -/
theorem KeepsLinkOrder.connected {link : X75Link} {op : LinkOp} (keeps : KeepsLinkOrder link op) :
    BothConnected link := by
  cases op with
  | atA => exact keeps.1
  | atB => exact keeps.1

/-- **Each end delivers a prefix of what the other end has accepted.** From a new
connection on, in every interleaving of data requests, deliveries, losses and
timer expiries, as long as both ends are in state 3 and frames that are queued
again commute with those that wait. -/
theorem link_in_order {start link : X75Link} (fresh : FreshLink start)
    (reached : Reached linkStep KeepsLinkOrder start link) (connected : BothConnected link) :
    indicatedOf link.b.events <+: acceptedOf link.a.events ∧
      indicatedOf link.a.events <+: acceptedOf link.b.events := by
  have inOrder : BothConnected link → DeliversInOrder link := by
    refine reached.invariant (fun link => BothConnected link → DeliversInOrder link)
      (fun _ => fresh.deliversInOrder) ?_
    intro state next op inOrder keeps taken connected
    exact (inOrder keeps.connected).step keeps taken connected
  obtain ⟨_, _, _, _, _, forward, backward⟩ := inOrder connected
  exact ⟨forward.isPrefix, backward.isPrefix⟩

/-- Two payloads are sent and the second frame is lost. T1 expires, and both are
sent again. -/
theorem link_in_order_retry :
    ∃ link, runOps linkStep (newLink 7) [.atA (.dataRequest [0x41]), .atA (.dataRequest [0x42]),
        .atB (.deliver .zero), .atB .lose, .atA .t1Expiry, .atB (.deliver .zero),
        .atB (.deliver .zero)] = some link ∧
      indicatedOf link.b.events = [[0x41], [0x42]] ∧
      (indicatedOf link.b.events <+: acceptedOf link.a.events ∧
        indicatedOf link.a.events <+: acceptedOf link.b.events) := by
  have meets : MeetsAlong linkStep KeepsLinkOrder (newLink 7)
      [.atA (.dataRequest [0x41]), .atA (.dataRequest [0x42]), .atB (.deliver .zero), .atB .lose,
        .atA .t1Expiry, .atB (.deliver .zero), .atB (.deliver .zero)] := by decide
  exact ⟨_, rfl, rfl, link_in_order (freshLink_newLink (by decide) (by decide))
    (reached_of_meetsAlong _ .refl meets rfl) (by decide)⟩

/-- **A retransmission overtakes.** The window is one and a second payload waits.
The frame of the first is lost and T1 expires. The second payload is now sent
with the number of the first, and it is the only one delivered. -/
theorem requeue_reorders_link :
    FreshLink (newLink 1) ∧ ∃ link, runOps linkStep (newLink 1) [.atA (.dataRequest [0x41]),
        .atA (.dataRequest [0x42]), .atB .lose, .atA .t1Expiry, .atB (.deliver .zero)] =
          some link ∧
      BothConnected link ∧ acceptedOf link.a.events = [[0x41], [0x42]] ∧
        indicatedOf link.b.events = [[0x42]] :=
  ⟨freshLink_newLink (by decide) (by decide), _, rfl, by decide, rfl, rfl⟩

end IsdnRas.X75
