import IsdnRas.Library.Runs
import IsdnRas.X75.Traffic

/-!
# The counters of the queues

Beside each queue the control block keeps a counter by hand. `x75Kick` asks the
counter whether there is a message to send, and `x75FramesAcked` asks it whether
there is one to release.

Purging empties the lists and leaves the counters. A counter that was not zero
is wrong from then on: the next `x75Kick` may be handed a NULL message
(`purge_leaves_counter`), and that in any later session. The counters stay exact
along every run that never purges a queue with messages in it, and in which the
two queues together stay below `2 ^ 32` messages (`counts_exact`).
-/

set_option autoImplicit false

namespace IsdnRas.X75

/-! ## Exact counters -/

/-- Both counters are the lengths of their queues, and they have room for all
messages in one queue. -/
structure Counted (x75 : X75Cb) : Prop where
  write : x75.writeQueue.Exact
  ack : x75.ackQueue.Exact
  bounded : x75.writeQueue.msgs.length + x75.ackQueue.msgs.length < 2 ^ 32

instance (x75 : X75Cb) : Decidable (Counted x75) :=
  decidable_of_iff (x75.writeQueue.Exact ∧ x75.ackQueue.Exact ∧
      x75.writeQueue.msgs.length + x75.ackQueue.msgs.length < 2 ^ 32)
    ⟨fun ⟨write, ack, bounded⟩ => ⟨write, ack, bounded⟩,
      fun counted => ⟨counted.write, counted.ack, counted.bounded⟩⟩

/-- An exact acknowledgement counter never makes `x75FramesAcked` release more
than there is. -/
theorem ackRounds_le {x75 : X75Cb} (ack : x75.ackQueue.Exact) (nr : Nat) :
    ackRounds x75 nr ≤ x75.ackQueue.msgs.length := by
  rw [ackRounds, if_pos (Nat.le_of_eq ack), ack]
  exact Nat.min_le_right _ _

theorem requeueRounds_le {x75 : X75Cb} {op : Op} {rounds : Nat} (ack : x75.ackQueue.Exact)
    (requeues : requeueRounds x75 op = some rounds) : rounds ≤ x75.ackQueue.msgs.length := by
  obtain ⟨-, rfl | ⟨frame, -, -, -, rfl⟩⟩ := requeueRounds_cases requeues
  · exact Nat.zero_le _
  · exact ackRounds_le ack _

/-- Releasing messages that are there keeps the counter exact. -/
theorem exact_acknowledge {x75 : X75Cb} (ack : x75.ackQueue.Exact) {rounds : Nat}
    (le : rounds ≤ x75.ackQueue.msgs.length) : (acknowledge x75 rounds).ackQueue.Exact := by
  rw [acknowledge, Nat.min_eq_left le]
  exact ack.drop le

/-- Queueing all messages again keeps the counter exact. -/
theorem exact_requeued {x75 : X75Cb} (ack : x75.ackQueue.Exact) (vs va : Nat) :
    (requeued x75 vs va).ackQueue.Exact := by
  have drop := ack.drop (Nat.le_refl _)
  rwa [List.drop_length] at drop

namespace Counted

variable {x75 after : X75Cb}

theorem of_same (same : SameTraffic x75 after) (counted : Counted x75) : Counted after := by
  refine ⟨?_, ?_, ?_⟩
  · rw [same.writeQueue]
    exact counted.write
  · rw [same.ackQueue]
    exact counted.ack
  · rw [same.writeQueue, same.ackQueue]
    exact counted.bounded

theorem accept (counted : Counted x75) (skb : Bytes)
    (room : x75.writeQueue.msgs.length + x75.ackQueue.msgs.length + 1 < 2 ^ 32) :
    Counted (enqueueData x75 skb) where
  write := counted.write.enqueue skb (by omega)
  ack := counted.ack
  bounded := by
    simp only [enqueueData, CountedQueue.enqueue_msgs, List.length_append, List.length_singleton]
    omega

theorem acknowledge (counted : Counted x75) {rounds : Nat}
    (le : rounds ≤ x75.ackQueue.msgs.length) : Counted (acknowledge x75 rounds) where
  write := counted.write
  ack := exact_acknowledge counted.ack le
  bounded := by
    have := counted.bounded
    simp only [acknowledge_writeQueue, acknowledge_ackQueue_msgs, List.length_drop]
    omega

theorem requeue (counted : Counted x75) (vs va : Nat) : Counted (requeued x75 vs va) where
  write := counted.write.append _ counted.bounded
  ack := exact_requeued counted.ack vs va
  bounded := by
    have := counted.bounded
    simp only [requeued_writeQueue_msgs, requeued_ackQueue_msgs, List.length_append,
      List.length_nil]
    omega

theorem sendFirst (counted : Counted x75) {k : Nat} (le : k ≤ x75.writeQueue.msgs.length) :
    Counted (sendFirst x75 k) where
  write := counted.write.drop le
  ack := by
    have append := counted.ack.append (x75.writeQueue.msgs.take k) (by
      rw [List.length_take]
      have := counted.bounded
      omega)
    rwa [List.length_take, Nat.min_eq_left le] at append
  bounded := by
    have := counted.bounded
    simp only [sendFirst_writeQueue_msgs, sendFirst_ackQueue_msgs, List.length_drop,
      List.length_append, List.length_take]
    omega

/-- Purging is harmless only when there is nothing to purge. -/
theorem purge (counted : Counted x75)
    (empty : x75.writeQueue.msgs = [] ∧ x75.ackQueue.msgs = [])
    (write : after.writeQueue = x75.writeQueue.free)
    (ack : after.ackQueue = x75.ackQueue.free) : Counted after where
  write := by
    rw [write, CountedQueue.exact_free_iff]
    exact counted.write.count_eq_zero_iff.mpr empty.1
  ack := by
    rw [ack, CountedQueue.exact_free_iff]
    exact counted.ack.count_eq_zero_iff.mpr empty.2
  bounded := by simp [write, ack]

end Counted

/-! ## No NULL is released -/

/-- Releasing messages that are there releases no NULL. -/
theorem null_notMem_acknowledge {x75 : X75Cb} {rounds : Nat}
    (le : rounds ≤ x75.ackQueue.msgs.length) (free : .acked none ∉ x75.events) :
    .acked none ∉ (acknowledge x75 rounds).events := by
  simp only [acknowledge_events, Nat.sub_eq_zero_of_le le, List.replicate_zero, List.append_nil,
    List.mem_append, List.mem_map, not_or]
  exact ⟨free, by simp⟩

/-- With exact counters no change releases a NULL. -/
theorem null_notMem_change {x75 before : X75Cb} {op : Op} (ack : x75.ackQueue.Exact)
    (free : .acked none ∉ x75.events) (change : TrafficChange x75 op before) :
    .acked none ∉ before.events := by
  have of_same : ∀ {base : X75Cb}, SameTraffic base before → .acked none ∉ base.events →
      .acked none ∉ before.events :=
    fun same free member => free ((same.mem_iff rfl).mp member)
  cases change with
  | kept same => exact of_same same free
  | accepted => simp [enqueueData, free]
  | purged _ same => exact of_same same (by simp [free])
  | setUp _ same => exact of_same same free
  | acked frame _ _ _ _ same =>
      exact of_same same (null_notMem_acknowledge (ackRounds_le ack _) free)
  | requeued _ _ _ requeues same =>
      exact of_same same (null_notMem_acknowledge (requeueRounds_le ack requeues) free)
  | parameters => exact free
  | registered => exact free

/-- `x75Kick` releases nothing. -/
theorem null_notMem_kick {before sent : X75Cb} (free : .acked none ∉ before.events)
    (kicked : KickChange before sent) : .acked none ∉ sent.events := by
  cases kicked with
  | none => exact free
  | sent _ _ same =>
      rw [same.mem_iff rfl, sendFirst_events, List.mem_append]
      rintro (earlier | sent)
      · exact free earlier
      · obtain ⟨_, _, -, same⟩ := mem_iframesFrom sent
        cases same

/-! ## Runs -/

/-- The operation leaves exact counters exact: queues are purged or forgotten
only when they are empty, and the counters have room for one more message. -/
def KeepsCounts (x75 : X75Cb) (op : Op) : Prop :=
  (OpPurges x75 op ∨ op.isRegister = true →
      x75.writeQueue.msgs = [] ∧ x75.ackQueue.msgs = []) ∧
    (op.isRequest = true →
      x75.writeQueue.msgs.length + x75.ackQueue.msgs.length + 1 < 2 ^ 32)

instance (x75 : X75Cb) (op : Op) : Decidable (KeepsCounts x75 op) :=
  inferInstanceAs (Decidable (_ ∧ _))

section Step

variable {x75 before sent : X75Cb} {op : Op}

theorem Counted.change (counted : Counted x75) (keeps : KeepsCounts x75 op)
    (change : TrafficChange x75 op before) : Counted before := by
  cases change with
  | kept same => exact counted.of_same same
  | accepted skb _ => exact counted.accept skb (keeps.2 rfl)
  | purged purges same =>
      exact Counted.of_same same (counted.purge (keeps.1 (.inl purges)) rfl rfl)
  | setUp _ same =>
      exact Counted.of_same same ⟨counted.write, counted.ack, counted.bounded⟩
  | acked frame _ _ _ _ same =>
      exact Counted.of_same same (counted.acknowledge (ackRounds_le counted.ack _))
  | requeued vs va _ requeues same =>
      have le := requeueRounds_le counted.ack requeues
      exact Counted.of_same same ((counted.acknowledge le).requeue vs va)
  | parameters => exact ⟨counted.write, counted.ack, counted.bounded⟩
  | registered callbacks => exact counted.purge (keeps.1 (.inr rfl)) rfl rfl

theorem Counted.kick (counted : Counted before) (kicked : KickChange before sent) :
    Counted sent := by
  cases kicked with
  | none => exact counted
  | sent _ count same =>
      refine Counted.of_same same (Counted.sendFirst ?_ count.le_length)
      exact ⟨counted.write, counted.ack, counted.bounded⟩

end Step

theorem counted_register (callbacks : RegisterStruct) : Counted (x75Register zeroed callbacks) :=
  ⟨rfl, rfl, Nat.two_pow_pos 32⟩

/-- The invariant of runs that never purge a message. -/
theorem counted_of_reached {callbacks : RegisterStruct} {x75 : X75Cb}
    (reached : Reached exec KeepsCounts (x75Register zeroed callbacks) x75) :
    x75.WellFormed ∧ Counted x75 ∧ .acked none ∉ x75.events := by
  refine reached.invariant
    (fun x75 => x75.WellFormed ∧ Counted x75 ∧ .acked none ∉ x75.events)
    ⟨wellFormed_register _ _, counted_register callbacks, List.not_mem_nil⟩ ?_
  rintro state next op ⟨wellFormed, counted, free⟩ keeps taken
  obtain ⟨before, sent, change, kicked, same, -⟩ := exec_change wellFormed taken
  refine ⟨wellFormed.step taken, ((counted.change keeps change).kick kicked).of_same same, ?_⟩
  rw [same.mem_iff rfl]
  exact null_notMem_kick (null_notMem_change counted.ack free change) kicked

/-- **The counters are exact** after every operation of a run in which queues
are purged only when they are empty, and in which the counters have room. Then
`x75FramesAcked` has never released a NULL message, and no such operation makes
`x75Kick` copy one. -/
theorem counts_exact {callbacks : RegisterStruct} {x75 : X75Cb}
    (reached : Reached exec KeepsCounts (x75Register zeroed callbacks) x75) :
    x75.writeQueue.Exact ∧ x75.ackQueue.Exact ∧ .acked none ∉ x75.events ∧
      ∀ op, KeepsCounts x75 op → exec x75 op ≠ none := by
  obtain ⟨wellFormed, counted, free⟩ := counted_of_reached reached
  refine ⟨counted.write, counted.ack, free, fun op keeps => ?_⟩
  exact exec_ne_none wellFormed fun before change => (counted.change keeps change).write.ne_nil

/-- A connection with one frame sent is such a run. -/
theorem counts_exact_one_frame :
    ∃ x75, runOps exec (x75Register zeroed .all)
        [.dataReceived [0x01, 0x3F] .zero, .dataRequest [0x41]] = some x75 ∧
      x75.writeQueue.Exact ∧ x75.ackQueue.Exact ∧ .acked none ∉ x75.events ∧
        ∀ op, KeepsCounts x75 op → exec x75 op ≠ none := by
  have meets : MeetsAlong exec KeepsCounts (x75Register zeroed .all)
      [.dataReceived [0x01, 0x3F] .zero, .dataRequest [0x41]] := by decide
  exact ⟨_, rfl, counts_exact (reached_of_meetsAlong _ .refl meets rfl)⟩

/-- **A purge leaves the counter behind.** A payload waits while the peer is
busy, the peer disconnects, and the counter of the empty queue is one. The next
connection request of the peer ends the process. -/
theorem purge_leaves_counter :
    ∃ x75, runOps exec (x75Register zeroed .all)
        [.dataReceived [0x01, 0x3F] .zero, .dataReceived [0x01, 0x05] .zero,
          .dataRequest [0x41], .dataReceived [0x01, 0x53] .zero] = some x75 ∧
      x75.writeQueue.msgs = [] ∧ x75.writeQueue.count = 1 ∧
        exec x75 (.dataReceived [0x01, 0x3F] .zero) = none :=
  ⟨_, rfl, rfl, rfl, rfl⟩

end IsdnRas.X75
