import IsdnRas.Library.Runs
import IsdnRas.X75.Traffic

/-!
# The ledger of payloads

Between two purges, every accepted payload is in one of three places: it has
been released, it waits for its acknowledgement, or it waits to be sent. The
order of acceptance is the order of these places, with one exception.
`x75RequeueFrames` puts the unacknowledged frames behind the frames that were
never sent. The order survives exactly when the two lists commute
(`balanced_requeue_iff`), for instance when one of them is empty, and along a
run in which they always do the ledger is in balance (`ledger_balanced`).
-/

set_option autoImplicit false

namespace IsdnRas.X75

/-! ## Balance -/

/-- Released, unacknowledged and waiting payloads are the accepted ones, counted
from `start`. -/
def Balanced (start x75 : X75Cb) : Prop :=
  ∃ released accepted, releasedOf x75.events = releasedOf start.events ++ released ∧
    acceptedOf x75.events = acceptedOf start.events ++ accepted ∧
    released ++ x75.ackQueue.msgs ++ x75.writeQueue.msgs = accepted

/-- How often the queues have been purged. -/
def purges (x75 : X75Cb) : Nat := x75.events.count .queuesCleared

section Places

variable {start x75 after : X75Cb}

theorem Balanced.of_same (same : SameTraffic x75 after) (balanced : Balanced start x75) :
    Balanced start after := by
  rwa [Balanced, same.releasedOf_eq, same.acceptedOf_eq, same.ackQueue, same.writeQueue]

/-- Control blocks with the same queues and the same events. -/
theorem Balanced.of_fields (writeQueue : after.writeQueue = x75.writeQueue)
    (ackQueue : after.ackQueue = x75.ackQueue) (events : after.events = x75.events)
    (balanced : Balanced start x75) : Balanced start after := by
  rwa [Balanced, events, ackQueue, writeQueue]

theorem Balanced.accept (balanced : Balanced start x75) (skb : Bytes) :
    Balanced start (enqueueData x75 skb) := by
  obtain ⟨released, accepted, reads, reads', rfl⟩ := balanced
  refine ⟨released, _, ?_, ?_, rfl⟩
  · rw [enqueueData, releasedOf_append, reads]
    exact List.append_nil _
  · rw [enqueueData, acceptedOf_append, reads']
    simp [acceptedOf]

/-- Releasing moves the head of the acknowledgement queue to the released
payloads. -/
theorem Balanced.acknowledge (balanced : Balanced start x75) (rounds : Nat) :
    Balanced start (acknowledge x75 rounds) := by
  obtain ⟨released, accepted, reads, reads', rfl⟩ := balanced
  refine ⟨released ++ x75.ackQueue.msgs.take rounds, _, ?_, ?_, rfl⟩
  · rw [releasedOf_acknowledge, reads, List.append_assoc]
  · rw [acceptedOf_acknowledge, reads', acknowledge_ackQueue_msgs, acknowledge_writeQueue,
      List.append_assoc released (List.take _ _), List.take_append_drop]

/-- Sending moves the head of the write queue to the acknowledgement queue. -/
theorem Balanced.sendFirst (balanced : Balanced start x75) (k : Nat) :
    Balanced start (sendFirst x75 k) := by
  obtain ⟨released, accepted, reads, reads', rfl⟩ := balanced
  refine ⟨released, _, ?_, ?_, rfl⟩
  · rw [sendFirst_events, releasedOf_append, releasedOf_iframesFrom, List.append_nil, reads]
  · rw [sendFirst_events, acceptedOf_append, acceptedOf_iframesFrom, List.append_nil, reads',
      sendFirst_ackQueue_msgs, sendFirst_writeQueue_msgs]
    simp

/-- **Queueing the frames again keeps the balance exactly when the two lists
commute.** -/
theorem balanced_requeue_iff (balanced : Balanced start x75) (vs va : Nat) :
    Balanced start (requeued x75 vs va) ↔
      x75.writeQueue.msgs ++ x75.ackQueue.msgs = x75.ackQueue.msgs ++ x75.writeQueue.msgs := by
  obtain ⟨released, accepted, reads, reads', rfl⟩ := balanced
  constructor
  · rintro ⟨released', _, again, again', rfl⟩
    obtain rfl : released' = released := List.append_cancel_left (again.symm.trans reads)
    have order := List.append_cancel_left (again'.symm.trans reads')
    simpa using order
  · intro commute
    refine ⟨released, _, reads, ?_, rfl⟩
    rw [requeued_ackQueue_msgs, requeued_writeQueue_msgs, List.append_nil, commute,
      ← List.append_assoc released]
    exact reads'

end Places

/-! ## Runs -/

/-- The operation does not forget the queues by registering again, and when it
queues unacknowledged frames again they commute with the frames that wait. -/
def KeepsOrder (x75 : X75Cb) (op : Op) : Prop :=
  op.isRegister = false ∧ ∀ rounds ∈ requeueRounds x75 op,
    x75.writeQueue.msgs ++ x75.ackQueue.msgs.drop rounds =
      x75.ackQueue.msgs.drop rounds ++ x75.writeQueue.msgs

instance (x75 : X75Cb) (op : Op) : Decidable (KeepsOrder x75 op) :=
  inferInstanceAs (Decidable (_ ∧ _))

section Step

variable {start x75 before sent : X75Cb} {op : Op}

/-- A change that is not a purge keeps the balance. -/
theorem Balanced.change (balanced : Balanced start x75) (keeps : KeepsOrder x75 op)
    (change : TrafficChange x75 op before) (unpurged : purges before ≤ purges x75) :
    Balanced start before := by
  cases change with
  | kept same => exact balanced.of_same same
  | accepted skb => exact balanced.accept skb
  | purged _ same =>
      have once : purges before = purges x75 + 1 := by
        rw [purges, same.count_eq rfl]
        exact List.count_append.trans rfl
      omega
  | setUp _ same => exact Balanced.of_same same (balanced.of_fields rfl rfl rfl)
  | acked frame _ _ _ _ same => exact (balanced.acknowledge _).of_same same
  | requeued vs va _ requeues same =>
      refine Balanced.of_same same ((balanced_requeue_iff (balanced.acknowledge _) vs va).mpr ?_)
      exact keeps.2 _ requeues
  | parameters => exact balanced.of_fields rfl rfl rfl
  | registered => exact absurd keeps.1 (by simp [Op.isRegister])

theorem Balanced.kick (balanced : Balanced start before) (kicked : KickChange before sent) :
    Balanced start sent := by
  cases kicked with
  | none => exact balanced
  | sent _ _ same =>
      have started : Balanced start { before with vs := kickStart before } :=
        balanced.of_fields rfl rfl rfl
      exact (started.sendFirst _).of_same same

/-- `x75Kick` does not purge. -/
theorem purges_kick (kicked : KickChange before sent) : purges sent = purges before := by
  cases kicked with
  | none => rfl
  | @sent k _ _ _ same =>
      have quiet : List.count .queuesCleared (iframesFrom { before with vs := kickStart before }
          (kickStart before) (before.writeQueue.msgs.take k)) = 0 := by
        refine List.count_eq_zero.mpr fun member => ?_
        obtain ⟨_, _, -, same⟩ := mem_iframesFrom member
        cases same
      rw [purges, same.count_eq rfl, sendFirst_events, List.count_append, quiet]
      rfl

/-- An operation that purges nothing and keeps the order keeps the balance. -/
theorem balanced_step {after : X75Cb} (wellFormed : x75.WellFormed) (keeps : KeepsOrder x75 op)
    (taken : exec x75 op = some after) (balanced : Balanced start x75)
    (unpurged : purges after ≤ purges x75) : Balanced start after := by
  obtain ⟨before, sent, change, kicked, same, -⟩ := exec_change wellFormed taken
  have last : purges after = purges before := by
    rw [← purges_kick kicked, purges, same.count_eq rfl, purges]
  have balanced' : Balanced start before := balanced.change keeps change (by omega)
  exact (balanced'.kick kicked).of_same same

end Step

/-- The invariant of runs that keep the order: unless the queues were purged
since `start`, the ledger is in balance. -/
theorem balanced_of_reached {start x75 : X75Cb} (wellFormed : start.WellFormed)
    (empty : start.ackQueue.msgs = [] ∧ start.writeQueue.msgs = [])
    (reached : Reached exec KeepsOrder start x75) :
    x75.WellFormed ∧ start.events <+: x75.events ∧
      (purges x75 = purges start → Balanced start x75) := by
  refine reached.invariant (fun x75 => x75.WellFormed ∧ start.events <+: x75.events ∧
      (purges x75 = purges start → Balanced start x75)) ⟨wellFormed, List.prefix_rfl, ?_⟩ ?_
  · intro _
    exact ⟨[], [], (List.append_nil _).symm, (List.append_nil _).symm, by simp [empty]⟩
  · rintro state next op ⟨wellFormed, grown, balanced⟩ keeps taken
    have appended := exec_events wellFormed taken
    refine ⟨wellFormed.step taken, grown.trans appended, fun unpurged => ?_⟩
    have first : purges start ≤ purges state := grown.sublist.count_le _
    have second : purges state ≤ purges next := appended.sublist.count_le _
    exact balanced_step wellFormed keeps taken (balanced (by omega)) (by omega)

/-- **The ledger.** From a control block with empty queues on, as long as the
queues are not purged and frames are queued again only when that keeps the
order, the released payloads, the unacknowledged ones and the waiting ones are
the accepted ones, in the order of acceptance. -/
theorem ledger_balanced {start x75 : X75Cb} (wellFormed : start.WellFormed)
    (empty : start.ackQueue.msgs = [] ∧ start.writeQueue.msgs = [])
    (reached : Reached exec KeepsOrder start x75) {log : List Event}
    (appended : x75.events = start.events ++ log) (unpurged : .queuesCleared ∉ log) :
    releasedOf log ++ x75.ackQueue.msgs ++ x75.writeQueue.msgs = acceptedOf log := by
  obtain ⟨-, -, balanced⟩ := balanced_of_reached wellFormed empty reached
  have same : purges x75 = purges start := by
    rw [purges, appended, List.count_append, List.count_eq_zero.mpr unpurged, purges]
    rfl
  obtain ⟨released, accepted, reads, reads', rfl⟩ := balanced same
  rw [appended, releasedOf_append] at reads
  rw [appended, acceptedOf_append] at reads'
  rw [List.append_cancel_left reads, List.append_cancel_left reads']

/-- A DCE in state 3 with a window of one. -/
def narrowLink : X75Cb :=
  { x75Register zeroed .all with state := .state3, window := 1 }

theorem wellFormed_narrowLink : narrowLink.WellFormed where
  window_pos := Nat.one_pos
  window_lt := by decide
  sequence := fun _ => by decide

/-- A frame is sent, its repetition is requested, and it is acknowledged. -/
theorem ledger_balanced_rej :
    ∃ x75, runOps exec narrowLink [.dataRequest [0x41], .dataReceived [0x01, 0x09] .zero,
        .dataReceived [0x01, 0x21] .zero] = some x75 ∧
      releasedOf x75.events ++ x75.ackQueue.msgs ++ x75.writeQueue.msgs =
        acceptedOf x75.events := by
  have meets : MeetsAlong exec KeepsOrder narrowLink [.dataRequest [0x41],
      .dataReceived [0x01, 0x09] .zero, .dataReceived [0x01, 0x21] .zero] := by decide
  refine ⟨_, rfl, ledger_balanced wellFormed_narrowLink ⟨rfl, rfl⟩
    (reached_of_meetsAlong _ .refl meets rfl) rfl (by decide)⟩

/-- **A requeue behind a waiting frame breaks the order.** The window is full and
a second payload waits when the peer rejects the first frame. The second payload
is then sent in its place. -/
theorem requeue_breaks_ledger :
    ∃ x75, runOps exec narrowLink [.dataRequest [0x41], .dataRequest [0x42],
        .dataReceived [0x01, 0x09] .zero] = some x75 ∧
      .queuesCleared ∉ x75.events ∧ acceptedOf x75.events = [[0x41], [0x42]] ∧
        releasedOf x75.events ++ x75.ackQueue.msgs ++ x75.writeQueue.msgs = [[0x42], [0x41]] :=
  ⟨_, rfl, by decide, rfl, rfl⟩

end IsdnRas.X75
