import Mathlib.Data.List.Forall2
import IsdnRas.Library.GoBackN
import IsdnRas.X75.QueueCounts
import IsdnRas.X75.Ledger

/-!
# One end of a link

A control block in state 3 whose peer speaks the same modulus behaves like a
station of the go-back-N protocol. Its sequence variables are the remainders of
the numbers a station counts without bound (`Tracks`), and a frame on the wire
stands for a frame with such numbers (`Represents`).

V(S) is never pulled back below what was sent: when frames have been queued again
`x75Kick` sends at least as many as had been sent before (`Tracks.kick`), and the
payload that an I-frame carries stands in the two queues at the place of its
number. What an operation does before `x75Kick` is an `Arrival`.
-/

set_option autoImplicit false

namespace IsdnRas.X75

open GoBackN

/-! ## Frames on the wire -/

/-- A frame on the wire stands for a frame with unbounded numbers. -/
def Represents (mode : UInt32) (bytes : Bytes) (frame : Frame Bytes) : Prop :=
  match frame.data with
  | none => IsAnswer mode (frame.nr % modulusOf mode) bytes
  | some (ns, skb) => ∃ sender : X75Cb, sender.mode = mode ∧
      sender.vr = frame.nr % modulusOf mode ∧ sender.vs = ns % modulusOf mode ∧
        ∃ addr, bytes = addr :: iframeField sender skb x75Polloff

def IsFrmr (bytes : Bytes) : Prop := controlByte bytes = some x75Frmr.toUInt8

section Frames

variable {mode : UInt32} {bytes : Bytes} {frame : Frame Bytes}

/-- A frame that carries an N(R) is no unnumbered frame. -/
theorem not_isFrmr_of_frameNr {extended : Bool} {nr : Nat}
    (read : frameNr extended bytes = some nr) : ¬ IsFrmr bytes := by
  intro frmr
  have unnumbered : IsUnnumbered bytes := ⟨_, frmr, by decide⟩
  rw [unnumbered.frameNr_eq_none] at read
  cases read

theorem IsAnswer.not_isFrmr {vr : Nat} (answer : IsAnswer mode vr bytes) : ¬ IsFrmr bytes := by
  obtain ⟨sender, -, -, frametype, type, pollBit, addr, rfl⟩ := answer
  have supervisory : IsSupervisory frametype := by
    rcases type with rr | rej
    · exact .inl rr
    · exact .inr (.inr rej)
  exact not_isFrmr_of_frameNr (supervisory_frame sender supervisory pollBit addr).2

theorem Represents.not_isFrmr (represents : Represents mode bytes frame) : ¬ IsFrmr bytes := by
  rcases frame with ⟨nr, - | ⟨ns, skb⟩⟩
  · exact IsAnswer.not_isFrmr represents
  · obtain ⟨sender, rfl, -, vs, addr, rfl⟩ := represents
    have vs_lt : sender.vs < sender.modulus := vs ▸ Nat.mod_lt _ (modulus_pos sender.mode)
    exact not_isFrmr_of_frameNr (iframe_frame sender vs_lt skb x75Polloff addr).2

/-- What a receiver with the same modulus decodes. -/
theorem Represents.decode {receiver : X75Cb} (represents : Represents mode bytes frame)
    (same : receiver.extended = extendedMode mode) (stack : X75Frame) :
    ∃ decoded rest, x75Decode receiver bytes stack = some (decoded, rest) ∧
      decoded.nr = frame.nr % receiver.modulus ∧
      (frame.data = none ∧ (decoded.type = x75Rr ∨ decoded.type = x75Rej) ∨
        ∃ ns, frame.data = some (ns, rest) ∧ decoded.type = x75I ∧
          decoded.ns = ns % receiver.modulus) := by
  have modulus : receiver.modulus = modulusOf mode := by
    rw [X75Cb.modulus, modulusOf, modulusOf, ← same]
  rw [modulus]
  rcases frame with ⟨nr, - | ⟨ns, skb⟩⟩
  · obtain ⟨sender, rfl, vr, frametype, type, pollBit, addr, rfl⟩ := represents
    have supervisory : IsSupervisory frametype := by
      rcases type with rr | rej
      · exact .inl rr
      · exact .inr (.inr rej)
    obtain ⟨decoded, read, decodedType, nr_eq, -, -⟩ :=
      decode_supervisory receiver sender supervisory pollBit addr stack same
    refine ⟨decoded, [], read, ?_, .inl ⟨rfl, ?_⟩⟩
    · rw [nr_eq, vr, Nat.mod_mod]
    · rwa [decodedType]
  · obtain ⟨sender, rfl, vr, vs, addr, rfl⟩ := represents
    have vs_lt : sender.vs < sender.modulus := vs ▸ Nat.mod_lt _ (modulus_pos sender.mode)
    obtain ⟨decoded, read, decodedType, ns_eq, nr_eq, -, -⟩ :=
      decode_iframe receiver sender vs_lt skb x75Polloff addr stack same
    refine ⟨decoded, skb, read, ?_, .inr ⟨ns, rfl, decodedType, ns_eq.trans vs⟩⟩
    rw [nr_eq, vr, Nat.mod_mod]

end Frames

/-! ## Tracking a station -/

/-- The control block is in state 3 and its variables are the remainders of what
the station has counted. The acknowledgement queue holds the frames from the
acknowledged to the sent numbers, unless they have just been queued again. Then
the write queue holds enough to send them all. -/
structure Tracks (x75 : X75Cb) (station : Station) : Prop where
  connected : x75.state = .state3
  va : x75.va = station.acked % x75.modulus
  vs : x75.vs = station.sent % x75.modulus
  vr : x75.vr = station.received % x75.modulus
  idle : testFlag x75.condition x75PeerRxBusyCondition = false
  window_lt : x75.window < x75.modulus
  acked_le : station.acked ≤ station.sent
  within : station.sent ≤ station.acked + x75.window
  unacked : x75.ackQueue.msgs = [] ∨
    x75.ackQueue.msgs.length = station.sent - station.acked
  stock : station.sent ≤
    station.acked + x75.ackQueue.msgs.length + x75.writeQueue.msgs.length
  ackCount : x75.ackQueue.Congruent
  writeCount : x75.writeQueue.Congruent

theorem modulus_le (mode : UInt32) : modulusOf mode ≤ 128 := by
  unfold modulusOf
  split <;> decide

namespace Tracks

variable {x75 after : X75Cb} {station : Station}

theorem congr (tracks : Tracks x75 station) (state : after.state = x75.state)
    (mode : after.mode = x75.mode) (window : after.window = x75.window)
    (va : after.va = x75.va) (vs : after.vs = x75.vs) (vr : after.vr = x75.vr)
    (busy : testFlag after.condition x75PeerRxBusyCondition =
      testFlag x75.condition x75PeerRxBusyCondition)
    (writeQueue : after.writeQueue = x75.writeQueue) (ackQueue : after.ackQueue = x75.ackQueue) :
    Tracks after station := by
  have modulus : after.modulus = x75.modulus := by rw [X75Cb.modulus, mode, X75Cb.modulus]
  constructor
  case connected => exact state.trans tracks.connected
  case va => rw [va, modulus]; exact tracks.va
  case vs => rw [vs, modulus]; exact tracks.vs
  case vr => rw [vr, modulus]; exact tracks.vr
  case idle => exact busy.trans tracks.idle
  case window_lt => rw [window, modulus]; exact tracks.window_lt
  case acked_le => exact tracks.acked_le
  case within => rw [window]; exact tracks.within
  case unacked => rw [ackQueue]; exact tracks.unacked
  case stock => rw [ackQueue, writeQueue]; exact tracks.stock
  case ackCount => rw [ackQueue]; exact tracks.ackCount
  case writeCount => rw [writeQueue]; exact tracks.writeCount

theorem inModulus (tracks : Tracks x75 station) : x75.InModulus := by
  have positive := modulus_pos x75.mode
  refine ⟨?_, ?_, ?_⟩
  · rw [tracks.vs]
    exact Nat.mod_lt _ positive
  · rw [tracks.vr]
    exact Nat.mod_lt _ positive
  · rw [tracks.va]
    exact Nat.mod_lt _ positive

theorem wellFormed (tracks : Tracks x75 station) (window_pos : 0 < x75.window) :
    x75.WellFormed := ⟨window_pos, tracks.window_lt, fun _ => tracks.inModulus⟩

/-- The acknowledgement queue is within the window, so its counter is exact. -/
theorem ack_exact (tracks : Tracks x75 station) : x75.ackQueue.Exact := by
  have window_lt := tracks.window_lt
  have within := tracks.within
  have modulus : x75.modulus ≤ 128 := modulus_le x75.mode
  refine tracks.ackCount.exact ?_
  rcases tracks.unacked with none | length
  · rw [none]
    exact Nat.two_pow_pos 32
  · rw [length]
    omega

/-- **Every number between the acknowledged and the sent ones is a valid N(R).** -/
theorem validateNr (tracks : Tracks x75 station) {nr : Nat} (low : station.acked ≤ nr)
    (high : nr ≤ station.sent) : x75ValidateNr x75 (nr % x75.modulus) = true := by
  obtain ⟨vs_lt, -, va_lt⟩ := tracks.inModulus
  have window_lt := tracks.window_lt
  have within := tracks.within
  rw [x75ValidateNr_iff va_lt vs_lt (Nat.mod_lt _ (modulus_pos x75.mode)), tracks.va, tracks.vs,
    seqDist_mod low (by omega), seqDist_mod tracks.acked_le (by omega)]
  omega

/-- Releasing what an N(R) acknowledges. Nothing is released right after frames
have been queued again and not been sent. -/
theorem acknowledge (tracks : Tracks x75 station) {nr : Nat} (low : station.acked ≤ nr)
    (high : nr ≤ station.sent) :
    station.acked + ackRounds x75 (nr % x75.modulus) ≤ nr ∧
      ackRounds x75 (nr % x75.modulus) ≤ x75.ackQueue.msgs.length ∧
      Tracks (X75.acknowledge x75 (ackRounds x75 (nr % x75.modulus)))
        { station with acked := station.acked + ackRounds x75 (nr % x75.modulus) } := by
  have window_lt := tracks.window_lt
  have within := tracks.within
  have exact' := tracks.ack_exact
  have stock := tracks.stock
  have le := ackRounds_le exact' (nr % x75.modulus)
  have rounds : ackRounds x75 (nr % x75.modulus) ≤ nr - station.acked := by
    rw [ackRounds, if_pos (Nat.le_of_eq exact'), tracks.va, seqDist_mod low (by omega)]
    exact Nat.min_le_left _ _
  generalize ackRounds x75 (nr % x75.modulus) = k at le rounds ⊢
  refine ⟨by omega, le, ?_⟩
  constructor
  case connected => exact tracks.connected
  case va =>
      rw [acknowledge_va, tracks.va]
      exact Nat.mod_add_mod ..
  case vs => exact tracks.vs
  case vr => exact tracks.vr
  case idle => exact tracks.idle
  case window_lt => exact tracks.window_lt
  case acked_le => exact (by omega : station.acked + k ≤ station.sent)
  case within => exact (by omega : station.sent ≤ station.acked + k + x75.window)
  case unacked =>
      simp only [acknowledge_ackQueue_msgs]
      rcases tracks.unacked with none | length
      · exact .inl (by rw [none, List.drop_nil])
      · refine .inr ?_
        rw [List.length_drop, length]
        omega
  case stock =>
      simp only [acknowledge_ackQueue_msgs, acknowledge_writeQueue, List.length_drop]
      omega
  case ackCount =>
      rw [X75.acknowledge, Nat.min_eq_left le]
      exact tracks.ackCount.drop le
  case writeCount => exact tracks.writeCount

/-- Queueing the unacknowledged frames again. -/
theorem requeue (tracks : Tracks x75 station) :
    Tracks (requeued x75 x75.vs x75.va) station := by
  have stock := tracks.stock
  constructor
  case unacked => exact .inl rfl
  case stock =>
      simp only [requeued_ackQueue_msgs, requeued_writeQueue_msgs, List.length_append,
        List.length_nil]
      omega
  case ackCount =>
      have emptied := tracks.ackCount.drop (Nat.le_refl _)
      rwa [List.drop_length] at emptied
  case writeCount => exact tracks.writeCount.append _
  all_goals first
    | exact tracks.connected
    | exact tracks.va
    | exact tracks.vs
    | exact tracks.vr
    | exact tracks.idle
    | exact tracks.window_lt
    | exact tracks.acked_le
    | exact tracks.within

theorem accept (tracks : Tracks x75 station) (skb : Bytes) :
    Tracks (enqueueData x75 skb) station := by
  have stock := tracks.stock
  constructor
  case stock =>
      simp only [enqueueData, CountedQueue.enqueue_msgs, List.length_append]
      omega
  case unacked => exact tracks.unacked
  case ackCount => exact tracks.ackCount
  case writeCount => exact tracks.writeCount.append [skb]
  all_goals first
    | exact tracks.connected
    | exact tracks.va
    | exact tracks.vs
    | exact tracks.vr
    | exact tracks.idle
    | exact tracks.window_lt
    | exact tracks.acked_le
    | exact tracks.within

end Tracks

/-! ## What is transmitted -/

/-- The frames transmitted in `log` stand for `out`. They carry the numbers of
the station, and a payload stands in the queues at the place of its number. -/
structure Emits (x75 : X75Cb) (station : Station) (log : List Event)
    (out : List (Frame Bytes)) : Prop where
  represents : List.Forall₂ (Represents x75.mode) (sentOf log) out
  answers : ∀ frame ∈ out, frame.nr = station.received
  numbers : ∀ entry ∈ dataOf out, station.acked ≤ entry.1 ∧ entry.1 < station.sent
  queued : ∀ entry ∈ dataOf out,
    (x75.ackQueue.msgs ++ x75.writeQueue.msgs)[entry.1 - station.acked]? = some entry.2

/-- The frames of consecutive payloads. -/
def numbered (nr : Nat) : Nat → List Bytes → List (Frame Bytes)
  | _, [] => []
  | ns, skb :: rest => ⟨nr, some (ns, skb)⟩ :: numbered nr (ns + 1) rest

theorem nr_of_mem_numbered {nr : Nat} {frame : Frame Bytes} {msgs : List Bytes} :
    ∀ {ns : Nat}, frame ∈ numbered nr ns msgs → frame.nr = nr := by
  induction msgs with
  | nil =>
      intro ns member
      cases member
  | cons skb rest ih =>
      intro ns member
      rcases List.mem_cons.mp member with rfl | later
      · rfl
      · exact ih later

theorem mem_dataOf_numbered {nr : Nat} {entry : Nat × Bytes} {msgs : List Bytes} :
    ∀ {ns : Nat}, entry ∈ dataOf (numbered nr ns msgs) →
      ∃ i, entry.1 = ns + i ∧ msgs[i]? = some entry.2 := by
  induction msgs with
  | nil =>
      intro ns member
      cases member
  | cons skb rest ih =>
      intro ns member
      rcases List.mem_cons.mp member with rfl | later
      · exact ⟨0, rfl, rfl⟩
      · obtain ⟨i, number, read⟩ := ih later
        exact ⟨i + 1, by omega, read⟩

section Transmit

variable {x75 : X75Cb} {nr : Nat}

/-- I-frames stand for numbered payloads. -/
theorem represents_iframesFrom (installed : x75.callbacks.dataTransmit = true)
    (vr : x75.vr = nr % x75.modulus) (msgs : List Bytes) : ∀ ns : Nat,
      List.Forall₂ (Represents x75.mode) (sentOf (iframesFrom x75 (ns % x75.modulus) msgs))
        (numbered nr ns msgs) := by
  induction msgs with
  | nil =>
      intro ns
      exact .nil
  | cons skb rest ih =>
      intro ns
      have later := ih (ns + 1)
      rw [← Nat.mod_add_mod] at later
      have first : sentOf (transmitted x75
          (iframeField { x75 with vs := ns % x75.modulus } skb x75Polloff) x75Command) =
          [x75Address x75 x75Command ::
            iframeField { x75 with vs := ns % x75.modulus } skb x75Polloff] := by
        rw [transmitted, called, if_pos installed]
        rfl
      rw [iframesFrom, sentOf_append, first]
      exact .cons ⟨{ x75 with vs := ns % x75.modulus }, rfl, vr, rfl, _, rfl⟩ later

/-- Without the call-back nothing is transmitted. -/
theorem sentOf_iframesFrom_eq_nil (missing : x75.callbacks.dataTransmit = false)
    (msgs : List Bytes) : ∀ vs : Nat, sentOf (iframesFrom x75 vs msgs) = [] := by
  induction msgs with
  | nil =>
      intro vs
      rfl
  | cons skb rest ih =>
      intro vs
      rw [iframesFrom, sentOf_append, ih, transmitted, called, missing]
      rfl

end Transmit

/-! ## The turn of a station -/

/-- Events that lead from one control block to another, which tracks a station. -/
structure Moves (x75 after : X75Cb) (station : Station) (log : List Event) : Prop where
  tracks : Tracks after station
  mode : after.mode = x75.mode
  window : after.window = x75.window
  callbacks : after.callbacks = x75.callbacks
  events : after.events = x75.events ++ log

/-- The numbers that `x75Kick` sends: `k` of them from where the acknowledgement
queue ends, at least up to what was sent before and at most up to the window. -/
structure KickRange (x75 : X75Cb) (station : Station) (first k : Nat) : Prop where
  start : kickStart x75 = first % x75.modulus
  place : first = station.acked + x75.ackQueue.msgs.length
  stocked : k ≤ x75.writeQueue.msgs.length
  lower : station.sent ≤ first + k
  upper : first + k ≤ station.acked + x75.window

section Kick

variable {x75 after : X75Cb} {station : Station} {first k : Nat}

/-- Where `x75Kick` starts. -/
theorem Tracks.kick_start (tracks : Tracks x75 station) :
    ∃ first, kickStart x75 = first % x75.modulus ∧
      first = station.acked + x75.ackQueue.msgs.length ∧
        (x75.ackQueue.msgs = [] ∨ first = station.sent) := by
  have acked_le := tracks.acked_le
  rw [kickStart]
  by_cases none : x75.ackQueue.msgs = []
  · rw [if_pos (tracks.ack_exact.count_eq_zero_iff.mpr none), none]
    exact ⟨station.acked, tracks.va, rfl, .inl rfl⟩
  · have length := tracks.unacked.resolve_left none
    rw [if_neg fun zero => none (tracks.ack_exact.count_eq_zero_iff.mp zero)]
    exact ⟨station.sent, tracks.vs, by omega, .inr rfl⟩

theorem Tracks.kick_range (tracks : Tracks x75 station) (ready : KickReady x75)
    (count : KickCount { x75 with vs := kickStart x75 } (kickStop x75) k) :
    ∃ first, KickRange x75 station first k := by
  obtain ⟨first, start, place, low⟩ := tracks.kick_start
  have within := tracks.within
  have window_lt := tracks.window_lt
  have stock := tracks.stock
  have stop : kickStop x75 = (station.acked + x75.window) % x75.modulus := by
    rw [kickStop, tracks.va, Nat.mod_add_mod]
  have walk : ∀ j, (kickStart x75 + j) % x75.modulus = (first + j) % x75.modulus := by
    intro j
    rw [start, Nat.mod_add_mod]
  have le : first ≤ station.acked + x75.window := by
    rcases low with none | sent
    · rw [none, List.length_nil] at place
      omega
    · omega
  have room : first < station.acked + x75.window := by
    refine Nat.lt_of_le_of_ne le fun full => ready.2.1 ?_
    rw [start, stop, full]
  have upper : first + k ≤ station.acked + x75.window := by
    by_contra beyond
    refine count.running (station.acked + x75.window - first) (by omega) (by omega) ?_
    exact (walk _).trans (by rw [Nat.add_sub_cancel' le, stop])
  refine ⟨first, start, place, count.le_length, ?_, upper⟩
  rcases low with none | sent
  · rw [none, List.length_nil] at place stock
    rcases count.ended with all | full
    · have all' : k = x75.writeQueue.msgs.length := all
      omega
    · have same : (first + k) % x75.modulus = (station.acked + x75.window) % x75.modulus :=
        (walk k).symm.trans (full.trans stop)
      have := mod_inj_of_near (by omega) (by omega) same
      omega
  · omega

namespace KickRange

theorem length_take (range : KickRange x75 station first k) :
    (x75.writeQueue.msgs.take k).length = k := by
  rw [List.length_take, Nat.min_eq_left range.stocked]

theorem tracks (range : KickRange x75 station first k) (tracks : Tracks x75 station) :
    Tracks (afterKick x75 k) { station with sent := first + k } := by
  have place := range.place
  have stocked := range.stocked
  constructor
  case connected => exact tracks.connected
  case va => exact tracks.va
  case vs =>
      rw [afterKick_vs, range.start]
      exact Nat.mod_add_mod ..
  case vr => exact tracks.vr
  case idle => exact (busy_clearFlag_ack x75.condition).trans tracks.idle
  case window_lt => exact tracks.window_lt
  case acked_le => exact (by omega : station.acked ≤ first + k)
  case within => exact range.upper
  case unacked =>
      refine .inr ?_
      change (x75.ackQueue.msgs ++ x75.writeQueue.msgs.take k).length = first + k - station.acked
      rw [List.length_append, range.length_take]
      omega
  case stock =>
      change first + k ≤ station.acked + (x75.ackQueue.msgs ++ x75.writeQueue.msgs.take k).length +
        (x75.writeQueue.msgs.drop k).length
      rw [List.length_append, range.length_take, List.length_drop]
      omega
  case ackCount =>
      have grown := tracks.ackCount.append (x75.writeQueue.msgs.take k)
      rwa [range.length_take] at grown
  case writeCount => exact tracks.writeCount.drop range.stocked

theorem emits (range : KickRange x75 station first k) (tracks : Tracks x75 station) :
    ∃ out, Emits (afterKick x75 k) { station with sent := first + k }
      (iframesFrom { x75 with vs := kickStart x75 } (kickStart x75) (x75.writeQueue.msgs.take k))
      out := by
  have place := range.place
  have length := range.length_take
  cases installed : ({ x75 with vs := kickStart x75 } : X75Cb).callbacks.dataTransmit with
  | false =>
      refine ⟨[], ?_, by simp, by simp [dataOf], by simp [dataOf]⟩
      rw [sentOf_iframesFrom_eq_nil installed]
      exact .nil
  | true =>
      refine ⟨numbered station.received first (x75.writeQueue.msgs.take k), ?_,
        fun frame => nr_of_mem_numbered, ?_, ?_⟩
      · have represents := represents_iframesFrom installed tracks.vr
          (x75.writeQueue.msgs.take k) first
        rw [range.start]
        rw [range.start] at represents
        exact represents
      · intro entry member
        obtain ⟨i, number, read⟩ := mem_dataOf_numbered member
        have bound := (List.getElem?_eq_some_iff.mp read).1
        exact ⟨by simp only; omega, by simp only; omega⟩
      · intro entry member
        obtain ⟨i, number, read⟩ := mem_dataOf_numbered member
        have bound := (List.getElem?_eq_some_iff.mp read).1
        have index : entry.1 - station.acked = x75.ackQueue.msgs.length + i := by omega
        change ((x75.ackQueue.msgs ++ x75.writeQueue.msgs.take k) ++
          x75.writeQueue.msgs.drop k)[entry.1 - station.acked]? = some entry.2
        rw [index, List.append_assoc, List.getElem?_append_right (Nat.le_add_right ..),
          Nat.add_sub_cancel_left, List.getElem?_append_left bound]
        exact read

end KickRange

/-- **`x75Kick` is a turn that only sends.** -/
theorem Tracks.kick (tracks : Tracks x75 station) (kicked : x75Kick x75 = some after) :
    ∃ sent log out, station.sent ≤ sent ∧
      Moves x75 after { station with sent := sent } log ∧
      Emits after { station with sent := sent } log out ∧
      indicatedOf log = [] ∧ releasedOf log = [] := by
  rcases x75Kick_cases kicked with ⟨-, rfl⟩ | ⟨ready, k, count, rfl⟩
  · refine ⟨station.sent, [], [], Nat.le_refl _, ⟨tracks, rfl, rfl, rfl, ?_⟩, ?_, rfl, rfl⟩
    · exact (List.append_nil _).symm
    · exact ⟨.nil, by simp, by simp [dataOf], by simp [dataOf]⟩
  · obtain ⟨first, range⟩ := tracks.kick_range ready count
    obtain ⟨out, emits⟩ := range.emits tracks
    exact ⟨first + k, _, out, range.lower, ⟨range.tracks tracks, rfl, rfl, rfl, rfl⟩, emits,
      indicatedOf_iframesFrom .., releasedOf_iframesFrom ..⟩

end Kick

/-! ## Before `x75Kick` -/

/-- What happened to the payloads received: none was handed on, or the one with
the expected number was. -/
def Delivers (installed : Bool) (before : Station) (input : Option (Frame Bytes))
    (after : Station) (log : List Event) : Prop :=
  after.received = before.received ∧ indicatedOf log = [] ∨
    after.received = before.received + 1 ∧ ∃ frame ∈ input, ∃ skb,
      frame.data = some (before.received, skb) ∧ indicatedOf log = if installed then [skb] else []

/-- The part of an operation before `x75Kick`. It may release payloads, deliver
one, and send answers. -/
structure Arrival (x75 : X75Cb) (station : Station) (input : Option (Frame Bytes))
    (before : X75Cb) (station' : Station) (log : List Event) : Prop
    extends Moves x75 before station' log where
  sent_eq : station'.sent = station.sent
  acked_eq : station'.acked = station.acked + (releasedOf log).length
  released : station'.acked = station.acked ∨ ∃ frame ∈ input, station'.acked ≤ frame.nr
  delivers : Delivers x75.callbacks.dataIndication station input station' log
  answering : ∀ bytes ∈ sentOf log, IsAnswer x75.mode before.vr bytes

theorem acknowledge_log (x75 : X75Cb) (rounds : Nat) :
    ∃ log, (acknowledge x75 rounds).events = x75.events ++ log ∧ sentOf log = [] ∧
      indicatedOf log = [] ∧ releasedOf log = x75.ackQueue.msgs.take rounds := by
  have acked : ∀ event ∈ (x75.ackQueue.msgs.take rounds).map (fun skb => Event.acked (some skb)) ++
      List.replicate (rounds - x75.ackQueue.msgs.length) (.acked none),
      ∃ skb, event = .acked skb := by
    intro event member
    rcases List.mem_append.mp member with real | null
    · obtain ⟨skb, -, rfl⟩ := List.mem_map.mp real
      exact ⟨some skb, rfl⟩
    · exact ⟨none, (List.mem_replicate.mp null).2⟩
  refine ⟨_, acknowledge_events x75 rounds, ?_, ?_, ?_⟩
  · refine List.filterMap_eq_nil_iff.mpr fun event member => ?_
    obtain ⟨_, rfl⟩ := acked event member
    rfl
  · refine List.filterMap_eq_nil_iff.mpr fun event member => ?_
    obtain ⟨_, rfl⟩ := acked event member
    rfl
  · rw [releasedOf_append, releasedOf_acked, releasedOf_replicate_null, List.append_nil]

/-- Answers transmit answers and nothing else. -/
theorem AllAnswers.readings {mode : UInt32} {vr : Nat} {events : List Event}
    (answers : AllAnswers mode vr events) :
    (∀ bytes ∈ sentOf events, IsAnswer mode vr bytes) ∧ indicatedOf events = [] ∧
      releasedOf events = [] := by
  refine ⟨fun bytes member => ?_, answers.plain.indicatedOf_eq, answers.plain.releasedOf_eq⟩
  obtain ⟨event, inEvents, read⟩ := List.mem_filterMap.mp member
  obtain ⟨frame, rfl, answer⟩ := answers event inEvents
  exact Option.some.inj read ▸ answer

namespace Arrival

variable {x75 before after : X75Cb} {station station' : Station} {input : Option (Frame Bytes)}
  {frame : Frame Bytes} {log : List Event}

theorem refl (tracks : Tracks x75 station) (input : Option (Frame Bytes)) :
    Arrival x75 station input x75 station [] where
  tracks := tracks
  mode := rfl
  window := rfl
  callbacks := rfl
  events := (List.append_nil _).symm
  sent_eq := rfl
  acked_eq := rfl
  released := .inl rfl
  delivers := .inl ⟨rfl, rfl⟩
  answering := fun _ member => by cases member

/-- Changing the timers, the retry count, or the condition byte but for the busy
bit. -/
theorem congr (arrival : Arrival x75 station input before station' log)
    (state : after.state = before.state) (mode : after.mode = before.mode)
    (window : after.window = before.window) (callbacks : after.callbacks = before.callbacks)
    (va : after.va = before.va) (vs : after.vs = before.vs) (vr : after.vr = before.vr)
    (busy : testFlag after.condition x75PeerRxBusyCondition =
      testFlag before.condition x75PeerRxBusyCondition)
    (writeQueue : after.writeQueue = before.writeQueue)
    (ackQueue : after.ackQueue = before.ackQueue) (events : after.events = before.events) :
    Arrival x75 station input after station' log where
  tracks := arrival.tracks.congr state mode window va vs vr busy writeQueue ackQueue
  mode := mode.trans arrival.mode
  window := window.trans arrival.window
  callbacks := callbacks.trans arrival.callbacks
  events := events.trans arrival.events
  sent_eq := arrival.sent_eq
  acked_eq := arrival.acked_eq
  released := arrival.released
  delivers := arrival.delivers
  answering := by
    rw [vr]
    exact arrival.answering

theorem note (arrival : Arrival x75 station input before station' log) {condition : UInt8}
    {events : List Event} (answers : AllAnswers before.mode before.vr events)
    (busy : testFlag condition x75PeerRxBusyCondition =
      testFlag before.condition x75PeerRxBusyCondition) :
    Arrival x75 station input (before.note condition events) station' (log ++ events) := by
  obtain ⟨sent, indicated, released⟩ := answers.readings
  constructor
  case toMoves =>
      refine ⟨arrival.tracks.congr rfl rfl rfl rfl rfl rfl busy rfl rfl, arrival.mode,
        arrival.window, arrival.callbacks, ?_⟩
      rw [X75Cb.note_events, arrival.events, List.append_assoc]
  case sent_eq => exact arrival.sent_eq
  case acked_eq =>
      rw [releasedOf_append, released, List.append_nil]
      exact arrival.acked_eq
  case released => exact arrival.released
  case delivers =>
      rw [Delivers, indicatedOf_append, indicated, List.append_nil]
      exact arrival.delivers
  case answering =>
      intro bytes member
      rcases List.mem_append.mp (sentOf_append log events ▸ member) with old | new
      · exact arrival.answering bytes old
      · exact arrival.mode ▸ sent bytes new

/-- Releasing what the frame acknowledges. -/
theorem acknowledge (arrival : Arrival x75 station (some frame) before station' log)
    (unreleased : station'.acked = station.acked) (low : station.acked ≤ frame.nr)
    (high : frame.nr ≤ station.sent) :
    ∃ released, sentOf released = [] ∧ Arrival x75 station (some frame)
      (X75.acknowledge before (ackRounds before (frame.nr % before.modulus)))
      { station' with acked :=
          station'.acked + ackRounds before (frame.nr % before.modulus) } (log ++ released) := by
  obtain ⟨le_nr, le_length, tracks⟩ := arrival.tracks.acknowledge (unreleased ▸ low)
    (arrival.sent_eq ▸ high)
  generalize ackRounds before (frame.nr % before.modulus) = rounds at le_nr le_length tracks ⊢
  obtain ⟨more, events, silent, indicated, released⟩ := acknowledge_log before rounds
  refine ⟨more, silent, ?_⟩
  constructor
  case toMoves =>
      refine ⟨tracks, arrival.mode, arrival.window, arrival.callbacks, ?_⟩
      rw [events, arrival.events, List.append_assoc]
  case sent_eq => exact arrival.sent_eq
  case acked_eq =>
      have before_eq := arrival.acked_eq
      rw [releasedOf_append, released, List.length_append, List.length_take,
        Nat.min_eq_left le_length]
      exact (by omega : station'.acked + rounds =
        station.acked + ((releasedOf log).length + rounds))
  case released => exact .inr ⟨frame, rfl, le_nr⟩
  case delivers =>
      rw [Delivers, indicatedOf_append, indicated, List.append_nil]
      exact arrival.delivers
  case answering =>
      rw [sentOf_append, silent, List.append_nil]
      exact arrival.answering

theorem requeue (arrival : Arrival x75 station input before station' log) :
    Arrival x75 station input (x75RequeueFrames before) station' log := by
  rw [x75RequeueFrames_eq]
  exact ⟨⟨arrival.tracks.requeue, arrival.mode, arrival.window, arrival.callbacks,
    arrival.events⟩, arrival.sent_eq, arrival.acked_eq, arrival.released, arrival.delivers,
    arrival.answering⟩

theorem receiveInSequence {skb : Bytes}
    (arrival : Arrival x75 station (some frame) before station' log)
    (expected : station'.received = station.received) (silent : sentOf log = [])
    (data : frame.data = some (station.received, skb)) (indicated : indicatedOf log = [])
    (decoded : X75Frame) :
    ∃ log', Arrival x75 station (some frame) (X75.receiveInSequence before skb decoded)
      { station' with received := station'.received + 1 } log' := by
  obtain ⟨condition, events, t1timer, t2timer, t2timerRunning, answers, busy, same⟩ :=
    receiveInSequence_eq before skb decoded
  obtain ⟨sent, notIndicated, released⟩ := answers.readings
  have silentCall : ∀ installed, sentOf (called installed (.dataIndication skb)) = [] ∧
      releasedOf (called installed (.dataIndication skb)) = [] ∧
      indicatedOf (called installed (.dataIndication skb)) = if installed then [skb] else [] := by
    intro installed
    cases installed <;> exact ⟨rfl, rfl, rfl⟩
  obtain ⟨callSilent, callReleased, callIndicated⟩ := silentCall before.callbacks.dataIndication
  have next : (before.vr + 1) % before.modulus = (station'.received + 1) % before.modulus := by
    rw [arrival.tracks.vr, Nat.mod_add_mod]
  rw [same]
  refine ⟨log ++ (called before.callbacks.dataIndication (.dataIndication skb) ++ events), ?_⟩
  constructor
  case toMoves =>
      constructor
      case tracks =>
          have tracks := arrival.tracks
          exact ⟨tracks.connected, tracks.va, tracks.vs, next, busy.trans tracks.idle,
            tracks.window_lt, tracks.acked_le, tracks.within, tracks.unacked, tracks.stock,
            tracks.ackCount, tracks.writeCount⟩
      case mode => exact arrival.mode
      case window => exact arrival.window
      case callbacks => exact arrival.callbacks
      case events => rw [X75Cb.record_events, arrival.events, List.append_assoc]
  case sent_eq => exact arrival.sent_eq
  case acked_eq =>
      rw [releasedOf_append, releasedOf_append, callReleased, released, List.append_nil,
        List.append_nil]
      exact arrival.acked_eq
  case released => exact arrival.released
  case delivers =>
      refine .inr ⟨congrArg (· + 1) expected, frame, rfl, skb, data, ?_⟩
      rw [indicatedOf_append, indicatedOf_append, indicated, notIndicated, callIndicated,
        List.append_nil, List.nil_append, arrival.callbacks]
  case answering =>
      intro bytes member
      rw [sentOf_append, sentOf_append, silent, callSilent, List.nil_append,
        List.nil_append] at member
      exact arrival.mode ▸ sent bytes member

theorem receiveOutOfSequence (arrival : Arrival x75 station input before station' log)
    (decoded : X75Frame) :
    ∃ log', Arrival x75 station input (X75.receiveOutOfSequence before decoded) station' log' := by
  obtain ⟨condition, events, answers, busy, same⟩ := receiveOutOfSequence_eq before decoded
  rw [same]
  exact ⟨_, arrival.note answers busy⟩

end Arrival

end IsdnRas.X75
