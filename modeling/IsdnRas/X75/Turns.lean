import IsdnRas.X75.Station

/-!
# Operations as turns

Every operation of a link in state 3 is a turn of the station that the control
block tracks: a data request, an I-frame, an RR or a REJ of the peer, and the
expiry of a timer (`Tracks.request`, `Tracks.receive`, `Tracks.expire`). A timer
may also end the connection. Then no frame is sent and the control block is in
state 0.
-/

set_option autoImplicit false

namespace IsdnRas.X75

open GoBackN

/-! ## Turns -/

/-- An operation that is a turn of the station. -/
structure TurnTaken (x75 : X75Cb) (station : Station) (input : Option (Frame Bytes))
    (after : X75Cb) (station' : Station) (log : List Event) (out : List (Frame Bytes)) : Prop
    extends Moves x75 after station' log where
  turn : Turn x75.window station input station' out
  emits : Emits after station' log out
  acked_eq : station'.acked = station.acked + (releasedOf log).length
  delivers : Delivers x75.callbacks.dataIndication station input station' log

/-- The process has left the connection without sending anything. -/
structure Ended (x75 after : X75Cb) : Prop where
  state : after.state = .state0
  silent : ∃ log, after.events = x75.events ++ log ∧ sentOf log = []

section Turns

variable {x75 before after : X75Cb} {station station' : Station} {input : Option (Frame Bytes)}
  {log : List Event}

/-- An arrival followed by transmissions of I-frames. -/
theorem Arrival.turn (arrival : Arrival x75 station input before station' log) {sent : Nat}
    (sent_le : station'.sent ≤ sent) {more : List Event} {out : List (Frame Bytes)}
    (moves : Moves before after { station' with sent := sent } more)
    (emits : Emits after { station' with sent := sent } more out)
    (indicated : indicatedOf more = []) (released : releasedOf more = []) :
    ∃ out, TurnTaken x75 station input after { station' with sent := sent } (log ++ more) out := by
  have mode := moves.mode.trans arrival.mode
  have answers : List.Forall₂ (Represents after.mode) (sentOf log)
      ((sentOf log).map fun _ => ⟨station'.received, none⟩) := by
    rw [List.forall₂_map_right_iff, List.forall₂_same]
    intro bytes member
    have answer := arrival.answering bytes member
    rw [arrival.tracks.vr, X75Cb.modulus, arrival.mode] at answer
    rw [mode]
    exact answer
  have dataFree : dataOf ((sentOf log).map fun _ =>
      (⟨station'.received, none⟩ : Frame Bytes)) = [] := by
    simp [dataOf]
  have acked_eq : station'.acked = station.acked + (releasedOf (log ++ more)).length := by
    rw [releasedOf_append, released, List.append_nil]
    exact arrival.acked_eq
  have delivers : Delivers x75.callbacks.dataIndication station input
      { station' with sent := sent } (log ++ more) := by
    rw [Delivers, indicatedOf_append, indicated, List.append_nil]
    exact arrival.delivers
  have all_answers : ∀ frame ∈ ((sentOf log).map fun _ =>
      (⟨station'.received, none⟩ : Frame Bytes)) ++ out, frame.nr = station'.received := by
    intro frame member
    rcases List.mem_append.mp member with answer | data
    · obtain ⟨_, -, rfl⟩ := List.mem_map.mp answer
      rfl
    · exact emits.answers frame data
  have data_eq : dataOf (((sentOf log).map fun _ =>
      (⟨station'.received, none⟩ : Frame Bytes)) ++ out) = dataOf out := by
    rw [dataOf_append, dataFree, List.nil_append]
  refine ⟨_ ++ out, ⟨moves.tracks, mode, moves.window.trans arrival.window,
    moves.callbacks.trans arrival.callbacks, ?_⟩, ⟨?_, arrival.released, ?_, ?_, ?_,
      all_answers, ?_⟩, ⟨?_, all_answers, ?_, ?_⟩, acked_eq, delivers⟩
  · rw [moves.events, arrival.events, List.append_assoc]
  · have acked := arrival.acked_eq
    exact (by omega : station.acked ≤ station'.acked)
  · rw [← arrival.sent_eq]
    exact sent_le
  · rw [← arrival.window, ← moves.window]
    exact moves.tracks.within
  · rcases arrival.delivers with ⟨still, -⟩ | ⟨next, frame, read, skb, data, -⟩
    · exact .inl still
    · exact .inr ⟨next, frame, read, skb, data⟩
  · rw [data_eq]
    exact emits.numbers
  · rw [sentOf_append]
    exact List.rel_append answers emits.represents
  · rw [data_eq]
    exact emits.numbers
  · rw [data_eq]
    exact emits.queued

/-- An arrival that `x75Kick` follows. -/
theorem Arrival.kick (arrival : Arrival x75 station input before station' log)
    (kicked : x75Kick before = some after) :
    ∃ station'' log' out, TurnTaken x75 station input after station'' log' out := by
  obtain ⟨sent, more, out, sent_le, moves, emits, indicated, released⟩ :=
    arrival.tracks.kick kicked
  exact ⟨_, _, arrival.turn sent_le moves emits indicated released⟩

/-- An arrival that nothing follows. -/
theorem Arrival.rest (arrival : Arrival x75 station input before station' log) :
    ∃ station'' log' out, TurnTaken x75 station input before station'' log' out := by
  have moves : Moves before before station' [] :=
    ⟨arrival.tracks, rfl, rfl, rfl, (List.append_nil _).symm⟩
  have emits : Emits before station' [] [] := ⟨.nil, by simp, by simp [dataOf], by simp [dataOf]⟩
  exact ⟨_, _, arrival.turn (Nat.le_refl _) moves emits rfl rfl⟩

/-- Starting T1 after the turn. -/
theorem TurnTaken.startT1 {out : List (Frame Bytes)}
    (turn : TurnTaken x75 station input after station' log out) :
    TurnTaken x75 station input (x75StartT1timer after) station' log out where
  tracks := turn.tracks.congr rfl rfl rfl rfl rfl rfl rfl rfl rfl
  mode := turn.mode
  window := turn.window
  callbacks := turn.callbacks
  events := turn.events
  turn := turn.turn
  emits := ⟨turn.emits.represents, turn.emits.answers, turn.emits.numbers, turn.emits.queued⟩
  acked_eq := turn.acked_eq
  delivers := turn.delivers

end Turns

/-! ## Operations -/

section Operations

variable {x75 after : X75Cb} {station : Station}

theorem Tracks.request (tracks : Tracks x75 station) {skb : Bytes}
    (taken : exec x75 (.dataRequest skb) = some after) :
    ∃ station' log out, TurnTaken x75 station none after station' log out := by
  have accepted : ¬ (x75.state ≠ .state3 ∧ x75.state ≠ .state4) :=
    fun apart => apart.1 tracks.connected
  simp only [exec, x75DataRequest, if_neg accepted, Option.map_map] at taken
  have kicked : x75Kick (enqueueData x75 skb) = some after := by simpa using taken
  have arrival : Arrival x75 station none (enqueueData x75 skb) station [.accepted skb] :=
    ⟨⟨tracks.accept skb, rfl, rfl, rfl, rfl⟩, rfl, rfl, .inl rfl, .inl ⟨rfl, rfl⟩,
      fun _ member => by cases member⟩
  exact arrival.kick kicked

section Machine

variable {skb : Bytes} {frame : X75Frame}

theorem x75Machine_rr (connected : x75.state = .state3) (type : frame.type = x75Rr) :
    x75Machine x75 skb frame =
      receiveReady { x75 with condition := clearFlag x75.condition x75PeerRxBusyCondition }
        frame := by
  simp [x75Machine, connected, x75State3Machine, type, x75Rr, x75Sabm, x75Sabme, x75Disc, x75Dm,
    x75Rnr]

theorem x75Machine_rej (connected : x75.state = .state3) (type : frame.type = x75Rej) :
    x75Machine x75 skb frame =
      receiveReject { x75 with condition := clearFlag x75.condition x75PeerRxBusyCondition }
        frame := by
  simp [x75Machine, connected, x75State3Machine, type, x75Rej, x75Rr, x75Sabm, x75Sabme, x75Disc,
    x75Dm, x75Rnr]

theorem x75Machine_iframe (connected : x75.state = .state3) (type : frame.type = x75I) :
    x75Machine x75 skb frame = receiveIframe x75 skb frame := by
  simp [x75Machine, connected, x75State3Machine, type, x75I, x75Rej, x75Rr, x75Sabm, x75Sabme,
    x75Disc, x75Dm, x75Rnr]

end Machine

/-- RR and REJ frames with a valid N(R). -/
theorem Tracks.answered (tracks : Tracks x75 station) {frame : Frame Bytes}
    (low : station.acked ≤ frame.nr) (high : frame.nr ≤ station.sent) {skb : Bytes}
    {decoded : X75Frame} (nr : decoded.nr = frame.nr % x75.modulus)
    (type : decoded.type = x75Rr ∨ decoded.type = x75Rej) :
    ∃ station' log, Arrival x75 station (some frame) (x75Machine x75 skb decoded) station' log := by
  have valid := tracks.validateNr low high
  obtain ⟨-, -, va_lt⟩ := tracks.inModulus
  obtain ⟨condition, events, answers, busy, same⟩ := x75CheckNeedResponse_eq
    { x75 with condition := clearFlag x75.condition x75PeerRxBusyCondition } decoded.cr decoded.pf
  have idle : testFlag condition x75PeerRxBusyCondition =
      testFlag x75.condition x75PeerRxBusyCondition :=
    (busy.trans (busy_clearFlag_busy x75.condition)).trans tracks.idle.symm
  have noted := (Arrival.refl tracks (some frame)).note answers idle
  obtain ⟨released, -, acked⟩ := noted.acknowledge rfl low high
  have nr_lt : decoded.nr < x75.modulus := nr ▸ Nat.mod_lt _ (modulus_pos x75.mode)
  have valid' : x75ValidateNr (x75.note condition events) decoded.nr = true := nr ▸ valid
  have noted_eq : x75CheckNeedResponse
      { x75 with condition := clearFlag x75.condition x75PeerRxBusyCondition } decoded.cr
        decoded.pf = x75.note condition events := same
  rcases type with rr | rej
  · obtain ⟨t1timer, t1timerRunning, n2count, checked⟩ := ready_eq va_lt nr_lt condition events
    rw [x75Machine_rr tracks.connected rr, receiveReady, noted_eq]
    simp only [if_pos valid', checked]
    rw [nr]
    exact ⟨_, _, by apply acked.congr <;> rfl⟩
  · rw [x75Machine_rej tracks.connected rej, receiveReject, noted_eq]
    simp only [if_pos valid']
    rw [reject_eq va_lt nr_lt, nr]
    exact ⟨_, _, Arrival.requeue (by apply acked.congr <;> rfl)⟩

/-- I-frames with a valid N(R). -/
theorem Tracks.iframe (tracks : Tracks x75 station) {frame : Frame Bytes}
    (low : station.acked ≤ frame.nr) (high : frame.nr ≤ station.sent) {ns : Nat} {skb : Bytes}
    (data : frame.data = some (ns, skb))
    (expected : ns % x75.modulus = station.received % x75.modulus → ns = station.received)
    {decoded : X75Frame} (nr : decoded.nr = frame.nr % x75.modulus)
    (type : decoded.type = x75I) (decoded_ns : decoded.ns = ns % x75.modulus) :
    ∃ station' log, Arrival x75 station (some frame) (x75Machine x75 skb decoded) station' log := by
  have valid := tracks.validateNr low high
  obtain ⟨-, -, va_lt⟩ := tracks.inModulus
  have nr_lt : decoded.nr < x75.modulus := nr ▸ Nat.mod_lt _ (modulus_pos x75.mode)
  obtain ⟨released, silent, acked⟩ :=
    (Arrival.refl tracks (some frame)).acknowledge rfl low high
  obtain ⟨t1timer, t1timerRunning, n2count, checked⟩ := iframeAcknowledge_eq va_lt nr_lt
  have arrival : ∃ station', station'.received = station.received ∧
      Arrival x75 station (some frame) (iframeAcknowledge x75 decoded.nr) station' released := by
    rw [checked, nr]
    exact ⟨{ station with acked := station.acked + ackRounds x75 (frame.nr % x75.modulus) }, rfl,
      by apply acked.congr <;> rfl⟩
  obtain ⟨station', unreceived, arrival⟩ := arrival
  have vr : (iframeAcknowledge x75 decoded.nr).vr = station.received % x75.modulus := by
    rw [checked]
    exact tracks.vr
  have indicated : indicatedOf released = [] := by
    rcases arrival.delivers with ⟨-, none⟩ | ⟨next, -⟩
    · exact none
    · omega
  rw [x75Machine_iframe tracks.connected type, receiveIframe, nr, if_pos valid, ← nr]
  dsimp only
  split
  case isTrue inSequence =>
      have number : ns = station.received := by
        refine expected ?_
        rw [← decoded_ns, inSequence, vr]
      obtain ⟨log, delivered⟩ := arrival.receiveInSequence unreceived silent (number ▸ data)
        indicated decoded
      exact ⟨_, log, delivered⟩
  case isFalse =>
      obtain ⟨log, discarded⟩ := arrival.receiveOutOfSequence decoded
      exact ⟨_, log, discarded⟩

/-- **A frame of the peer** passes `x75ValidateNr`, and its reception is a
turn. -/
theorem Tracks.receive (tracks : Tracks x75 station) {mode : UInt32} {bytes : Bytes}
    {frame : Frame Bytes} (represents : Represents mode bytes frame)
    (same : x75.extended = extendedMode mode) (low : station.acked ≤ frame.nr)
    (high : frame.nr ≤ station.sent)
    (expected : ∀ entry ∈ frame.data, entry.1 % x75.modulus = station.received % x75.modulus →
      entry.1 = station.received) (stack : X75Frame) :
    (∃ decoded rest, x75Decode x75 bytes stack = some (decoded, rest) ∧
      CarriesNr decoded.type ∧ x75ValidateNr x75 decoded.nr = true) ∧
    ∀ after, exec x75 (.dataReceived bytes stack) = some after →
      ∃ station' log out, TurnTaken x75 station (some frame) after station' log out := by
  obtain ⟨decoded, rest, read, nr, kind⟩ := represents.decode same stack
  refine ⟨⟨decoded, rest, read, ?_, nr ▸ tracks.validateNr low high⟩, fun after taken => ?_⟩
  · rcases kind with ⟨-, rr | rej⟩ | ⟨ns, -, type, -⟩
    · exact .inr (.inl rr)
    · exact .inr (.inr (.inr rej))
    · exact .inl type
  · simp only [exec, x75DataReceived, x75DataInput, read] at taken
    rcases kind with ⟨-, type⟩ | ⟨ns, data, type, decoded_ns⟩
    · obtain ⟨_, _, arrival⟩ := tracks.answered low high nr type
      exact arrival.kick taken
    · obtain ⟨_, _, arrival⟩ :=
        tracks.iframe low high data (expected (ns, rest) data) nr type decoded_ns
      exact arrival.kick taken

/-- The handler of T1, in state 3. -/
theorem Tracks.t1Expiry (tracks : Tracks x75 station) (taken : x75T1timerExpiry x75 = some after) :
    Ended x75 after ∨ ∃ station' log out, TurnTaken x75 station none after station' log out := by
  have idle : some x75 = some after →
      ∃ station' log out, TurnTaken x75 station none after station' log out :=
    fun same => Option.some.inj same ▸ (Arrival.refl tracks none).rest
  unfold x75T1timerExpiry at taken
  split at taken
  · exact .inr (idle taken)
  split at taken
  · exact .inr (idle taken)
  split at taken
  case h_4 =>
      split at taken
      · obtain rfl := Option.some.inj taken
        have silent : ∀ installed,
            sentOf (called installed (.disconnectIndication .timedOut)) = [] := by
          intro installed
          cases installed <;> rfl
        refine .inl ⟨rfl, _, List.append_assoc .., ?_⟩
        rw [sentOf_append, silent]
        rfl
      · obtain ⟨sent, kicked, rfl⟩ := Option.map_eq_some_iff.mp taken
        have retry : Arrival x75 station none { x75 with n2count := x75.n2count + 1 } station
            [] := by
          apply (Arrival.refl tracks none).congr <;> rfl
        obtain ⟨station', log, out, turn⟩ := retry.requeue.kick kicked
        exact .inr ⟨station', log, out, turn.startT1⟩
  all_goals exact absurd tracks.connected (by simp_all)

theorem Tracks.t2Expiry (tracks : Tracks x75 station) :
    ∃ station' log out, TurnTaken x75 station none (x75T2timerExpiry x75) station' log out := by
  have outcome := x75T2timerExpiry_outcome x75
  generalize x75T2timerExpiry x75 = after at outcome ⊢
  cases outcome with
  | idle => exact (Arrival.refl tracks none).rest
  | acknowledged condition events answers busy =>
      have noted := (Arrival.refl tracks none).note answers busy
      have stopped : Arrival x75 station none
          { x75.note condition events with t2timerRunning := false } station ([] ++ events) := by
        apply noted.congr <;> rfl
      exact stopped.rest

/-- The handler that a timer carries. -/
theorem Tracks.handler (tracks : Tracks x75 station) {handler : Option TimerHandler}
    (taken : callHandler x75 handler = some after) :
    Ended x75 after ∨ ∃ station' log out, TurnTaken x75 station none after station' log out := by
  rcases handler with - | (- | -)
  · exact .inr (Option.some.inj taken ▸ (Arrival.refl tracks none).rest)
  · exact tracks.t1Expiry taken
  · exact .inr (Option.some.inj taken ▸ tracks.t2Expiry)

/-- A handler that is called with the timers as the expiry has left them. -/
theorem Tracks.expired (tracks : Tracks x75 station) {handler : Option TimerHandler}
    {t1timer t2timer : OsmoTimer}
    (taken : callHandler { x75 with t1timer := t1timer, t2timer := t2timer } handler =
      some after) :
    Ended x75 after ∨ ∃ station' log out, TurnTaken x75 station none after station' log out := by
  have tracks' : Tracks { x75 with t1timer := t1timer, t2timer := t2timer } station :=
    tracks.congr rfl rfl rfl rfl rfl rfl rfl rfl rfl
  rcases tracks'.handler taken with ended | ⟨station', log, out, turn⟩
  · exact .inl ⟨ended.state, ended.silent⟩
  · exact .inr ⟨station', log, out, ⟨turn.tracks, turn.mode, turn.window, turn.callbacks,
      turn.events⟩, turn.turn, turn.emits, turn.acked_eq, turn.delivers⟩

/-- **The expiry of a timer** is a turn or the end of the connection. -/
theorem Tracks.expire (tracks : Tracks x75 station) {op : Op}
    (timer : op = .t1Expiry ∨ op = .t2Expiry) (taken : exec x75 op = some after) :
    Ended x75 after ∨ ∃ station' log out, TurnTaken x75 station none after station' log out := by
  have idle : some x75 = some after →
      ∃ station' log out, TurnTaken x75 station none after station' log out :=
    fun same => Option.some.inj same ▸ (Arrival.refl tracks none).rest
  rcases timer with rfl | rfl
  · simp only [exec, t1timerExpires] at taken
    split at taken
    · exact tracks.expired taken
    · exact .inr (idle taken)
  · simp only [exec, t2timerExpires] at taken
    split at taken
    · exact tracks.expired taken
    · exact .inr (idle taken)

end Operations

end IsdnRas.X75
