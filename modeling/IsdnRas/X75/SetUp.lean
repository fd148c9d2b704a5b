import IsdnRas.X75.RoundTrip
import IsdnRas.X75.Turns

/-!
# An end while the link is set up

`Station` and `Turns` start from a connection. Here an end is followed from state 0 on. It
knows three unnumbered frames: the DM that a DCE sends while it is idle, the SABM or SABME
of its mode, and the UA that answers one. Before its connection the end has counted nothing
(`Waits`), and a frame of the set-up acknowledges nothing and carries nothing.

So every operation is a turn of a go-back-N station here as well (`CallTurn`), unless it
gives up. The hard case is the SABM that arrives in state 3, because the peer has sent it
again before it had the answer. The variables are then reset and the unacknowledged frames
queued again, and `x75Kick` sends at least as many as had been sent, with the numbers they
had (`Tracks.reset`).
-/

set_option autoImplicit false

namespace IsdnRas.X75

open GoBackN

/-! ## The frames of the set-up -/

/-- The type of the frame that sets a link of this mode up. -/
def setUpType (mode : UInt32) : UInt16 := if extendedMode mode then x75Sabme else x75Sabm

/-- An unnumbered frame of this type, with or without the poll bit. -/
def HasControl (frametype : UInt16) (pollBit : UInt8) (bytes : Bytes) : Prop :=
  controlByte bytes = some (frametype.toUInt8 ||| standardPoll pollBit)

/-- The DM of an idle DCE. -/
def IsDm (bytes : Bytes) : Prop := HasControl x75Dm x75Polloff bytes

/-- The SABM or SABME of this mode. -/
def IsSetUp (mode : UInt32) (bytes : Bytes) : Prop := HasControl (setUpType mode) x75Pollon bytes

def IsUa (bytes : Bytes) : Prop := ∃ pollBit, HasControl x75Ua pollBit bytes

section Frames

variable {mode : UInt32} {bytes : Bytes} {frame : Frame Bytes} {frametype : UInt16}
  {pollBit : UInt8}

theorem setUpType_known (mode : UInt32) : IsUnnumberedType (setUpType mode) := by
  unfold setUpType
  split
  · exact .inr (.inl rfl)
  · exact .inl rfl

theorem HasControl.isUnnumbered (control : HasControl frametype pollBit bytes)
    (known : IsUnnumberedType frametype) : IsUnnumbered bytes :=
  ⟨_, control, (unnumbered_bits known pollBit).2.1⟩

/-- The type and the poll bit are read back. -/
theorem HasControl.decode (control : HasControl frametype pollBit bytes)
    (known : IsUnnumberedType frametype) (receiver : X75Cb) (stack : X75Frame) :
    ∃ decoded rest, x75Decode receiver bytes stack = some (decoded, rest) ∧
      decoded.type = frametype ∧ decoded.pf = standardPoll pollBit := by
  obtain ⟨addr, rest, rfl⟩ := eq_cons_of_controlByte control
  obtain ⟨odd, format, type, poll⟩ := unnumbered_bits known pollBit
  obtain ⟨decoded, read, type', pf, -⟩ := decode_unnumbered receiver addr _ rest stack odd format
  exact ⟨decoded, rest, read, type'.trans type, pf.trans poll⟩

theorem IsDm.isUnnumbered (dm : IsDm bytes) : IsUnnumbered bytes :=
  HasControl.isUnnumbered dm (.inr (.inr (.inr (.inl rfl))))

theorem IsSetUp.isUnnumbered (setUp : IsSetUp mode bytes) : IsUnnumbered bytes :=
  HasControl.isUnnumbered setUp (setUpType_known mode)

theorem IsUa.isUnnumbered (ua : IsUa bytes) : IsUnnumbered bytes := by
  obtain ⟨pollBit, control⟩ := ua
  exact control.isUnnumbered (.inr (.inr (.inr (.inr rfl))))

/-- The frames that connect are no DMs. -/
theorem not_isDm (connects : IsSetUp mode bytes ∨ IsUa bytes) : ¬ IsDm bytes := by
  intro dm
  rcases connects with setUp | ⟨pollBit, ua⟩
  · have same := Option.some.inj (dm.symm.trans setUp)
    revert same
    unfold setUpType
    split <;> decide
  · have same := Option.some.inj (dm.symm.trans ua)
    have bit : standardPoll pollBit = 0 ∨ standardPoll pollBit = x75Spf := by
      unfold standardPoll
      split
      · exact .inr rfl
      · exact .inl rfl
    rcases bit with clear | set
    · rw [clear] at same
      exact absurd same (by decide)
    · rw [set] at same
      exact absurd same (by decide)

/-- A frame that carries an N(R) is not unnumbered. -/
theorem Represents.not_isUnnumbered (represents : Represents mode bytes frame) :
    ¬ IsUnnumbered bytes := by
  intro unnumbered
  have none := unnumbered.frameNr_eq_none
  rcases frame with ⟨nr, - | ⟨ns, skb⟩⟩
  · obtain ⟨sender, -, -, frametype, type, pollBit, addr, rfl⟩ := represents
    have supervisory : IsSupervisory frametype := type.elim .inl fun rej => .inr (.inr rej)
    have read := (supervisory_frame sender supervisory pollBit addr).2
    rw [none] at read
    cases read
  · obtain ⟨sender, rfl, -, vs, addr, rfl⟩ := represents
    have vs_lt : sender.vs < sender.modulus := vs ▸ Nat.mod_lt _ (modulus_pos sender.mode)
    have read := (iframe_frame sender vs_lt skb x75Polloff addr).2
    rw [none] at read
    cases read

/-- A frame on the wire stands for a frame with unbounded numbers. Those of the set-up stand
for one that acknowledges and carries nothing. -/
inductive Carries (mode : UInt32) (bytes : Bytes) (frame : Frame Bytes) : Prop where
  | numbered (represents : Represents mode bytes frame)
  | unnumbered (kind : IsDm bytes ∨ IsSetUp mode bytes ∨ IsUa bytes) (blank : frame = ⟨0, none⟩)

theorem Carries.blank (carries : Carries mode bytes frame) (unnumbered : IsUnnumbered bytes) :
    frame = ⟨0, none⟩ := by
  cases carries with
  | numbered represents => exact absurd unnumbered represents.not_isUnnumbered
  | unnumbered _ blank => exact blank

end Frames

/-! ## An end before its connection -/

/-- The end is idle or awaits its connection. Nothing has been accepted. -/
structure Waits (x75 : X75Cb) : Prop where
  state : x75.state = .state0 ∨ x75.state = .state1
  writeQueue : x75.writeQueue = .empty
  ackQueue : x75.ackQueue = .empty
  window_lt : x75.window < x75.modulus
  undelayed : x75.t2timerRunning = false

/-- The end waits and has counted nothing, or it tracks a station. -/
inductive Stands (x75 : X75Cb) (station : Station) : Prop where
  | waits (waits : Waits x75) (none : station = ⟨0, 0, 0⟩)
  | connected (tracks : Tracks x75 station)

/-- What an end may send, by the state it is left in. -/
inductive SendsIn (after : X75Cb) (bytes : Bytes) : Prop where
  | dm (dm : IsDm bytes) (idle : after.state = .state0)
  | setUp (setUp : IsSetUp after.mode bytes) (awaiting : after.state = .state1)
  | ua (ua : IsUa bytes) (started : after.state ≠ .state0)
  | numbered (numbered : ¬ IsUnnumbered bytes) (connected : after.state = .state3)

/-- An operation that is a turn of the station, before or in the connection. -/
structure CallTurn (x75 : X75Cb) (station : Station) (input : Option (Frame Bytes))
    (after : X75Cb) (station' : Station) (log : List Event) (out : List (Frame Bytes)) : Prop where
  stands : Stands after station'
  mode : after.mode = x75.mode
  window : after.window = x75.window
  callbacks : after.callbacks = x75.callbacks
  events : after.events = x75.events ++ log
  turn : Turn x75.window station input station' out
  carries : List.Forall₂ (Carries after.mode) (sentOf log) out
  sends : ∀ bytes ∈ sentOf log, SendsIn after bytes
  queued : ∀ entry ∈ dataOf out,
    (after.ackQueue.msgs ++ after.writeQueue.msgs)[entry.1 - station'.acked]? = some entry.2
  acked_eq : station'.acked = station.acked + (releasedOf log).length
  delivers : Delivers x75.callbacks.dataIndication station input station' log

/-! ## Turns before the connection -/

section Turns

variable {x75 after : X75Cb} {station station' : Station} {input : Option (Frame Bytes)}
  {log : List Event} {out : List (Frame Bytes)}

/-- A turn in the connection. -/
theorem TurnTaken.call (turn : TurnTaken x75 station input after station' log out) :
    CallTurn x75 station input after station' log out where
  stands := .connected turn.tracks
  mode := turn.mode
  window := turn.window
  callbacks := turn.callbacks
  events := turn.events
  turn := turn.turn
  carries := turn.emits.represents.imp fun _ _ represents => .numbered represents
  sends bytes member := by
    have both := turn.emits.represents.imp fun _ _ represents =>
      And.intro represents.not_isUnnumbered represents
    have numbered := ((List.forall₂_and_left _ _).mp both).1
    exact .numbered (numbered bytes member) turn.tracks.connected
  queued := turn.emits.queued
  acked_eq := turn.acked_eq
  delivers := turn.delivers

/-- A new connection counts from zero. -/
theorem tracks_zero (connected : x75.state = .state3) (vs : x75.vs = 0) (vr : x75.vr = 0)
    (va : x75.va = 0) (condition : x75.condition = 0) (window_lt : x75.window < x75.modulus)
    (writeQueue : x75.writeQueue = .empty) (ackQueue : x75.ackQueue = .empty) :
    Tracks x75 ⟨0, 0, 0⟩ where
  connected := connected
  va := by rw [va, Nat.zero_mod]
  vs := by rw [vs, Nat.zero_mod]
  vr := by rw [vr, Nat.zero_mod]
  idle := by rw [condition, testFlag_zero]
  window_lt := window_lt
  acked_le := Nat.le_refl 0
  within := Nat.zero_le _
  unacked := .inl (by rw [ackQueue]; rfl)
  stock := Nat.zero_le _
  ackCount := by rw [ackQueue]; rfl
  writeCount := by rw [writeQueue]; rfl

/-- The frames of the set-up stand for frames without data. -/
theorem dataOf_blank (sent : List Bytes) :
    dataOf (sent.map fun _ => (⟨0, none⟩ : Frame Bytes)) = [] := by
  simp [dataOf]

theorem SendsIn.carries {bytes : Bytes} (sends : SendsIn after bytes)
    (unnumbered : IsUnnumbered bytes) : Carries after.mode bytes ⟨0, none⟩ := by
  refine .unnumbered ?_ rfl
  cases sends with
  | dm dm => exact .inl dm
  | setUp setUp => exact .inr (.inl setUp)
  | ua ua => exact .inr (.inr ua)
  | numbered numbered => exact absurd unnumbered numbered

/-- What stands for the frames of the set-up. -/
theorem carries_blank {sent : List Bytes}
    (sends : ∀ bytes ∈ sent, IsUnnumbered bytes ∧ SendsIn after bytes) :
    List.Forall₂ (Carries after.mode) sent (sent.map fun _ => ⟨0, none⟩) := by
  rw [List.forall₂_map_right_iff, List.forall₂_same]
  intro bytes member
  obtain ⟨unnumbered, sends⟩ := sends bytes member
  exact sends.carries unnumbered

/-- Events that carry no payload. -/
structure Payloadless (log : List Event) : Prop where
  released : releasedOf log = []
  indicated : indicatedOf log = []

/-- A turn that counts nothing: it reads what it likes, and sends frames of the set-up. -/
theorem callTurn_zero (stands : Stands after ⟨0, 0, 0⟩) (mode : after.mode = x75.mode)
    (window : after.window = x75.window) (callbacks : after.callbacks = x75.callbacks)
    (events : after.events = x75.events ++ log) (quiet : Payloadless log)
    (sends : ∀ bytes ∈ sentOf log, IsUnnumbered bytes ∧ SendsIn after bytes) :
    CallTurn x75 ⟨0, 0, 0⟩ input after ⟨0, 0, 0⟩ log ((sentOf log).map fun _ => ⟨0, none⟩) where
  stands := stands
  mode := mode
  window := window
  callbacks := callbacks
  events := events
  turn := by
    refine ⟨Nat.le_refl 0, .inl rfl, Nat.le_refl 0, Nat.zero_le _, .inl rfl, ?_, ?_⟩
    · intro frame member
      obtain ⟨_, -, rfl⟩ := List.mem_map.mp member
      rfl
    · rw [dataOf_blank]
      exact fun _ member => absurd member List.not_mem_nil
  carries := carries_blank sends
  sends bytes member := (sends bytes member).2
  queued := by
    rw [dataOf_blank]
    exact fun _ member => absurd member List.not_mem_nil
  acked_eq := by rw [quiet.released]; rfl
  delivers := .inl ⟨rfl, quiet.indicated⟩

/-- What transmits a frame, read by its control byte. -/
theorem hasControl_of_mem {sender : X75Cb} {frametype : UInt16} {pollBit type : UInt8}
    (known : IsUnnumberedType frametype) {bytes : Bytes}
    (member : bytes ∈ sentOf (transmitted sender (controlField sender frametype pollBit) type)) :
    HasControl frametype pollBit bytes := by
  rw [transmitted, controlField_unnumbered sender known] at member
  unfold called at member
  split at member
  · obtain rfl := List.mem_singleton.mp member
    rfl
  · cases member

/-- One frame of the set-up is sent. -/
theorem callTurn_send {sender : X75Cb} {frametype : UInt16} {pollBit type : UInt8}
    {tail : List Event} (stands : Stands after ⟨0, 0, 0⟩) (mode : after.mode = x75.mode)
    (window : after.window = x75.window) (callbacks : after.callbacks = x75.callbacks)
    (events : after.events = x75.events ++
      (transmitted sender (controlField sender frametype pollBit) type ++ tail))
    (known : IsUnnumberedType frametype) (silent : sentOf tail = []) (quiet : Payloadless tail)
    (sends : ∀ bytes, HasControl frametype pollBit bytes → SendsIn after bytes) :
    ∃ log out, CallTurn x75 ⟨0, 0, 0⟩ input after ⟨0, 0, 0⟩ log out := by
  have alone : Payloadless (transmitted sender (controlField sender frametype pollBit) type) := by
    unfold transmitted called
    split <;> exact ⟨rfl, rfl⟩
  refine ⟨_, _, callTurn_zero stands mode window callbacks events ⟨?_, ?_⟩ fun bytes member => ?_⟩
  · rw [releasedOf_append, alone.released, quiet.released, List.append_nil]
  · rw [indicatedOf_append, alone.indicated, quiet.indicated, List.append_nil]
  · rw [sentOf_append, silent, List.append_nil] at member
    have control := hasControl_of_mem known member
    exact ⟨control.isUnnumbered known, sends bytes control⟩

theorem callTurn_idle (stands : Stands after ⟨0, 0, 0⟩) (mode : after.mode = x75.mode)
    (window : after.window = x75.window) (callbacks : after.callbacks = x75.callbacks)
    (events : after.events = x75.events) :
    ∃ log out, CallTurn x75 ⟨0, 0, 0⟩ input after ⟨0, 0, 0⟩ log out := by
  refine ⟨[], _, callTurn_zero stands mode window callbacks ?_ ⟨rfl, rfl⟩ ?_⟩
  · rw [events, List.append_nil]
  · exact fun _ member => absurd member List.not_mem_nil

end Turns

/-! ## Operations before the connection -/

section Operations

variable {x75 after : X75Cb} {input : Option (Frame Bytes)}

theorem Waits.congr (waits : Waits x75) (state : after.state = .state0 ∨ after.state = .state1)
    (mode : after.mode = x75.mode) (window : after.window = x75.window)
    (writeQueue : after.writeQueue = x75.writeQueue) (ackQueue : after.ackQueue = x75.ackQueue)
    (t2timerRunning : after.t2timerRunning = false) : Waits after where
  state := state
  writeQueue := writeQueue.trans waits.writeQueue
  ackQueue := ackQueue.trans waits.ackQueue
  window_lt := by
    rw [window, X75Cb.modulus, mode]
    exact waits.window_lt
  undelayed := t2timerRunning

theorem Waits.stay (waits : Waits x75) :
    ∃ log out, CallTurn x75 ⟨0, 0, 0⟩ input x75 ⟨0, 0, 0⟩ log out :=
  callTurn_idle (.waits waits rfl) rfl rfl rfl rfl

/-- `x75Kick` has nothing to send. -/
theorem eq_of_kick (kicked : x75Kick x75 = some after) (empty : x75.writeQueue = .empty) :
    after = x75 := by
  have unready : ¬ KickReady x75 := fun ready => ready.2.2 (by rw [empty]; rfl)
  rw [x75Kick, if_neg unready] at kicked
  exact (Option.some.inj kicked).symm

/-- A data request is refused. -/
theorem Waits.request (waits : Waits x75) {skb : Bytes}
    (taken : exec x75 (.dataRequest skb) = some after) : after = x75 := by
  have apart : x75.state ≠ .state3 ∧ x75.state ≠ .state4 := by
    rcases waits.state with idle | awaiting
    · rw [idle]
      decide
    · rw [awaiting]
      decide
  simp only [exec, x75DataRequest, if_pos apart, Option.map_some, Option.some.injEq] at taken
  exact taken.symm

/-- A request to connect sends the frame that sets the link up, unless it has been sent. -/
theorem Waits.connect (waits : Waits x75) (taken : exec x75 .connectRequest = some after) :
    ∃ log out, CallTurn x75 ⟨0, 0, 0⟩ input after ⟨0, 0, 0⟩ log out := by
  simp only [exec, x75ConnectRequest] at taken
  rcases waits.state with idle | awaiting
  · simp only [idle, reduceCtorEq, if_false, or_self, Option.some.injEq] at taken
    subst taken
    have dialled : Waits { x75EstablishDataLink x75 with state := .state1 } :=
      waits.congr (.inr rfl) rfl rfl rfl rfl rfl
    refine callTurn_send (.waits dialled rfl) rfl rfl rfl (by
      rw [List.append_nil]
      rfl) (setUpType_known x75.mode) rfl ⟨rfl, rfl⟩ fun bytes control => ?_
    exact .setUp control rfl
  · simp only [awaiting, if_true, Option.some.injEq] at taken
    exact taken ▸ waits.stay

/-- The handler of T1 before the connection: a DM, or the frame that sets the link up. An
end that gives up purges its queues. -/
theorem Waits.t1Expiry (waits : Waits x75) (taken : x75T1timerExpiry x75 = some after)
    (unpurged : purges after = purges x75) :
    ∃ log out, CallTurn x75 ⟨0, 0, 0⟩ input after ⟨0, 0, 0⟩ log out := by
  unfold x75T1timerExpiry at taken
  split at taken
  · exact Option.some.inj taken ▸ waits.stay
  split at taken
  · exact Option.some.inj taken ▸ waits.stay
  split at taken
  case h_1 idle =>
      split at taken
      · obtain rfl := Option.some.inj taken
        refine callTurn_send (.waits (waits.congr (.inl idle) rfl rfl rfl rfl waits.undelayed) rfl)
          rfl rfl rfl (by
            rw [List.append_nil]
            rfl) (.inr (.inr (.inr (.inl rfl)))) rfl ⟨rfl, rfl⟩ fun bytes control => ?_
        exact .dm control idle
      · obtain rfl := Option.some.inj taken
        refine callTurn_send (.waits (waits.congr (.inr rfl) rfl rfl rfl rfl rfl) rfl) rfl rfl rfl
          (by
            rw [List.append_nil]
            rfl) (setUpType_known x75.mode) rfl ⟨rfl, rfl⟩ fun bytes control => ?_
        exact .setUp control rfl
  case h_2 awaiting =>
      split at taken
      · obtain rfl := Option.some.inj taken
        have once : purges (giveUp x75) = purges x75 + 1 := List.count_append.trans rfl
        have grown : purges (giveUp x75) ≤
            purges (x75DisconnectIndication (giveUp x75) .timedOut) :=
          (List.sublist_append_left ..).count_le _
        exact absurd unpurged (Nat.ne_of_gt (Nat.lt_of_lt_of_le (Nat.lt_of_succ_le once.ge) grown))
      · obtain rfl := Option.some.inj taken
        refine callTurn_send
          (.waits (waits.congr (.inr awaiting) rfl rfl rfl rfl waits.undelayed) rfl) rfl rfl rfl
          (by
            rw [List.append_nil]
            rfl) (setUpType_known x75.mode) rfl ⟨rfl, rfl⟩ fun bytes control => ?_
        exact .setUp control awaiting
  all_goals exact absurd waits.state (by simp_all)

/-- The handler of T2 finds its timer stopped. -/
theorem Waits.t2Expiry (waits : Waits x75) : x75T2timerExpiry x75 = x75 := by
  unfold x75T2timerExpiry
  split
  · rfl
  · rw [if_pos waits.undelayed]

/-- The handler that a timer carries, called with the timers as the expiry has left them. -/
theorem Waits.expired (waits : Waits x75) {handler : Option TimerHandler}
    {t1timer t2timer : OsmoTimer}
    (taken : callHandler { x75 with t1timer := t1timer, t2timer := t2timer } handler = some after)
    (unpurged : purges after = purges x75) :
    ∃ log out, CallTurn x75 ⟨0, 0, 0⟩ input after ⟨0, 0, 0⟩ log out := by
  have waits' : Waits { x75 with t1timer := t1timer, t2timer := t2timer } :=
    waits.congr waits.state rfl rfl rfl rfl waits.undelayed
  have stay : ∃ log out, CallTurn x75 ⟨0, 0, 0⟩ input
      { x75 with t1timer := t1timer, t2timer := t2timer } ⟨0, 0, 0⟩ log out :=
    callTurn_idle (.waits waits' rfl) rfl rfl rfl rfl
  rcases handler with - | (- | -)
  · exact Option.some.inj taken ▸ stay
  · obtain ⟨log, out, turn⟩ := waits'.t1Expiry taken unpurged
    exact ⟨log, out, ⟨turn.stands, turn.mode, turn.window, turn.callbacks, turn.events, turn.turn,
      turn.carries, turn.sends, turn.queued, turn.acked_eq, turn.delivers⟩⟩
  · have same := waits'.t2Expiry
    rw [callHandler, same] at taken
    exact Option.some.inj taken ▸ stay

theorem Waits.expire (waits : Waits x75) {op : Op} (timer : op = .t1Expiry ∨ op = .t2Expiry)
    (taken : exec x75 op = some after) (unpurged : purges after = purges x75) :
    ∃ log out, CallTurn x75 ⟨0, 0, 0⟩ input after ⟨0, 0, 0⟩ log out := by
  rcases timer with rfl | rfl
  · simp only [exec, t1timerExpires] at taken
    split at taken
    · exact waits.expired taken unpurged
    · exact Option.some.inj taken ▸ waits.stay
  · simp only [exec, t2timerExpires] at taken
    split at taken
    · exact waits.expired taken unpurged
    · exact Option.some.inj taken ▸ waits.stay

end Operations

/-! ## Frames before the connection -/

section Receive

variable {x75 after : X75Cb} {input : Option (Frame Bytes)} {skb : Bytes} {frame : X75Frame}

theorem x75Machine_state0 (idle : x75.state = .state0)
    (other : frame.type = x75Dm ∨ frame.type = x75Ua ∨ frame.type = x75I ∨ frame.type = x75Rr ∨
      frame.type = x75Rej) : x75Machine x75 skb frame = x75 := by
  simp only [x75Machine, idle, x75State0Machine]
  rcases other with type | type | type | type | type <;>
    simp [type, x75Sabm, x75Sabme, x75Disc, x75Dm, x75Ua, x75I, x75Rr, x75Rej]

/-- An idle end answers the frame that sets the link up, and is connected. -/
theorem x75Machine_called (idle : x75.state = .state0) (type : frame.type = setUpType x75.mode) :
    x75Machine x75 skb frame = x75ConnectIndication
      { resetLink (x75SendControl x75 x75Ua frame.pf x75Response) with state := .state3 } .ok := by
  simp only [x75Machine, idle, x75State0Machine]
  unfold setUpType at type
  cases extended : extendedMode x75.mode <;>
    simp [extended, type, x75Sabm, x75Sabme]

/-- An end that awaits its connection answers the frame as well. -/
theorem x75Machine_crossed (awaiting : x75.state = .state1)
    (type : frame.type = setUpType x75.mode) :
    x75Machine x75 skb frame = x75SendControl x75 x75Ua frame.pf x75Response := by
  simp only [x75Machine, awaiting, x75State1Machine]
  unfold setUpType at type
  cases extended : extendedMode x75.mode <;>
    simp [extended, type, x75Sabm, x75Sabme]

theorem x75Machine_confirmed (awaiting : x75.state = .state1) (type : frame.type = x75Ua) :
    x75Machine x75 skb frame =
      if frame.pf ≠ 0 then x75ConnectConfirmation { resetLink x75 with state := .state3 } .ok
      else x75 := by
  simp [x75Machine, awaiting, x75State1Machine, type, x75Sabm, x75Sabme, x75Disc, x75Ua]

theorem x75Machine_state1 (awaiting : x75.state = .state1)
    (other : frame.type = x75Dm ∧ frame.pf = 0 ∨ frame.type = x75I ∨ frame.type = x75Rr ∨
      frame.type = x75Rej) : x75Machine x75 skb frame = x75 := by
  simp only [x75Machine, awaiting, x75State1Machine]
  rcases other with ⟨type, final⟩ | type | type | type <;>
    simp [type, x75Sabm, x75Sabme, x75Disc, x75Dm, x75Ua, x75I, x75Rr, x75Rej]
  exact fun set => absurd final set

/-- A call-back about the connection carries no frame and no payload. -/
theorem payloadless_connect (installed : Bool) {told : Event}
    (about : told = .connectIndication .ok ∨ told = .connectConfirmation .ok) :
    sentOf (.sequenceReset :: called installed told) = [] ∧
      Payloadless (.sequenceReset :: called installed told) := by
  rcases about with rfl | rfl <;> cases installed <;> exact ⟨rfl, rfl, rfl⟩

/-- A UA is a frame of every state but the idle one. -/
theorem sendsIn_ua {bytes : Bytes} {pollBit : UInt8} (control : HasControl x75Ua pollBit bytes)
    (started : after.state ≠ .state0) : SendsIn after bytes := .ua ⟨pollBit, control⟩ started

/-- The machine leaves the end as it is. -/
theorem Waits.kept (waits : Waits x75) (kicked : x75Kick x75 = some after) :
    (∃ log out, CallTurn x75 ⟨0, 0, 0⟩ input after ⟨0, 0, 0⟩ log out) ∧ after.state ≠ .state3 := by
  obtain rfl := eq_of_kick kicked waits.writeQueue
  refine ⟨waits.stay, fun connected => ?_⟩
  rcases waits.state with idle | awaiting
  · exact absurd (connected.symm.trans idle) (by decide)
  · exact absurd (connected.symm.trans awaiting) (by decide)

/-- The frame that sets the link up. -/
theorem Waits.called (waits : Waits x75) (type : frame.type = setUpType x75.mode)
    (kicked : x75Kick (x75Machine x75 skb frame) = some after) :
    ∃ log out, CallTurn x75 ⟨0, 0, 0⟩ input after ⟨0, 0, 0⟩ log out := by
  have ua : IsUnnumberedType x75Ua := .inr (.inr (.inr (.inr rfl)))
  rcases waits.state with idle | awaiting
  · rw [x75Machine_called idle type] at kicked
    obtain rfl := eq_of_kick kicked waits.writeQueue
    obtain ⟨silent, quiet⟩ := payloadless_connect x75.callbacks.connectIndication (.inl rfl)
    have tracks := @tracks_zero (x75ConnectIndication { resetLink (x75SendControl x75 x75Ua frame.pf
      x75Response) with state := .state3 } .ok) rfl rfl rfl rfl rfl waits.window_lt
      waits.writeQueue waits.ackQueue
    have events : (x75.events ++ transmitted x75 (controlField x75 x75Ua frame.pf) x75Response ++
        [.sequenceReset]) ++ called x75.callbacks.connectIndication (.connectIndication .ok) =
        x75.events ++ (transmitted x75 (controlField x75 x75Ua frame.pf) x75Response ++
          .sequenceReset :: called x75.callbacks.connectIndication (.connectIndication .ok)) := by
      simp only [List.append_assoc, List.singleton_append]
    exact callTurn_send (.connected tracks) rfl rfl rfl events ua silent quiet
      fun bytes control => sendsIn_ua control fun idle => by cases idle
  · rw [x75Machine_crossed awaiting type] at kicked
    obtain rfl := eq_of_kick kicked waits.writeQueue
    have waits' : Waits (x75SendControl x75 x75Ua frame.pf x75Response) :=
      waits.congr (.inr awaiting) rfl rfl rfl rfl waits.undelayed
    refine callTurn_send (.waits waits' rfl) rfl rfl rfl (by
      rw [List.append_nil]
      rfl) ua rfl ⟨rfl, rfl⟩ fun bytes control => sendsIn_ua control fun idle => ?_
    exact absurd (awaiting.symm.trans idle) (by decide)

theorem Waits.confirmed (waits : Waits x75) (type : frame.type = x75Ua)
    (kicked : x75Kick (x75Machine x75 skb frame) = some after) :
    ∃ log out, CallTurn x75 ⟨0, 0, 0⟩ input after ⟨0, 0, 0⟩ log out := by
  rcases waits.state with idle | awaiting
  · rw [x75Machine_state0 idle (.inr (.inl type))] at kicked
    exact (waits.kept kicked).1
  · rw [x75Machine_confirmed awaiting type] at kicked
    split at kicked
    · obtain rfl := eq_of_kick kicked waits.writeQueue
      obtain ⟨silent, quiet⟩ := payloadless_connect x75.callbacks.connectConfirmation (.inr rfl)
      have tracks := @tracks_zero (x75ConnectConfirmation { resetLink x75 with state := .state3 }
        .ok) rfl rfl rfl rfl rfl waits.window_lt waits.writeQueue waits.ackQueue
      refine ⟨_, _, callTurn_zero (.connected tracks) rfl rfl rfl (List.append_assoc ..) quiet
        fun bytes member => ?_⟩
      have sent : bytes ∈ ([] : List Bytes) := silent ▸ member
      cases sent
    · exact (waits.kept kicked).1

/-- **A frame that arrives before the connection.** Only the frame that sets the link up, or
a UA, connects. -/
theorem Waits.receive (waits : Waits x75) {mode : UInt32} {bytes : Bytes} {sent : Frame Bytes}
    (carries : Carries mode bytes sent) (same : x75.extended = extendedMode mode)
    (stack : X75Frame) (taken : exec x75 (.dataReceived bytes stack) = some after) :
    (∃ log out, CallTurn x75 ⟨0, 0, 0⟩ input after ⟨0, 0, 0⟩ log out) ∧
      (after.state = .state3 → IsSetUp mode bytes ∨ IsUa bytes) := by
  have stay : x75Kick x75 = some after →
      (∃ log out, CallTurn x75 ⟨0, 0, 0⟩ input after ⟨0, 0, 0⟩ log out) ∧
        (after.state = .state3 → IsSetUp mode bytes ∨ IsUa bytes) := fun kicked =>
    ⟨(waits.kept kicked).1, fun connected =>
      absurd connected (@Waits.kept _ _ input waits kicked).2⟩
  cases carries with
  | numbered represents =>
      obtain ⟨decoded, rest, read, -, kind⟩ := represents.decode same stack
      have type : decoded.type = x75I ∨ decoded.type = x75Rr ∨ decoded.type = x75Rej := by
        rcases kind with ⟨-, answer⟩ | ⟨_, -, data, -⟩
        · exact .inr answer
        · exact .inl data
      simp only [exec, x75DataReceived, x75DataInput, read] at taken
      rcases waits.state with idle | awaiting
      · rw [x75Machine_state0 idle (.inr (.inr type))] at taken
        exact stay taken
      · rw [x75Machine_state1 awaiting (.inr type)] at taken
        exact stay taken
  | unnumbered kind =>
      rcases kind with dm | setUp | ⟨pollBit, confirmed⟩
      · obtain ⟨decoded, rest, read, type, final⟩ :=
          HasControl.decode dm (.inr (.inr (.inr (.inl rfl)))) x75 stack
        simp only [exec, x75DataReceived, x75DataInput, read] at taken
        rcases waits.state with idle | awaiting
        · rw [x75Machine_state0 idle (.inl type)] at taken
          exact stay taken
        · rw [x75Machine_state1 awaiting (.inl ⟨type, final⟩)] at taken
          exact stay taken
      · obtain ⟨decoded, rest, read, type, -⟩ :=
          HasControl.decode setUp (setUpType_known mode) x75 stack
        have type' : decoded.type = setUpType x75.mode := by
          rw [type, setUpType, setUpType, ← same]
        simp only [exec, x75DataReceived, x75DataInput, read] at taken
        exact ⟨waits.called type' taken, fun _ => .inl setUp⟩
      · obtain ⟨decoded, rest, read, type, -⟩ :=
          HasControl.decode confirmed (.inr (.inr (.inr (.inr rfl)))) x75 stack
        simp only [exec, x75DataReceived, x75DataInput, read] at taken
        exact ⟨waits.confirmed type taken, fun _ => .inr ⟨pollBit, confirmed⟩⟩

end Receive

end IsdnRas.X75
