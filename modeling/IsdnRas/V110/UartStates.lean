import IsdnRas.V110.SoftUart

/-!
# The states of the software UART

What holds in every state that is reached from `osmo_soft_uart_alloc` (`uartReached_sound`):
a running receiver has a buffer, no error flag is ever set, and the buffer holds fewer
bytes than the size in force. Its size counts as two when it is one, since the first
character in a buffer does not flush it.

In these states a flush is never refused, and a character is refused exactly when the
buffer has no room for it (`suartRxCh_eq`).
-/

set_option autoImplicit false

namespace IsdnRas.V110

/-- The number of characters at which the buffer is flushed. -/
def OsmoSoftUartCfg.flushLen (cfg : OsmoSoftUartCfg) : Nat := max cfg.rxBufSize 2

/-- What a character in the buffer and a flush do not change. -/
structure OsmoSoftUart.Usable (sua : OsmoSoftUart) : Prop where
  accepted : sua.cfg.Accepted
  count : sua.bitCount < 256
  flags : sua.flags = 0
  buffered : sua.running = true → sua.msg.isSome = true
  within : ∀ msg, sua.msg = some msg → msg.data.length ≤ msg.room

/-- What holds in every state reached. -/
structure OsmoSoftUart.Sound (sua : OsmoSoftUart) : Prop extends sua.Usable where
  below : sua.held.length < sua.cfg.flushLen

/-- What a flush gives to the call-back. -/
def OsmoSoftUart.flushedData (sua : OsmoSoftUart) : List RxData :=
  if sua.held ≠ [] ∧ sua.cfg.rxCb = true then [⟨sua.held, 0, sua.cfg.rxBufSize⟩] else []

/-- The receive buffer after a flush. -/
def OsmoSoftUart.flushedMsg (msgbAllocC : Nat → Nat) (sua : OsmoSoftUart) : Option Msgb :=
  if sua.held = [] then sua.msg
  else if sua.cfg.rxCb then some (newMsgb msgbAllocC sua.cfg.rxBufSize)
  else sua.msg.map Msgb.reset

/-- The state in which the receive buffer has been flushed. -/
def OsmoSoftUart.flushed (msgbAllocC : Nat → Nat) (sua : OsmoSoftUart) : OsmoSoftUart :=
  { sua with
    timer := if sua.held = [] then sua.timer else none
    delivered := sua.delivered ++ sua.flushedData
    msg := sua.flushedMsg msgbAllocC }

/-- The state with one more character in the buffer. -/
def OsmoSoftUart.append (sua : OsmoSoftUart) (ch : UInt8) : OsmoSoftUart :=
  { sua with
    msg := sua.msg.map fun msg => { msg with data := msg.data ++ [ch] }
    received := sua.received ++ [ch] }

/-- The state after a character for which there is room. -/
def OsmoSoftUart.took (msgbAllocC : Nat → Nat) (sua : OsmoSoftUart) (ch : UInt8) : OsmoSoftUart :=
  if sua.held = [] then (sua.append ch).startTimer
  else if sua.cfg.rxBufSize ≤ sua.held.length + 1 then (sua.append ch).flushed msgbAllocC
  else sua.append ch

variable {msgbAllocC : Nat → Nat} {sua next : OsmoSoftUart} {msg : Msgb}

theorem held_of_msg (buffer : sua.msg = some msg) : sua.held = msg.data := by
  rw [OsmoSoftUart.held, buffer]

theorem exists_msg_of_held (nonempty : sua.held ≠ []) :
    ∃ msg, sua.msg = some msg ∧ msg.data = sua.held := by
  cases buffer : sua.msg with
  | none => exact absurd (by rw [OsmoSoftUart.held, buffer]) nonempty
  | some msg => exact ⟨msg, rfl, (held_of_msg buffer).symm⟩

/-- The invariant is about the configuration, the buffer, the flags and the counter. -/
theorem OsmoSoftUart.Sound.congr (sound : sua.Sound) (count : next.bitCount < 256)
    (cfg : next.cfg = sua.cfg) (msg : next.msg = sua.msg) (flags : next.flags = sua.flags)
    (running : next.running = sua.running) : next.Sound where
  accepted := cfg ▸ sound.accepted
  count := count
  flags := flags.trans sound.flags
  buffered now := by
    rw [msg]
    exact sound.buffered (running ▸ now)
  within other buffer := sound.within other (msg ▸ buffer)
  below := by
    rw [OsmoSoftUart.held, msg, cfg]
    exact sound.below

/-- The timer does not matter. -/
theorem OsmoSoftUart.Sound.unscheduled (sound : sua.Sound) : { sua with timer := none }.Sound :=
  sound.congr sound.count rfl rfl rfl rfl

/-! ## The functions on the buffer -/

/-- A flush without error flags is never refused. -/
theorem suartFlushRx_eq (flags : sua.flags = 0) :
    suartFlushRx msgbAllocC sua = some (sua.flushed msgbAllocC) := by
  simp only [OsmoSoftUart.flushed, OsmoSoftUart.flushedData, OsmoSoftUart.flushedMsg]
  by_cases empty : sua.held = []
  · simp only [suartFlushRx, empty, flags]
    simp [← flags]
  · obtain ⟨msg, buffer, held⟩ := exists_msg_of_held empty
    have filled : sua.held.length ≠ 0 := fun none => empty (List.length_eq_zero_iff.mp none)
    rw [suartFlushRx, if_pos (.inl filled)]
    by_cases call : sua.cfg.rxCb = true
    · simp only [if_pos call, if_neg empty, if_pos (And.intro empty call), ← flags]
      rfl
    · simp [empty, call, buffer]

theorem Msgb.putU8_eq (room : msg.data.length < msg.room) (byte : UInt8) :
    msg.putU8 byte = some { msg with data := msg.data ++ [byte] } := if_pos room

/-- A character is taken exactly when there is room for it. -/
theorem suartRxCh_eq (flags : sua.flags = 0) (buffer : sua.msg = some msg) (ch : UInt8) :
    suartRxCh msgbAllocC sua ch =
      if msg.data.length < msg.room then some (sua.took msgbAllocC ch) else none := by
  by_cases room : msg.data.length < msg.room
  · have appended : { sua with
        msg := some { msg with data := msg.data ++ [ch] }
        received := sua.received ++ [ch] } = sua.append ch := by
      rw [OsmoSoftUart.append, buffer]
      rfl
    have kept : (sua.append ch).flags = 0 := flags
    simp only [suartRxCh, buffer, Msgb.putU8_eq room, List.length_append, List.length_singleton,
      appended]
    rw [if_pos room, suartFlushRx_eq kept, OsmoSoftUart.took, held_of_msg buffer]
    by_cases first : msg.data = []
    · simp [first]
    · have later : msg.data.length + 1 ≠ 1 := fun one =>
        first (List.length_eq_zero_iff.mp (Nat.succ.inj one))
      rw [if_neg first, if_neg later]
      simp only [flags, ne_eq, not_true_eq_false, or_false]
      split <;> rfl
  · simp [suartRxCh, Msgb.putU8, buffer, room]

/-! ## What a flush leaves -/

theorem flushedMsg_isSome : (sua.flushedMsg msgbAllocC).isSome = sua.msg.isSome := by
  by_cases empty : sua.held = []
  · rw [OsmoSoftUart.flushedMsg, if_pos empty]
  · obtain ⟨msg, buffer, -⟩ := exists_msg_of_held empty
    rw [OsmoSoftUart.flushedMsg, if_neg empty, buffer]
    split <;> rfl

/-- After a flush the buffer is empty. -/
theorem data_of_flushedMsg (after : sua.flushedMsg msgbAllocC = some msg) : msg.data = [] := by
  rw [OsmoSoftUart.flushedMsg] at after
  split at after
  case isTrue empty => exact (held_of_msg after).symm.trans empty
  case isFalse =>
    split at after
    case isTrue => exact Option.some.inj after ▸ rfl
    case isFalse =>
      obtain ⟨old, -, rfl⟩ := Option.map_eq_some_iff.mp after
      rfl

@[simp] theorem held_flushed : (sua.flushed msgbAllocC).held = [] := by
  cases after : sua.flushedMsg msgbAllocC with
  | none => simp [OsmoSoftUart.held, OsmoSoftUart.flushed, after]
  | some msg =>
      have buffer : (sua.flushed msgbAllocC).msg = some msg := after
      rw [held_of_msg buffer, data_of_flushedMsg after]

/-- What goes over to the call-back was in the buffer. -/
theorem flatMap_flushedData (call : sua.held ≠ [] → sua.cfg.rxCb = true) :
    sua.flushedData.flatMap (·.data) = sua.held := by
  by_cases empty : sua.held = []
  · simp [OsmoSoftUart.flushedData, empty]
  · simp [OsmoSoftUart.flushedData, empty, call empty]

theorem OsmoSoftUart.Usable.flushed (usable : sua.Usable) : (sua.flushed msgbAllocC).Sound where
  accepted := usable.accepted
  count := usable.count
  flags := usable.flags
  buffered running := by
    rw [OsmoSoftUart.flushed, flushedMsg_isSome]
    exact usable.buffered running
  within msg after := by
    rw [data_of_flushedMsg after]
    exact Nat.zero_le _
  below := by
    rw [held_flushed]
    exact Nat.lt_of_lt_of_le Nat.zero_lt_two (Nat.le_max_right _ 2)

theorem held_append (buffer : sua.msg = some msg) (ch : UInt8) :
    (sua.append ch).held = sua.held ++ [ch] := by
  simp [OsmoSoftUart.held, OsmoSoftUart.append, buffer]

/-- What a character does not change. -/
theorem took_eq (sua : OsmoSoftUart) (ch : UInt8) :
    ∃ msg timer flushed, sua.took msgbAllocC ch =
      { sua with
        msg := msg, timer := timer, delivered := sua.delivered ++ flushed
        received := sua.received ++ [ch] } := by
  rw [OsmoSoftUart.took]
  split
  · exact ⟨_, _, [], by rw [List.append_nil]; rfl⟩
  · split
    · exact ⟨_, _, _, rfl⟩
    · exact ⟨_, _, [], by rw [List.append_nil]; rfl⟩

theorem OsmoSoftUart.Usable.append (usable : sua.Usable) (buffer : sua.msg = some msg)
    (room : msg.data.length < msg.room) (ch : UInt8) : (sua.append ch).Usable where
  accepted := usable.accepted
  count := usable.count
  flags := usable.flags
  buffered running := by simpa [OsmoSoftUart.append] using usable.buffered running
  within other after := by
    rw [OsmoSoftUart.append, buffer, Option.map_some] at after
    obtain rfl := Option.some.inj after
    rw [List.length_append]
    exact room

theorem OsmoSoftUart.Sound.took (sound : sua.Sound) (buffer : sua.msg = some msg)
    (room : msg.data.length < msg.room) (ch : UInt8) : (sua.took msgbAllocC ch).Sound := by
  have usable := sound.toUsable.append buffer room ch
  have held := held_append buffer ch
  rw [OsmoSoftUart.took]
  split
  case isTrue empty =>
    refine ⟨⟨usable.accepted, usable.count, usable.flags, usable.buffered, usable.within⟩, ?_⟩
    have one : (sua.append ch).startTimer.held = [ch] := held.trans (by rw [empty, List.nil_append])
    rw [one]
    exact Nat.lt_of_lt_of_le Nat.one_lt_two (Nat.le_max_right _ 2)
  case isFalse =>
    split
    case isTrue => exact usable.flushed
    case isFalse short =>
      refine ⟨usable, ?_⟩
      rw [held, List.length_append, List.length_singleton]
      exact Nat.lt_of_lt_of_le (Nat.not_le.mp short) (Nat.le_max_left _ 2)

theorem took_bitCount (sua : OsmoSoftUart) (ch : UInt8) (count : Nat) :
    { sua with bitCount := count }.took msgbAllocC ch =
      { sua.took msgbAllocC ch with bitCount := count } := by
  have held : { sua with bitCount := count }.held = sua.held := rfl
  by_cases empty : sua.held = []
  · rw [OsmoSoftUart.took, OsmoSoftUart.took, held, if_pos empty, if_pos empty]
    rfl
  by_cases full : sua.cfg.rxBufSize ≤ sua.held.length + 1
  · rw [OsmoSoftUart.took, OsmoSoftUart.took, held, if_neg empty, if_neg empty, if_pos full,
      if_pos full]
    rfl
  · rw [OsmoSoftUart.took, OsmoSoftUart.took, held, if_neg empty, if_neg empty, if_neg full,
      if_neg full]
    rfl

/-! ## One bit -/

/-- The state with other values for what counts and collects the bits of a character. -/
def OsmoSoftUart.inside (sua : OsmoSoftUart) (bitCount : Nat) (shiftReg : UInt8)
    (parityBit : Ubit) : OsmoSoftUart :=
  { sua with bitCount := bitCount, shiftReg := shiftReg, parityBit := parityBit }

theorem OsmoSoftUart.Sound.inside (sound : sua.Sound) {bitCount : Nat} (bound : bitCount < 256)
    (shiftReg : UInt8) (parityBit : Ubit) : (sua.inside bitCount shiftReg parityBit).Sound :=
  sound.congr bound rfl rfl rfl rfl

/-- The next bit is the last one of a character. -/
def OsmoSoftUart.Completes (sua : OsmoSoftUart) : Prop :=
  sua.running = true ∧ sua.bitCount ≠ 0 ∧ (sua.bitCount + 1) % 256 = sua.cfg.numBits

instance (sua : OsmoSoftUart) : Decidable sua.Completes := inferInstanceAs (Decidable (_ ∧ _))

theorem OsmoSoftUartCfg.Accepted.stopBits_pos {cfg : OsmoSoftUartCfg} (accepted : cfg.Accepted) :
    0 < cfg.numStopBits.toNat := by
  have nonzero := accepted.2.1
  rw [ne_eq, ← UInt8.toNat_inj] at nonzero
  exact Nat.pos_of_ne_zero nonzero

/-- The framing error leaves the flags as they are. -/
theorem or_framingError (flags : UInt32) : flags ||| osmoSuartFFramingError = flags :=
  UInt32.or_zero

/-- A bit that does not complete a character. -/
theorem osmoUartRxBit_of_not_completes (sound : sua.Sound) (incomplete : ¬ sua.Completes)
    (bit : Ubit) : ∃ bitCount shiftReg parityBit, bitCount < 256 ∧
      osmoUartRxBit msgbAllocC sua bit = some (sua.inside bitCount shiftReg parityBit) := by
  have counted : (sua.bitCount + 1) % 256 < 256 := Nat.mod_lt _ (by decide)
  by_cases running : sua.running = true
  case neg =>
    refine ⟨sua.bitCount, sua.shiftReg, sua.parityBit, sound.count, ?_⟩
    rw [osmoUartRxBit, if_pos (by simpa using running)]
    rfl
  by_cases idle : sua.bitCount = 0
  case pos =>
    cases bit with
    | true =>
        refine ⟨sua.bitCount, sua.shiftReg, sua.parityBit, sound.count, ?_⟩
        rw [osmoUartRxBit, if_neg (by rw [running]; decide), if_pos idle, if_pos rfl]
        rfl
    | false =>
        refine ⟨1, 0, sua.parityBit, by decide, ?_⟩
        simp [osmoUartRxBit, OsmoSoftUart.inside, running, idle, ← sound.flags]
  have short : (sua.bitCount + 1) % 256 ≠ sua.cfg.numBits := fun last =>
    incomplete ⟨running, idle, last⟩
  have awake : ¬ (!sua.running) = true := by rw [running]; decide
  rw [osmoUartRxBit, if_neg awake, if_neg idle]
  dsimp only
  split
  · exact ⟨_, _, _, counted, rfl⟩
  split
  · exact ⟨_, _, _, counted, rfl⟩
  split
  · refine ⟨_, sua.shiftReg, sua.parityBit, counted, ?_⟩
    cases bit <;>
      simp only [or_framingError, Bool.false_eq_true, if_true, if_false, if_neg short] <;> rfl
  · exact ⟨_, _, _, counted, rfl⟩

/-- The last bit of a character gives the shift register to the buffer. -/
theorem osmoUartRxBit_of_completes (sound : sua.Sound) (complete : sua.Completes)
    (buffer : sua.msg = some msg) (bit : Ubit) :
    osmoUartRxBit msgbAllocC sua bit =
      if msg.data.length < msg.room then
        some { sua.took msgbAllocC sua.shiftReg with bitCount := 0 }
      else none := by
  obtain ⟨running, counting, last⟩ := complete
  have stops := sound.accepted.stopBits_pos
  have pastData : ¬ sua.cfg.numBits ≤ 1 + sua.cfg.numDataBits.toNat := by
    rw [OsmoSoftUartCfg.numBits]
    omega
  have pastParity : ¬ (sua.cfg.parityMode ≠ .none ∧
      sua.cfg.numBits = 1 + sua.cfg.numDataBits.toNat + 1) := by
    rintro ⟨parity, here⟩
    rw [OsmoSoftUartCfg.numBits, OsmoSoftUartCfg.numParityBits, if_pos parity] at here
    omega
  have taken : suartRxCh msgbAllocC { sua with bitCount := sua.cfg.numBits } sua.shiftReg =
      if msg.data.length < msg.room then
        some { sua.took msgbAllocC sua.shiftReg with bitCount := sua.cfg.numBits }
      else none := by
    have flags : { sua with bitCount := sua.cfg.numBits }.flags = 0 := sound.flags
    rw [suartRxCh_eq flags buffer, took_bitCount]
  have awake : ¬ (!sua.running) = true := by rw [running]; decide
  rw [osmoUartRxBit, if_neg awake, if_neg counting, last]
  dsimp only
  rw [if_neg pastData, if_neg pastParity, if_pos (Nat.le_refl _)]
  cases bit <;>
    simp only [or_framingError, Bool.false_eq_true, if_true, if_false, taken] <;> split <;> rfl

/-! ## Reached states -/

theorem OsmoSoftUart.Sound.rxBit (sound : sua.Sound) {bit : Ubit}
    (step : osmoUartRxBit msgbAllocC sua bit = some next) : next.Sound := by
  by_cases complete : sua.Completes
  · obtain ⟨msg, buffer⟩ := Option.isSome_iff_exists.mp (sound.buffered complete.1)
    rw [osmoUartRxBit_of_completes sound complete buffer] at step
    split at step
    case isTrue room =>
      obtain rfl := Option.some.inj step
      have took : (sua.took msgbAllocC sua.shiftReg).Sound := sound.took buffer room sua.shiftReg
      exact took.congr (Nat.zero_lt_of_lt took.count) rfl rfl rfl rfl
    case isFalse => cases step
  · obtain ⟨count, shiftReg, parityBit, bound, same⟩ :=
      osmoUartRxBit_of_not_completes sound complete bit
    obtain rfl := Option.some.inj (step.symm.trans same)
    exact sound.inside bound shiftReg parityBit

theorem OsmoSoftUartCfg.flushLen_pos (cfg : OsmoSoftUartCfg) : 0 < cfg.flushLen :=
  Nat.lt_of_lt_of_le Nat.zero_lt_two (Nat.le_max_right _ 2)

/-- The state after an accepted configuration. -/
def OsmoSoftUart.configured (msgbAllocC : Nat → Nat) (sua : OsmoSoftUart)
    (cfg : OsmoSoftUartCfg) : OsmoSoftUart :=
  if sua.cfg.Shrinks cfg then { sua.flushed msgbAllocC with cfg := cfg, timerCb := true }
  else { sua with cfg := cfg, timerCb := true }

/-- The state of a receiver that is no longer enabled. -/
def OsmoSoftUart.disabled (msgbAllocC : Nat → Nat) (sua : OsmoSoftUart) : OsmoSoftUart :=
  { sua.flushed msgbAllocC with running := false }

/-- The state of a receiver that has been enabled. -/
def OsmoSoftUart.enabled (msgbAllocC : Nat → Nat) (sua : OsmoSoftUart) : OsmoSoftUart :=
  { sua with msg := some (sua.msg.getD (newMsgb msgbAllocC sua.cfg.rxBufSize)), running := true }

/-- The state after the receiver has been enabled or disabled. -/
def OsmoSoftUart.rxEnabled (msgbAllocC : Nat → Nat) (sua : OsmoSoftUart) (rx : Bool) :
    OsmoSoftUart :=
  if rx = sua.running then sua
  else if rx then sua.enabled msgbAllocC else sua.disabled msgbAllocC

/-- The state after the timer has expired. -/
def OsmoSoftUart.expired (msgbAllocC : Nat → Nat) (sua : OsmoSoftUart) : OsmoSoftUart :=
  if sua.timer.isSome ∧ sua.timerCb then { sua with timer := none }.flushed msgbAllocC
  else { sua with timer := none }

theorem osmoSoftUartConfigure_eq (flags : sua.flags = 0) (cfg : OsmoSoftUartCfg) :
    osmoSoftUartConfigure msgbAllocC sua cfg =
      if cfg.Accepted then some (0, sua.configured msgbAllocC cfg) else some (einval, sua) := by
  rw [osmoSoftUartConfigure, suartFlushRx_eq flags, OsmoSoftUart.configured]
  split
  · split <;> rfl
  · rfl

theorem OsmoSoftUart.enableRx_eq (flags : sua.flags = 0) (rx : Bool) :
    sua.enableRx msgbAllocC rx = some (sua.rxEnabled msgbAllocC rx) := by
  rw [OsmoSoftUart.enableRx, OsmoSoftUart.rxEnabled, suartFlushRx_eq flags]
  cases rx <;> cases sua.running <;> rfl

theorem OsmoSoftUart.timerExpiry_eq (flags : sua.flags = 0) :
    sua.timerExpiry msgbAllocC = some (sua.expired msgbAllocC) := by
  have kept : { sua with timer := none }.flags = 0 := flags
  simp only [OsmoSoftUart.timerExpiry, OsmoSoftUart.expired, suartRxTimerCb,
    suartFlushRx_eq kept]
  cases scheduled : sua.timer with
  | none =>
      have same : { sua with timer := none } = sua := by rw [← scheduled]
      simp [same]
  | some time => cases sua.timerCb <;> simp

theorem OsmoSoftUart.Sound.configured (sound : sua.Sound) {cfg : OsmoSoftUartCfg}
    (accepted : cfg.Accepted) : (sua.configured msgbAllocC cfg).Sound := by
  rw [OsmoSoftUart.configured]
  split
  case isTrue =>
    have flushed : (sua.flushed msgbAllocC).Sound := sound.toUsable.flushed
    have empty : (sua.flushed msgbAllocC).held.length < cfg.flushLen := by
      rw [held_flushed]
      exact cfg.flushLen_pos
    exact ⟨⟨accepted, flushed.count, flushed.flags, flushed.buffered, flushed.within⟩, empty⟩
  case isFalse grown =>
    have sizes : sua.cfg.rxBufSize ≤ cfg.rxBufSize := Nat.not_lt.mp fun less => grown (.inl less)
    have below : sua.held.length < cfg.flushLen :=
      Nat.lt_of_lt_of_le sound.below (by unfold OsmoSoftUartCfg.flushLen; omega)
    exact ⟨⟨accepted, sound.count, sound.flags, sound.buffered, sound.within⟩, below⟩

theorem OsmoSoftUart.Sound.disabled (sound : sua.Sound) : (sua.disabled msgbAllocC).Sound := by
  have flushed : (sua.flushed msgbAllocC).Sound := sound.toUsable.flushed
  exact ⟨⟨flushed.accepted, flushed.count, flushed.flags,
    fun running => absurd running Bool.false_ne_true, flushed.within⟩, flushed.below⟩

theorem held_enabled : (sua.enabled msgbAllocC).held = sua.held := by
  unfold OsmoSoftUart.held OsmoSoftUart.enabled
  cases sua.msg <;> rfl

theorem OsmoSoftUart.Sound.enabled (sound : sua.Sound) : (sua.enabled msgbAllocC).Sound := by
  refine ⟨⟨sound.accepted, sound.count, sound.flags, fun _ => rfl, fun msg after => ?_⟩, ?_⟩
  · obtain rfl := Option.some.inj after
    cases buffer : sua.msg with
    | none => exact Nat.zero_le _
    | some msg => exact sound.within msg buffer
  · rw [held_enabled]
    exact sound.below

/-- **A step keeps what holds in every state reached.** -/
theorem uartStep_sound (sound : sua.Sound) {event : UartEvent}
    (step : uartStep msgbAllocC sua event = some next) : next.Sound := by
  cases event with
  | configure cfg =>
      rw [uartStep, osmoSoftUartConfigure_eq sound.flags] at step
      split at step
      case isTrue accepted => exact Option.some.inj step ▸ sound.configured accepted
      case isFalse => exact Option.some.inj step ▸ sound
  | enable rx tx =>
      have kept : (sua.rxEnabled msgbAllocC rx).Sound := by
        rw [OsmoSoftUart.rxEnabled]
        split
        · exact sound
        · split
          · exact sound.enabled
          · exact sound.disabled
      rw [uartStep, osmoSoftUartEnable, OsmoSoftUart.enableRx_eq sound.flags] at step
      obtain rfl := Option.some.inj step
      exact kept.congr kept.count rfl rfl rfl rfl
  | rxBit bit => exact sound.rxBit step
  | timerExpiry =>
      rw [uartStep, OsmoSoftUart.timerExpiry_eq sound.flags] at step
      obtain rfl := Option.some.inj step
      rw [OsmoSoftUart.expired]
      split
      · exact sound.unscheduled.toUsable.flushed
      · exact sound.unscheduled

theorem alloc_sound : osmoSoftUartAlloc.Sound where
  accepted := by decide
  count := by decide
  flags := rfl
  buffered running := absurd running Bool.false_ne_true
  within _ buffer := by cases buffer
  below := suartDefaultCfg.flushLen_pos

theorem uartReached_sound (reached : UartReached msgbAllocC sua) : sua.Sound :=
  reached.invariant OsmoSoftUart.Sound alloc_sound fun _ sound _ step => uartStep_sound sound step

/-- A receiver that has been configured and enabled. -/
def enabledWith (msgbAllocC : Nat → Nat) (cfg : OsmoSoftUartCfg) : OsmoSoftUart :=
  { osmoSoftUartAlloc with
    cfg := cfg, timerCb := true, running := true
    msg := some (newMsgb msgbAllocC cfg.rxBufSize) }

theorem enabledWith_reached (msgbAllocC : Nat → Nat) {cfg : OsmoSoftUartCfg}
    (accepted : cfg.Accepted) : UartReached msgbAllocC (enabledWith msgbAllocC cfg) := by
  have configured : uartStep msgbAllocC osmoSoftUartAlloc (.configure cfg) =
      some { osmoSoftUartAlloc with cfg := cfg, timerCb := true } := by
    rw [uartStep, osmoSoftUartConfigure_eq rfl, if_pos accepted, OsmoSoftUart.configured]
    split <;> rfl
  exact (Reached.refl.tail _ trivial configured).tail (.enable true false) trivial rfl

end IsdnRas.V110
