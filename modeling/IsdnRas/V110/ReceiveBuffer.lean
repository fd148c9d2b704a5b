import IsdnRas.V110.Characters

/-!
# No character is lost in the receive buffer

The characters received are those given to the call-back, and then those in the buffer, and
no message is longer than the size in force. This is kept along a run exactly when each of
its steps fits (`receive_buffer_iff`): a completed character finds room in the buffer, and
a flush of bytes finds a call-back and, when it is made by a character, a size that is not
one.

The size in force does not ensure that there is room. It may have grown since the buffer was
allocated, and the second character in a buffer for one byte finds no room
(`one_byte_buffer`). There is always room when the size is two or more and no more than the
buffer was allocated for.
-/

set_option autoImplicit false

namespace IsdnRas.V110

/-- The characters received are in the messages and in the buffer, and no message is too
long. -/
structure OsmoSoftUart.Keeps (sua : OsmoSoftUart) : Prop where
  lengths : ∀ message ∈ sua.delivered, message.data.length ≤ message.rxBufSize
  order : sua.delivered.flatMap (·.data) ++ sua.held = sua.received

/-- A flush does not drop bytes. -/
def OsmoSoftUart.FlushKeeps (sua : OsmoSoftUart) : Prop := sua.held = [] ∨ sua.cfg.rxCb = true

/-- The condition on a step. -/
def Fits (sua : OsmoSoftUart) : UartEvent → Prop
  | .configure cfg => cfg.Accepted → sua.cfg.Shrinks cfg → sua.FlushKeeps
  | .enable rx _ => rx = false → sua.running = true → sua.FlushKeeps
  | .rxBit _ => sua.Completes → ∀ msg, sua.msg = some msg → msg.data.length < msg.room ∧
      (msg.data ≠ [] → sua.cfg.rxBufSize ≤ msg.data.length + 1 →
        sua.cfg.rxCb = true ∧ sua.cfg.rxBufSize ≠ 1)
  | .timerExpiry => sua.timer.isSome = true → sua.timerCb = true → sua.FlushKeeps

/-- Every configuration has a call-back, and a character is completed with a call-back and a
size from two to what the buffer was allocated for. -/
def Sized (sua : OsmoSoftUart) : UartEvent → Prop
  | .configure cfg => cfg.rxCb = true
  | .rxBit _ => sua.Completes → sua.cfg.rxCb = true ∧ 2 ≤ sua.cfg.rxBufSize ∧
      ∀ msg, sua.msg = some msg → sua.cfg.rxBufSize ≤ msg.room
  | _ => True

variable {msgbAllocC : Nat → Nat} {sua next : OsmoSoftUart} {msg : Msgb}

/-! ## One step -/

/-- The property is about the messages, the buffer and the characters. -/
theorem keeps_congr (delivered : next.delivered = sua.delivered) (held : next.held = sua.held)
    (received : next.received = sua.received) : next.Keeps ↔ sua.Keeps := by
  constructor
  · rintro ⟨lengths, order⟩
    rw [delivered, held, received] at order
    exact ⟨delivered ▸ lengths, order⟩
  · rintro ⟨lengths, order⟩
    refine ⟨delivered ▸ lengths, ?_⟩
    rw [delivered, held, received]
    exact order

/-- A flush keeps the property when there is nothing to flush, or a call-back for a message
that is not too long. -/
theorem keeps_flushed_iff (keeps : sua.Keeps) : (sua.flushed msgbAllocC).Keeps ↔
    (sua.held ≠ [] → sua.cfg.rxCb = true ∧ sua.held.length ≤ sua.cfg.rxBufSize) := by
  constructor
  · rintro ⟨lengths, order⟩ filled
    have order : (sua.delivered ++ sua.flushedData).flatMap (·.data) ++ [] = sua.received := by
      have empty : (sua.flushed msgbAllocC).held = [] := held_flushed
      rw [← empty]
      exact order
    by_cases call : sua.cfg.rxCb = true
    · refine ⟨call, lengths ⟨sua.held, 0, sua.cfg.rxBufSize⟩ (List.mem_append_right _ ?_)⟩
      simp [OsmoSoftUart.flushedData, filled, call]
    · have lost : sua.flushedData = [] := by simp [OsmoSoftUart.flushedData, call]
      rw [lost, List.append_nil, List.append_nil, ← keeps.order] at order
      exact absurd (List.self_eq_append_right.mp order) filled
  · intro fits
    refine ⟨fun message member => ?_, ?_⟩
    · rcases List.mem_append.mp member with old | new
      · exact keeps.lengths message old
      · rw [OsmoSoftUart.flushedData] at new
        split at new
        case isTrue filled => exact List.mem_singleton.mp new ▸ (fits filled.1).2
        case isFalse => cases new
    · have data := flatMap_flushedData fun filled => (fits filled).1
      have received : (sua.flushed msgbAllocC).received = sua.received := rfl
      rw [held_flushed, List.append_nil, received, ← keeps.order, ← data]
      exact List.flatMap_append

/-- A flush outside of a character keeps the property when it drops nothing: the buffer is
below its size. -/
theorem keeps_flushed_iff_of_sound (sound : sua.Sound) (keeps : sua.Keeps) :
    (sua.flushed msgbAllocC).Keeps ↔ sua.FlushKeeps := by
  have nonzero := sound.accepted.2.2.2
  have below := sound.below
  rw [OsmoSoftUartCfg.flushLen] at below
  rw [keeps_flushed_iff keeps, OsmoSoftUart.FlushKeeps, ← or_iff_not_imp_left]
  exact or_congr_right (and_iff_left (by omega))

/-- With its own character the property carries over to the buffer. -/
theorem keeps_append (keeps : sua.Keeps) (buffer : sua.msg = some msg) (ch : UInt8) :
    (sua.append ch).Keeps where
  lengths := keeps.lengths
  order := by
    rw [held_append buffer, ← List.append_assoc]
    exact congrArg (· ++ [ch]) keeps.order

/-- A character keeps the property unless it makes a flush that drops bytes or gives a
message that is too long. -/
theorem keeps_took_iff (sound : sua.Sound) (keeps : sua.Keeps) (buffer : sua.msg = some msg)
    (ch : UInt8) : (sua.took msgbAllocC ch).Keeps ↔
      (msg.data ≠ [] → sua.cfg.rxBufSize ≤ msg.data.length + 1 →
        sua.cfg.rxCb = true ∧ sua.cfg.rxBufSize ≠ 1) := by
  have appended := keeps_append keeps buffer ch
  have held := held_of_msg buffer
  rw [OsmoSoftUart.took, held]
  split
  case isTrue empty =>
    have started : (sua.append ch).startTimer.Keeps ↔ (sua.append ch).Keeps :=
      keeps_congr rfl rfl rfl
    exact iff_of_true (started.mpr appended) fun filled => absurd empty filled
  case isFalse filled =>
    split
    case isTrue full =>
      have nonzero := sound.accepted.2.2.2
      have below := sound.below
      have one : 0 < msg.data.length := List.length_pos_iff.mpr filled
      have nonempty : (sua.append ch).held ≠ [] := by simp [held_append buffer]
      have length : (sua.append ch).held.length = msg.data.length + 1 := by
        rw [held_append buffer, held, List.length_append]
        rfl
      rw [OsmoSoftUartCfg.flushLen, held] at below
      have fits : (sua.append ch).held.length ≤ (sua.append ch).cfg.rxBufSize ↔
          sua.cfg.rxBufSize ≠ 1 := by
        rw [length]
        change msg.data.length + 1 ≤ sua.cfg.rxBufSize ↔ _
        omega
      rw [keeps_flushed_iff appended, fits]
      simp only [ne_eq, nonempty, filled, full, not_false_eq_true, true_imp_iff]
      rfl
    case isFalse short => exact iff_of_true appended fun _ full => absurd full short

theorem rxBit_keeps_iff (sound : sua.Sound) (keeps : sua.Keeps) (bit : Ubit) :
    (∃ next, osmoUartRxBit msgbAllocC sua bit = some next ∧ next.Keeps) ↔
      Fits sua (.rxBit bit) := by
  by_cases complete : sua.Completes
  · obtain ⟨msg, buffer⟩ := Option.isSome_iff_exists.mp (sound.buffered complete.1)
    have took : (sua.took msgbAllocC sua.shiftReg).Keeps ↔ _ :=
      keeps_took_iff sound keeps buffer sua.shiftReg
    rw [osmoUartRxBit_of_completes sound complete buffer]
    simp only [Fits, complete, buffer, Option.some.injEq, forall_eq', true_imp_iff]
    have counted : { sua.took msgbAllocC sua.shiftReg with bitCount := 0 }.Keeps ↔
        (sua.took msgbAllocC sua.shiftReg).Keeps := keeps_congr rfl rfl rfl
    by_cases room : msg.data.length < msg.room
    · simp only [room, if_true, Option.some.injEq, exists_eq_left', true_and]
      exact counted.trans took
    · simp [room]
  · obtain ⟨count, shiftReg, parityBit, -, same⟩ :=
      @osmoUartRxBit_of_not_completes msgbAllocC sua sound complete bit
    have inside : (sua.inside count shiftReg parityBit).Keeps ↔ sua.Keeps := keeps_congr rfl rfl rfl
    exact iff_of_true ⟨_, same, inside.mpr keeps⟩ fun completes => absurd completes complete

theorem configured_keeps_iff (sound : sua.Sound) (keeps : sua.Keeps) (cfg : OsmoSoftUartCfg) :
    (sua.configured msgbAllocC cfg).Keeps ↔ (sua.cfg.Shrinks cfg → sua.FlushKeeps) := by
  rw [OsmoSoftUart.configured]
  split
  case isTrue shrinks =>
    have same : { sua.flushed msgbAllocC with cfg := cfg, timerCb := true }.Keeps ↔
        (sua.flushed msgbAllocC).Keeps := keeps_congr rfl rfl rfl
    rw [same, keeps_flushed_iff_of_sound sound keeps]
    exact (imp_iff_right shrinks).symm
  case isFalse grown =>
    have same : { sua with cfg := cfg, timerCb := true }.Keeps ↔ sua.Keeps :=
      keeps_congr rfl rfl rfl
    exact iff_of_true (same.mpr keeps) fun shrinks => absurd shrinks grown

theorem rxEnabled_keeps_iff (sound : sua.Sound) (keeps : sua.Keeps) (rx : Bool) :
    (sua.rxEnabled msgbAllocC rx).Keeps ↔ (rx = false → sua.running = true → sua.FlushKeeps) := by
  have enabled : (sua.enabled msgbAllocC).Keeps ↔ sua.Keeps := keeps_congr rfl held_enabled rfl
  have disabled : (sua.disabled msgbAllocC).Keeps ↔ (sua.flushed msgbAllocC).Keeps :=
    keeps_congr rfl rfl rfl
  rw [OsmoSoftUart.rxEnabled]
  cases rx <;> cases sua.running <;>
    simp [enabled, disabled, keeps, keeps_flushed_iff_of_sound sound]

theorem expired_keeps_iff (sound : sua.Sound) (keeps : sua.Keeps) :
    (sua.expired msgbAllocC).Keeps ↔
      (sua.timer.isSome = true → sua.timerCb = true → sua.FlushKeeps) := by
  have same : { sua with timer := none }.Keeps ↔ sua.Keeps := keeps_congr rfl rfl rfl
  rw [OsmoSoftUart.expired]
  split
  case isTrue expires =>
    rw [keeps_flushed_iff_of_sound sound.unscheduled (same.mpr keeps)]
    exact ⟨fun kept _ _ => kept, fun kept => kept expires.1 expires.2⟩
  case isFalse waits =>
    exact iff_of_true (same.mpr keeps) fun scheduled callBack => absurd ⟨scheduled, callBack⟩ waits

/-- **A step succeeds and keeps the property exactly when it fits.** -/
theorem uartStep_keeps_iff (sound : sua.Sound) (keeps : sua.Keeps) (event : UartEvent) :
    (∃ next, uartStep msgbAllocC sua event = some next ∧ next.Keeps) ↔ Fits sua event := by
  cases event with
  | configure cfg =>
      rw [uartStep, osmoSoftUartConfigure_eq sound.flags]
      by_cases accepted : cfg.Accepted
      · simpa [Fits, accepted] using configured_keeps_iff sound keeps cfg
      · simpa [Fits, accepted] using keeps
  | enable rx tx =>
      have same : { sua.rxEnabled msgbAllocC rx with txRunning := tx }.Keeps ↔
          (sua.rxEnabled msgbAllocC rx).Keeps := keeps_congr rfl rfl rfl
      rw [uartStep, osmoSoftUartEnable, OsmoSoftUart.enableRx_eq sound.flags]
      simpa [Fits] using same.trans (rxEnabled_keeps_iff sound keeps rx)
  | rxBit bit => exact rxBit_keeps_iff sound keeps bit
  | timerExpiry =>
      rw [uartStep, OsmoSoftUart.timerExpiry_eq sound.flags]
      simpa [Fits] using expired_keeps_iff sound keeps

/-! ## Runs -/

/-- Bytes in the buffer have a call-back to go to. -/
def OsmoSoftUart.Covered (sua : OsmoSoftUart) : Prop := sua.held ≠ [] → sua.cfg.rxCb = true

/-- Nothing needs a call-back behind a flush. -/
theorem covered_flushed : (sua.flushed msgbAllocC).Covered :=
  fun filled => absurd held_flushed filled

theorem uartStep_covered (sound : sua.Sound) (covered : sua.Covered) {event : UartEvent}
    (sized : Sized sua event) (step : uartStep msgbAllocC sua event = some next) :
    next.Covered := by
  cases event with
  | configure cfg =>
      rw [uartStep, osmoSoftUartConfigure_eq sound.flags] at step
      split at step
      case isTrue =>
        obtain rfl := Option.some.inj step
        intro _
        rw [OsmoSoftUart.configured]
        split <;> exact sized
      case isFalse => exact Option.some.inj step ▸ covered
  | enable rx tx =>
      have kept : (sua.rxEnabled msgbAllocC rx).Covered := by
        rw [OsmoSoftUart.rxEnabled]
        split
        · exact covered
        · split
          · exact fun filled => covered (held_enabled ▸ filled)
          · exact covered_flushed
      rw [uartStep, osmoSoftUartEnable, OsmoSoftUart.enableRx_eq sound.flags] at step
      exact Option.some.inj step ▸ kept
  | rxBit bit =>
      by_cases complete : sua.Completes
      · obtain ⟨msg, buffer⟩ := Option.isSome_iff_exists.mp (sound.buffered complete.1)
        obtain ⟨_, _, _, took⟩ := @took_eq msgbAllocC sua sua.shiftReg
        rw [uartStep, osmoUartRxBit_of_completes sound complete buffer, took] at step
        split at step
        case isTrue => exact Option.some.inj step ▸ fun _ => (sized complete).1
        case isFalse => cases step
      · obtain ⟨_, _, _, -, same⟩ := osmoUartRxBit_of_not_completes sound complete bit
        exact Option.some.inj (same.symm.trans step) ▸ covered
  | timerExpiry =>
      rw [uartStep, OsmoSoftUart.timerExpiry_eq sound.flags, OsmoSoftUart.expired] at step
      obtain rfl := Option.some.inj step
      split
      · exact covered_flushed
      · exact covered

/-- With sizes that agree every step fits. -/
theorem fits_of_sized (sound : sua.Sound) (covered : sua.Covered) {event : UartEvent}
    (sized : Sized sua event) : Fits sua event := by
  have flush : sua.FlushKeeps := or_iff_not_imp_left.mpr covered
  cases event with
  | configure cfg => exact fun _ _ => flush
  | enable rx tx => exact fun _ _ => flush
  | rxBit bit =>
      intro complete msg buffer
      obtain ⟨call, two, enough⟩ := sized complete
      have below := sound.below
      have size := enough msg buffer
      rw [held_of_msg buffer, OsmoSoftUartCfg.flushLen, Nat.max_eq_left two] at below
      exact ⟨by omega, fun _ _ => ⟨call, by omega⟩⟩
  | timerExpiry => exact fun _ _ => flush

/-- **Along a run no character is lost, and no message is too long, exactly when each step
fits.** So it is when the sizes agree. -/
theorem receive_buffer_iff (msgbAllocC : Nat → Nat) (events : List UartEvent) :
    ((∀ before, before <+: events → ∃ sua,
        runOps (uartStep msgbAllocC) osmoSoftUartAlloc before = some sua ∧ sua.Keeps) ↔
      MeetsAlong (uartStep msgbAllocC) Fits osmoSoftUartAlloc events) ∧
    (MeetsAlong (uartStep msgbAllocC) Sized osmoSoftUartAlloc events →
      MeetsAlong (uartStep msgbAllocC) Fits osmoSoftUartAlloc events) := by
  have start : osmoSoftUartAlloc.Keeps := ⟨fun _ member => absurd member List.not_mem_nil, rfl⟩
  constructor
  · exact holds_along_iff (fun _ sound step => uartStep_sound sound step)
      (fun _ event sound keeps => uartStep_keeps_iff sound keeps event) events alloc_sound start
  · refine MeetsAlong.imp (fun sua => sua.Sound ∧ sua.Covered)
      (fun _ now sized step => ⟨uartStep_sound now.1 step, uartStep_covered now.1 now.2 sized step⟩)
      (fun _ now sized => fits_of_sized now.1 now.2 sized) events ⟨alloc_sound, fun filled => ?_⟩
    exact absurd rfl filled

/-! ## A buffer for one byte -/

def oneByte : OsmoSoftUartCfg := { eightBits with rxBufSize := 1 }

/-- Two characters, for a receiver with a buffer for one byte. -/
def oneByteRun : List UartEvent :=
  [.configure oneByte, .enable true false] ++
    (serialStream oneByte [⟨0, 0x41, false⟩, ⟨0, 0x42, false⟩] 0).map .rxBit

/-- The buffer is full, and the second character is put into it. -/
theorem one_byte_buffer : oneByte.Accepted ∧ oneByte.rxCb = true ∧
    (runOps (uartStep id) osmoSoftUartAlloc oneByteRun.dropLast).bind (·.msg) =
      some { room := 1, data := [0x41] } ∧
    runOps (uartStep id) osmoSoftUartAlloc oneByteRun = none := by
  decide +kernel

end IsdnRas.V110
