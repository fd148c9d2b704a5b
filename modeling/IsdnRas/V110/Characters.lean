import IsdnRas.V110.UartStates
import Mathlib.Algebra.Group.Nat.Defs

/-!
# Characters on the line

A character is sent as a start bit, its data bits from the lowest on, a parity bit when one
is configured, and the stop bits. The receiver takes a list of characters exactly when
three things hold (`characters_received_iff`).

The bits of a character fit into the eight bit counter. With more of them the counter
starts again in the middle of the stop bits, and no character is ever complete.

There are eight data bits. The shift register is filled from the top, so fewer of them stay
there, and only the character zero looks the same.

The buffers have room. The one at hand may be smaller than the size in force, and so may
those that the library gives for this size.
-/

set_option autoImplicit false

namespace IsdnRas.V110

/-! ## The serial form -/

/-- A character, with the idle bits in front of it and its parity bit. -/
structure SerialCharacter where
  idleBits : Nat
  ch : UInt8
  parity : Ubit
deriving Repr, DecidableEq

/-- The lowest bits of a character. -/
def dataBits (count : Nat) (ch : UInt8) : List Ubit := (List.range count).map ch.toNat.testBit

def serialForm (cfg : OsmoSoftUartCfg) (character : SerialCharacter) : List Ubit :=
  List.replicate character.idleBits true ++ [false] ++
    dataBits cfg.numDataBits.toNat character.ch ++
    List.replicate cfg.numParityBits character.parity ++
    List.replicate cfg.numStopBits.toNat true

/-- Some characters, and the idle bits behind them. -/
def serialStream (cfg : OsmoSoftUartCfg) (characters : List SerialCharacter)
    (idleBits : Nat) : List Ubit :=
  characters.flatMap (serialForm cfg) ++ List.replicate idleBits true

/-- What is in the shift register after the data bits. -/
def shifted (cfg : OsmoSoftUartCfg) (ch : UInt8) : UInt8 :=
  (dataBits cfg.numDataBits.toNat ch).foldl shiftIn 0

/-! ## The shift register -/

theorem shiftIn_toNat (shiftReg : UInt8) (bit : Ubit) :
    (shiftIn shiftReg bit).toNat = shiftReg.toNat / 2 + bit.toNat * 128 := by
  have half : (shiftReg >>> 1).toNat = shiftReg.toNat / 2 := by
    rw [UInt8.toNat_shiftRight]
    exact Nat.shiftRight_eq_div_pow _ 1
  cases bit with
  | false => simpa [shiftIn] using half
  | true =>
      have small : shiftReg.toNat / 2 < 2 ^ 7 := by
        have := shiftReg.toNat_lt
        omega
      have sum := Nat.two_pow_add_eq_or_of_lt small 1
      rw [shiftIn, if_pos rfl, UInt8.toNat_or, half, Nat.or_comm]
      simpa [Nat.add_comm] using sum.symm

/-- The data bits are the top bits of the register. -/
theorem foldl_dataBits (ch : UInt8) (count : Nat) (few : count ≤ 8) :
    ((dataBits count ch).foldl shiftIn 0).toNat = ch.toNat % 2 ^ count * 2 ^ (8 - count) := by
  induction count with
  | zero => simp [dataBits, Nat.mod_one]
  | succ count ih =>
      have step : dataBits (count + 1) ch = dataBits count ch ++ [ch.toNat.testBit count] := by
        rw [dataBits, List.range_succ, List.map_append]
        rfl
      have bit : (ch.toNat.testBit count).toNat = ch.toNat / 2 ^ count % 2 := by
        rw [Nat.testBit_eq_decide_div_mod_eq]
        rcases Nat.mod_two_eq_zero_or_one (ch.toNat / 2 ^ count) with zero | one <;> simp [*]
      have places : 8 - count = 8 - (count + 1) + 1 := by omega
      have weight : 128 = 2 ^ count * 2 ^ (8 - (count + 1)) := by
        rw [← Nat.pow_add]
        exact congrArg (2 ^ ·) (by omega : 7 = count + (8 - (count + 1)))
      rw [step, List.foldl_append, List.foldl_cons, List.foldl_nil, shiftIn_toNat,
        ih (by omega), bit, places, Nat.pow_succ, ← Nat.mul_assoc, Nat.mul_div_cancel _ (by decide),
        Nat.mod_pow_succ, Nat.add_mul, weight, Nat.mul_comm (2 ^ count) (ch.toNat / 2 ^ count % 2),
        Nat.mul_assoc (ch.toNat / 2 ^ count % 2)]

/-- A character survives the shift register when there are eight data bits, or when it is
zero. -/
theorem shifted_eq_iff {cfg : OsmoSoftUartCfg} (few : cfg.numDataBits.toNat ≤ 8) {ch : UInt8}
    (small : ch.toNat < 2 ^ cfg.numDataBits.toNat) :
    shifted cfg ch = ch ↔ cfg.numDataBits.toNat = 8 ∨ ch = 0 := by
  rw [← UInt8.toNat_inj, shifted, foldl_dataBits ch _ few, Nat.mod_eq_of_lt small]
  rcases Nat.lt_or_ge cfg.numDataBits.toNat 8 with less | eight
  · have double : 2 ≤ 2 ^ (8 - cfg.numDataBits.toNat) :=
      Nat.pow_le_pow_right Nat.zero_lt_two (by omega : 1 ≤ 8 - cfg.numDataBits.toNat)
    have grows := Nat.mul_le_mul_left ch.toNat double
    rw [← UInt8.toNat_inj, or_iff_right (Nat.ne_of_lt less)]
    constructor
    · intro same
      have zero : ch.toNat = 0 := by omega
      exact zero
    · intro zero
      rw [show ch.toNat = 0 from zero, Nat.zero_mul]
  · have all : cfg.numDataBits.toNat = 8 := Nat.le_antisymm few eight
    simp [all]

/-! ## The bits of a character -/

variable {msgbAllocC : Nat → Nat} {sua : OsmoSoftUart} {msg : Msgb}

/-- Idle bits are passed over. -/
theorem rx_idleBits (idle : sua.bitCount = 0) (count : Nat) :
    runOps (osmoUartRxBit msgbAllocC) sua (List.replicate count true) = some sua := by
  induction count with
  | zero => rfl
  | succ count ih =>
      have passed : osmoUartRxBit msgbAllocC sua true = some sua := by
        rw [osmoUartRxBit, if_pos idle, if_pos rfl, ite_self]
      rw [List.replicate_succ, runOps, passed]
      exact ih

theorem rx_startBit (running : sua.running = true) (idle : sua.bitCount = 0)
    (flags : sua.flags = 0) :
    osmoUartRxBit msgbAllocC sua false = some (sua.inside 1 0 sua.parityBit) := by
  rw [osmoUartRxBit, if_neg (by rw [running]; decide), if_pos idle, idle, ← flags]
  rfl

theorem inside_running (running : sua.running = true) (count : Nat) (shiftReg : UInt8)
    (parityBit : Ubit) : ¬ (!(sua.inside count shiftReg parityBit).running) = true := by
  rw [OsmoSoftUart.inside, running]
  decide

theorem rx_dataBit (running : sua.running = true) {count : Nat}
    (data : count + 1 ≤ sua.cfg.numDataBits.toNat) (counted : count + 2 < 256) (shiftReg : UInt8)
    (parityBit bit : Ubit) :
    osmoUartRxBit msgbAllocC (sua.inside (count + 1) shiftReg parityBit) bit =
      some (sua.inside (count + 2) (shiftIn shiftReg bit) parityBit) := by
  have inData : count + 2 ≤ 1 + sua.cfg.numDataBits.toNat := by omega
  rw [osmoUartRxBit, if_neg (inside_running running _ _ _)]
  simp only [OsmoSoftUart.inside, Nat.succ_ne_zero, if_false, Nat.mod_eq_of_lt counted,
    if_pos inData]

/-- The data bits go to the shift register. -/
theorem rx_dataBits (running : sua.running = true) (few : sua.cfg.numDataBits.toNat ≤ 8)
    (bits : List Ubit) : ∀ {count : Nat}, count + bits.length ≤ sua.cfg.numDataBits.toNat →
      ∀ shiftReg parityBit,
        runOps (osmoUartRxBit msgbAllocC) (sua.inside (count + 1) shiftReg parityBit) bits =
          some (sua.inside (count + 1 + bits.length) (bits.foldl shiftIn shiftReg) parityBit) := by
  induction bits with
  | nil => exact fun _ _ _ => rfl
  | cons bit rest ih =>
      intro count data shiftReg parityBit
      rw [List.length_cons] at data
      have more : count + 1 + (rest.length + 1) = count + 1 + 1 + rest.length := by omega
      rw [runOps, rx_dataBit running (by omega) (by omega), Option.bind_some, List.length_cons,
        List.foldl_cons, more]
      exact ih (by omega) (shiftIn shiftReg bit) parityBit

/-- The parity bit is not used. -/
theorem rx_parityBits (running : sua.running = true) (few : sua.cfg.numDataBits.toNat ≤ 8)
    (shiftReg : UInt8) (parityBit parity : Ubit) : ∃ parityBit',
      runOps (osmoUartRxBit msgbAllocC)
          (sua.inside (1 + sua.cfg.numDataBits.toNat) shiftReg parityBit)
          (List.replicate sua.cfg.numParityBits parity) =
        some (sua.inside (1 + sua.cfg.numDataBits.toNat + sua.cfg.numParityBits) shiftReg
          parityBit') := by
  by_cases none : sua.cfg.parityMode = .none
  · refine ⟨parityBit, ?_⟩
    rw [OsmoSoftUartCfg.numParityBits, if_neg (not_not_intro none)]
    rfl
  · refine ⟨parity, ?_⟩
    have counted : 1 + sua.cfg.numDataBits.toNat + 1 < 256 := by omega
    have notFirst : 1 + sua.cfg.numDataBits.toNat ≠ 0 := by omega
    have pastData : ¬ 1 + sua.cfg.numDataBits.toNat + 1 ≤ 1 + sua.cfg.numDataBits.toNat := by omega
    rw [OsmoSoftUartCfg.numParityBits, if_pos none, List.replicate_one, runOps, osmoUartRxBit,
      if_neg (inside_running running _ _ _)]
    simp only [OsmoSoftUart.inside, notFirst, if_false, Nat.mod_eq_of_lt counted, if_neg pastData,
      ne_eq, none, not_false_eq_true, and_self, if_true, Option.bind_some]
    rfl

theorem rx_stopBit (running : sua.running = true) {count : Nat}
    (past : 1 + sua.cfg.numDataBits.toNat + sua.cfg.numParityBits ≤ count)
    (before : count + 1 < sua.cfg.numBits) (counted : count + 1 < 256) (shiftReg : UInt8)
    (parityBit : Ubit) :
    osmoUartRxBit msgbAllocC (sua.inside count shiftReg parityBit) true =
      some (sua.inside (count + 1) shiftReg parityBit) := by
  have notFirst : count ≠ 0 := by omega
  have pastData : ¬ count + 1 ≤ 1 + sua.cfg.numDataBits.toNat := by omega
  have pastParity : ¬ (sua.cfg.parityMode ≠ .none ∧
      count + 1 = 1 + sua.cfg.numDataBits.toNat + 1) := by
    rintro ⟨parity, here⟩
    rw [OsmoSoftUartCfg.numParityBits, if_pos parity] at past
    omega
  rw [osmoUartRxBit, if_neg (inside_running running _ _ _)]
  simp only [OsmoSoftUart.inside, notFirst, if_false, Nat.mod_eq_of_lt counted, if_neg pastData,
    if_neg pastParity, if_pos (Nat.le_of_lt before), if_true, if_neg (Nat.ne_of_lt before)]

/-- Stop bits are counted, up to the last one and as far as the counter goes. -/
theorem rx_stopBits (running : sua.running = true) (count : Nat)
    (before : 1 + sua.cfg.numDataBits.toNat + sua.cfg.numParityBits + count < sua.cfg.numBits)
    (counted : 1 + sua.cfg.numDataBits.toNat + sua.cfg.numParityBits + count < 256)
    (shiftReg : UInt8) (parityBit : Ubit) :
    runOps (osmoUartRxBit msgbAllocC)
        (sua.inside (1 + sua.cfg.numDataBits.toNat + sua.cfg.numParityBits) shiftReg parityBit)
        (List.replicate count true) =
      some (sua.inside (1 + sua.cfg.numDataBits.toNat + sua.cfg.numParityBits + count) shiftReg
        parityBit) := by
  induction count with
  | zero => rfl
  | succ count ih =>
      rw [List.replicate_succ', runOps_append, ih (by omega) (by omega), Option.bind_some, runOps,
        rx_stopBit running (Nat.le_add_right _ _) before counted]
      rfl

/-- The receiver is enabled, and waits for a start bit. -/
structure OsmoSoftUart.Waiting (sua : OsmoSoftUart) : Prop extends sua.Sound where
  running : sua.running = true
  idle : sua.bitCount = 0

/-- The bits of a character without its stop bits. -/
def serialHead (cfg : OsmoSoftUartCfg) (character : SerialCharacter) : List Ubit :=
  List.replicate character.idleBits true ++ [false] ++
    dataBits cfg.numDataBits.toNat character.ch ++
    List.replicate cfg.numParityBits character.parity

theorem serialForm_eq (cfg : OsmoSoftUartCfg) (character : SerialCharacter) :
    serialForm cfg character =
      serialHead cfg character ++ List.replicate cfg.numStopBits.toNat true := rfl

theorem OsmoSoftUartCfg.Accepted.dataBits_le {cfg : OsmoSoftUartCfg} (accepted : cfg.Accepted) :
    cfg.numDataBits.toNat ≤ 8 := Nat.not_lt.mp fun many => accepted.1 (.inl many)

/-- In front of the stop bits the character is in the shift register. -/
theorem rx_serialHead (waiting : sua.Waiting) (character : SerialCharacter) :
    ∃ parityBit, runOps (osmoUartRxBit msgbAllocC) sua (serialHead sua.cfg character) =
      some (sua.inside (1 + sua.cfg.numDataBits.toNat + sua.cfg.numParityBits)
        (shifted sua.cfg character.ch) parityBit) := by
  have few := waiting.accepted.dataBits_le
  have length : (dataBits sua.cfg.numDataBits.toNat character.ch).length =
      sua.cfg.numDataBits.toNat := by simp [dataBits]
  have data : runOps (osmoUartRxBit msgbAllocC) (sua.inside 1 0 sua.parityBit)
      (dataBits sua.cfg.numDataBits.toNat character.ch) =
        some (sua.inside (1 + sua.cfg.numDataBits.toNat) (shifted sua.cfg character.ch)
          sua.parityBit) := by
    have all := Nat.le_of_eq ((Nat.zero_add _).trans length)
    have taken := @rx_dataBits msgbAllocC sua waiting.running few _ 0 all 0 sua.parityBit
    rw [length] at taken
    exact taken
  obtain ⟨parityBit, parity⟩ := @rx_parityBits msgbAllocC sua waiting.running few
    (shifted sua.cfg character.ch) sua.parityBit character.parity
  refine ⟨parityBit, ?_⟩
  rw [serialHead, runOps_append, runOps_append, runOps_append, rx_idleBits waiting.idle,
    Option.bind_some, runOps, rx_startBit waiting.running waiting.idle waiting.flags,
    Option.bind_some, runOps, Option.bind_some, data]
  exact parity

/-- Before the last bit of a character, when the counter holds all its bits. -/
theorem rx_serialForm (waiting : sua.Waiting) (counted : sua.cfg.numBits ≤ 255)
    (character : SerialCharacter) : ∃ last : OsmoSoftUart, last.Sound ∧ last.Completes ∧
      (∃ count parityBit, last = sua.inside count (shifted sua.cfg character.ch) parityBit) ∧
      runOps (osmoUartRxBit msgbAllocC) sua (serialForm sua.cfg character) =
        osmoUartRxBit msgbAllocC last true := by
  obtain ⟨parityBit, head⟩ := @rx_serialHead msgbAllocC sua waiting character
  obtain ⟨stops, stops_eq⟩ : ∃ stops, sua.cfg.numStopBits.toNat = stops + 1 :=
    Nat.exists_eq_succ_of_ne_zero (Nat.ne_of_gt waiting.accepted.stopBits_pos)
  have numBits : sua.cfg.numBits =
      1 + sua.cfg.numDataBits.toNat + sua.cfg.numParityBits + stops + 1 := by
    rw [OsmoSoftUartCfg.numBits, stops_eq]
    rfl
  generalize start : 1 + sua.cfg.numDataBits.toNat + sua.cfg.numParityBits = first at numBits head
  have stopBits := @rx_stopBits msgbAllocC sua waiting.running stops
  rw [start] at stopBits
  refine ⟨sua.inside (first + stops) _ parityBit, waiting.inside (by omega) _ parityBit,
    ⟨waiting.running, ?_, ?_⟩, ⟨_, _, rfl⟩, ?_⟩
  · exact Nat.ne_of_gt (Nat.add_pos_left (by omega) stops)
  · exact (Nat.mod_eq_of_lt (by omega : first + stops + 1 < 256)).trans numBits.symm
  · rw [serialForm_eq, runOps_append, head, Option.bind_some, stops_eq, List.replicate_succ',
      runOps_append, stopBits (by omega) (by omega), Option.bind_some, runOps_singleton]

/-! ## Room for characters -/

/-- There is room for some more characters, with a buffer that may be smaller than the size
in force. -/
def RoomFor (msgbAllocC : Nat → Nat) (cfg : OsmoSoftUartCfg) (msg : Msgb) (count : Nat) : Prop :=
  if msg.room < cfg.flushLen then msg.data.length + count ≤ msg.room
  else cfg.rxCb = false ∨ cfg.flushLen ≤ msgbAllocC cfg.rxBufSize ∨
    msg.data.length + count ≤ cfg.flushLen + msgbAllocC cfg.rxBufSize

/-- The buffer of the receiver has room for some more characters. -/
def OsmoSoftUart.HasRoom (msgbAllocC : Nat → Nat) (sua : OsmoSoftUart) (count : Nat) : Prop :=
  ∀ msg, sua.msg = some msg → RoomFor msgbAllocC sua.cfg msg count

/-- The buffer after a character. -/
theorem took_msg (buffer : sua.msg = some msg) (ch : UInt8) :
    ∃ after, (sua.took msgbAllocC ch).msg = some after ∧
      (msg.data.length + 1 < sua.cfg.flushLen →
        after.room = msg.room ∧ after.data.length = msg.data.length + 1) ∧
      (¬ msg.data.length + 1 < sua.cfg.flushLen →
        after.data.length = 0 ∧
          after.room = if sua.cfg.rxCb then msgbAllocC sua.cfg.rxBufSize else msg.room) := by
  have grown : (sua.append ch).msg = some { msg with data := msg.data ++ [ch] } := by
    rw [OsmoSoftUart.append, buffer]
    rfl
  rw [OsmoSoftUart.took, held_of_msg buffer]
  split
  case isTrue empty =>
    refine ⟨_, grown, fun _ => ⟨rfl, List.length_append⟩, fun full => absurd ?_ full⟩
    rw [empty]
    exact Nat.lt_of_lt_of_le Nat.one_lt_two (Nat.le_max_right _ 2)
  case isFalse filled =>
    have one : 0 < msg.data.length := List.length_pos_iff.mpr filled
    split
    case isTrue full =>
      have nonempty : (sua.append ch).held ≠ [] := by simp [held_append buffer]
      have flushed : ((sua.append ch).flushed msgbAllocC).msg = if sua.cfg.rxCb then
          some (newMsgb msgbAllocC sua.cfg.rxBufSize) else some { msg with data := [] } := by
        rw [OsmoSoftUart.flushed, OsmoSoftUart.flushedMsg, if_neg nonempty, grown]
        rfl
      have notShort : ¬ msg.data.length + 1 < sua.cfg.flushLen := by
        rw [OsmoSoftUartCfg.flushLen]
        omega
      rw [flushed]
      cases sua.cfg.rxCb with
      | false => exact ⟨_, rfl, fun short => absurd short notShort, fun _ => ⟨rfl, rfl⟩⟩
      | true => exact ⟨_, rfl, fun short => absurd short notShort, fun _ => ⟨rfl, rfl⟩⟩
    case isFalse short =>
      refine ⟨_, grown, fun _ => ⟨rfl, List.length_append⟩, fun full => absurd ?_ full⟩
      rw [OsmoSoftUartCfg.flushLen]
      omega

/-- One more character leaves room for the others. -/
theorem roomFor_succ_iff {cfg : OsmoSoftUartCfg} {after : Msgb} {count : Nat}
    (below : msg.data.length < cfg.flushLen)
    (kept : msg.data.length + 1 < cfg.flushLen →
      after.room = msg.room ∧ after.data.length = msg.data.length + 1)
    (fresh : ¬ msg.data.length + 1 < cfg.flushLen →
      after.data.length = 0 ∧
        after.room = if cfg.rxCb then msgbAllocC cfg.rxBufSize else msg.room) :
    RoomFor msgbAllocC cfg msg (count + 1) ↔
      msg.data.length < msg.room ∧ RoomFor msgbAllocC cfg after count := by
  by_cases short : msg.data.length + 1 < cfg.flushLen
  · obtain ⟨room, data⟩ := kept short
    have sum : msg.data.length + (count + 1) = msg.data.length + 1 + count := by omega
    rw [RoomFor, RoomFor, room, data, sum]
    split
    case isTrue => omega
    case isFalse => exact (and_iff_right (by omega)).symm
  · obtain ⟨data, room⟩ := fresh short
    rw [RoomFor, RoomFor, data, room]
    cases cfg.rxCb with
    | false =>
        simp only [true_or, if_false, Bool.false_eq_true]
        split <;> simp <;> omega
    | true =>
        simp only [if_true, Bool.true_eq_false, false_or]
        split <;> split <;> omega

theorem OsmoSoftUart.Waiting.exists_msg (waiting : sua.Waiting) : ∃ msg, sua.msg = some msg :=
  Option.isSome_iff_exists.mp (waiting.buffered waiting.running)

/-- With one message at hand, what is said of all is said of it. -/
theorem hasRoom_iff (buffer : sua.msg = some msg) (count : Nat) :
    sua.HasRoom msgbAllocC count ↔ RoomFor msgbAllocC sua.cfg msg count := by
  constructor
  · exact fun room => room msg buffer
  · intro room other same
    obtain rfl := Option.some.inj (buffer.symm.trans same)
    exact room

theorem hasRoom_zero (sound : sua.Sound) : sua.HasRoom msgbAllocC 0 := by
  intro msg buffer
  have within := sound.within msg buffer
  have below : msg.data.length < sua.cfg.flushLen := held_of_msg buffer ▸ sound.below
  rw [RoomFor]
  split <;> omega

theorem hasRoom_pos (sound : sua.Sound) (buffer : sua.msg = some msg) {count : Nat}
    (room : sua.HasRoom msgbAllocC (count + 1)) : msg.data.length < msg.room := by
  have below : msg.data.length < sua.cfg.flushLen := held_of_msg buffer ▸ sound.below
  have here := room msg buffer
  rw [RoomFor] at here
  split at here <;> omega

/-- A state with the buffer after a character has room for one character less. -/
theorem hasRoom_succ_iff {next : OsmoSoftUart} {after : Msgb} (sound : sua.Sound)
    (buffer : sua.msg = some msg) (room : msg.data.length < msg.room) (cfg : next.cfg = sua.cfg)
    (held : next.msg = some after)
    (kept : msg.data.length + 1 < sua.cfg.flushLen →
      after.room = msg.room ∧ after.data.length = msg.data.length + 1)
    (fresh : ¬ msg.data.length + 1 < sua.cfg.flushLen →
      after.data.length = 0 ∧
        after.room = if sua.cfg.rxCb then msgbAllocC sua.cfg.rxBufSize else msg.room)
    (count : Nat) : sua.HasRoom msgbAllocC (count + 1) ↔ next.HasRoom msgbAllocC count := by
  have below : msg.data.length < sua.cfg.flushLen := held_of_msg buffer ▸ sound.below
  rw [hasRoom_iff buffer, hasRoom_iff held, cfg, roomFor_succ_iff below kept fresh,
    and_iff_right room]

/-! ## One character after the other -/

/-- A character is taken when there is room for it. -/
theorem rx_character (waiting : sua.Waiting) (counted : sua.cfg.numBits ≤ 255)
    (buffer : sua.msg = some msg) (room : msg.data.length < msg.room)
    (character : SerialCharacter) : ∃ after : OsmoSoftUart,
      runOps (osmoUartRxBit msgbAllocC) sua (serialForm sua.cfg character) = some after ∧
        after.Waiting ∧ after.cfg = sua.cfg ∧
        after.received = sua.received ++ [shifted sua.cfg character.ch] ∧
        ∀ count, sua.HasRoom msgbAllocC (count + 1) ↔ after.HasRoom msgbAllocC count := by
  obtain ⟨last, sound, complete, ⟨count, parityBit, rfl⟩, run⟩ :=
    @rx_serialForm msgbAllocC sua waiting counted character
  have step := @osmoUartRxBit_of_completes msgbAllocC _ _ sound complete buffer true
  rw [if_pos room] at step
  obtain ⟨after, held, kept, fresh⟩ := @took_msg msgbAllocC
    (sua.inside count (shifted sua.cfg character.ch) parityBit) msg buffer
    (shifted sua.cfg character.ch)
  obtain ⟨_, _, _, took⟩ := @took_eq msgbAllocC
    (sua.inside count (shifted sua.cfg character.ch) parityBit) (shifted sua.cfg character.ch)
  have cfg := congrArg OsmoSoftUart.cfg took
  exact ⟨_, run.trans step, ⟨sound.rxBit step, (congrArg OsmoSoftUart.running took).trans
    waiting.running, rfl⟩, cfg, congrArg OsmoSoftUart.received took,
    hasRoom_succ_iff waiting.toSound buffer room cfg held kept fresh⟩

/-- Without room the program is aborted. -/
theorem rx_character_full (waiting : sua.Waiting) (counted : sua.cfg.numBits ≤ 255)
    (buffer : sua.msg = some msg) (full : ¬ msg.data.length < msg.room)
    (character : SerialCharacter) :
    runOps (osmoUartRxBit msgbAllocC) sua (serialForm sua.cfg character) = none := by
  obtain ⟨last, sound, complete, ⟨count, parityBit, rfl⟩, run⟩ :=
    @rx_serialForm msgbAllocC sua waiting counted character
  rw [run, osmoUartRxBit_of_completes sound complete buffer, if_neg full]

/-- Characters are taken as long as there is room for them. -/
theorem rx_characters (characters : List SerialCharacter) : ∀ {sua : OsmoSoftUart}, sua.Waiting →
    sua.cfg.numBits ≤ 255 → sua.HasRoom msgbAllocC characters.length → ∃ after : OsmoSoftUart,
      runOps (osmoUartRxBit msgbAllocC) sua (characters.flatMap (serialForm sua.cfg)) =
          some after ∧ after.Waiting ∧
        after.received = sua.received ++ characters.map fun character =>
          shifted sua.cfg character.ch := by
  induction characters with
  | nil => exact fun waiting _ _ => ⟨_, rfl, waiting, (List.append_nil _).symm⟩
  | cons character rest ih =>
      intro sua waiting counted room
      obtain ⟨msg, buffer⟩ := waiting.exists_msg
      have first : msg.data.length < msg.room := hasRoom_pos waiting.toSound buffer room
      obtain ⟨next, run, next_waiting, cfg, received, fewer⟩ :=
        rx_character waiting counted buffer first character
      obtain ⟨after, runs, after_waiting, all⟩ :=
        ih next_waiting (cfg ▸ counted) ((fewer rest.length).mp room)
      rw [cfg] at runs all
      refine ⟨after, ?_, after_waiting, ?_⟩
      · rw [List.flatMap_cons, runOps_append, run, Option.bind_some, runs]
      · rw [all, received, List.append_assoc]
        rfl

/-- Without room for all of them the program is aborted. -/
theorem rx_characters_full (characters : List SerialCharacter) : ∀ {sua : OsmoSoftUart},
    sua.Waiting → sua.cfg.numBits ≤ 255 → ¬ sua.HasRoom msgbAllocC characters.length →
      runOps (osmoUartRxBit msgbAllocC) sua (characters.flatMap (serialForm sua.cfg)) = none := by
  induction characters with
  | nil => exact fun waiting _ full => absurd (hasRoom_zero waiting.toSound) full
  | cons character rest ih =>
      intro sua waiting counted full
      obtain ⟨msg, buffer⟩ := waiting.exists_msg
      rw [List.flatMap_cons, runOps_append]
      by_cases room : msg.data.length < msg.room
      · obtain ⟨next, run, next_waiting, cfg, -, fewer⟩ :=
          rx_character waiting counted buffer room character
        have rest_full := ih next_waiting (cfg ▸ counted) fun more => full ((fewer _).mpr more)
        rw [run, Option.bind_some, ← cfg, rest_full]
      · rw [rx_character_full waiting counted buffer room, Option.bind_none]

/-! ## More bits than the counter holds -/

/-- At its last value the counter starts again, and the receiver waits for a start bit. -/
theorem rx_wrap (running : sua.running = true) (shiftReg : UInt8) (parityBit : Ubit) :
    osmoUartRxBit msgbAllocC (sua.inside 255 shiftReg parityBit) true =
      some (sua.inside 0 (shiftIn shiftReg true) parityBit) := by
  have counting : (sua.inside 255 shiftReg parityBit).bitCount ≠ 0 := Nat.succ_ne_zero 254
  rw [osmoUartRxBit, if_neg (inside_running running _ _ _), if_neg counting]
  simp only [OsmoSoftUart.inside, Nat.reduceAdd, Nat.reduceMod, Nat.zero_le, if_true]

/-- A character that is too long for the counter is never complete. -/
theorem rx_character_long (waiting : sua.Waiting) (long : 255 < sua.cfg.numBits)
    (character : SerialCharacter) : ∃ after : OsmoSoftUart,
      runOps (osmoUartRxBit msgbAllocC) sua (serialForm sua.cfg character) = some after ∧
        after.Waiting ∧ after.cfg = sua.cfg ∧ after.received = sua.received := by
  have few := waiting.accepted.dataBits_le
  have parity : sua.cfg.numParityBits ≤ 1 := by
    rw [OsmoSoftUartCfg.numParityBits]
    split <;> decide
  obtain ⟨parityBit, head⟩ := @rx_serialHead msgbAllocC sua waiting character
  have numBits : sua.cfg.numBits = 1 + sua.cfg.numDataBits.toNat + sua.cfg.numParityBits +
    sua.cfg.numStopBits.toNat := rfl
  generalize start : 1 + sua.cfg.numDataBits.toNat + sua.cfg.numParityBits = first at numBits head
  obtain ⟨late, late_eq⟩ : ∃ late, sua.cfg.numStopBits.toNat = (255 - first) + 1 + late :=
    Nat.exists_eq_add_of_le (by omega)
  have stopBits := @rx_stopBits msgbAllocC sua waiting.running (255 - first)
  rw [start, Nat.add_sub_of_le (by omega : first ≤ 255)] at stopBits
  have wrapped : (sua.inside 0 (shiftIn (shifted sua.cfg character.ch) true) parityBit).Sound :=
    waiting.inside (by decide) _ parityBit
  refine ⟨_, ?_, ⟨wrapped, waiting.running, rfl⟩, rfl, rfl⟩
  rw [serialForm_eq, runOps_append, head, Option.bind_some, late_eq, List.replicate_add,
    List.replicate_succ', runOps_append, runOps_append, stopBits long (by decide),
    Option.bind_some, runOps_singleton, rx_wrap waiting.running, Option.bind_some]
  exact rx_idleBits rfl late

theorem rx_characters_long (characters : List SerialCharacter) : ∀ {sua : OsmoSoftUart},
    sua.Waiting → 255 < sua.cfg.numBits → ∃ after : OsmoSoftUart,
      runOps (osmoUartRxBit msgbAllocC) sua (characters.flatMap (serialForm sua.cfg)) =
        some after ∧ after.Waiting ∧ after.received = sua.received := by
  induction characters with
  | nil => exact fun waiting _ => ⟨_, rfl, waiting, rfl⟩
  | cons character rest ih =>
      intro sua waiting long
      obtain ⟨next, run, next_waiting, cfg, received⟩ :=
        @rx_character_long msgbAllocC sua waiting long character
      obtain ⟨after, runs, after_waiting, same⟩ := ih next_waiting (cfg ▸ long)
      rw [cfg] at runs
      refine ⟨after, ?_, after_waiting, same.trans received⟩
      rw [List.flatMap_cons, runOps_append, run, Option.bind_some, runs]

/-! ## The characters received -/

/-- Feeding the pieces of a stream gives exactly its characters to `suart_rx_ch`, and leaves
the receiver idle. -/
def Receives (msgbAllocC : Nat → Nat) (sua : OsmoSoftUart) (calls : List (List Ubit))
    (characters : List SerialCharacter) : Prop :=
  ∃ after, runOps (osmoSoftUartRxUbits msgbAllocC) sua calls = some after ∧
    after.received = sua.received ++ characters.map (·.ch) ∧
    after.running = true ∧ after.bitCount = 0

/-- A stream is received like its characters, the idle bits behind them being passed over. -/
theorem rx_serialStream {calls : List (List Ubit)} {characters : List SerialCharacter}
    {idleBits : Nat} (cut : calls.flatten = serialStream sua.cfg characters idleBits) :
    runOps (osmoSoftUartRxUbits msgbAllocC) sua calls =
      (runOps (osmoUartRxBit msgbAllocC) sua (characters.flatMap (serialForm sua.cfg))).bind
        fun after => runOps (osmoUartRxBit msgbAllocC) after (List.replicate idleBits true) := by
  rw [← runOps_append, ← serialStream, ← cut, runOps_flatten]
  rfl

/-- The shift register leaves some characters as they are. -/
theorem map_shifted_eq_iff {cfg : OsmoSoftUartCfg} (few : cfg.numDataBits.toNat ≤ 8)
    {characters : List SerialCharacter}
    (small : ∀ character ∈ characters, character.ch.toNat < 2 ^ cfg.numDataBits.toNat) :
    (characters.map fun character => shifted cfg character.ch) = characters.map (·.ch) ↔
      cfg.numDataBits.toNat = 8 ∨ ∀ character ∈ characters, character.ch = 0 := by
  rw [List.map_inj_left]
  constructor
  · intro same
    refine or_iff_not_imp_left.mpr fun fewer character member => ?_
    exact ((shifted_eq_iff few (small character member)).mp (same character member)).resolve_left
      fewer
  · intro kept character member
    exact (shifted_eq_iff few (small character member)).mpr (kept.imp_right fun all =>
      all character member)

/-- A stream that the receiver gets to the end of. -/
theorem receives_iff {calls : List (List Ubit)} {characters : List SerialCharacter}
    {idleBits : Nat} (cut : calls.flatten = serialStream sua.cfg characters idleBits)
    {after : OsmoSoftUart} (waiting : after.Waiting)
    (run : runOps (osmoUartRxBit msgbAllocC) sua (characters.flatMap (serialForm sua.cfg)) =
      some after) :
    Receives msgbAllocC sua calls characters ↔
      after.received = sua.received ++ characters.map (·.ch) := by
  rw [Receives, rx_serialStream cut, run, Option.bind_some, rx_idleBits waiting.idle]
  constructor
  · rintro ⟨final, same, received, -, -⟩
    exact Option.some.inj same ▸ received
  · exact fun received => ⟨after, rfl, received, waiting.running, waiting.idle⟩

/-- **A waiting receiver gets the characters of a stream exactly when there are none, or
when the counter holds their bits, the shift register leaves them as they are, and there is
room for them.** -/
theorem characters_received_iff (reached : UartReached msgbAllocC sua)
    (running : sua.running = true) (idle : sua.bitCount = 0) (characters : List SerialCharacter)
    (small : ∀ character ∈ characters, character.ch.toNat < 2 ^ sua.cfg.numDataBits.toNat)
    (idleBits : Nat) (calls : List (List Ubit))
    (cut : calls.flatten = serialStream sua.cfg characters idleBits) :
    Receives msgbAllocC sua calls characters ↔
      characters = [] ∨ sua.cfg.numBits ≤ 255 ∧
        (sua.cfg.numDataBits.toNat = 8 ∨ ∀ character ∈ characters, character.ch = 0) ∧
        sua.HasRoom msgbAllocC characters.length := by
  have waiting : sua.Waiting := ⟨uartReached_sound reached, running, idle⟩
  rcases Nat.lt_or_ge 255 sua.cfg.numBits with long | counted
  · obtain ⟨after, run, after_waiting, received⟩ :=
      @rx_characters_long msgbAllocC characters sua waiting long
    have notCounted := Nat.not_le.mpr long
    simp [receives_iff cut after_waiting run, received, notCounted]
  by_cases room : sua.HasRoom msgbAllocC characters.length
  · obtain ⟨after, run, after_waiting, received⟩ := rx_characters characters waiting counted room
    rw [receives_iff cut after_waiting run, received, List.append_cancel_left_eq,
      map_shifted_eq_iff waiting.accepted.dataBits_le small, and_iff_right counted,
      and_iff_left room]
    exact (or_iff_right_of_imp fun none => by simp [none]).symm
  · have aborted := rx_characters_full characters waiting counted room
    have nonempty : characters ≠ [] := fun none => room (none ▸ hasRoom_zero waiting.toSound)
    simp [Receives, rx_serialStream cut, aborted, room, nonempty]

def eightBits : OsmoSoftUartCfg := { suartDefaultCfg with rxBufSize := 16, rxCb := true }

/-- Two characters in two calls. -/
theorem eightBits_received :
    let characters : List SerialCharacter := [⟨3, 0x41, false⟩, ⟨0, 0xff, false⟩]
    let stream := serialStream eightBits characters 2
    Receives id (enabledWith id eightBits) [stream.take 9, stream.drop 9] characters := by
  intro characters stream
  have whole : [stream.take 9, stream.drop 9].flatten = stream := by simp
  have room : (enabledWith id eightBits).HasRoom id characters.length := by
    rw [hasRoom_iff rfl, RoomFor]
    decide
  exact (characters_received_iff (enabledWith_reached id (by decide)) rfl rfl characters (by decide)
    2 _ whole).mpr (.inr ⟨by decide, .inl rfl, room⟩)

def sevenBits : OsmoSoftUartCfg := { eightBits with numDataBits := 7 }

/-- With seven data bits a character is received as its double. -/
theorem sevenBits_shifted : sevenBits.Accepted ∧
    UartReached id (enabledWith id sevenBits) ∧
    ¬ Receives id (enabledWith id sevenBits) [serialStream sevenBits [⟨0, 0x41, false⟩] 0]
      [⟨0, 0x41, false⟩] := by
  have accepted : sevenBits.Accepted := by decide
  refine ⟨accepted, enabledWith_reached id accepted, ?_⟩
  rintro ⟨after, run, received, -, -⟩
  have double : (runOps (osmoSoftUartRxUbits id) (enabledWith id sevenBits)
      [serialStream sevenBits [⟨0, 0x41, false⟩] 0]).map (·.received) = some [0x82] := by
    decide +kernel
  rw [run, Option.map_some, received] at double
  exact absurd double (by decide)

end IsdnRas.V110
