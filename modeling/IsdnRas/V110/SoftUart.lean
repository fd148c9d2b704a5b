import IsdnRas.Library.Runs
import IsdnRas.V110.Bits

/-!
# The software UART

The receiver of `v110/soft_uart.c` takes a stream of bits. A zero starts a character, and
`bit_count` tells its data, parity and stop bits apart. The characters are collected in a
message, which is given to the receive call-back when it is full, when a timer expires, or
when the receiver is disabled or gets a smaller buffer.

Beside the state stand the characters that `suart_rx_ch` was called with and the messages
that were given to the call-back. A function has no result where the program is aborted: a
byte is put into a message without room, or there is no message.
-/

set_option autoImplicit false

namespace IsdnRas.V110

/-! ## Configuration and state -/

/-- The parity modes, and the values that are none of them. -/
inductive OsmoSoftUartParityMode where
  | none
  | even
  | odd
  | outside
deriving Repr, DecidableEq

/-- The flags are enumerated from zero on. -/
def osmoSuartFFramingError : UInt32 := 0

structure OsmoSoftUartCfg where
  numDataBits : UInt8
  numStopBits : UInt8
  parityMode : OsmoSoftUartParityMode
  rxBufSize : Nat
  rxTimeoutMs : Nat
  /-- A receive call-back is set. -/
  rxCb : Bool
deriving Repr, DecidableEq

def suartDefaultCfg : OsmoSoftUartCfg where
  numDataBits := 8
  numStopBits := 1
  parityMode := .none
  rxBufSize := 1024
  rxTimeoutMs := 100
  rxCb := false

/-- The bytes of a message, and how many there is room for. -/
structure Msgb where
  room : Nat
  data : List UInt8
deriving Repr, DecidableEq

/-- `msgb_put_u8`, which aborts without room. -/
def Msgb.putU8 (msg : Msgb) (byte : UInt8) : Option Msgb :=
  if msg.data.length < msg.room then some { msg with data := msg.data ++ [byte] } else none

def Msgb.reset (msg : Msgb) : Msgb := { msg with data := [] }

/-- A message given to the call-back, with its flags and the size in force. -/
structure RxData where
  data : List UInt8
  flags : UInt32
  rxBufSize : Nat
deriving Repr, DecidableEq

/-- The receiver, and what is in `tx.running`. -/
structure OsmoSoftUart where
  cfg : OsmoSoftUartCfg
  running : Bool
  bitCount : Nat
  shiftReg : UInt8
  msg : Option Msgb
  parityBit : Ubit
  flags : UInt32
  /-- The seconds and microseconds of the timer, when it is scheduled. -/
  timer : Option (Nat × Nat)
  /-- `osmo_timer_setup` has been called. -/
  timerCb : Bool
  txRunning : Bool
  /-- What was given to the call-back. -/
  delivered : List RxData
  /-- What `suart_rx_ch` was called with. -/
  received : List UInt8
deriving Repr, DecidableEq

/-- The bytes in the receive buffer. -/
def OsmoSoftUart.held (sua : OsmoSoftUart) : List UInt8 :=
  match sua.msg with
  | none => []
  | some msg => msg.data

/-! ## Receiver -/

variable (msgbAllocC : (size : Nat) → Nat)

/-- A new message. How much room it has is up to the library. -/
def newMsgb (size : Nat) : Msgb := { room := msgbAllocC size, data := [] }

/-- Flush the receive buffer. -/
def suartFlushRx (sua : OsmoSoftUart) : Option OsmoSoftUart :=
  if sua.held.length ≠ 0 ∨ sua.flags ≠ 0 then
    let sua := { sua with timer := none }
    if sua.cfg.rxCb then
      some { sua with
        delivered := sua.delivered ++ [⟨sua.held, sua.flags, sua.cfg.rxBufSize⟩]
        msg := some (newMsgb msgbAllocC sua.cfg.rxBufSize) }
    else
      match sua.msg with
      | none => none
      | some msg => some { sua with msg := some msg.reset }
  else some sua

/-- Schedule the receive timer. -/
def OsmoSoftUart.startTimer (sua : OsmoSoftUart) : OsmoSoftUart :=
  { sua with timer := some (sua.cfg.rxTimeoutMs / 1000, sua.cfg.rxTimeoutMs % 1000 * 1000) }

/-- One character was received. -/
def suartRxCh (sua : OsmoSoftUart) (ch : UInt8) : Option OsmoSoftUart :=
  match sua.msg with
  | none => none
  | some msg =>
      match msg.putU8 ch with
      | none => none
      | some msg =>
          let sua := { sua with msg := some msg, received := sua.received ++ [ch] }
          let msgLen := msg.data.length
          if msgLen = 1 then some sua.startTimer
          else if sua.cfg.rxBufSize ≤ msgLen ∨ sua.flags ≠ 0 then suartFlushRx msgbAllocC sua
          else some sua

def OsmoSoftUartCfg.numParityBits (cfg : OsmoSoftUartCfg) : Nat :=
  if cfg.parityMode ≠ .none then 1 else 0

/-- The number of bits from the start bit to the last stop bit. -/
def OsmoSoftUartCfg.numBits (cfg : OsmoSoftUartCfg) : Nat :=
  1 + cfg.numDataBits.toNat + cfg.numParityBits + cfg.numStopBits.toNat

/-- The shift register after a data bit. -/
def shiftIn (shiftReg : UInt8) (bit : Ubit) : UInt8 :=
  if bit then shiftReg >>> 1 ||| 0x80 else shiftReg >>> 1

/-- Receive a bit. The counter is eight bits wide. -/
def osmoUartRxBit (sua : OsmoSoftUart) (bit : Ubit) : Option OsmoSoftUart :=
  if !sua.running then some sua
  else if sua.bitCount = 0 then
    if bit then some sua
    else some { sua with flags := 0, shiftReg := 0, bitCount := sua.bitCount + 1 }
  else
    let sua := { sua with bitCount := (sua.bitCount + 1) % 256 }
    if sua.bitCount ≤ 1 + sua.cfg.numDataBits.toNat then
      some { sua with shiftReg := shiftIn sua.shiftReg bit }
    else if sua.cfg.parityMode ≠ .none ∧
        sua.bitCount = 1 + sua.cfg.numDataBits.toNat + 1 then
      some { sua with parityBit := bit }
    else if sua.bitCount ≤ sua.cfg.numBits then
      let sua := if bit then sua else { sua with flags := sua.flags ||| osmoSuartFFramingError }
      if sua.bitCount = sua.cfg.numBits then
        (suartRxCh msgbAllocC sua sua.shiftReg).map fun sua => { sua with bitCount := 0 }
      else some sua
    else some sua

/-- Receive timer expiration. -/
def suartRxTimerCb (sua : OsmoSoftUart) : Option OsmoSoftUart := suartFlushRx msgbAllocC sua

def osmoSoftUartRxUbits (sua : OsmoSoftUart) (ubits : List Ubit) : Option OsmoSoftUart :=
  runOps (osmoUartRxBit msgbAllocC) sua ubits

/-! ## Management -/

def osmoSoftUartAlloc : OsmoSoftUart where
  cfg := suartDefaultCfg
  running := false
  bitCount := 0
  shiftReg := 0
  msg := none
  parityBit := false
  flags := 0
  timer := none
  timerCb := false
  txRunning := false
  delivered := []
  received := []

/-- The consistency checks on a configuration. -/
def OsmoSoftUartCfg.Accepted (cfg : OsmoSoftUartCfg) : Prop :=
  ¬ (8 < cfg.numDataBits.toNat ∨ cfg.numDataBits = 0) ∧ cfg.numStopBits ≠ 0 ∧
    cfg.parityMode ≠ .outside ∧ cfg.rxBufSize ≠ 0

instance (cfg : OsmoSoftUartCfg) : Decidable cfg.Accepted := inferInstanceAs (Decidable (_ ∧ _))

def einval : Int := -22

/-- The buffer is smaller in a new configuration, or the timeout shorter. -/
def OsmoSoftUartCfg.Shrinks (old new : OsmoSoftUartCfg) : Prop :=
  new.rxBufSize < old.rxBufSize ∨ new.rxTimeoutMs < old.rxTimeoutMs

instance (old new : OsmoSoftUartCfg) : Decidable (old.Shrinks new) :=
  inferInstanceAs (Decidable (_ ∨ _))

def osmoSoftUartConfigure (sua : OsmoSoftUart) (cfg : OsmoSoftUartCfg) :
    Option (Int × OsmoSoftUart) :=
  if cfg.Accepted then
    (if sua.cfg.Shrinks cfg then suartFlushRx msgbAllocC sua else some sua).map fun sua =>
      (0, { sua with cfg := cfg, timerCb := true })
  else some (einval, sua)

/-- Enable or disable the receiver. -/
def OsmoSoftUart.enableRx (sua : OsmoSoftUart) (rx : Bool) : Option OsmoSoftUart :=
  if !rx && sua.running then
    (suartFlushRx msgbAllocC sua).map fun sua => { sua with running := false }
  else if rx && !sua.running then
    let msg := sua.msg.getD (newMsgb msgbAllocC sua.cfg.rxBufSize)
    some { sua with msg := some msg, running := true }
  else some sua

def osmoSoftUartEnable (sua : OsmoSoftUart) (rx tx : Bool) : Option OsmoSoftUart :=
  (sua.enableRx msgbAllocC rx).map fun sua => { sua with txRunning := tx }

/-! ## Runs -/

/-- The calls of a soft-uart, and the time. -/
inductive UartEvent where
  | configure (cfg : OsmoSoftUartCfg)
  | enable (rx tx : Bool)
  | rxBit (bit : Ubit)
  | timerExpiry
deriving Repr, DecidableEq

/-- A timer that is not scheduled does not expire. -/
def OsmoSoftUart.timerExpiry (sua : OsmoSoftUart) : Option OsmoSoftUart :=
  match sua.timer with
  | none => some sua
  | some _ =>
      let sua := { sua with timer := none }
      if sua.timerCb then suartRxTimerCb msgbAllocC sua else some sua

def uartStep (sua : OsmoSoftUart) : UartEvent → Option OsmoSoftUart
  | .configure cfg => (osmoSoftUartConfigure msgbAllocC sua cfg).map (·.2)
  | .enable rx tx => osmoSoftUartEnable msgbAllocC sua rx tx
  | .rxBit bit => osmoUartRxBit msgbAllocC sua bit
  | .timerExpiry => sua.timerExpiry msgbAllocC

/-- The states reached from `osmo_soft_uart_alloc`. -/
abbrev UartReached : OsmoSoftUart → Prop :=
  Reached (uartStep msgbAllocC) (fun _ _ => True) osmoSoftUartAlloc

end IsdnRas.V110
