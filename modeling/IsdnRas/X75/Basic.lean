import Mathlib.Tactic.Simps.Basic
import IsdnRas.Library.CountedQueue

/-!
# The X.75 control block

The constants and records of `x75.h` and `x75_int.h`.

Sequence variables are natural numbers: the code only ever assigns them zero or
a remainder by the modulus, so their 16-bit width is never reached. Retry
counts, timer values and flags keep the width of the C type.

The upper and lower layers act through call-backs. The control block of the
model carries the calls it has made, newest last, in `events`. The same list
records four things that happen inside the code and that properties of runs
speak about: a payload accepted by `x75DataRequest`, a message released by
`x75FramesAcked`, a purge of the queues, and a reset of the sequence variables.
-/

set_option autoImplicit false

namespace IsdnRas.X75

/-- The bytes of a message buffer. -/
abbrev Bytes := List UInt8

/-- Link state constants. -/
inductive LinkState where
  | state0
  | state1
  | state2
  | state3
  | state4
deriving Repr, DecidableEq

/-- Return codes, also used as the reason of a call-back. -/
inductive Reason where
  | ok
  | badToken
  | inValue
  | connected
  | notConnected
  | refused
  | timedOut
  | noMem
deriving Repr, DecidableEq

/-! ## Constants -/

def x75Standard : UInt32 := 0x00
def x75Extended : UInt32 := 0x01
def x75Slp : UInt32 := 0x00
def x75Mlp : UInt32 := 0x02
def x75Dte : UInt32 := 0x00
def x75Dce : UInt32 := 0x04

def hz : UInt32 := 1000

def x75AckPendingCondition : UInt8 := 0x01
def x75RejectCondition : UInt8 := 0x02
def x75PeerRxBusyCondition : UInt8 := 0x04

/-- Control field templates. -/
def x75I : UInt16 := 0x00
def x75S : UInt8 := 0x01
def x75U : UInt8 := 0x03
def x75Rr : UInt16 := 0x01
def x75Rnr : UInt16 := 0x05
def x75Rej : UInt16 := 0x09
def x75Sabm : UInt16 := 0x2F
def x75Sabme : UInt16 := 0x6F
def x75Disc : UInt16 := 0x43
def x75Dm : UInt16 := 0x0F
def x75Ua : UInt16 := 0x63
def x75Frmr : UInt16 := 0x87
def x75Illegal : UInt16 := 0x100

/-- Poll/final bit of the standard and of the extended control field. -/
def x75Spf : UInt8 := 0x10
def x75Epf : UInt8 := 0x01

def x75FrmrW : UInt8 := 0x01
def x75FrmrZ : UInt8 := 0x08

def x75Polloff : UInt8 := 0
def x75Pollon : UInt8 := 1

def x75Command : UInt8 := 1
def x75Response : UInt8 := 2

def x75AddrA : UInt8 := 0x03
def x75AddrB : UInt8 := 0x01
def x75AddrC : UInt8 := 0x0F
def x75AddrD : UInt8 := 0x07

def x75DefaultWindow : Nat := 7
def x75DefaultT1 : UInt16 := 5000
def x75DefaultT2 : UInt16 := 1000
def x75DefaultN2 : UInt16 := 20

def x75Smodulus : Nat := 8
def x75Emodulus : Nat := 128

/-! ## Records -/

/-- Which of the owner's call-backs are installed (not NULL). -/
structure RegisterStruct where
  connectConfirmation : Bool
  connectIndication : Bool
  disconnectConfirmation : Bool
  disconnectIndication : Bool
  dataIndication : Bool
  dataTransmit : Bool
deriving Repr, DecidableEq

/-- Every call-back is installed. -/
def RegisterStruct.all : RegisterStruct := ⟨true, true, true, true, true, true⟩

/-- The parameters `x75Setparms` reads. -/
structure ParmsStruct where
  t1 : UInt32
  t2 : UInt32
  n2 : UInt32
  window : UInt32
  mode : UInt32
deriving Repr, DecidableEq

/-- Information about the current frame. -/
structure X75Frame where
  type : UInt16
  nr : Nat
  ns : Nat
  cr : UInt8
  pf : UInt8
  control0 : UInt8
  control1 : UInt8
deriving Repr, DecidableEq

/-- A frame record that is zero throughout. -/
def X75Frame.zero : X75Frame := ⟨0, 0, 0, 0, 0, 0, 0⟩

/-- The handlers a timer may carry. -/
inductive TimerHandler where
  | t1timerExpiry
  | t2timerExpiry
deriving Repr, DecidableEq

/-- A timer: its handler, whether it is armed, and the microseconds it was last
armed for. -/
structure OsmoTimer where
  cb : Option TimerHandler
  active : Bool
  timeout : Nat
deriving Repr, DecidableEq

def osmoTimerSetup (timer : OsmoTimer) (cb : Option TimerHandler) : OsmoTimer :=
  { timer with cb := cb }

def osmoTimerSchedule (timer : OsmoTimer) (timeout : Nat) : OsmoTimer :=
  { timer with active := true, timeout := timeout }

def osmoTimerDel (timer : OsmoTimer) : OsmoTimer := { timer with active := false }

/-- What a control block does that can be seen from outside, and the internal
events that properties of runs speak about. -/
inductive Event where
  | connectConfirmation (reason : Reason)
  | connectIndication (reason : Reason)
  | disconnectConfirmation (reason : Reason)
  | disconnectIndication (reason : Reason)
  | dataIndication (skb : Bytes)
  | dataTransmit (skb : Bytes)
  /-- `x75DataRequest` took the payload. -/
  | accepted (skb : Bytes)
  /-- `x75FramesAcked` freed a message; `none` is the NULL of an empty queue. -/
  | acked (skb : Option Bytes)
  /-- `x75ClearQueues` ran. -/
  | queuesCleared
  /-- V(S), V(R) and V(A) were set to zero. -/
  | sequenceReset
deriving Repr, DecidableEq

@[ext] structure X75Cb where
  mode : UInt32
  state : LinkState
  vs : Nat
  vr : Nat
  va : Nat
  condition : UInt8
  n2 : UInt16
  n2count : UInt16
  t1 : UInt16
  t2 : UInt16
  t1timer : OsmoTimer
  t2timer : OsmoTimer
  t1timerRunning : Bool
  t2timerRunning : Bool
  writeQueue : CountedQueue Bytes
  ackQueue : CountedQueue Bytes
  window : Nat
  callbacks : RegisterStruct
  frmrData : X75Frame
  frmrType : UInt8
  events : List Event
deriving Repr, DecidableEq

/-- Whether a mode has the extended control field. -/
def extendedMode (mode : UInt32) : Bool := mode &&& x75Extended != 0

/-- The modulus of a mode. -/
def modulusOf (mode : UInt32) : Nat := if extendedMode mode then x75Emodulus else x75Smodulus

namespace X75Cb

/-- `mode & X75_EXTENDED`. -/
@[simp] abbrev extended (x75 : X75Cb) : Bool := extendedMode x75.mode

/-- `mode & X75_MLP`. -/
@[simp] abbrev mlp (x75 : X75Cb) : Bool := x75.mode &&& x75Mlp != 0

/-- `mode & X75_DCE`. -/
@[simp] abbrev dce (x75 : X75Cb) : Bool := x75.mode &&& x75Dce != 0

/-- The modulus of the sequence variables in the mode of the control block. -/
@[simp] abbrev modulus (x75 : X75Cb) : Nat := modulusOf x75.mode

@[simps] def record (x75 : X75Cb) (events : List Event) : X75Cb :=
  { x75 with events := x75.events ++ events }

/-- Set the condition byte and record events. -/
@[simps] def note (x75 : X75Cb) (condition : UInt8) (events : List Event) : X75Cb :=
  { x75 with condition := condition, events := x75.events ++ events }

end X75Cb

/-! ## Call-backs -/

/-- Call-backs that are NULL are not called. -/
def called (installed : Bool) (event : Event) : List Event := if installed then [event] else []

def x75ConnectConfirmation (x75 : X75Cb) (reason : Reason) : X75Cb :=
  x75.record (called x75.callbacks.connectConfirmation (.connectConfirmation reason))

def x75ConnectIndication (x75 : X75Cb) (reason : Reason) : X75Cb :=
  x75.record (called x75.callbacks.connectIndication (.connectIndication reason))

def x75DisconnectConfirmation (x75 : X75Cb) (reason : Reason) : X75Cb :=
  x75.record (called x75.callbacks.disconnectConfirmation (.disconnectConfirmation reason))

def x75DisconnectIndication (x75 : X75Cb) (reason : Reason) : X75Cb :=
  x75.record (called x75.callbacks.disconnectIndication (.disconnectIndication reason))

def x75DataIndication (x75 : X75Cb) (skb : Bytes) : X75Cb :=
  x75.record (called x75.callbacks.dataIndication (.dataIndication skb))

def x75DataTransmit (x75 : X75Cb) (skb : Bytes) : X75Cb :=
  x75.record (called x75.callbacks.dataTransmit (.dataTransmit skb))

/-! ## The condition byte -/

/-- Setting a bit of the condition byte. -/
def setFlag (condition flag : UInt8) : UInt8 := condition ||| flag

/-- Clearing a bit of the condition byte. -/
def clearFlag (condition flag : UInt8) : UInt8 := condition &&& ~~~flag

/-- Testing a bit of the condition byte. -/
def testFlag (condition flag : UInt8) : Bool := condition &&& flag != 0

/-- A bit that another operand fixes is that bit of the other operand. -/
theorem or_and_of_and_eq_zero {condition flag other : UInt8} (apart : flag &&& other = 0) :
    (condition ||| flag) &&& other = condition &&& other := by
  apply UInt8.toBitVec_inj.mp
  have zero : flag.toBitVec &&& other.toBitVec = 0#8 := congrArg UInt8.toBitVec apart
  rw [UInt8.toBitVec_and, UInt8.toBitVec_or, BitVec.and_or_distrib_right, zero,
    UInt8.toBitVec_and, BitVec.or_zero]

theorem testFlag_setFlag_of_apart {condition flag other : UInt8} (apart : flag &&& other = 0) :
    testFlag (setFlag condition flag) other = testFlag condition other := by
  rw [testFlag, setFlag, or_and_of_and_eq_zero apart, testFlag]

theorem testFlag_setFlag_self {condition flag : UInt8} (nonzero : flag ≠ 0) :
    testFlag (setFlag condition flag) flag = true := by
  have absorb : (condition ||| flag) &&& flag = flag := by
    apply UInt8.toBitVec_inj.mp
    rw [UInt8.toBitVec_and, UInt8.toBitVec_or]
    apply BitVec.eq_of_getElem_eq
    intro index bound
    simp only [BitVec.getElem_and, BitVec.getElem_or]
    cases condition.toBitVec[index] <;> cases flag.toBitVec[index] <;> rfl
  simp [testFlag, setFlag, absorb, nonzero]

theorem testFlag_clearFlag_self (condition flag : UInt8) :
    testFlag (clearFlag condition flag) flag = false := by
  have zero : (~~~flag) &&& flag = 0 := by
    apply UInt8.toBitVec_inj.mp
    rw [UInt8.toBitVec_and, UInt8.toBitVec_not]
    apply BitVec.eq_of_getElem_eq
    intro index bound
    simp
  simp [testFlag, clearFlag, UInt8.and_assoc, zero]

theorem testFlag_clearFlag_of_apart {condition flag other : UInt8}
    (inside : ~~~flag &&& other = other) :
    testFlag (clearFlag condition flag) other = testFlag condition other := by
  rw [testFlag, clearFlag, UInt8.and_assoc, inside, testFlag]

@[simp] theorem testFlag_zero (flag : UInt8) : testFlag 0 flag = false := by
  simp [testFlag]

@[simp] theorem busy_setFlag_busy (condition : UInt8) :
    testFlag (setFlag condition x75PeerRxBusyCondition) x75PeerRxBusyCondition = true :=
  testFlag_setFlag_self (by decide)

@[simp] theorem busy_clearFlag_busy (condition : UInt8) :
    testFlag (clearFlag condition x75PeerRxBusyCondition) x75PeerRxBusyCondition = false :=
  testFlag_clearFlag_self _ _

@[simp] theorem busy_setFlag_ack (condition : UInt8) :
    testFlag (setFlag condition x75AckPendingCondition) x75PeerRxBusyCondition =
      testFlag condition x75PeerRxBusyCondition :=
  testFlag_setFlag_of_apart (by decide)

@[simp] theorem busy_clearFlag_ack (condition : UInt8) :
    testFlag (clearFlag condition x75AckPendingCondition) x75PeerRxBusyCondition =
      testFlag condition x75PeerRxBusyCondition :=
  testFlag_clearFlag_of_apart (by decide)

@[simp] theorem busy_setFlag_reject (condition : UInt8) :
    testFlag (setFlag condition x75RejectCondition) x75PeerRxBusyCondition =
      testFlag condition x75PeerRxBusyCondition :=
  testFlag_setFlag_of_apart (by decide)

@[simp] theorem busy_clearFlag_reject (condition : UInt8) :
    testFlag (clearFlag condition x75RejectCondition) x75PeerRxBusyCondition =
      testFlag condition x75PeerRxBusyCondition :=
  testFlag_clearFlag_of_apart (by decide)

/-! ## The modulus -/

theorem one_lt_modulus (mode : UInt32) : 1 < modulusOf mode := by
  unfold modulusOf
  split <;> decide

theorem modulus_pos (mode : UInt32) : 0 < modulusOf mode :=
  Nat.zero_lt_of_lt (one_lt_modulus mode)

end IsdnRas.X75
