import IsdnRas.X75.Basic

/-!
# Timers, queues and frame formats

The procedures of `x75_subr.c` together with what they rest on: starting and
stopping the two timers (`x75_timer.c`) and `x75TransmitBuffer` (`x75_out.c`).

The loops of `x75FramesAcked` and `x75ValidateNr` walk a sequence variable
around the modulus. Both carry a bound on the number of rounds; the value they
walk to is below the modulus in every call, and then the bound is never reached.
-/

set_option autoImplicit false

namespace IsdnRas.X75

/-! ## Timers -/

@[simps] def x75StartT1timer (x75 : X75Cb) : X75Cb :=
  let t1timer := osmoTimerDel x75.t1timer
  let t1timer := osmoTimerSetup t1timer (some .t1timerExpiry)
  { x75 with
    t1timerRunning := true
    t1timer := osmoTimerSchedule t1timer (x75.t1.toNat * 1000) }

/-- The handler is set up on `t1timer`, and `t2timer` is the timer armed. -/
@[simps] def x75StartT2timer (x75 : X75Cb) : X75Cb :=
  let t2timer := osmoTimerDel x75.t2timer
  let t1timer := osmoTimerSetup x75.t1timer (some .t2timerExpiry)
  { x75 with
    t1timer := t1timer
    t2timerRunning := true
    t2timer := osmoTimerSchedule t2timer (x75.t2.toNat * 1000) }

@[simps] def x75StopT1timer (x75 : X75Cb) : X75Cb :=
  { x75 with t1timerRunning := false, t1timer := osmoTimerDel x75.t1timer }

@[simps] def x75StopT2timer (x75 : X75Cb) : X75Cb :=
  { x75 with t2timerRunning := false, t2timer := osmoTimerDel x75.t2timer }

/-! ## Queues -/

/-- Purge both queues. The counters are not touched. -/
@[simps] def x75ClearQueues (x75 : X75Cb) : X75Cb :=
  { x75 with
    writeQueue := x75.writeQueue.free
    ackQueue := x75.ackQueue.free
    events := x75.events ++ [.queuesCleared] }

/-- Free the head of the acknowledgement queue and advance V(A). -/
def x75ReleaseHead (x75 : X75Cb) : X75Cb :=
  let (skb, ackQueue) := x75.ackQueue.dequeue
  { x75 with
    ackQueue := ackQueue
    va := (x75.va + 1) % x75.modulus
    events := x75.events ++ [.acked skb] }

/-- `while (ack_queue_count && va != nr)`. -/
def x75FramesAckedLoop (nr : Nat) : Nat → X75Cb → X75Cb
  | 0, x75 => x75
  | fuel + 1, x75 =>
      if x75.ackQueue.count ≠ 0 ∧ x75.va ≠ nr then
        x75FramesAckedLoop nr fuel (x75ReleaseHead x75)
      else x75

def x75FramesAcked (x75 : X75Cb) (nr : Nat) : X75Cb :=
  x75FramesAckedLoop nr x75.modulus x75

/-- The unacknowledged frames go behind the frames that wait to be sent. -/
def x75RequeueFrames (x75 : X75Cb) : X75Cb :=
  let (ackQueue, writeQueue) :=
    CountedQueue.drain x75.ackQueue.msgs x75.ackQueue.count x75.writeQueue
  { x75 with ackQueue := ackQueue, writeQueue := writeQueue }

/-- `while (vc != vs)`: `none` when the bound on the rounds is reached. -/
def x75ValidateNrLoop (modulus vs nr : Nat) : Nat → Nat → Option Bool
  | 0, _ => none
  | fuel + 1, vc =>
      if vc ≠ vs then
        if nr = vc then some true
        else x75ValidateNrLoop modulus vs nr fuel ((vc + 1) % modulus)
      else some (nr == vs)

def x75ValidateNr (x75 : X75Cb) (nr : Nat) : Bool :=
  (x75ValidateNrLoop x75.modulus x75.vs nr (x75.modulus + 1) x75.va).getD false

/-! ## Receiving a frame format -/

/-- Command or response, from the address byte. An address that is neither
leaves the field as it was. -/
def x75DecodeCr (x75 : X75Cb) (addr cr : UInt8) : UInt8 :=
  if x75.mlp then
    if x75.dce then
      if addr = x75AddrC then x75Response else if addr = x75AddrD then x75Command else cr
    else
      if addr = x75AddrD then x75Response else if addr = x75AddrC then x75Command else cr
  else
    if x75.dce then
      if addr = x75AddrA then x75Response else if addr = x75AddrB then x75Command else cr
    else
      if addr = x75AddrB then x75Response else if addr = x75AddrA then x75Command else cr

/-- Parse the control information. `frame` is what the caller's record held
before the call; `none` is the return value -1. -/
def x75Decode (x75 : X75Cb) (skb : Bytes) (frame : X75Frame) : Option (X75Frame × Bytes) :=
  match skb with
  | addr :: c0 :: rest =>
      let frame := { frame with type := x75Illegal, cr := x75DecodeCr x75 addr frame.cr }
      if x75.extended then
        if c0 &&& x75S = 0 then
          match rest with
          | [] => none
          | c1 :: body =>
              some ({ frame with
                type := x75I
                ns := ((c0 >>> 1) &&& 0x7F).toNat
                nr := ((c1 >>> 1) &&& 0x7F).toNat
                pf := c1 &&& x75Epf
                control0 := c0
                control1 := c1 }, body)
        else if c0 &&& x75U = 1 then
          match rest with
          | [] => none
          | c1 :: body =>
              some ({ frame with
                type := (c0 &&& 0x0F).toUInt16
                nr := ((c1 >>> 1) &&& 0x7F).toNat
                pf := c1 &&& x75Epf
                control0 := c0
                control1 := c1 }, body)
        else if c0 &&& x75U = 3 then
          some ({ frame with
            type := (c0 &&& ~~~x75Spf).toUInt16
            pf := c0 &&& x75Spf
            control0 := c0
            control1 := 0x00 }, rest)
        else some (frame, c0 :: rest)
      else
        let frame :=
          if c0 &&& x75S = 0 then
            { frame with
              type := x75I
              ns := ((c0 >>> 1) &&& 0x07).toNat
              nr := ((c0 >>> 5) &&& 0x07).toNat
              pf := c0 &&& x75Spf }
          else if c0 &&& x75U = 1 then
            { frame with
              type := (c0 &&& 0x0F).toUInt16
              nr := ((c0 >>> 5) &&& 0x07).toNat
              pf := c0 &&& x75Spf }
          else if c0 &&& x75U = 3 then
            { frame with
              type := (c0 &&& ~~~x75Spf).toUInt16
              pf := c0 &&& x75Spf }
          else frame
        some ({ frame with control0 := c0 }, rest)
  | _ => none

/-! ## Sending a frame format -/

/-- The address byte of a command or a response. -/
def x75Address (x75 : X75Cb) (type : UInt8) : UInt8 :=
  if x75.mlp then
    if x75.dce then
      if type = x75Response then x75AddrD else x75AddrC
    else
      if type = x75Response then x75AddrC else x75AddrD
  else
    if x75.dce then
      if type = x75Response then x75AddrB else x75AddrA
    else
      if type = x75Response then x75AddrA else x75AddrB

def x75TransmitBuffer (x75 : X75Cb) (skb : Bytes) (type : UInt8) : X75Cb :=
  x75DataTransmit x75 (x75Address x75 type :: skb)

/-- The control field of a supervisory or unnumbered frame. -/
def controlField (x75 : X75Cb) (frametype : UInt16) (pollBit : UInt8) : Bytes :=
  if x75.extended then
    if frametype.toUInt8 &&& x75U = x75U then
      [frametype.toUInt8 ||| if pollBit ≠ 0 then x75Spf else 0]
    else
      [frametype.toUInt8,
        UInt8.ofNat (x75.vr <<< 1) ||| if pollBit ≠ 0 then x75Epf else 0]
  else
    let dptr := frametype.toUInt8 ||| if pollBit ≠ 0 then x75Spf else 0
    [if frametype.toUInt8 &&& x75U = x75S then dptr ||| UInt8.ofNat (x75.vr <<< 5) else dptr]

def x75SendControl (x75 : X75Cb) (frametype : UInt16) (pollBit type : UInt8) : X75Cb :=
  x75TransmitBuffer x75 (controlField x75 frametype pollBit) type

/-- The bytes of a FRMR, without the address. -/
def frmrField (x75 : X75Cb) : Bytes :=
  if x75.extended then
    let cr : UInt8 := if x75.frmrData.cr = x75Response then 0x01 else 0
    [x75Frmr.toUInt8, x75.frmrData.control0, x75.frmrData.control1,
      UInt8.ofNat (x75.vs <<< 1) &&& 0xFE,
      (UInt8.ofNat (x75.vr <<< 1) &&& 0xFE) ||| cr,
      x75.frmrType]
  else
    let cr : UInt8 := if x75.frmrData.cr = x75Response then 0x10 else 0
    [x75Frmr.toUInt8, x75.frmrData.control0,
      (UInt8.ofNat (x75.vs <<< 1) &&& (0x0E : UInt8)) |||
        (UInt8.ofNat (x75.vr <<< 5) &&& (0xE0 : UInt8)) ||| cr,
      x75.frmrType]

def x75TransmitFrmr (x75 : X75Cb) : X75Cb :=
  x75TransmitBuffer x75 (frmrField x75) x75Response

end IsdnRas.X75
