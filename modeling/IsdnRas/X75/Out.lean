import IsdnRas.X75.Subr

/-!
# Sending

The procedures of `x75_out.c`. `x75Kick` is the only place that sends I-frames.
It takes messages from the write queue while the window is open, sends a copy of
each and keeps the original on the acknowledgement queue.

`x75Kick` hands the head of the write queue to `msgb_copy` without a check when
the counter of the queue is not zero. When the queue is empty all the same, that
is a NULL message and the process ends there. The model returns `none`.
-/

set_option autoImplicit false

namespace IsdnRas.X75

/-- An I-frame without the address. -/
def iframeField (x75 : X75Cb) (skb : Bytes) (pollBit : UInt8) : Bytes :=
  if x75.extended then
    (x75I.toUInt8 ||| UInt8.ofNat (x75.vs <<< 1)) ::
      ((if pollBit ≠ 0 then x75Epf else 0) ||| UInt8.ofNat (x75.vr <<< 1)) :: skb
  else
    (((x75I.toUInt8 ||| if pollBit ≠ 0 then x75Spf else 0) ||| UInt8.ofNat (x75.vr <<< 5)) |||
      UInt8.ofNat (x75.vs <<< 1)) :: skb

def x75SendIframe (x75 : X75Cb) (skb : Bytes) (pollBit : UInt8) : X75Cb :=
  x75TransmitBuffer x75 (iframeField x75 skb pollBit) x75Command

/-- One round of the loop of `x75Kick`: send a copy, advance V(S), keep the
original on the acknowledgement queue. -/
def x75KickOne (x75 : X75Cb) (skb : Bytes) : X75Cb :=
  let x75 := x75SendIframe x75 skb x75Polloff
  { x75 with
    vs := (x75.vs + 1) % x75.modulus
    ackQueue := x75.ackQueue.enqueue skb }

/-- The loop of `x75Kick`, on the messages of the write queue. -/
def x75KickLoop (stop : Nat) : List Bytes → X75Cb → X75Cb
  | [], x75 => x75
  | skb :: rest, x75 =>
      let x75 := { x75 with writeQueue := ⟨rest, x75.writeQueue.count - 1⟩ }
      let x75 := x75KickOne x75 skb
      if x75.vs ≠ stop then x75KickLoop stop rest x75 else x75

/-- V(S) from which `x75Kick` sends. -/
def kickStart (x75 : X75Cb) : Nat := if x75.ackQueue.count = 0 then x75.va else x75.vs

/-- V(S) at which the window is closed. -/
def kickStop (x75 : X75Cb) : Nat := (x75.va + x75.window) % x75.modulus

/-- The condition under which `x75Kick` starts to send. -/
def KickReady (x75 : X75Cb) : Prop :=
  testFlag x75.condition x75PeerRxBusyCondition = false ∧ kickStart x75 ≠ kickStop x75 ∧
    x75.writeQueue.count ≠ 0

instance (x75 : X75Cb) : Decidable (KickReady x75) := inferInstanceAs (Decidable (_ ∧ _))

def x75Kick (x75 : X75Cb) : Option X75Cb :=
  if KickReady x75 then
    match x75.writeQueue.msgs with
    | [] => none
    | skb :: rest =>
        let sent := x75KickLoop (kickStop x75) (skb :: rest) { x75 with vs := kickStart x75 }
        let sent := { sent with condition := clearFlag sent.condition x75AckPendingCondition }
        some (if sent.t1timerRunning then sent else x75StartT1timer sent)
  else some x75

def x75EstablishDataLink (x75 : X75Cb) : X75Cb :=
  let x75 := { x75 with condition := 0x00, n2count := 0 }
  let x75 :=
    x75SendControl x75 (if x75.extended then x75Sabme else x75Sabm) x75Pollon x75Command
  x75StopT2timer (x75StartT1timer x75)

def x75EnquiryResponse (x75 : X75Cb) : X75Cb :=
  let x75 := x75SendControl x75 x75Rr x75Pollon x75Response
  { x75 with condition := clearFlag x75.condition x75AckPendingCondition }

def x75TimeoutResponse (x75 : X75Cb) : X75Cb :=
  let x75 := x75SendControl x75 x75Rr x75Polloff x75Response
  { x75 with condition := clearFlag x75.condition x75AckPendingCondition }

def x75CheckIframesAcked (x75 : X75Cb) (nr : Nat) : X75Cb :=
  if x75.vs = nr then
    let x75 := x75FramesAcked x75 nr
    let x75 := x75StopT1timer x75
    { x75 with n2count := 0 }
  else if x75.va ≠ nr then
    x75StartT1timer (x75FramesAcked x75 nr)
  else x75

def x75CheckNeedResponse (x75 : X75Cb) (type pf : UInt8) : X75Cb :=
  if type = x75Command ∧ pf ≠ 0 then x75EnquiryResponse x75 else x75

end IsdnRas.X75
