import IsdnRas.X75.In

/-!
# The interface and the timer handlers

The entry points of `x75_iface.c` and the two handlers of `x75_timer.c`. A
handler runs when its timer expires: expiry disarms the timer and then calls
whatever handler the timer carries.

An operation is one call of an entry point or one expiry. Its result is `none`
when the process died on a NULL message in `x75Kick`.
-/

set_option autoImplicit false

namespace IsdnRas.X75

/-! ## Entry points -/

/-- A control block that is zero throughout. -/
def zeroed : X75Cb where
  mode := 0
  state := .state0
  vs := 0
  vr := 0
  va := 0
  condition := 0
  n2 := 0
  n2count := 0
  t1 := 0
  t2 := 0
  t1timer := ⟨none, false, 0⟩
  t2timer := ⟨none, false, 0⟩
  t1timerRunning := false
  t2timerRunning := false
  writeQueue := .empty
  ackQueue := .empty
  window := 0
  callbacks := ⟨false, false, false, false, false, false⟩
  frmrData := .zero
  frmrType := 0
  events := []

/-- The list heads are initialised; the counters, sequence variables, condition
byte and retry count are left as they are. -/
def x75Register (x75 : X75Cb) (callbacks : RegisterStruct) : X75Cb :=
  let x75 := { x75 with
    writeQueue := x75.writeQueue.free
    ackQueue := x75.ackQueue.free
    t1timer := osmoTimerSetup x75.t1timer none
    t2timer := osmoTimerSetup x75.t2timer none
    t1timerRunning := false
    t2timerRunning := false
    t1 := x75DefaultT1
    t2 := x75DefaultT2
    n2 := x75DefaultN2
    mode := x75Standard ||| x75Slp ||| x75Dce
    window := x75DefaultWindow
    state := .state0
    callbacks := callbacks }
  x75StartT1timer x75

def x75Unregister (x75 : X75Cb) : X75Cb :=
  let x75 := x75StopT2timer (x75StopT1timer x75)
  let x75 := x75ClearQueues x75
  { x75 with t1timer := osmoTimerDel x75.t1timer, t2timer := osmoTimerDel x75.t2timer }

/-- Which fields are left is read off this form. -/
theorem x75Unregister_eq (x75 : X75Cb) :
    x75Unregister x75 = { x75 with
      writeQueue := x75.writeQueue.free
      ackQueue := x75.ackQueue.free
      t1timer := osmoTimerDel x75.t1timer
      t2timer := osmoTimerDel x75.t2timer
      t1timerRunning := false
      t2timerRunning := false
      events := x75.events ++ [.queuesCleared] } := rfl

/-- The window that `x75Setparms` accepts for a mode. -/
def windowAccepted (parms : ParmsStruct) : Bool :=
  if parms.mode &&& x75Extended != 0 then 1 ≤ parms.window && parms.window ≤ 127
  else 1 ≤ parms.window && parms.window ≤ 7

/-- The 32-bit fields are multiplied and then stored in 16-bit ones. -/
def x75Setparms (x75 : X75Cb) (parms : ParmsStruct) : Reason × X75Cb :=
  if parms.t1 < 1 ∨ parms.t2 < 1 ∨ parms.n2 < 1 then (.inValue, x75)
  else if x75.state = .state0 ∧ windowAccepted parms = false then (.inValue, x75)
  else
    let x75 :=
      if x75.state = .state0 then
        { x75 with mode := parms.mode, window := parms.window.toUInt8.toNat }
      else x75
    (.ok, { x75 with
      t1 := (parms.t1 * hz).toUInt16
      t2 := (parms.t2 * hz).toUInt16
      n2 := parms.n2.toUInt16 })

def x75ConnectRequest (x75 : X75Cb) : Reason × X75Cb :=
  if x75.state = .state1 then (.ok, x75)
  else if x75.state = .state3 ∨ x75.state = .state4 then (.connected, x75)
  else (.ok, { x75EstablishDataLink x75 with state := .state1 })

def x75DisconnectRequest (x75 : X75Cb) : Reason × X75Cb :=
  match x75.state with
  | .state0 => (.notConnected, x75)
  | .state1 =>
      let x75 := x75SendControl x75 x75Disc x75Pollon x75Command
      (.notConnected, x75StartT1timer { x75 with state := .state0 })
  | .state2 => (.ok, x75)
  | .state3 | .state4 =>
      let x75 := { x75ClearQueues x75 with n2count := 0 }
      let x75 := x75SendControl x75 x75Disc x75Pollon x75Command
      let x75 := x75StopT2timer (x75StartT1timer x75)
      (.ok, { x75 with state := .state2 })

/-- Put a payload on the write queue. -/
def enqueueData (x75 : X75Cb) (skb : Bytes) : X75Cb :=
  { x75 with
    writeQueue := x75.writeQueue.enqueue skb
    events := x75.events ++ [.accepted skb] }

def x75DataRequest (x75 : X75Cb) (skb : Bytes) : Option (Reason × X75Cb) :=
  if x75.state ≠ .state3 ∧ x75.state ≠ .state4 then some (.notConnected, x75)
  else (x75Kick (enqueueData x75 skb)).map fun x75 => (.ok, x75)

def x75DataReceived (x75 : X75Cb) (skb : Bytes) (stack : X75Frame) : Option X75Cb :=
  x75DataInput x75 skb stack

/-! ## Timer handlers -/

def x75T2timerExpiry (x75 : X75Cb) : X75Cb :=
  if x75.t2timer.active then x75
  else if x75.t2timerRunning = false then x75
  else
    let x75 :=
      if testFlag x75.condition x75AckPendingCondition then
        x75TimeoutResponse
          { x75 with condition := clearFlag x75.condition x75AckPendingCondition }
      else x75
    { x75 with t2timerRunning := false }

/-- Give up after N2 retries: purge the queues and enter state 0. -/
def giveUp (x75 : X75Cb) : X75Cb := { x75ClearQueues x75 with state := .state0 }

def x75T1timerExpiry (x75 : X75Cb) : Option X75Cb :=
  if x75.t1timer.active then some x75
  else if x75.t1timerRunning = false then some x75
  else
    match x75.state with
    | .state0 =>
        if x75.dce = true ∧ x75.n2count ≠ x75.n2 then
          let x75 := { x75 with n2count := x75.n2count + 1 }
          some (x75StartT1timer (x75SendControl x75 x75Dm x75Polloff x75Response))
        else
          some (x75StartT1timer (x75EstablishDataLink { x75 with state := .state1 }))
    | .state1 =>
        if x75.n2count = x75.n2 then
          let x75 := x75DisconnectIndication (giveUp x75) .timedOut
          some { x75 with t1timerRunning := false }
        else
          let x75 := { x75 with n2count := x75.n2count + 1 }
          let frametype := if x75.extended then x75Sabme else x75Sabm
          some (x75StartT1timer (x75SendControl x75 frametype x75Pollon x75Command))
    | .state2 =>
        if x75.n2count = x75.n2 then
          let x75 := x75DisconnectConfirmation (giveUp x75) .timedOut
          some { x75 with t1timerRunning := false }
        else
          let x75 := { x75 with n2count := x75.n2count + 1 }
          some (x75StartT1timer (x75SendControl x75 x75Disc x75Pollon x75Command))
    | .state3 =>
        if x75.n2count = x75.n2 then
          let x75 := x75DisconnectIndication (x75StopT2timer (giveUp x75)) .timedOut
          some { x75 with t1timerRunning := false }
        else
          let x75 := x75RequeueFrames { x75 with n2count := x75.n2count + 1 }
          (x75Kick x75).map x75StartT1timer
    | .state4 =>
        if x75.n2count = x75.n2 then
          let x75 := x75DisconnectIndication (giveUp x75) .timedOut
          some { x75 with t1timerRunning := false }
        else
          let x75 := { x75 with n2count := x75.n2count + 1 }
          some (x75StartT1timer (x75TransmitFrmr x75))

/-- Call the handler a timer carries. -/
def callHandler (x75 : X75Cb) : Option TimerHandler → Option X75Cb
  | none => some x75
  | some .t1timerExpiry => x75T1timerExpiry x75
  | some .t2timerExpiry => some (x75T2timerExpiry x75)

/-- The T1 timer expires. A timer that is not armed does not expire. -/
def t1timerExpires (x75 : X75Cb) : Option X75Cb :=
  if x75.t1timer.active then
    callHandler { x75 with t1timer := osmoTimerDel x75.t1timer } x75.t1timer.cb
  else some x75

/-- The T2 timer expires. -/
def t2timerExpires (x75 : X75Cb) : Option X75Cb :=
  if x75.t2timer.active then
    callHandler { x75 with t2timer := osmoTimerDel x75.t2timer } x75.t2timer.cb
  else some x75

/-! ## Operations -/

/-- What may happen to a control block. -/
inductive Op where
  | dataRequest (skb : Bytes)
  | connectRequest
  | disconnectRequest
  | dataReceived (skb : Bytes) (stack : X75Frame)
  | t1Expiry
  | t2Expiry
  | setparms (parms : ParmsStruct)
  | unregister
  | register (callbacks : RegisterStruct)
deriving Repr, DecidableEq

/-- A call of `x75DataRequest`. -/
def Op.isRequest : Op → Bool
  | .dataRequest _ => true
  | _ => false

/-- A call of `x75Register`. -/
def Op.isRegister : Op → Bool
  | .register _ => true
  | _ => false

def exec (x75 : X75Cb) : Op → Option X75Cb
  | .dataRequest skb => (x75DataRequest x75 skb).map Prod.snd
  | .connectRequest => some (x75ConnectRequest x75).2
  | .disconnectRequest => some (x75DisconnectRequest x75).2
  | .dataReceived skb stack => x75DataReceived x75 skb stack
  | .t1Expiry => t1timerExpires x75
  | .t2Expiry => t2timerExpires x75
  | .setparms parms => some (x75Setparms x75 parms).2
  | .unregister => some (x75Unregister x75)
  | .register callbacks => some (x75Register x75 callbacks)

end IsdnRas.X75
