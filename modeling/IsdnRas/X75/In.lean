import IsdnRas.X75.Out

/-!
# Receiving

The state machines of `x75_in.c`. A frame that cannot be decoded is dropped at
once. Every other frame goes through the machine of the current state and then
through `x75Kick`, whatever the state is.
-/

set_option autoImplicit false

namespace IsdnRas.X75

/-- The assignments with which the link is set up: both timers stopped, no
condition, no retries, all sequence variables zero. -/
def resetLink (x75 : X75Cb) : X75Cb :=
  let x75 := x75StopT2timer (x75StopT1timer x75)
  { x75 with
    condition := 0x00
    n2count := 0
    vs := 0
    vr := 0
    va := 0
    events := x75.events ++ [.sequenceReset] }

theorem resetLink_eq (x75 : X75Cb) :
    resetLink x75 = { x75 with
      condition := 0x00
      n2count := 0
      vs := 0
      vr := 0
      va := 0
      t1timer := osmoTimerDel x75.t1timer
      t2timer := osmoTimerDel x75.t2timer
      t1timerRunning := false
      t2timerRunning := false
      events := x75.events ++ [.sequenceReset] } := rfl

/-- The frame reject procedure: send a FRMR and enter state 4. -/
def rejectFrame (x75 : X75Cb) (frame : X75Frame) (frmrType : UInt8) : X75Cb :=
  let x75 := { x75 with frmrData := frame, frmrType := frmrType }
  let x75 := x75TransmitFrmr x75
  let x75 := x75StopT2timer (x75StartT1timer x75)
  { x75 with state := .state4, n2count := 0 }

/-- Disconnected state. -/
def x75State0Machine (x75 : X75Cb) (frame : X75Frame) : X75Cb :=
  if frame.type = x75Sabm then
    if x75.extended then x75SendControl x75 x75Dm frame.pf x75Response
    else
      let x75 := resetLink (x75SendControl x75 x75Ua frame.pf x75Response)
      x75ConnectIndication { x75 with state := .state3 } .ok
  else if frame.type = x75Sabme then
    if x75.extended then
      let x75 := resetLink (x75SendControl x75 x75Ua frame.pf x75Response)
      x75ConnectIndication { x75 with state := .state3 } .ok
    else x75SendControl x75 x75Dm frame.pf x75Response
  else if frame.type = x75Disc then x75SendControl x75 x75Ua frame.pf x75Response
  else x75

/-- Awaiting connection state. -/
def x75State1Machine (x75 : X75Cb) (frame : X75Frame) : X75Cb :=
  if frame.type = x75Sabm then
    if x75.extended then x75SendControl x75 x75Dm frame.pf x75Response
    else x75SendControl x75 x75Ua frame.pf x75Response
  else if frame.type = x75Sabme then
    if x75.extended then x75SendControl x75 x75Ua frame.pf x75Response
    else x75SendControl x75 x75Dm frame.pf x75Response
  else if frame.type = x75Disc then x75SendControl x75 x75Dm frame.pf x75Response
  else if frame.type = x75Ua then
    if frame.pf ≠ 0 then
      x75ConnectConfirmation { resetLink x75 with state := .state3 } .ok
    else x75
  else if frame.type = x75Dm then
    if frame.pf ≠ 0 then
      let x75 := { x75ClearQueues x75 with state := .state0 }
      x75DisconnectIndication (x75StopT2timer (x75StartT1timer x75)) .refused
    else x75
  else x75

/-- Awaiting release state. -/
def x75State2Machine (x75 : X75Cb) (frame : X75Frame) : X75Cb :=
  if frame.type = x75Sabm ∨ frame.type = x75Sabme then
    x75SendControl x75 x75Dm frame.pf x75Response
  else if frame.type = x75Disc then x75SendControl x75 x75Ua frame.pf x75Response
  else if frame.type = x75Ua then
    if frame.pf ≠ 0 then
      x75DisconnectConfirmation
        (x75StopT2timer (x75StartT1timer { x75 with state := .state0 })) .ok
    else x75
  else if frame.type = x75Dm then
    if frame.pf ≠ 0 then
      x75DisconnectConfirmation
        (x75StopT2timer (x75StartT1timer { x75 with state := .state0 })) .notConnected
    else x75
  else if frame.type = x75I ∨ frame.type = x75Rej ∨ frame.type = x75Rnr ∨ frame.type = x75Rr then
    if frame.pf ≠ 0 then x75SendControl x75 x75Dm frame.pf x75Response else x75
  else x75

/-- A link reset in state 3: the outstanding frames are queued again. -/
def resetConnected (x75 : X75Cb) (frame : X75Frame) : X75Cb :=
  x75RequeueFrames (resetLink (x75SendControl x75 x75Ua frame.pf x75Response))

/-- RNR and RR, after the condition byte has been updated. -/
def receiveReady (x75 : X75Cb) (frame : X75Frame) : X75Cb :=
  let x75 := x75CheckNeedResponse x75 frame.cr frame.pf
  if x75ValidateNr x75 frame.nr then x75CheckIframesAcked x75 frame.nr
  else rejectFrame x75 frame x75FrmrZ

/-- REJ, after the condition byte has been updated. -/
def receiveReject (x75 : X75Cb) (frame : X75Frame) : X75Cb :=
  let x75 := x75CheckNeedResponse x75 frame.cr frame.pf
  if x75ValidateNr x75 frame.nr then
    let x75 := x75StopT1timer (x75FramesAcked x75 frame.nr)
    x75RequeueFrames { x75 with n2count := 0 }
  else rejectFrame x75 frame x75FrmrZ

/-- The acknowledgement carried by an I-frame. -/
def iframeAcknowledge (x75 : X75Cb) (nr : Nat) : X75Cb :=
  if testFlag x75.condition x75PeerRxBusyCondition then x75FramesAcked x75 nr
  else x75CheckIframesAcked x75 nr

/-- An I-frame with N(S) = V(R). -/
def receiveInSequence (x75 : X75Cb) (skb : Bytes) (frame : X75Frame) : X75Cb :=
  let x75 := x75DataIndication x75 skb
  let x75 := { x75 with
    vr := (x75.vr + 1) % x75.modulus
    condition := clearFlag x75.condition x75RejectCondition }
  if frame.pf ≠ 0 then x75EnquiryResponse x75
  else if testFlag x75.condition x75AckPendingCondition then x75
  else
    x75StartT2timer { x75 with condition := setFlag x75.condition x75AckPendingCondition }

/-- An I-frame with another N(S). -/
def receiveOutOfSequence (x75 : X75Cb) (frame : X75Frame) : X75Cb :=
  if testFlag x75.condition x75RejectCondition then
    if frame.pf ≠ 0 then x75EnquiryResponse x75 else x75
  else
    let x75 := { x75 with condition := setFlag x75.condition x75RejectCondition }
    let x75 := x75SendControl x75 x75Rej frame.pf x75Response
    { x75 with condition := clearFlag x75.condition x75AckPendingCondition }

/-- I-frames. -/
def receiveIframe (x75 : X75Cb) (skb : Bytes) (frame : X75Frame) : X75Cb :=
  if x75ValidateNr x75 frame.nr then
    let x75 := iframeAcknowledge x75 frame.nr
    if frame.ns = x75.vr then receiveInSequence x75 skb frame
    else receiveOutOfSequence x75 frame
  else rejectFrame x75 frame x75FrmrZ

/-- Connected state. -/
def x75State3Machine (x75 : X75Cb) (skb : Bytes) (frame : X75Frame) : X75Cb :=
  if frame.type = x75Sabm then
    if x75.extended then x75SendControl x75 x75Dm frame.pf x75Response
    else resetConnected x75 frame
  else if frame.type = x75Sabme then
    if x75.extended then resetConnected x75 frame
    else x75SendControl x75 x75Dm frame.pf x75Response
  else if frame.type = x75Disc then
    let x75 := x75SendControl (x75ClearQueues x75) x75Ua frame.pf x75Response
    let x75 := x75StopT2timer (x75StartT1timer x75)
    x75DisconnectIndication { x75 with state := .state0 } .ok
  else if frame.type = x75Dm then
    let x75 := { x75ClearQueues x75 with state := .state0 }
    x75DisconnectIndication (x75StopT2timer (x75StartT1timer x75)) .notConnected
  else if frame.type = x75Rnr then
    receiveReady { x75 with condition := setFlag x75.condition x75PeerRxBusyCondition } frame
  else if frame.type = x75Rr then
    receiveReady { x75 with condition := clearFlag x75.condition x75PeerRxBusyCondition } frame
  else if frame.type = x75Rej then
    receiveReject { x75 with condition := clearFlag x75.condition x75PeerRxBusyCondition } frame
  else if frame.type = x75I then receiveIframe x75 skb frame
  else if frame.type = x75Frmr then
    { x75RequeueFrames (x75EstablishDataLink x75) with state := .state1 }
  else if frame.type = x75Illegal then rejectFrame x75 frame x75FrmrW
  else x75

/-- A link reset in state 4: the outstanding frames stay where they are. -/
def resetRejected (x75 : X75Cb) (frame : X75Frame) : X75Cb :=
  let x75 := resetLink (x75SendControl x75 x75Ua frame.pf x75Response)
  x75ConnectIndication { x75 with state := .state3 } .ok

/-- Frame reject state. -/
def x75State4Machine (x75 : X75Cb) (frame : X75Frame) : X75Cb :=
  if frame.type = x75Sabm then
    if x75.extended then x75SendControl x75 x75Dm frame.pf x75Response
    else resetRejected x75 frame
  else if frame.type = x75Sabme then
    if x75.extended then resetRejected x75 frame
    else x75SendControl x75 x75Dm frame.pf x75Response
  else x75

/-- The machine of the current state. -/
def x75Machine (x75 : X75Cb) (skb : Bytes) (frame : X75Frame) : X75Cb :=
  match x75.state with
  | .state0 => x75State0Machine x75 frame
  | .state1 => x75State1Machine x75 frame
  | .state2 => x75State2Machine x75 frame
  | .state3 => x75State3Machine x75 skb frame
  | .state4 => x75State4Machine x75 frame

/-- Process an incoming frame. `stack` is what the uninitialised frame record
on the stack holds when the function is entered. -/
def x75DataInput (x75 : X75Cb) (skb : Bytes) (stack : X75Frame) : Option X75Cb :=
  match x75Decode x75 skb stack with
  | none => some x75
  | some (frame, skb) => x75Kick (x75Machine x75 skb frame)

end IsdnRas.X75
