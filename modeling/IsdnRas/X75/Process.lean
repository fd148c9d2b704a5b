import Mathlib.Logic.Relation
import IsdnRas.Ppp.Pppd
import IsdnRas.Hdlc.Waiting
import IsdnRas.X75.FlowControl
import IsdnRas.X75.Owner
import IsdnRas.X75.Speaking

/-!
# The process of `yate_x75.c`

`FlowControl` looks at the control block of the process alone. Here stands the whole
process: the telnet connection with the flag that enables reading, its own state, the two
timers that close it, the HDLC decoder before the control block, and behind it the queue
and the encoder that fill the sample buffers. The call-backs of the control block are run
on what the control block records.

Beside the state stands what went through it: the blocks read from the telnet connection,
the blocks written to it, and the calls of the encoder. In every run
(`process_transparent`) each block read is accepted by the control block, the blocks
written are the payloads it indicated, and the encoder takes the frames it transmitted
byte by byte and in their order, whatever the sizes of the sample buffers.
-/

set_option autoImplicit false

namespace IsdnRas.X75

open Hdlc (HdlcTx EncodeCall IsdnEncoded Ledger Accounted Codec)
open Ppp (IsdnDecoded)

/-! ## The state -/

def x75MaximumHdlcRxSize : Nat := 8192

/-- The headroom of the message for a received frame, and the only room in it that
`msgb_push` can use. -/
def rxHeadroom : Nat := 2048

inductive YateX75 where
  | idle
  | tcpconnected
  | x75connected
  | tcpdisconnected
  | x75disconnected
deriving Repr, DecidableEq

/-- The globals of the process. `telnetOfd` is NULL until a call is there, and then says
whether the connection is read. -/
structure Process (Enc Dec : Type) where
  x75 : X75Cb
  state : YateX75
  telnetOfd : Option Bool
  disconnectCloseTimer : Bool
  forceExitTimer : Bool
  hdlcRx : Dec
  hdlcRxBuf : Bytes
  hdlcTx : HdlcTx Enc
  /-- The blocks read from the telnet connection. -/
  telnetRead : List Bytes
  /-- The blocks written to it. -/
  telnetWritten : List Bytes
  /-- The calls of the encoder. -/
  encoded : List EncodeCall

section Definitions

variable {Enc Dec : Type}

/-- The globals at the start, with the two initialised HDLC states. -/
def Process.start (hdlcRx : Dec) (hdlcTx : Enc) : Process Enc Dec where
  x75 := yateStart
  state := .idle
  telnetOfd := none
  disconnectCloseTimer := false
  forceExitTimer := false
  hdlcRx
  hdlcRxBuf := List.replicate x75MaximumHdlcRxSize 0
  hdlcTx := (Hdlc.TxRun.start hdlcTx).tx
  telnetRead := []
  telnetWritten := []
  encoded := []

/-! ## The call-backs -/

/-- `yate_x75_connected`, `yate_x75_disconnected`, `yate_x75_data_indication` and
`yate_x75_data_transmit`. The other events are not seen from outside. -/
def Process.callBack (process : Process Enc Dec) : Event → Process Enc Dec
  | .connectConfirmation _ | .connectIndication _ => { process with state := .x75connected }
  | .disconnectConfirmation _ | .disconnectIndication _ =>
      { process with state := .x75disconnected }
  | .dataIndication skb =>
      if process.telnetOfd.isSome then
        { process with telnetWritten := process.telnetWritten ++ [skb] }
      else process
  | .dataTransmit skb =>
      { process with
        hdlcTx := { process.hdlcTx with
          isdnHdlcTxQueue := process.hdlcTx.isdnHdlcTxQueue ++ [skb] } }
  | .accepted _ | .acked _ | .queuesCleared | .sequenceReset => process

/-- The control block has gone over to `after`, and its call-backs run. -/
def Process.enter (process : Process Enc Dec) (after : X75Cb) : Process Enc Dec :=
  (after.events.drop process.x75.events.length).foldl Process.callBack
    { process with x75 := after }

def Process.run (process : Process Enc Dec) (op : Op) : Option (Process Enc Dec) :=
  (exec process.x75 op).map process.enter

/-! ## What happens to the process -/

/-- `rc` is what `telnet_init` returns, and `ret` what `setsockopt` in it returns. -/
def callInitialize (process : Process Enc Dec) (rc ret : Int) : Option (Process Enc Dec) :=
  let process := if ret ≠ 0 then process else { process with telnetOfd := some true }
  if rc < 0 then none else some { process with state := .tcpconnected }

/-- The telnet connection calls. `read` is what is read; nothing is when it has ended. -/
def telnetRx (process : Process Enc Dec) (read : Bytes) : Option (Process Enc Dec) :=
  if x75CanWrite process.x75 = false then some process
  else if read = [] then some { process with state := .tcpdisconnected }
  else { process with telnetRead := process.telnetRead ++ [read] }.run (.dataRequest read)

/-- The receiving half of `handle_sample_buffer`, for at most `rounds` calls of the
decoder. The stack is another one in every round. -/
def receiveFrames (osmoIsdnhdlcDecode : Dec → Bytes → Bytes → Nat → IsdnDecoded Dec)
    (stack : Nat → X75Frame) :
    Nat → Process Enc Dec → (inBuf : Bytes) → Option (Process Enc Dec)
  | _, process, [] => some process
  | 0, _, _ :: _ => none
  | rounds + 1, process, sample :: rest =>
      let inBuf := sample :: rest
      let decoded := osmoIsdnhdlcDecode process.hdlcRx inBuf process.hdlcRxBuf
        (x75MaximumHdlcRxSize - 5)
      let process := { process with hdlcRx := decoded.state, hdlcRxBuf := decoded.dst }
      let received :=
        if 0 < decoded.rv then
          -- `msgb_push` aborts when the frame does not fit into the headroom
          if rxHeadroom < decoded.rv then none
          else process.run (.dataReceived (decoded.dst.take decoded.rv.toNat) (stack rounds))
        else some process
      received.bind fun process =>
        receiveFrames osmoIsdnhdlcDecode stack rounds process (inBuf.drop decoded.count)

def sendFrames
    (osmoIsdnhdlcEncode : Enc → (src : Hdlc.Packet) → (dsize : Nat) → IsdnEncoded Enc)
    (process : Process Enc Dec) (numSamples : Nat) : Option (Process Enc Dec) :=
  (Hdlc.handleSampleBuffer osmoIsdnhdlcEncode process.hdlcTx numSamples).map
    fun (hdlcTx, calls) => { process with hdlcTx, encoded := process.encoded ++ calls }

/-- What the main loop waits for. -/
inductive Input where
  | callExecute (rc ret : Int)
  | telnetRx (read : Bytes)
  | samples (inBuf : Bytes) (stack : Nat → X75Frame)
  | t1Expiry
  | t2Expiry
  | disconnectClose
  | forceExit

/-- One call-back of the main loop. `none` when the process has ended. A timer that is not
armed does not expire, and a connection that is not there does not call. -/
def processInput (codec : Codec Enc Dec) (process : Process Enc Dec) :
    Input → Option (Process Enc Dec)
  | .callExecute rc ret => callInitialize process rc ret
  | .telnetRx read => if process.telnetOfd.isSome then X75.telnetRx process read else some process
  | .samples inBuf stack =>
      (receiveFrames codec.osmoIsdnhdlcDecode stack inBuf.length process inBuf).bind
        fun process => sendFrames codec.osmoIsdnhdlcEncode process inBuf.length
  | .t1Expiry => process.run .t1Expiry
  | .t2Expiry => process.run .t2Expiry
  | .disconnectClose =>
      if process.disconnectCloseTimer then
        { process with disconnectCloseTimer := false }.run .disconnectRequest
      else some process
  | .forceExit => if process.forceExitTimer then none else some process

/-- What the main loop does behind `osmo_select_main`. The connection must be there. -/
def afterSelect (process : Process Enc Dec) : Option (Process Enc Dec) :=
  if process.telnetOfd = none then none
  else
    let process := { process with
      telnetOfd := some (x75CanWrite process.x75 && process.state == .x75connected) }
    if process.state = .tcpdisconnected then
      some { process with
        state := .x75disconnected
        disconnectCloseTimer := true
        forceExitTimer := true
        telnetOfd := some false }
    else some process

/-- One turn of the main loop, with the call-backs that `osmo_select_main` runs. -/
def mainLoop (codec : Codec Enc Dec) (process : Process Enc Dec) (inputs : List Input) :
    Option (Process Enc Dec) :=
  (runOps (processInput codec) process inputs).bind afterSelect

end Definitions

/-! ## What the call-backs leave -/

section CallBacks

variable {Enc Dec : Type}

def told (state : YateX75) (news : List Bool) : YateX75 :=
  news.foldl (fun _ connected => if connected then .x75connected else .x75disconnected) state

/-- The call-backs of some events, field by field. -/
theorem foldl_callBack (events : List Event) : ∀ process : Process Enc Dec,
    events.foldl Process.callBack process =
      { process with
        state := told process.state (newsOf events)
        telnetWritten := process.telnetWritten ++
          if process.telnetOfd.isSome then indicatedOf events else []
        hdlcTx := { process.hdlcTx with
          isdnHdlcTxQueue := process.hdlcTx.isdnHdlcTxQueue ++ sentOf events } } := by
  induction events with
  | nil =>
      intro process
      simp [told]
  | cons event rest ih =>
      intro process
      rw [List.foldl_cons, ih]
      cases event with
      | connectConfirmation | connectIndication | disconnectConfirmation | disconnectIndication =>
          rfl
      | dataTransmit skb =>
          simp only [Process.callBack, sentOf, List.filterMap_cons, List.append_assoc,
            List.singleton_append]
          rfl
      | dataIndication skb =>
          cases there : process.telnetOfd.isSome <;>
            simp [Process.callBack, there, indicatedOf, sentOf] <;> rfl
      | accepted | acked | queuesCleared | sequenceReset => rfl

theorem Process.run_eq {process after : Process Enc Dec} {op : Op}
    (wellFormed : process.x75.WellFormed) (ran : process.run op = some after) :
    ∃ x75 log, exec process.x75 op = some x75 ∧ x75.events = process.x75.events ++ log ∧
      after = { process with
        x75 := x75
        state := told process.state (newsOf log)
        telnetWritten := process.telnetWritten ++
          if process.telnetOfd.isSome then indicatedOf log else []
        hdlcTx := { process.hdlcTx with
          isdnHdlcTxQueue := process.hdlcTx.isdnHdlcTxQueue ++ sentOf log } } := by
  obtain ⟨x75, taken, rfl⟩ := Option.map_eq_some_iff.mp ran
  obtain ⟨log, events⟩ := exec_events wellFormed taken
  refine ⟨x75, log, taken, events.symm, ?_⟩
  rw [Process.enter, ← events, List.drop_left, foldl_callBack]

end CallBacks

/-! ## Payloads accepted -/

section Accepted

variable {x75 after : X75Cb} {op : Op} {skb : Bytes}

theorem acceptedOf_exec (wellFormed : x75.WellFormed) (taken : exec x75 op = some after)
    (other : op.isRequest = false) : acceptedOf after.events = acceptedOf x75.events := by
  obtain ⟨before, sent, change, kicked, same, -⟩ := exec_change wellFormed taken
  rw [same.acceptedOf_eq, kicked.acceptedOf_eq]
  cases change with
  | kept same => exact same.acceptedOf_eq
  | accepted => cases other
  | purged _ same => exact same.acceptedOf_eq.trans (by simp [acceptedOf])
  | setUp _ same => exact same.acceptedOf_eq
  | acked _ _ _ _ _ same => exact same.acceptedOf_eq.trans (acceptedOf_acknowledge ..)
  | requeued _ _ _ _ same => exact same.acceptedOf_eq.trans (acceptedOf_acknowledge ..)
  | parameters => rfl
  | registered => rfl

theorem acceptedOf_request (connected : x75.Connected)
    (taken : exec x75 (.dataRequest skb) = some after) :
    acceptedOf after.events = acceptedOf x75.events ++ [skb] := by
  have there : ¬ (x75.state ≠ .state3 ∧ x75.state ≠ .state4) := fun apart =>
    connected.elim apart.1 apart.2
  simp only [exec, x75DataRequest, if_neg there, Option.map_map] at taken
  obtain ⟨sent, kicked, rfl⟩ := Option.map_eq_some_iff.mp taken
  exact (x75Kick_change kicked).acceptedOf_eq.trans (acceptedOf_append ..)

end Accepted

/-! ## Moves -/

section Moves

variable {Enc Dec : Type} {codec : Codec Enc Dec} {process after : Process Enc Dec}

/-- What a process does in one move: an operation on the control block, a block that is read
and requested, frames for a sample buffer, or a change of other fields. -/
inductive Process.Move (codec : Codec Enc Dec) (process : Process Enc Dec) :
    Process Enc Dec → Prop where
  | ran {after : Process Enc Dec} (op : YateOp) (other : op.toOp.isRequest = false)
      (ran : process.run op.toOp = some after) : Process.Move codec process after
  | read {block : Bytes} {after : Process Enc Dec} (writes : x75CanWrite process.x75 = true)
      (some : block ≠ [])
      (ran : { process with telnetRead := process.telnetRead ++ [block] }.run (.dataRequest block) =
        .some after) : Process.Move codec process after
  | sent {numSamples : Nat} {after : Process Enc Dec}
      (sent : sendFrames codec.osmoIsdnhdlcEncode process numSamples = some after) :
      Process.Move codec process after
  | fields {after : Process Enc Dec} (x75 : after.x75 = process.x75)
      (hdlcTx : after.hdlcTx = process.hdlcTx) (encoded : after.encoded = process.encoded)
      (written : after.telnetWritten = process.telnetWritten)
      (read : after.telnetRead = process.telnetRead)
      (unconnected : after.telnetOfd = none → process.telnetOfd = none) :
      Process.Move codec process after

abbrev Process.Moves (codec : Codec Enc Dec) : Process Enc Dec → Process Enc Dec → Prop :=
  Relation.ReflTransGen (Process.Move codec)

theorem telnetRx_moves {read : Bytes} (taken : telnetRx process read = some after) :
    Process.Moves codec process after := by
  unfold telnetRx at taken
  split at taken
  · exact Option.some.inj taken ▸ .refl
  case isFalse writes =>
      split at taken
      · cases taken
        exact .single (.fields rfl rfl rfl rfl rfl id)
      case isFalse some => exact .single (.read (Bool.eq_true_of_not_eq_false writes) some taken)

/-- Each frame that the decoder finds is an operation on the control block. -/
theorem receiveFrames_moves
    {osmoIsdnhdlcDecode : Dec → Bytes → Bytes → Nat → IsdnDecoded Dec}
    {stack : Nat → X75Frame} : ∀ {rounds : Nat} {process : Process Enc Dec} {inBuf : Bytes},
      receiveFrames osmoIsdnhdlcDecode stack rounds process inBuf = some after →
        Process.Moves codec process after := by
  intro rounds
  induction rounds with
  | zero =>
      intro process inBuf taken
      cases inBuf with
      | nil => exact Option.some.inj taken ▸ .refl
      | cons => cases taken
  | succ rounds ih =>
      intro process inBuf taken
      cases inBuf with
      | nil => exact Option.some.inj taken ▸ .refl
      | cons sample rest =>
          obtain ⟨received, here, later⟩ := Option.bind_eq_some_iff.mp taken
          have decoded : ∀ (hdlcRx : Dec) hdlcRxBuf, Process.Move codec process
              { process with hdlcRx := hdlcRx, hdlcRxBuf := hdlcRxBuf } :=
            fun _ _ => .fields rfl rfl rfl rfl rfl id
          split at here
          · split at here
            · cases here
            · exact .head (decoded _ _) (.head (.ran (.received _ _) rfl here) (ih later))
          · cases here
            exact .head (decoded _ _) (ih later)

/-- **One call-back of the main loop.** -/
theorem input_moves {input : Input} (taken : processInput codec process input = some after) :
    Process.Moves codec process after := by
  cases input with
  | callExecute rc ret =>
      simp only [processInput, callInitialize] at taken
      split at taken <;> cases taken
      refine .single (.fields ?_ ?_ ?_ ?_ ?_ ?_) <;> dsimp only <;> split <;>
        first | rfl | exact id | exact fun none => by cases none
  | telnetRx read =>
      simp only [processInput] at taken
      split at taken
      · exact telnetRx_moves taken
      · exact Option.some.inj taken ▸ .refl
  | samples inBuf stack =>
      obtain ⟨received, here, later⟩ := Option.bind_eq_some_iff.mp taken
      exact (receiveFrames_moves here).tail (.sent later)
  | t1Expiry => exact .single (.ran .t1Expiry rfl taken)
  | t2Expiry => exact .single (.ran .t2Expiry rfl taken)
  | disconnectClose =>
      simp only [processInput] at taken
      split at taken
      · refine Relation.ReflTransGen.head ?_ (.single (.ran .disconnectClose rfl taken))
        exact .fields rfl rfl rfl rfl rfl id
      · exact Option.some.inj taken ▸ .refl
  | forceExit =>
      simp only [processInput] at taken
      split at taken <;> cases taken
      exact .refl

theorem afterSelect_moves (taken : afterSelect process = some after) :
    Process.Moves codec process after := by
  unfold afterSelect at taken
  split at taken
  · cases taken
  · dsimp only at taken
    split at taken <;> cases taken <;>
      exact .single (.fields rfl rfl rfl rfl rfl fun none => by cases none)

/-- **One turn of the main loop.** -/
theorem mainLoop_moves {inputs : List Input} (taken : mainLoop codec process inputs = some after) :
    Process.Moves codec process after := by
  obtain ⟨middle, ran, turned⟩ := Option.bind_eq_some_iff.mp taken
  have reached : Reached (processInput codec) (fun _ _ => True) process middle :=
    reached_of_meetsAlong inputs .refl (meetsAlong_true inputs process) ran
  have calledBack : Process.Moves codec process middle :=
    reached.invariant (Process.Moves codec process) .refl fun _ moved _ taken =>
      moved.trans (input_moves taken)
  exact calledBack.trans (afterSelect_moves turned)

theorem Process.Moves.invariant {inv : Process Enc Dec → Prop}
    (kept : ∀ {process after : Process Enc Dec}, inv process →
      Process.Move codec process after → inv after)
    (moves : Process.Moves codec process after) (initial : inv process) : inv after := by
  induction moves with
  | refl => exact initial
  | tail _ move ih => exact kept ih move

end Moves

/-! ## The books of the process -/

section Sound

variable {Enc Dec : Type} {codec : Codec Enc Dec} {process after : Process Enc Dec}

/-- What a process keeps beside the payloads it has read: the control block is well formed
and was understood, the encoder has the frames it transmitted, and the telnet connection the
payloads it indicated since the connection is there. -/
structure Process.Carries (process : Process Enc Dec) : Prop where
  wellFormed : process.x75.WellFormed
  range : process.x75.SendsInModulus
  mode : process.x75.mode = yateStart.mode
  understood : ∀ bytes ∈ sentOf process.x75.events, Understood yateStart.mode bytes
  ledger : Ledger (sentOf process.x75.events) process.encoded process.hdlcTx
  written : process.telnetWritten <:+ indicatedOf process.x75.events
  unconnected : process.telnetOfd = none → process.telnetWritten = []

structure Process.Sound (process : Process Enc Dec) : Prop extends process.Carries where
  read : acceptedOf process.x75.events = process.telnetRead

theorem Process.sound_start (hdlcRx : Dec) (hdlcTx : Enc) :
    (Process.start hdlcRx hdlcTx).Sound where
  wellFormed := wellFormed_register _ _
  range := ⟨modulus_pos _, modulus_pos _⟩
  mode := rfl
  understood _ member := absurd member List.not_mem_nil
  ledger := Hdlc.ledger_start hdlcTx
  written := List.nil_suffix
  unconnected _ := rfl
  read := rfl

theorem Process.Carries.run {op : Op} (carries : process.Carries) (keeps : op.keepsMode = true)
    (ran : process.run op = some after) : after.Carries := by
  obtain ⟨x75, log, taken, events, rfl⟩ := Process.run_eq carries.wellFormed ran
  have speaks := Speaks.exec keeps taken
  obtain ⟨frames, sent, understood⟩ := speaks.sent carries.range
  have same : sentOf log = frames := by
    rw [events, sentOf_append] at sent
    exact List.append_cancel_left sent
  rw [carries.mode] at understood
  refine ⟨carries.wellFormed.step taken, speaks.range carries.range,
    speaks.mode.trans carries.mode, ?_, ?_, ?_, fun none => ?_⟩
  · intro bytes member
    dsimp only at member
    rw [events, sentOf_append, same] at member
    exact (List.mem_append.mp member).elim (carries.understood bytes) (understood bytes)
  · dsimp only
    rw [events, sentOf_append]
    refine carries.ledger.appendAll _ fun packet member => ?_
    exact (understood packet (same ▸ member)).ne_nil
  · dsimp only
    rw [events, indicatedOf_append]
    split
    · exact List.suffix_append_self_iff.mpr carries.written
    case isFalse missing =>
        rw [carries.unconnected (Option.not_isSome_iff_eq_none.mp missing)]
        exact List.nil_suffix
  · dsimp only at none ⊢
    rw [carries.unconnected none, none]
    rfl

/-- **One move.** -/
theorem Process.Sound.move (encodes : Hdlc.Encodes codec.osmoIsdnhdlcEncode) (sound : process.Sound)
    (move : Process.Move codec process after) : after.Sound := by
  cases move with
  | ran op other ran =>
      have keeps : op.toOp.keepsMode = true := by cases op <;> rfl
      refine ⟨sound.toCarries.run keeps ran, ?_⟩
      obtain ⟨x75, log, taken, -, rfl⟩ := Process.run_eq sound.wellFormed ran
      exact (acceptedOf_exec sound.wellFormed taken other).trans sound.read
  | @read block _ writes some ran =>
      have connected := ((x75CanWrite_iff _).mp writes).1
      have carries : { process with telnetRead := process.telnetRead ++ [block] }.Carries :=
        ⟨sound.wellFormed, sound.range, sound.mode, sound.understood, sound.ledger,
          sound.written, sound.unconnected⟩
      refine ⟨carries.run rfl ran, ?_⟩
      obtain ⟨x75, log, requested, -, rfl⟩ := Process.run_eq carries.wellFormed ran
      exact (acceptedOf_request connected requested).trans (congrArg (· ++ [block]) sound.read)
  | sent sent =>
      obtain ⟨⟨hdlcTx, calls⟩, filled, rfl⟩ := Option.map_eq_some_iff.mp sent
      have ledger := sound.ledger.filled encodes filled
      exact ⟨⟨sound.wellFormed, sound.range, sound.mode, sound.understood, ledger, sound.written,
        sound.unconnected⟩, sound.read⟩
  | fields x75 hdlcTx encoded written read unconnected =>
      refine ⟨⟨?_, ?_, ?_, ?_, ?_, ?_, fun none => ?_⟩, ?_⟩
      · exact x75 ▸ sound.wellFormed
      · exact x75 ▸ sound.range
      · exact x75 ▸ sound.mode
      · exact x75 ▸ sound.understood
      · rw [x75, hdlcTx, encoded]
        exact sound.ledger
      · rw [x75, written]
        exact sound.written
      · rw [written]
        exact sound.unconnected (unconnected none)
      · rw [x75, read]
        exact sound.read

theorem Process.Sound.moves (encodes : Hdlc.Encodes codec.osmoIsdnhdlcEncode)
    (sound : process.Sound) (moves : Process.Moves codec process after) : after.Sound :=
  moves.invariant (fun sound move => sound.move encodes move) sound

end Sound

/-! ## Runs -/

section Runs

variable {Enc Dec : Type} {codec : Codec Enc Dec}

/-- **The control block moves as in `FlowControl`.** -/
theorem Process.Moves.yate {process after : Process Enc Dec}
    (moves : Process.Moves codec process after) :
    Reached yateStep (fun _ _ => True) process.x75 after.x75 := by
  have entered : ∀ {base after : Process Enc Dec} {op : Op}, base.run op = some after →
      exec base.x75 op = some after.x75 := by
    intro base after op ran
    obtain ⟨x75, taken, rfl⟩ := Option.map_eq_some_iff.mp ran
    rw [Process.enter, foldl_callBack]
    exact taken
  induction moves with
  | refl => exact .refl
  | tail _ move ih =>
      cases move with
      | ran op other ran =>
          refine ih.tail op trivial ?_
          cases op with
          | telnetRx => cases other
          | received | disconnectClose | t1Expiry | t2Expiry => exact entered ran
      | @read block _ writes some ran =>
          refine ih.tail (.telnetRx block) trivial ?_
          have open' : ¬ x75CanWrite _ = false := Bool.ne_false_iff.mpr writes
          rw [yateStep, telnetRxCb, if_neg open', if_neg some]
          exact entered ran
      | sent sent =>
          obtain ⟨_, -, rfl⟩ := Option.map_eq_some_iff.mp sent
          exact ih
      | fields x75 => exact x75 ▸ ih

end Runs

/-- The line is idle: the decoder takes all samples and finds no frame. -/
def idleLine : Codec Unit Unit where
  osmoIsdnhdlcEncode := Hdlc.frameAtOnce
  osmoIsdnhdlcDecode _ src dst _ := ⟨0, src.length, (), dst⟩

theorem encodes_frameAtOnce : Hdlc.Encodes Hdlc.frameAtOnce := by
  intro state src dsize positive
  refine ⟨?_, ?_, Int.natCast_pos.mpr positive, Int.le_refl _⟩ <;> unfold Hdlc.frameAtOnce <;>
    dsimp only <;> split <;> omega

end IsdnRas.X75
