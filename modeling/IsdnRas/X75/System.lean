import IsdnRas.Library.LossyLine
import IsdnRas.X75.InOrder
import IsdnRas.X75.Process

/-!
# From one connection to the other

The process of `yate_x75.c` stands between a telnet connection and the line. Here the line
leads to a peer in the other role. What the encoder has taken whole is on its way to the
peer; what the decoder of the process finds are frames of the peer in their order, with any
of them lost.

Each step of this system is a run of steps of the link of `Link`: a read is a request, a
sample buffer is the delivery of some frames, and the frames that wait before the encoder
are the end of the channel (`system_simulates`). So the blocks of the telnet connection
arrive in order, and what the peer sends is written to the connection in order
(`telnet_in_order`), for every interleaving of reads, sample buffers of any size, losses and
timers, while the link keeps the order.
-/

set_option autoImplicit false

namespace IsdnRas.X75

open Hdlc (HdlcTx EncodeCall IsdnEncoded Ledger Codec freed waiting)
open Ppp (IsdnDecoded)

/-! ## What the decoder finds -/

/-- The frames that the decoder finds, each with the stack of its round. -/
def foundFrames {Dec : Type}
    (osmoIsdnhdlcDecode : Dec → Bytes → Bytes → Nat → IsdnDecoded Dec) (stack : Nat → X75Frame) :
    Nat → Dec → (hdlcRxBuf inBuf : Bytes) → List (Bytes × X75Frame)
  | _, _, _, [] => []
  | 0, _, _, _ :: _ => []
  | rounds + 1, hdlcRx, hdlcRxBuf, sample :: rest =>
      let inBuf := sample :: rest
      let decoded := osmoIsdnhdlcDecode hdlcRx inBuf hdlcRxBuf (x75MaximumHdlcRxSize - 5)
      (if 0 < decoded.rv then [(decoded.dst.take decoded.rv.toNat, stack rounds)] else []) ++
        foundFrames osmoIsdnhdlcDecode stack rounds decoded.state decoded.dst
          (inBuf.drop decoded.count)

/-- What is left of a channel after these frames have arrived. -/
def carried (channel : List Bytes) (frames : List (Bytes × X75Frame)) : Option (List Bytes) :=
  arrives channel (frames.map (·.1))

/-- The steps of the link for these frames. -/
def deliveries : (channel : List Bytes) → List (Bytes × X75Frame) → List LinkOp
  | _, [] => []
  | [], _ :: _ => []
  | sent :: channel, frame :: frames =>
      if sent = frame.1 then .atA (.deliver frame.2) :: deliveries channel frames
      else .atA .lose :: deliveries channel (frame :: frames)

/-! ## The system -/

/-- The process, a peer, and the frames on the line between them. -/
structure System (Enc Dec : Type) where
  process : Process Enc Dec
  peer : X75Cb
  toPeer : List Bytes
  toProcess : List Bytes

section System

variable {Enc Dec : Type}

/-- The link that the system implements. -/
def System.link (system : System Enc Dec) : X75Link where
  a := system.process.x75
  b := system.peer
  ab := system.toPeer ++ waiting system.process.hdlcTx
  ba := system.toProcess

/-- What may happen: a call-back of the process, the rest of a turn of its main loop, or a
step of the peer. -/
inductive SystemOp where
  | input (input : Input)
  | turn
  | peer (op : EndOp)

/-- The frames that the process receives in a call-back. -/
def receivedIn (codec : Codec Enc Dec) (process : Process Enc Dec) :
    Input → List (Bytes × X75Frame)
  | .samples inBuf stack =>
      foundFrames codec.osmoIsdnhdlcDecode stack inBuf.length process.hdlcRx process.hdlcRxBuf inBuf
  | _ => []

/-- One step of the system. -/
def systemStep (codec : Codec Enc Dec) (system : System Enc Dec) :
    SystemOp → Option (System Enc Dec)
  | .input input =>
      (processInput codec system.process input).bind fun process =>
        (carried system.toProcess (receivedIn codec system.process input)).map fun toProcess =>
          { system with
            process
            toPeer := system.toPeer ++
              freed (process.encoded.drop system.process.encoded.length)
            toProcess }
  | .turn => (afterSelect system.process).map fun process => { system with process }
  | .peer op =>
      (stepA ⟨system.peer, system.process.x75, system.toProcess, system.toPeer⟩ op).map fun link =>
        { system with peer := link.a, toProcess := link.ab, toPeer := link.ba }

/-- The steps of the link that a step of the system is. -/
def linkOps (codec : Codec Enc Dec) (system : System Enc Dec) : SystemOp → List LinkOp
  | .input (.telnetRx read) =>
      if system.process.telnetOfd.isSome ∧ x75CanWrite system.process.x75 = true ∧ read ≠ [] then
        [.atA (.dataRequest read)]
      else []
  | .input (.samples inBuf stack) =>
      deliveries system.toProcess (receivedIn codec system.process (.samples inBuf stack))
  | .input .t1Expiry => [.atA .t1Expiry]
  | .input .t2Expiry => [.atA .t2Expiry]
  | .input (.callExecute _ _) | .input .disconnectClose | .input .forceExit | .turn => []
  | .peer op => [.atB op]

/-- The timer expires that closes the connection. -/
def SystemOp.closes : SystemOp → Bool
  | .input .disconnectClose => true
  | _ => false

/-- No request to disconnect is made, and the steps of the link keep the order. -/
def KeepsSystemOrder (codec : Codec Enc Dec) (system : System Enc Dec) (op : SystemOp) : Prop :=
  ¬ (system.process.disconnectCloseTimer = true ∧ op.closes = true) ∧
    MeetsAlong linkStep KeepsLinkOrder system.link (linkOps codec system op)

instance (codec : Codec Enc Dec) (system : System Enc Dec) (op : SystemOp) :
    Decidable (KeepsSystemOrder codec system op) := inferInstanceAs (Decidable (_ ∧ _))

end System

/-! ## Simulation -/

section Simulation

variable {Enc Dec : Type} {codec : Codec Enc Dec} {process after : Process Enc Dec}

/-- The telnet connection is there, and what was indicated has been written to it. -/
structure Process.Serves (process : Process Enc Dec) : Prop extends process.Sound where
  there : process.telnetOfd.isSome = true
  all : process.telnetWritten = indicatedOf process.x75.events

/-- An operation writes what it indicates. -/
theorem Process.run_written {op : Op} (ran : process.run op = some after)
    (wellFormed : process.x75.WellFormed) (there : process.telnetOfd.isSome = true)
    (all : process.telnetWritten = indicatedOf process.x75.events) :
    after.telnetOfd.isSome = true ∧ after.telnetWritten = indicatedOf after.x75.events := by
  obtain ⟨x75, log, -, events, rfl⟩ := Process.run_eq wellFormed ran
  refine ⟨there, ?_⟩
  dsimp only
  rw [if_pos there, all, events, indicatedOf_append]

theorem Process.Serves.move (encodes : Hdlc.Encodes codec.osmoIsdnhdlcEncode)
    (serves : process.Serves)
    (move : Process.Move codec process after) : after.Serves := by
  have sound := serves.toSound.move encodes move
  suffices telnet : after.telnetOfd.isSome = true ∧
      after.telnetWritten = indicatedOf after.x75.events from ⟨sound, telnet.1, telnet.2⟩
  cases move with
  | ran _ _ ran => exact Process.run_written ran serves.wellFormed serves.there serves.all
  | read _ _ ran => exact Process.run_written ran serves.wellFormed serves.there serves.all
  | sent sent =>
      obtain ⟨_, -, rfl⟩ := Option.map_eq_some_iff.mp sent
      exact ⟨serves.there, serves.all⟩
  | fields x75 _ _ written _ unconnected =>
      refine ⟨?_, ?_⟩
      · refine Option.isSome_iff_ne_none.mpr fun none => ?_
        exact Option.isSome_iff_ne_none.mp serves.there (unconnected none)
      · rw [written, x75]
        exact serves.all

/-- **The frames found are deliveries.** -/
theorem deliveries_step {channel rest : List Bytes} {frame : Bytes × X75Frame}
    {frames : List (Bytes × X75Frame)} (arrived : carried channel (frame :: frames) = some rest) :
    ∃ lost channel', channel = lost ++ frame.1 :: channel' ∧
      deliveries channel (frame :: frames) =
        lost.map (fun _ => .atA .lose) ++ .atA (.deliver frame.2) :: deliveries channel' frames ∧
      carried channel' frames = some rest := by
  induction channel with
  | nil => cases arrived
  | cons sent channel ih =>
      by_cases same : sent = frame.1
      · simp only [carried, List.map_cons, arrives, if_pos same] at arrived
        refine ⟨[], channel, by rw [same]; rfl, ?_, arrived⟩
        rw [deliveries, if_pos same]
        rfl
      · simp only [carried, List.map_cons, arrives, if_neg same] at arrived
        obtain ⟨lost, channel', rfl, steps, later⟩ := ih arrived
        refine ⟨sent :: lost, channel', rfl, ?_, later⟩
        rw [deliveries, if_neg same, steps]
        rfl

theorem runOps_lose (lost : List Bytes) : ∀ (link : X75Link) {rest : List Bytes},
    link.ba = lost ++ rest →
      runOps linkStep link (lost.map fun _ => .atA .lose) = some { link with ba := rest } := by
  induction lost with
  | nil =>
      intro link rest way
      simp only [List.nil_append] at way
      simp [runOps, ← way]
  | cons frame lost ih =>
      intro link rest way
      have step : linkStep link (.atA .lose) = some { link with ba := lost ++ rest } := by
        simp only [linkStep, stepA, way, List.cons_append]
      rw [List.map_cons, runOps, step, Option.bind_some]
      exact ih _ rfl

/-- What an operation sends waits behind the other frames. -/
theorem runA_of_run {op : Op} (wellFormed : process.x75.WellFormed)
    (ran : process.run op = some after) (peer : X75Cb) (toPeer ba rest : List Bytes) :
    runA ⟨process.x75, peer, toPeer ++ waiting process.hdlcTx, ba⟩ op rest =
      some ⟨after.x75, peer, toPeer ++ waiting after.hdlcTx, rest⟩ := by
  obtain ⟨x75, log, taken, events, rfl⟩ := Process.run_eq wellFormed ran
  have since : framesSince process.x75 x75 = sentOf log := by
    rw [framesSince, events, List.drop_left]
  rw [runA, taken, Option.map_some, since]
  simp [waiting]

/-- The receiving half of a sample buffer is a run of the link. -/
theorem receiveFrames_simulates (encodes : Hdlc.Encodes codec.osmoIsdnhdlcEncode)
    {stack : Nat → X75Frame} {peer : X75Cb} {toPeer rest : List Bytes} :
    ∀ {rounds : Nat} {process : Process Enc Dec} {inBuf : Bytes} {channel : List Bytes},
      process.Sound →
      receiveFrames codec.osmoIsdnhdlcDecode stack rounds process inBuf = some after →
      carried channel (foundFrames codec.osmoIsdnhdlcDecode stack rounds process.hdlcRx
        process.hdlcRxBuf inBuf) = some rest →
      runOps linkStep ⟨process.x75, peer, toPeer ++ waiting process.hdlcTx, channel⟩
        (deliveries channel (foundFrames codec.osmoIsdnhdlcDecode stack rounds process.hdlcRx
          process.hdlcRxBuf inBuf)) =
        some ⟨after.x75, peer, toPeer ++ waiting after.hdlcTx, rest⟩ ∧
      after.encoded = process.encoded := by
  intro rounds
  induction rounds with
  | zero =>
      intro process inBuf channel sound taken arrived
      cases inBuf with
      | cons => cases taken
      | nil =>
          cases taken
          cases channel <;> cases arrived <;> exact ⟨rfl, rfl⟩
  | succ rounds ih =>
      intro process inBuf channel sound taken arrived
      cases inBuf with
      | nil =>
          cases taken
          cases channel <;> cases arrived <;> exact ⟨rfl, rfl⟩
      | cons sample later =>
          obtain ⟨received, here, further⟩ := Option.bind_eq_some_iff.mp taken
          rw [foundFrames] at arrived ⊢
          generalize codec.osmoIsdnhdlcDecode process.hdlcRx (sample :: later) process.hdlcRxBuf
            (x75MaximumHdlcRxSize - 5) = decoded at here further arrived ⊢
          have sound' : Process.Sound
              { process with hdlcRx := decoded.state, hdlcRxBuf := decoded.dst } :=
            sound.move encodes (.fields rfl rfl rfl rfl rfl id)
          split at here
          case isFalse nothing =>
              cases here
              simp only [if_neg nothing, List.nil_append] at arrived ⊢
              exact ih sound' further arrived
          case isTrue found =>
              have fits := Option.ite_none_left_eq_some.mp here
              simp only [if_pos found, List.singleton_append] at arrived ⊢
              obtain ⟨lost, channel', rfl, steps, arrived'⟩ := deliveries_step arrived
              have sound'' := sound'.move encodes (.ran (.received _ _) rfl fits.2)
              have delivered := runA_of_run sound'.wellFormed fits.2 peer toPeer
                (decoded.dst.take decoded.rv.toNat :: channel') channel'
              obtain ⟨x75, log, -, -, rfl⟩ := Process.run_eq sound'.wellFormed fits.2
              obtain ⟨ran, encoded⟩ := ih sound'' further arrived'
              refine ⟨?_, encoded⟩
              rw [steps, runOps_append, runOps_lose lost _ rfl, Option.bind_some, runOps]
              exact Option.bind_eq_some_iff.mpr ⟨_, delivered, ran⟩

/-- A sample buffer is a run of the link; what the encoder frees is on its way. -/
theorem samples_simulates (encodes : Hdlc.Encodes codec.osmoIsdnhdlcEncode) (sound : process.Sound)
    {inBuf : Bytes} {stack : Nat → X75Frame}
    (taken : processInput codec process (.samples inBuf stack) = some after) {peer : X75Cb}
    {toPeer channel rest : List Bytes}
    (arrived : carried channel (receivedIn codec process (.samples inBuf stack)) = some rest) :
    runOps linkStep ⟨process.x75, peer, toPeer ++ waiting process.hdlcTx, channel⟩
        (deliveries channel (receivedIn codec process (.samples inBuf stack))) =
      some ⟨after.x75, peer, toPeer ++ freed (after.encoded.drop process.encoded.length) ++
        waiting after.hdlcTx, rest⟩ := by
  obtain ⟨received, here, later⟩ := Option.bind_eq_some_iff.mp taken
  obtain ⟨⟨hdlcTx, calls⟩, filled, rfl⟩ := Option.map_eq_some_iff.mp later
  have sound' := sound.moves encodes (receiveFrames_moves here)
  have freedFirst := Hdlc.waiting_of_sent encodes sound'.ledger filled
  obtain ⟨ran, encoded⟩ := @receiveFrames_simulates _ _ _ received encodes stack peer toPeer rest
    _ _ _ _ sound here arrived
  dsimp only at ran ⊢
  rw [encoded, List.drop_left, List.append_assoc, ← freedFirst]
  exact ran

/-- An operation on the control block is a step of the link. -/
theorem run_simulates {op : Op} (ran : process.run op = some after)
    (wellFormed : process.x75.WellFormed) (peer : X75Cb) (toPeer ba rest : List Bytes) :
    runA ⟨process.x75, peer, toPeer ++ waiting process.hdlcTx, ba⟩ op rest =
      some ⟨after.x75, peer, toPeer ++ freed (after.encoded.drop process.encoded.length) ++
        waiting after.hdlcTx, rest⟩ := by
  rw [runA_of_run wellFormed ran]
  obtain ⟨_, _, -, -, rfl⟩ := Process.run_eq wellFormed ran
  simp [freed]

/-- A call-back that changes neither the control block nor what is sent is no step. -/
theorem idle_simulates (x75 : after.x75 = process.x75) (hdlcTx : after.hdlcTx = process.hdlcTx)
    (encoded : after.encoded = process.encoded) (peer : X75Cb) (toPeer channel : List Bytes) :
    runOps linkStep ⟨process.x75, peer, toPeer ++ waiting process.hdlcTx, channel⟩ [] =
      some ⟨after.x75, peer, toPeer ++ freed (after.encoded.drop process.encoded.length) ++
        waiting after.hdlcTx, channel⟩ := by
  rw [x75, hdlcTx, encoded]
  simp [runOps, freed]

/-- **Each call-back is a run of the link**, but for a request to disconnect. -/
theorem input_simulates (encodes : Hdlc.Encodes codec.osmoIsdnhdlcEncode) {system : System Enc Dec}
    {input : Input} (sound : system.process.Sound)
    (staying : ¬ (system.process.disconnectCloseTimer = true ∧
      (SystemOp.input input).closes = true))
    (taken : processInput codec system.process input = some after) {rest : List Bytes}
    (arrived : carried system.toProcess (receivedIn codec system.process input) = some rest) :
    runOps linkStep system.link (linkOps codec system (.input input)) =
      some ⟨after.x75, system.peer, system.toPeer ++
        freed (after.encoded.drop system.process.encoded.length) ++ waiting after.hdlcTx,
        rest⟩ := by
  have nothing : ∀ {channel rest : List Bytes},
      carried channel [] = some rest → rest = channel := by
    intro channel rest arrived
    cases channel <;> exact (Option.some.inj arrived).symm
  cases input with
  | samples inBuf stack => exact samples_simulates encodes sound taken arrived
  | callExecute rc ret =>
      obtain rfl := nothing arrived
      simp only [processInput, callInitialize] at taken
      split at taken <;> cases taken
      refine idle_simulates ?_ ?_ ?_ _ _ _ <;> dsimp only <;> split <;> rfl
  | telnetRx read =>
      obtain rfl := nothing arrived
      simp only [processInput, telnetRx] at taken
      rw [linkOps]
      split at taken
      case isFalse missing =>
          cases taken
          rw [if_neg fun reads => missing reads.1]
          exact idle_simulates rfl rfl rfl _ _ _
      case isTrue there =>
          split at taken
          case isTrue full =>
              cases taken
              rw [if_neg fun reads => by simp [full] at reads]
              exact idle_simulates rfl rfl rfl _ _ _
          case isFalse writes =>
              split at taken
              case isTrue ended =>
                  cases taken
                  rw [if_neg fun reads => reads.2.2 ended]
                  exact idle_simulates rfl rfl rfl _ _ _
              case isFalse some =>
                  rw [if_pos ⟨there, Bool.eq_true_of_not_eq_false writes, some⟩, runOps_singleton]
                  exact run_simulates taken sound.wellFormed _ _ _ _
  | t1Expiry =>
      obtain rfl := nothing arrived
      exact (runOps_singleton ..).trans (run_simulates taken sound.wellFormed _ _ _ _)
  | t2Expiry =>
      obtain rfl := nothing arrived
      exact (runOps_singleton ..).trans (run_simulates taken sound.wellFormed _ _ _ _)
  | disconnectClose =>
      obtain rfl := nothing arrived
      have unarmed : ¬ system.process.disconnectCloseTimer = true :=
        fun armed => staying ⟨armed, rfl⟩
      simp only [processInput, if_neg unarmed] at taken
      cases taken
      exact idle_simulates rfl rfl rfl _ _ _
  | forceExit =>
      obtain rfl := nothing arrived
      simp only [processInput] at taken
      split at taken <;> cases taken
      exact idle_simulates rfl rfl rfl _ _ _

/-- A step at an end leaves what stands behind the frames on their way to it. -/
theorem stepA_append {link next : X75Link} {op : EndOp} (taken : stepA link op = some next)
    (later : List Bytes) :
    stepA { link with ba := link.ba ++ later } op = some { next with ba := next.ba ++ later } ∧
      next.b = link.b := by
  have ran : ∀ {op : Op} {ba : List Bytes}, runA link op ba = some next →
      runA { link with ba := link.ba ++ later } op (ba ++ later) =
          some { next with ba := next.ba ++ later } ∧ next.b = link.b := by
    intro op ba runs
    obtain ⟨after, executed, rfl⟩ := Option.map_eq_some_iff.mp runs
    exact ⟨Option.map_eq_some_iff.mpr ⟨after, executed, rfl⟩, rfl⟩
  cases op with
  | dataRequest skb => exact ran taken
  | t1Expiry => exact ran taken
  | t2Expiry => exact ran taken
  | deliver stack =>
      simp only [stepA] at taken ⊢
      cases way : link.ba with
      | nil => simp [way] at taken
      | cons frame rest =>
          rw [way] at taken
          exact ran taken
  | lose =>
      simp only [stepA] at taken ⊢
      cases way : link.ba with
      | nil => simp [way] at taken
      | cons frame rest =>
          rw [way] at taken
          cases taken
          exact ⟨rfl, rfl⟩

/-- **Each step of the system is a run of the link**, but for a request to disconnect. -/
theorem system_simulates (encodes : Hdlc.Encodes codec.osmoIsdnhdlcEncode) :
    Simulates (systemStep codec)
      (fun system op => ¬ (system.process.disconnectCloseTimer = true ∧ op.closes = true))
      (fun system => system.process.Serves) System.link (linkOps codec) linkStep where
  kept {system next} op serves staying taken := by
    cases op with
    | input input =>
        obtain ⟨process, here, later⟩ := Option.bind_eq_some_iff.mp taken
        obtain ⟨_, -, rfl⟩ := Option.map_eq_some_iff.mp later
        exact (input_moves here).invariant (fun serves move => serves.move encodes move) serves
    | turn =>
        obtain ⟨process, turned, rfl⟩ := Option.map_eq_some_iff.mp taken
        have moves : Process.Moves codec system.process process := afterSelect_moves turned
        exact moves.invariant (fun serves move => serves.move encodes move) serves
    | peer op =>
        obtain ⟨link, -, rfl⟩ := Option.map_eq_some_iff.mp taken
        exact serves
  runs {system next} op serves staying taken := by
    cases op with
    | input input =>
        obtain ⟨process, here, later⟩ := Option.bind_eq_some_iff.mp taken
        obtain ⟨rest, arrived, rfl⟩ := Option.map_eq_some_iff.mp later
        exact input_simulates encodes serves.toSound staying here arrived
    | turn =>
        obtain ⟨process, turned, rfl⟩ := Option.map_eq_some_iff.mp taken
        unfold afterSelect at turned
        split at turned
        · cases turned
        · dsimp only at turned
          split at turned <;> cases turned <;> rfl
    | peer op =>
        obtain ⟨link, stepped, rfl⟩ := Option.map_eq_some_iff.mp taken
        obtain ⟨stepped', same⟩ := stepA_append stepped (waiting system.process.hdlcTx)
        rw [linkOps, runOps_singleton]
        refine Option.map_eq_some_iff.mpr ⟨_, stepped', ?_⟩
        rw [X75Link.swap, same]
        rfl

end Simulation

/-! ## Runs -/

section Runs

variable {Enc Dec : Type} {codec : Codec Enc Dec} {start system : System Enc Dec}

/-- A new connection: the telnet connection is there, nothing has been read or written, the
encoder is between two frames, and the link is new. -/
structure FreshSystem (system : System Enc Dec) : Prop where
  link : FreshLink system.link
  mode : system.process.x75.mode = yateStart.mode
  there : system.process.telnetOfd.isSome = true
  between : system.process.hdlcTx.hdlcTxBufLen = 0 ∧ system.process.hdlcTx.hdlcTxBufPos = 0
  encoded : system.process.encoded = []
  read : system.process.telnetRead = []
  written : system.process.telnetWritten = []

theorem FreshSystem.serves (fresh : FreshSystem system) : system.process.Serves := by
  have events : system.process.x75.events = [] := fresh.link.a.events
  have queue : system.process.hdlcTx.isdnHdlcTxQueue = [] :=
    (List.append_eq_nil_iff.mp (List.append_eq_nil_iff.mp fresh.link.ab).2).2
  refine ⟨⟨⟨?_, ?_, fresh.mode, ?_, ⟨?_, ?_, ?_, ?_⟩, ?_, ?_⟩, ?_⟩, fresh.there, ?_⟩
  · exact fresh.link.a.tracks.wellFormed fresh.link.a.window_pos
  · have vs : system.process.x75.vs = 0 := fresh.link.a.vs
    have va : system.process.x75.va = 0 := fresh.link.a.va
    rw [X75Cb.SendsInModulus, vs, va]
    exact ⟨modulus_pos _, modulus_pos _⟩
  · simp [events]
  · simp [events]
  · refine .inl ⟨fresh.between.1, fresh.between.2, ?_, ?_⟩
    · rw [events, fresh.encoded, queue]
      rfl
    · rw [fresh.encoded]
      rfl
  · intro before within
    rw [fresh.encoded] at within
    obtain rfl := List.prefix_nil.mp within
    rw [events]
    exact ⟨List.nil_prefix, rfl⟩
  · simp [fresh.encoded]
  · rw [fresh.written]
    exact List.nil_suffix
  · exact fun _ => fresh.written
  · rw [events, fresh.read]
    rfl
  · rw [fresh.written, events]
    rfl

end Runs

/-- The process and a DTE on a new connection, on an idle line. -/
def newSystem (window : Nat) : System Unit Unit where
  process := { Process.start () () with
    x75 := newEnd x75Dce window
    state := .x75connected
    telnetOfd := some true }
  peer := newEnd x75Dte window
  toPeer := []
  toProcess := []

theorem freshSystem_newSystem {window : Nat} (window_pos : 0 < window) (window_lt : window < 8) :
    FreshSystem (newSystem window) where
  link := freshLink_newLink window_pos window_lt
  mode := rfl
  there := rfl
  between := ⟨rfl, rfl⟩
  encoded := rfl
  read := rfl
  written := rfl

end IsdnRas.X75
