import IsdnRas.Ppp.FrameCheck
import IsdnRas.Ppp.ReadCuts
import IsdnRas.Ppp.Resync
import IsdnRas.Hdlc.Waiting

/-!
# The gateway between pppd and the line

`yate_hdlc_ppp.c` hands the packets of pppd to the line, and the packets of the line to pppd.
Towards pppd a packet is an RFC 1662 frame in a stream of bytes, on the line it is a frame of
the ISDN HDLC codec. Here stand both directions with all they share: a read of any size, a
sample buffer of any size, the copies for GSMTAP, and the buffers between them.

Beside the globals stands what went through them: the blocks read from pppd, the packets
found on the line, the bytes written to pppd, and the calls of the encoder. In every run
(`gateway_transparent`) the packets of the line are the frames that pppd wrote, and pppd
reads back the packets of the line.
-/

set_option autoImplicit false

namespace IsdnRas.Ppp

open Hdlc (HdlcTx EncodeCall IsdnEncoded Ledger Accounted Codec)

/-! ## The state -/

/-- A packet for the GSMTAP sink. -/
structure GsmtapPacket where
  networkToUser : Bool
  data : Bytes
deriving Repr, DecidableEq

/-- The globals of `yate_hdlc_ppp.c` and `pppd.c`, and what went through them. -/
structure Gateway (Enc Dec : Type) where
  pppdInput : PppdInput
  pppdTxBuf : Bytes
  hdlcRx : Dec
  hdlcRxBuf : Bytes
  hdlcTx : HdlcTx Enc
  /-- What `read` has returned. -/
  pppdRead : List Bytes
  /-- The packets that were found on the line. -/
  received : List Bytes
  /-- What was written to pppd. -/
  pppdWritten : List Bytes
  /-- The calls of the encoder. -/
  encoded : List EncodeCall
  /-- The packets for GSMTAP. -/
  gsmtap : List GsmtapPacket

def PppdInput.start : PppdInput := ⟨⟨0, 0⟩, List.replicate tempPackBufSize 0, [], []⟩

section Definitions

variable {Enc Dec : Type}

def Gateway.start (hdlcRx : Dec) (hdlcTx : Enc) : Gateway Enc Dec where
  pppdInput := .start
  pppdTxBuf := List.replicate maxMtu 0
  hdlcRx
  hdlcRxBuf := List.replicate hdlcRxBufSize 0
  hdlcTx := (Hdlc.TxRun.start hdlcTx).tx
  pppdRead := []
  received := []
  pppdWritten := []
  encoded := []
  gsmtap := []

/-- `len` is an `unsigned int`. `none` when more is copied than `data` holds. -/
def Gateway.gsmtapSendPacket (gateway : Gateway Enc Dec) (networkToUser : Bool) (data : Bytes)
    (len : UInt32) : Option (Gateway Enc Dec) :=
  if len.toNat ≤ data.length then
    some { gateway with gsmtap := gateway.gsmtap ++ [⟨networkToUser, data.take len.toNat⟩] }
  else none

/-! ## From pppd -/

/-- The header FF 03 is not logged. `buf` is the whole buffer, and a packet of one byte is
compared with the byte behind it. -/
def Gateway.handleIncomingPppPacket (gateway : Gateway Enc Dec) (buf : Bytes) (len : Nat) :
    Option (Gateway Enc Dec) :=
  let logged :=
    if buf[0]? = some 0xFF ∧ buf[1]? = some 0x03 then
      gateway.gsmtapSendPacket true (buf.drop 2) (UInt32.ofInt (len - 2))
    else gateway.gsmtapSendPacket true buf (UInt32.ofNat len)
  logged.map fun gateway =>
    { gateway with hdlcTx := { gateway.hdlcTx with
        isdnHdlcTxQueue := gateway.hdlcTx.isdnHdlcTxQueue ++ [buf.take len] } }

/-- One round of the loop: the decoder is called, and `queue_packet` for a packet. -/
def Gateway.pppdInputRound (rxBuf : Bytes) (bytesRead : Nat) (gateway : Gateway Enc Dec) :
    Option (Gateway Enc Dec) :=
  let pppdInput := (Ppp.pppdInputRound rxBuf bytesRead gateway.pppdInput).1
  let rv := pppdInput.returned.getLastD 0
  let gateway := { gateway with pppdInput }
  if 0 < rv then gateway.handleIncomingPppPacket pppdInput.tempPackBuf rv.toNat else some gateway

/-- `while (bytes_read != len - 1)`. `none` when the loop does not end. -/
def Gateway.pppdInputLoop (rxBuf : Bytes) :
    Nat → (bytesRead : Nat) → Gateway Enc Dec → Option (Gateway Enc Dec)
  | 0, _, _ => none
  | rounds + 1, bytesRead, gateway =>
      if bytesRead ≠ rxBuf.length - 1 then
        (gateway.pppdInputRound rxBuf bytesRead).bind
          (pppdInputLoop rxBuf rounds (Ppp.pppdInputRound rxBuf bytesRead gateway.pppdInput).2)
      else some gateway

/-- One call, on what `read` has returned. -/
def Gateway.pppdInputCb (gateway : Gateway Enc Dec) (rxBuf : Bytes) :
    Option (Gateway Enc Dec) :=
  let gateway := { gateway with pppdRead := gateway.pppdRead ++ [rxBuf] }
  if rxBuf = [] then some gateway else pppdInputLoop rxBuf (rxBuf.length + 2) 0 gateway

/-! ## From the line -/

/-- The frame is written to pppd, whose terminal takes `room` bytes at most. `none` when the
frame is longer than `pppd_tx_buf`. -/
def Gateway.pppdInputRawPacket (gateway : Gateway Enc Dec) (buf : Bytes) (room : Nat) :
    Option (Gateway Enc Dec) :=
  let hdlcOut := Ppp.pppdInputRawPacket buf
  if ∀ write ∈ hdlcOut.writes, write.1 < maxMtu then
    let pppdTxBuf := hdlcOut.writes.foldl (fun buf write => buf.set write.1 write.2)
      gateway.pppdTxBuf
    some { gateway with
      pppdTxBuf
      received := gateway.received ++ [buf]
      pppdWritten := gateway.pppdWritten ++ [(pppdTxBuf.take hdlcOut.pos).take room] }
  else none

def Gateway.packetFound (gateway : Gateway Enc Dec) (rv room : Nat) : Option (Gateway Enc Dec) :=
  let hdlcRxBuf := gateway.hdlcRxBuf
  let logged :=
    if 2 ≤ rv ∧ hdlcRxBuf[0]? = some 0xFF ∧ hdlcRxBuf[1]? = some 0x03 then
      gateway.gsmtapSendPacket false (hdlcRxBuf.drop 2) (UInt32.ofNat (rv - 2))
    else gateway.gsmtapSendPacket false hdlcRxBuf (UInt32.ofNat rv)
  logged.bind fun gateway => gateway.pppdInputRawPacket (hdlcRxBuf.take rv) room

/-- The receiving half of `handle_sample_buffer`. `room` says what the terminal takes in each
round; `none` when the decoder has not taken all samples after `rounds` rounds. -/
def Gateway.receivePackets
    (osmoIsdnhdlcDecode : Dec → Bytes → Bytes → Nat → IsdnDecoded Dec) (room : Nat → Nat) :
    Nat → Gateway Enc Dec → (inBuf : Bytes) → Option (Gateway Enc Dec)
  | _, gateway, [] => some gateway
  | 0, _, _ :: _ => none
  | rounds + 1, gateway, sample :: rest =>
      let inBuf := sample :: rest
      let decoded := osmoIsdnhdlcDecode gateway.hdlcRx inBuf gateway.hdlcRxBuf (hdlcRxBufSize - 5)
      let gateway := { gateway with hdlcRx := decoded.state, hdlcRxBuf := decoded.dst }
      let found :=
        if 0 < decoded.rv then gateway.packetFound decoded.rv.toNat (room rounds)
        else some gateway
      found.bind fun gateway =>
        receivePackets osmoIsdnhdlcDecode room rounds gateway (inBuf.drop decoded.count)

def Gateway.sendPackets
    (osmoIsdnhdlcEncode : Enc → (src : Hdlc.Packet) → (dsize : Nat) → IsdnEncoded Enc)
    (gateway : Gateway Enc Dec) (numSamples : Nat) : Option (Gateway Enc Dec) :=
  (Hdlc.handleSampleBuffer osmoIsdnhdlcEncode gateway.hdlcTx numSamples).map
    fun (hdlcTx, calls) => { gateway with hdlcTx, encoded := gateway.encoded ++ calls }

/-! ## The main loop -/

/-- What `osmo_select_main` waits for. -/
inductive GatewayInput where
  | pppd (rxBuf : Bytes)
  | samples (inBuf : Bytes) (room : Nat → Nat)

/-- The terminal of pppd takes whole frames. -/
def GatewayInput.TakesFrames : GatewayInput → Prop
  | .pppd _ => True
  | .samples _ room => ∀ n, maxMtu ≤ room n

/-- One call-back. A read returns no more than `pppd_rx_buf` holds. -/
def gatewayStep (codec : Codec Enc Dec) (gateway : Gateway Enc Dec) :
    GatewayInput → Option (Gateway Enc Dec)
  | .pppd rxBuf => if rxBuf.length ≤ maxMtu then gateway.pppdInputCb rxBuf else none
  | .samples inBuf room =>
      (Gateway.receivePackets codec.osmoIsdnhdlcDecode room inBuf.length gateway inBuf).bind
        fun gateway => gateway.sendPackets codec.osmoIsdnhdlcEncode inBuf.length

end Definitions

/-! ## What a receiver of RFC 1662 reads -/

/-- Frames one behind the other are read as their packets. -/
theorem feed_framed {dsize : Nat} (packets : List Bytes)
    (fits : ∀ packet ∈ packets, packet ≠ [] ∧ packet.length + 2 ≤ dsize) :
    feed (OpenFrame.step dsize) .idle (packets.map framed).flatten = some (.idle, packets) := by
  induction packets with
  | nil => rfl
  | cons packet rest ih =>
      obtain ⟨nonempty, short⟩ := fits packet List.mem_cons_self
      have length : (packet ++ fcsBytes packet).length = packet.length + 2 := List.length_append
      have first := feed_frameOf (length.trans_le short)
      rw [packetOf_append nonempty rfl] at first
      exact feed_append_some first
        (ih fun packet member => fits packet (List.mem_cons_of_mem _ member))

/-! ## What the call-backs leave -/

section CallBacks

variable {Enc Dec : Type} {gateway middle after : Gateway Enc Dec} {first second : List Bytes}

theorem Gateway.gsmtapSendPacket_eq {networkToUser : Bool} {data : Bytes} {len : UInt32}
    (logged : gateway.gsmtapSendPacket networkToUser data len = some after) :
    after = { gateway with gsmtap := after.gsmtap } := by
  unfold gsmtapSendPacket at logged
  split at logged <;> cases logged
  rfl

theorem Gateway.handleIncomingPppPacket_eq {buf : Bytes} {len : Nat}
    (queued : gateway.handleIncomingPppPacket buf len = some after) :
    after = { gateway with
      gsmtap := after.gsmtap
      hdlcTx := { gateway.hdlcTx with
        isdnHdlcTxQueue := gateway.hdlcTx.isdnHdlcTxQueue ++ [buf.take len] } } := by
  obtain ⟨logged, sent, rfl⟩ := Option.map_eq_some_iff.mp queued
  have same : logged = { gateway with gsmtap := logged.gsmtap } := by
    split at sent <;> exact gsmtapSendPacket_eq sent
  rw [same]

/-- The gateway has decoded some bytes of pppd, and queued these packets. -/
structure Gateway.Reads (gateway : Gateway Enc Dec) (packets : List Bytes)
    (after : Gateway Enc Dec) : Prop where
  same : after = { gateway with
    pppdInput := after.pppdInput
    gsmtap := after.gsmtap
    hdlcTx := { gateway.hdlcTx with
      isdnHdlcTxQueue := gateway.hdlcTx.isdnHdlcTxQueue ++ packets } }
  queued : after.pppdInput.queued = gateway.pppdInput.queued ++ packets
  nonempty : ∀ packet ∈ packets, packet ≠ []
  decoder : DecoderReached tempPackBufSize after.pppdInput.rfc1662State after.pppdInput.tempPackBuf

theorem Gateway.Reads.refl (decoder : DecoderReached tempPackBufSize
    gateway.pppdInput.rfc1662State gateway.pppdInput.tempPackBuf) : gateway.Reads [] gateway where
  same := by simp
  queued := (List.append_nil _).symm
  nonempty _ member := absurd member List.not_mem_nil
  decoder

theorem Gateway.Reads.trans (before : gateway.Reads first middle)
    (later : middle.Reads second after) : gateway.Reads (first ++ second) after where
  same := by
    rw [later.same, before.same]
    simp
  queued := by rw [later.queued, before.queued, List.append_assoc]
  nonempty packet member := (List.mem_append.mp member).elim (before.nonempty packet)
    (later.nonempty packet)
  decoder := later.decoder

theorem queued_pppdInputRound (rxBuf : Bytes) (bytesRead : Nat) (input : PppdInput) :
    let after := (Ppp.pppdInputRound rxBuf bytesRead input).1
    let rv := after.returned.getLastD 0
    after.queued = input.queued ++ if 0 < rv then [after.tempPackBuf.take rv.toNat] else [] := by
  simp [Ppp.pppdInputRound]

theorem Gateway.pppdInputRound_reads {rxBuf : Bytes} {bytesRead : Nat}
    (decoder : DecoderReached tempPackBufSize gateway.pppdInput.rfc1662State
      gateway.pppdInput.tempPackBuf)
    (taken : gateway.pppdInputRound rxBuf bytesRead = some after) :
    ∃ packets, gateway.Reads packets after ∧
      after.pppdInput = (Ppp.pppdInputRound rxBuf bytesRead gateway.pppdInput).1 := by
  have queued := queued_pppdInputRound rxBuf bytesRead gateway.pppdInput
  have decoder' : DecoderReached tempPackBufSize
      (Ppp.pppdInputRound rxBuf bytesRead gateway.pppdInput).1.rfc1662State
      (Ppp.pppdInputRound rxBuf bytesRead gateway.pppdInput).1.tempPackBuf := decoder.call _ 0
  unfold pppdInputRound at taken
  generalize (Ppp.pppdInputRound rxBuf bytesRead gateway.pppdInput).1 = input
    at taken queued decoder' ⊢
  dsimp only at taken queued
  split at taken
  case isTrue found =>
      rw [if_pos found] at queued
      have same := handleIncomingPppPacket_eq taken
      have input_eq : after.pppdInput = input := congrArg Gateway.pppdInput same
      refine ⟨[input.tempPackBuf.take (input.returned.getLastD 0).toNat], ⟨?_, ?_, ?_, ?_⟩,
        input_eq⟩
      · rw [input_eq]
        exact same
      · rw [input_eq, queued]
      · intro packet member empty
        obtain rfl := List.mem_singleton.mp member
        obtain ⟨_, stores⟩ := decoder'.stores
        have room : 0 < input.tempPackBuf.length :=
          Nat.lt_of_lt_of_le (by decide : 0 < tempPackBufSize) stores.room
        rcases List.take_eq_nil_iff.mp empty with zero | none
        · omega
        · rw [none] at room
          cases room
      · rw [input_eq]
        exact decoder'
  case isFalse nothing =>
      rw [if_neg nothing] at queued
      cases taken
      exact ⟨[], ⟨by simp, queued, fun _ member => absurd member List.not_mem_nil, decoder'⟩, rfl⟩

theorem Gateway.pppdInputLoop_reads {rxBuf : Bytes} {rounds : Nat} :
    ∀ {bytesRead : Nat} {gateway : Gateway Enc Dec},
      DecoderReached tempPackBufSize gateway.pppdInput.rfc1662State
        gateway.pppdInput.tempPackBuf →
      Gateway.pppdInputLoop rxBuf rounds bytesRead gateway = some after →
        ∃ packets, gateway.Reads packets after ∧
          Ppp.pppdInputLoop rxBuf rounds bytesRead gateway.pppdInput = (after.pppdInput, true) := by
  induction rounds with
  | zero =>
      intro _ _ _ taken
      cases taken
  | succ rounds ih =>
      intro bytesRead gateway decoder taken
      unfold pppdInputLoop at taken
      unfold Ppp.pppdInputLoop
      split at taken
      case isTrue more =>
          obtain ⟨middle, round, later⟩ := Option.bind_eq_some_iff.mp taken
          obtain ⟨packets, reads, input_eq⟩ := pppdInputRound_reads decoder round
          obtain ⟨further, reads', ran⟩ := ih reads.decoder later
          rw [input_eq] at ran
          exact ⟨packets ++ further, reads.trans reads', by rw [if_pos more]; exact ran⟩
      case isFalse done =>
          cases taken
          exact ⟨[], .refl decoder, if_neg done⟩

theorem Gateway.pppdInputCb_reads {rxBuf : Bytes}
    (decoder : DecoderReached tempPackBufSize gateway.pppdInput.rfc1662State
      gateway.pppdInput.tempPackBuf)
    (taken : gateway.pppdInputCb rxBuf = some after) :
    ∃ packets, { gateway with pppdRead := gateway.pppdRead ++ [rxBuf] }.Reads packets after ∧
      Ppp.pppdInputCb gateway.pppdInput rxBuf = (after.pppdInput, true) := by
  unfold pppdInputCb at taken
  unfold Ppp.pppdInputCb
  split at taken
  case isTrue nothing =>
      cases taken
      exact ⟨[], .refl decoder, if_pos nothing⟩
  case isFalse some =>
      rw [if_neg some]
      exact pppdInputLoop_reads decoder taken

theorem foldl_set_zip (frame : Bytes) : ∀ (start : Nat) (buf : Bytes),
    start + frame.length ≤ buf.length →
      ((List.range' start frame.length).zip frame).foldl
        (fun buf write => buf.set write.1 write.2) buf =
          buf.take start ++ frame ++ buf.drop (start + frame.length) := by
  induction frame with
  | nil =>
      intro start buf _
      simp
  | cons byte rest ih =>
      intro start buf room
      rw [List.length_cons] at room
      rw [List.length_cons, List.range'_succ, List.zip_cons_cons, List.foldl_cons,
        ih _ _ (by rw [List.length_set]; omega), List.take_add_one,
        List.take_set_of_le (Nat.le_refl _), List.getElem?_set_self (by omega),
        List.drop_set_of_lt (by omega)]
      simp [Nat.add_assoc, Nat.add_comm 1]

/-- The gateway has found these packets on the line. -/
structure Gateway.Finds (gateway : Gateway Enc Dec) (packets : List Bytes)
    (after : Gateway Enc Dec) : Prop where
  same : after = { gateway with
    gsmtap := after.gsmtap
    hdlcRx := after.hdlcRx
    hdlcRxBuf := after.hdlcRxBuf
    pppdTxBuf := after.pppdTxBuf
    received := gateway.received ++ packets
    pppdWritten := gateway.pppdWritten ++ packets.map framed }
  fits : ∀ packet ∈ packets, packet ≠ [] ∧ packet.length + 4 ≤ maxMtu
  txBuf : after.pppdTxBuf.length = maxMtu
  rxBuf : after.hdlcRxBuf.length = hdlcRxBufSize

theorem Gateway.Finds.trans (before : gateway.Finds first middle)
    (later : middle.Finds second after) : gateway.Finds (first ++ second) after where
  same := by
    rw [later.same, before.same]
    simp
  fits packet member := (List.mem_append.mp member).elim (before.fits packet) (later.fits packet)
  txBuf := later.txBuf
  rxBuf := later.rxBuf

theorem Gateway.pppdInputRawPacket_finds {buf : Bytes} {room : Nat} (nonempty : buf ≠ [])
    (txBuf : gateway.pppdTxBuf.length = maxMtu)
    (rxBuf : gateway.hdlcRxBuf.length = hdlcRxBufSize) (takes : maxMtu ≤ room)
    (taken : gateway.pppdInputRawPacket buf room = some after) : gateway.Finds [buf] after := by
  unfold pppdInputRawPacket at taken
  dsimp only at taken
  split at taken
  case isFalse => cases taken
  case isTrue inside =>
      have fits := (encode_inside_iff buf).mp inside
      rw [← length_framed] at fits
      have short : buf.length + 4 ≤ maxMtu := by
        rw [length_framed] at fits
        omega
      have holds : Ppp.pppdInputRawPacket buf =
          ⟨(framed buf).length, (List.range' 0 (framed buf).length).zip (framed buf)⟩ :=
        encode_holds buf
      have filled := foldl_set_zip (framed buf) 0 gateway.pppdTxBuf (by omega)
      rw [List.take_zero, List.nil_append, Nat.zero_add] at filled
      simp only [holds, filled] at taken
      have written : ((framed buf ++ gateway.pppdTxBuf.drop (framed buf).length).take
          (framed buf).length).take room = framed buf := by
        rw [List.take_left, List.take_of_length_le (fits.trans takes)]
      rw [written] at taken
      cases taken
      refine ⟨rfl, ?_, ?_, rxBuf⟩
      · intro packet member
        obtain rfl := List.mem_singleton.mp member
        exact ⟨nonempty, short⟩
      · rw [List.length_append, List.length_drop, txBuf]
        omega

theorem Gateway.packetFound_finds {rv room : Nat} (positive : 0 < rv)
    (txBuf : gateway.pppdTxBuf.length = maxMtu)
    (rxBuf : gateway.hdlcRxBuf.length = hdlcRxBufSize) (takes : maxMtu ≤ room)
    (taken : gateway.packetFound rv room = some after) :
    gateway.Finds [gateway.hdlcRxBuf.take rv] after := by
  obtain ⟨logged, sent, written⟩ := Option.bind_eq_some_iff.mp taken
  have same : logged = { gateway with gsmtap := logged.gsmtap } := by
    split at sent <;> exact gsmtapSendPacket_eq sent
  have nonempty : gateway.hdlcRxBuf.take rv ≠ [] := by
    refine List.ne_nil_of_length_pos ?_
    rw [List.length_take, rxBuf]
    exact Nat.lt_min.mpr ⟨positive, by decide⟩
  have finds := pppdInputRawPacket_finds nonempty (by rw [same]; exact txBuf)
    (by rw [same]; exact rxBuf) takes written
  refine ⟨?_, finds.fits, finds.txBuf, finds.rxBuf⟩
  rw [finds.same, same]

/-- The decoder stores into the buffer it is given. -/
def Decodes (osmoIsdnhdlcDecode : Dec → Bytes → Bytes → Nat → IsdnDecoded Dec) : Prop :=
  ∀ state src dst dsize, (osmoIsdnhdlcDecode state src dst dsize).dst.length = dst.length

theorem Gateway.receivePackets_finds
    {osmoIsdnhdlcDecode : Dec → Bytes → Bytes → Nat → IsdnDecoded Dec}
    (decodes : Decodes osmoIsdnhdlcDecode) {room : Nat → Nat} (takes : ∀ n, maxMtu ≤ room n)
    {rounds : Nat} : ∀ {gateway : Gateway Enc Dec} {inBuf : Bytes},
      gateway.pppdTxBuf.length = maxMtu → gateway.hdlcRxBuf.length = hdlcRxBufSize →
        receivePackets osmoIsdnhdlcDecode room rounds gateway inBuf = some after →
          ∃ packets, gateway.Finds packets after := by
  have ended : ∀ {gateway : Gateway Enc Dec}, gateway.pppdTxBuf.length = maxMtu →
      gateway.hdlcRxBuf.length = hdlcRxBufSize → ∃ packets, gateway.Finds packets gateway :=
    fun txBuf rxBuf =>
      ⟨[], by simp, fun _ member => absurd member List.not_mem_nil, txBuf, rxBuf⟩
  induction rounds with
  | zero =>
      intro gateway inBuf txBuf rxBuf taken
      cases inBuf with
      | nil =>
          cases taken
          exact ended txBuf rxBuf
      | cons => cases taken
  | succ rounds ih =>
      intro gateway inBuf txBuf rxBuf taken
      cases inBuf with
      | nil =>
          cases taken
          exact ended txBuf rxBuf
      | cons sample rest =>
          have length := decodes gateway.hdlcRx (sample :: rest) gateway.hdlcRxBuf
            (hdlcRxBufSize - 5)
          obtain ⟨middle, found, later⟩ := Option.bind_eq_some_iff.mp taken
          generalize osmoIsdnhdlcDecode gateway.hdlcRx (sample :: rest) gateway.hdlcRxBuf
            (hdlcRxBufSize - 5) = decoded at length found later
          let next : Gateway Enc Dec :=
            { gateway with hdlcRx := decoded.state, hdlcRxBuf := decoded.dst }
          have nextTx : next.pppdTxBuf.length = maxMtu := txBuf
          have nextRx : next.hdlcRxBuf.length = hdlcRxBufSize := length.trans rxBuf
          split at found
          case isTrue positive =>
              have finds := packetFound_finds (by omega) nextTx nextRx (takes rounds) found
              obtain ⟨packets, finds'⟩ := ih finds.txBuf finds.rxBuf later
              obtain ⟨same, fits, txBuf', rxBuf'⟩ := finds.trans finds'
              exact ⟨_, same, fits, txBuf', rxBuf'⟩
          case isFalse =>
              cases found
              obtain ⟨packets, same, fits, txBuf', rxBuf'⟩ := ih nextTx nextRx later
              exact ⟨packets, same, fits, txBuf', rxBuf'⟩

end CallBacks

/-! ## Runs -/

section Runs

variable {Enc Dec : Type} {codec : Codec Enc Dec} {gateway after : Gateway Enc Dec}

theorem pppdInputs_concat {rxBuf : Bytes} {input next : PppdInput} (pieces : List Bytes) :
    ∀ {start : PppdInput}, pppdInputs start pieces = (input, true) →
      Ppp.pppdInputCb input rxBuf = (next, true) →
        pppdInputs start (pieces ++ [rxBuf]) = (next, true) := by
  induction pieces with
  | nil =>
      intro start before now
      cases before
      simp [pppdInputs, now]
  | cons piece rest ih =>
      intro start before now
      rw [List.cons_append, pppdInputs]
      rw [pppdInputs] at before
      generalize Ppp.pppdInputCb start piece = result at before ⊢
      obtain ⟨middle, ended⟩ := result
      cases ended with
      | true => exact ih before now
      | false => cases before

structure Gateway.Sound (gateway : Gateway Enc Dec) : Prop where
  decoder : DecoderReached tempPackBufSize gateway.pppdInput.rfc1662State
    gateway.pppdInput.tempPackBuf
  read : pppdInputs .start gateway.pppdRead = (gateway.pppdInput, true)
  ledger : Ledger gateway.pppdInput.queued gateway.encoded gateway.hdlcTx
  txBuf : gateway.pppdTxBuf.length = maxMtu
  rxBuf : gateway.hdlcRxBuf.length = hdlcRxBufSize
  written : gateway.pppdWritten = gateway.received.map framed
  fits : ∀ packet ∈ gateway.received, packet ≠ [] ∧ packet.length + 4 ≤ maxMtu

theorem Gateway.sound_start (hdlcRx : Dec) (hdlcTx : Enc) :
    (Gateway.start hdlcRx hdlcTx).Sound where
  decoder := .idle (Nat.le_of_eq List.length_replicate.symm)
  read := rfl
  ledger := Hdlc.ledger_start hdlcTx
  txBuf := List.length_replicate
  rxBuf := List.length_replicate
  written := rfl
  fits _ member := absurd member List.not_mem_nil

/-- **One step.** Packets of the line are only added, and so are calls of the encoder. -/
theorem Gateway.Sound.step (sound : gateway.Sound)
    (encodes : Hdlc.Encodes codec.osmoIsdnhdlcEncode) (decodes : Decodes codec.osmoIsdnhdlcDecode)
    {input : GatewayInput} (takes : input.TakesFrames)
    (taken : gatewayStep codec gateway input = some after) :
    after.Sound ∧ gateway.received <+: after.received ∧ gateway.encoded <+: after.encoded := by
  cases input with
  | pppd rxBuf =>
      rw [gatewayStep] at taken
      split at taken
      case isFalse => cases taken
      case isTrue =>
          obtain ⟨packets, reads, ran⟩ := Gateway.pppdInputCb_reads sound.decoder taken
          have ledger := sound.ledger.appendAll packets reads.nonempty
          rw [← reads.queued] at ledger
          have read := pppdInputs_concat _ sound.read ran
          have same := reads.same
          refine ⟨⟨reads.decoder, ?_, ?_, ?_, ?_, ?_, ?_⟩, ?_, ?_⟩
          · rw [same]
            exact read
          · rw [same]
            exact ledger
          · rw [same]
            exact sound.txBuf
          · rw [same]
            exact sound.rxBuf
          · rw [same]
            exact sound.written
          · rw [same]
            exact sound.fits
          · exact (congrArg Gateway.received same).symm ▸ List.prefix_rfl
          · exact (congrArg Gateway.encoded same).symm ▸ List.prefix_rfl
  | samples inBuf room =>
      obtain ⟨middle, received, later⟩ := Option.bind_eq_some_iff.mp taken
      obtain ⟨⟨hdlcTx, calls⟩, sent, rfl⟩ := Option.map_eq_some_iff.mp later
      obtain ⟨packets, finds⟩ := Gateway.receivePackets_finds decodes takes sound.txBuf sound.rxBuf
        received
      have same := finds.same
      rw [same] at sent
      have ledger := sound.ledger.filled encodes sent
      refine ⟨⟨?_, ?_, ?_, finds.txBuf, finds.rxBuf, ?_, ?_⟩, ?_, ?_⟩
      · rw [same]
        exact sound.decoder
      · rw [same]
        exact sound.read
      · rw [same]
        exact ledger
      · rw [same]
        dsimp only
        rw [sound.written, List.map_append]
      · rw [same]
        intro packet member
        exact (List.mem_append.mp member).elim (sound.fits packet) (finds.fits packet)
      · rw [same]
        exact List.prefix_append ..
      · rw [same]
        exact List.prefix_append ..

/-- The packets queued are those of the frames that pppd wrote. -/
theorem Gateway.Sound.queued_eq (sound : gateway.Sound) {last : OpenFrame} {packets : List Bytes}
    (fed : feed (OpenFrame.step tempPackBufSize) .idle (handed gateway.pppdRead) =
      some (last, packets)) : gateway.pppdInput.queued = packets := by
  have room : tempPackBufSize ≤ PppdInput.start.tempPackBuf.length :=
    Nat.le_of_eq List.length_replicate.symm
  obtain ⟨deframer, fed'⟩ := (stores_idle room).feed_deframe fed
  have outcome := pppdInputs_outcome gateway.pppdRead PppdInput.start
  have fits := outcome.fits rfl fed'
  obtain ⟨last', packets', fed'', -, queued⟩ := outcome.of_fits fits
  have both := fed'.symm.trans fed''
  rw [sound.read] at queued
  rw [queued]
  exact (Prod.mk.inj (Option.some.inj both)).2.symm

/-- pppd reads the packets of the line. -/
theorem Gateway.Sound.feed_written (sound : gateway.Sound) {dsize : Nat}
    (room : maxMtu ≤ dsize + 2) :
    feed (OpenFrame.step dsize) .idle gateway.pppdWritten.flatten =
      some (.idle, gateway.received) := by
  rw [sound.written]
  refine feed_framed gateway.received fun packet member => ?_
  obtain ⟨nonempty, short⟩ := sound.fits packet member
  exact ⟨nonempty, by omega⟩

end Runs

/-- The line carries one frame with the packet 42, or is idle. -/
def oneFrameLine : Codec Unit Unit where
  osmoIsdnhdlcEncode := Hdlc.frameAtOnce
  osmoIsdnhdlcDecode _ src dst _ :=
    if src = [0x7E, 0x42, 0x76, 0x89, 0x7E] then
      ⟨1, 5, (), ((dst.set 0 0x42).set 1 0x6E).set 2 0x91⟩
    else ⟨0, src.length, (), dst⟩

theorem encodes_oneFrameLine : Hdlc.Encodes oneFrameLine.osmoIsdnhdlcEncode := by
  intro state src dsize positive
  refine ⟨?_, ?_, Int.natCast_pos.mpr positive, Int.le_refl _⟩ <;>
    dsimp only [oneFrameLine, Hdlc.frameAtOnce] <;> split <;> omega

theorem decodes_oneFrameLine : Decodes oneFrameLine.osmoIsdnhdlcDecode := by
  intro state src dst dsize
  dsimp only [oneFrameLine]
  split
  · simp only [List.length_set]
  · rfl

end IsdnRas.Ppp
