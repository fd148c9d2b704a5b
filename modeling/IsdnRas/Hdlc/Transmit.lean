import IsdnRas.Library.Runs
import Mathlib.Data.List.Induction

/-!
# Sending packets to the line

`handle_sample_buffer` ends with a loop that fills a sample buffer, in the same words in
`yate_x75.c` and in `yate_hdlc_ppp.c`. It takes packets from `isdn_hdlc_tx_queue` and offers
the encoder what is left of the current one; the message, its length and the position in it
are globals and go over to the next buffer.

Beside the state stands what the loop does: for every call of the encoder the bytes that
were offered, how many of them were taken, which part of the buffer was filled, and the
message that was freed behind it. The encoder is a function of libosmocore. As long as it
fills some of the space and takes no more than it is offered, the packets go to the line
byte by byte and in their order (`packets_sent_in_order`).
-/

set_option autoImplicit false

namespace IsdnRas.Hdlc

/-- The bytes of a message. -/
abbrev Packet := List UInt8

/-! ## The loop -/

/-- What a call of `osmo_isdnhdlc_encode` leaves. -/
structure IsdnEncoded (State : Type) where
  rv : Int
  count : Int
  state : State

/-- The globals of the sending half, with the message queue. -/
structure HdlcTx (State : Type) where
  hdlcTx : State
  hdlcTxMsgb : Option Packet
  hdlcTxBuf : Packet
  hdlcTxBufPos : Int
  hdlcTxBufLen : Nat
  isdnHdlcTxQueue : List Packet

/-- A call of the encoder, and what the loop does behind it. -/
structure EncodeCall where
  offered : Packet
  count : Int
  samplesProcessed : Nat
  rv : Int
  freed : Option Packet

section Loop

variable {State : Type}
  (osmoIsdnhdlcEncode : State → (src : Packet) → (dsize : Nat) → IsdnEncoded State)

/-- Is there still a packet being transmitted? Else get a new one from the queue. -/
def HdlcTx.nextPacket (tx : HdlcTx State) : HdlcTx State :=
  if tx.hdlcTxBufLen ≠ 0 then tx
  else
    match tx.isdnHdlcTxQueue with
    | [] => { tx with hdlcTxMsgb := none }
    | msg :: queue =>
        { tx with
          hdlcTxMsgb := some msg
          hdlcTxBuf := msg
          hdlcTxBufLen := msg.length
          hdlcTxBufPos := 0
          isdnHdlcTxQueue := queue }

/-- What is left of the current packet. -/
def HdlcTx.rest (tx : HdlcTx State) : Packet :=
  (tx.hdlcTxBuf.drop tx.hdlcTxBufPos.toNat).take (tx.hdlcTxBufLen - tx.hdlcTxBufPos).toNat

/-- Count what the encoder has taken, and free a message at its end. -/
def HdlcTx.advance (tx : HdlcTx State) (count : Int) : HdlcTx State × Option Packet :=
  if tx.hdlcTxBufLen = 0 then (tx, none)
  else
    let tx := { tx with hdlcTxBufPos := tx.hdlcTxBufPos + count }
    if tx.hdlcTxBufPos = tx.hdlcTxBufLen then
      ({ tx with hdlcTxBufLen := 0, hdlcTxBufPos := 0 }, tx.hdlcTxMsgb)
    else (tx, none)

/-- One round of the loop. -/
def sendRound (tx : HdlcTx State) (samplesProcessed space : Nat) : HdlcTx State × EncodeCall :=
  let tx := tx.nextPacket
  let encoded := osmoIsdnhdlcEncode tx.hdlcTx tx.rest space
  let (after, freed) := if 0 < encoded.rv then tx.advance encoded.count else (tx, none)
  ({ after with hdlcTx := encoded.state },
    { offered := tx.rest, count := encoded.count, samplesProcessed, rv := encoded.rv, freed })

/-- The loop, for at most `rounds` rounds. `none` when the buffer is not full then. -/
def sendPackets (numSamples : Int) : Nat → HdlcTx State → (samplesProcessed : Nat) →
    Option (HdlcTx State × List EncodeCall)
  | 0, tx, samplesProcessed => if samplesProcessed < numSamples then none else some (tx, [])
  | rounds + 1, tx, samplesProcessed =>
      if samplesProcessed < numSamples then
        let (tx, call) := sendRound osmoIsdnhdlcEncode tx samplesProcessed
          (numSamples - samplesProcessed).toNat
        (sendPackets numSamples rounds tx (samplesProcessed + call.rv.toNat)).map
          fun (tx, calls) => (tx, call :: calls)
      else some (tx, [])

/-- The sending half of `handle_sample_buffer`. -/
def handleSampleBuffer (tx : HdlcTx State) (numSamples : Int) :
    Option (HdlcTx State × List EncodeCall) :=
  sendPackets osmoIsdnhdlcEncode numSamples numSamples.toNat tx 0

end Loop

/-! ## What is sent -/

/-- The indices of the sample buffer that a call fills. -/
def EncodeCall.filled (call : EncodeCall) : List Nat :=
  List.range' call.samplesProcessed call.rv.toNat

/-- The bytes that the encoder has taken. -/
def consumed (calls : List EncodeCall) : List UInt8 :=
  calls.flatMap fun call => call.offered.take call.count.toNat

/-- The messages that were freed. -/
def freed (calls : List EncodeCall) : List Packet := calls.filterMap (·.freed)

/-- The packets whose last byte is among the first `count` bytes. -/
def packetsWithin : List Packet → (count : Nat) → List Packet
  | [], _ => []
  | packet :: rest, count =>
      if packet.length ≤ count then packet :: packetsWithin rest (count - packet.length) else []

/-- The bytes taken are those of the packets, in order, and the messages freed are those
whose last byte was taken. -/
def Accounted (packets : List Packet) (calls : List EncodeCall) : Prop :=
  consumed calls <+: packets.flatten ∧
    freed calls = packetsWithin packets (consumed calls).length

/-- The bytes offered are the end of one packet. -/
def OfOnePacket (packets : List Packet) (call : EncodeCall) : Prop :=
  call.offered = [] ∨ ∃ packet ∈ packets, call.offered <:+ packet

theorem consumed_append (calls : List EncodeCall) (call : EncodeCall) :
    consumed (calls ++ [call]) = consumed calls ++ call.offered.take call.count.toNat := by
  simp [consumed]

theorem freed_append (calls : List EncodeCall) (call : EncodeCall) :
    freed (calls ++ [call]) = freed calls ++ call.freed.toList := by
  cases found : call.freed <;> simp [freed, found]

/-- The packets in front of a position are those that end before it. -/
theorem packetsWithin_append (before rest : List Packet) (count : Nat) :
    packetsWithin (before ++ rest) (before.flatten.length + count) =
      before ++ packetsWithin rest count := by
  induction before with
  | nil => rw [List.flatten_nil, List.length_nil, Nat.zero_add]; rfl
  | cons packet before ih =>
      have fits : packet.length ≤ (packet :: before).flatten.length + count := by
        simp only [List.flatten_cons, List.length_append]
        omega
      have less : (packet :: before).flatten.length + count - packet.length =
          before.flatten.length + count := by
        simp only [List.flatten_cons, List.length_append]
        omega
      rw [List.cons_append, packetsWithin, if_pos fits, less, ih, List.cons_append]

/-- Nothing ends within the first bytes of a packet. -/
theorem packetsWithin_of_lt {packet : Packet} {count : Nat} (short : count < packet.length)
    (rest : List Packet) : packetsWithin (packet :: rest) count = [] :=
  if_neg (Nat.not_le.mpr short)

theorem packetsWithin_zero {packets : List Packet} (nonempty : ∀ packet ∈ packets, packet ≠ []) :
    packetsWithin packets 0 = [] := by
  cases packets with
  | nil => rfl
  | cons packet rest =>
      exact packetsWithin_of_lt (List.length_pos_iff.mpr (nonempty packet List.mem_cons_self)) rest

/-- A further packet does not end within the bytes of the others. -/
theorem packetsWithin_further {packet : Packet} (nonempty : packet ≠ []) (packets : List Packet) :
    ∀ {count : Nat}, count ≤ packets.flatten.length →
      packetsWithin (packets ++ [packet]) count = packetsWithin packets count := by
  induction packets with
  | nil =>
      intro count bound
      obtain rfl : count = 0 := Nat.le_zero.mp bound
      exact packetsWithin_of_lt (List.length_pos_iff.mpr nonempty) []
  | cons first rest ih =>
      intro count bound
      rw [List.flatten_cons, List.length_append] at bound
      rw [List.cons_append, packetsWithin, packetsWithin]
      split
      · rw [ih (by omega)]
      · rfl

theorem Accounted.further {packets : List Packet} {calls : List EncodeCall}
    (accounted : Accounted packets calls) {packet : Packet} (nonempty : packet ≠ []) :
    Accounted (packets ++ [packet]) calls := by
  obtain ⟨inOrder, ended⟩ := accounted
  refine ⟨?_, ?_⟩
  · rw [List.flatten_append]
    exact inOrder.trans (List.prefix_append _ _)
  · rw [packetsWithin_further nonempty packets inOrder.length_le]
    exact ended

/-! ## The state and what was sent -/

section Invariant

variable {State : Type} {packets : List Packet} {calls : List EncodeCall} {tx : HdlcTx State}

/-- No packet is being sent. -/
structure Between (packets : List Packet) (calls : List EncodeCall) (tx : HdlcTx State) :
    Prop where
  len : tx.hdlcTxBufLen = 0
  pos : tx.hdlcTxBufPos = 0
  packets : packets = freed calls ++ tx.isdnHdlcTxQueue
  consumed : consumed calls = (freed calls).flatten

/-- A message is being sent, and some of its bytes have been taken. -/
structure Inside (packets : List Packet) (calls : List EncodeCall) (tx : HdlcTx State)
    (msg : Packet) (taken : Nat) : Prop where
  msgb : tx.hdlcTxMsgb = some msg
  buf : tx.hdlcTxBuf = msg
  len : tx.hdlcTxBufLen = msg.length
  pos : tx.hdlcTxBufPos = taken
  unfinished : taken < msg.length
  packets : packets = freed calls ++ msg :: tx.isdnHdlcTxQueue
  consumed : consumed calls = (freed calls).flatten ++ msg.take taken

def Sending (packets : List Packet) (calls : List EncodeCall) (tx : HdlcTx State) : Prop :=
  Between packets calls tx ∨ ∃ msg taken, Inside packets calls tx msg taken

theorem Between.accounted (between : Between packets calls tx)
    (nonempty : ∀ packet ∈ packets, packet ≠ []) : Accounted packets calls := by
  have queued : ∀ packet ∈ tx.isdnHdlcTxQueue, packet ≠ [] := fun packet member =>
    nonempty packet (between.packets ▸ List.mem_append_right _ member)
  rw [Accounted, between.consumed, between.packets, List.flatten_append]
  refine ⟨List.prefix_append _ _, ?_⟩
  have ended := packetsWithin_append (freed calls) tx.isdnHdlcTxQueue 0
  rw [packetsWithin_zero queued, List.append_nil] at ended
  exact ended.symm

theorem Inside.accounted {msg : Packet} {taken : Nat} (inside : Inside packets calls tx msg taken) :
    Accounted packets calls := by
  have length : (msg.take taken).length = taken :=
    List.length_take_of_le (Nat.le_of_lt inside.unfinished)
  rw [Accounted, inside.consumed, inside.packets, List.flatten_append, List.length_append, length,
    packetsWithin_append, packetsWithin_of_lt inside.unfinished, List.append_nil]
  refine ⟨(List.prefix_append_right_inj _).mpr ?_, rfl⟩
  exact (List.take_prefix taken msg).trans (List.prefix_append _ _)

theorem Sending.accounted (sending : Sending packets calls tx)
    (nonempty : ∀ packet ∈ packets, packet ≠ []) : Accounted packets calls := by
  rcases sending with between | ⟨msg, taken, inside⟩
  · exact between.accounted nonempty
  · exact inside.accounted

/-- Between two packets the next one is taken from the queue. -/
theorem Sending.nextPacket (sending : Sending packets calls tx)
    (nonempty : ∀ packet ∈ packets, packet ≠ []) : Sending packets calls tx.nextPacket := by
  rcases sending with between | ⟨msg, taken, inside⟩
  · rw [HdlcTx.nextPacket, if_neg (not_not_intro between.len)]
    have queued := between.packets
    cases queue : tx.isdnHdlcTxQueue with
    | nil =>
        have left : packets = freed calls ++ tx.isdnHdlcTxQueue := between.packets
        exact .inl ⟨between.len, between.pos, left.trans (by rw [queue]), between.consumed⟩
    | cons msg rest =>
        rw [queue] at queued
        have filled : msg ≠ [] := nonempty msg (queued ▸ by simp)
        exact .inr ⟨msg, 0, rfl, rfl, rfl, rfl, List.length_pos_iff.mpr filled, queued,
          between.consumed.trans (by simp)⟩
  · have current : tx.hdlcTxBufLen ≠ 0 := by
      rw [inside.len]
      exact Nat.ne_zero_of_lt inside.unfinished
    rw [HdlcTx.nextPacket, if_pos current]
    exact .inr ⟨msg, taken, inside⟩

theorem Between.rest (between : Between packets calls tx) : tx.rest = [] := by
  simp [HdlcTx.rest, between.len, between.pos]

theorem Inside.rest {msg : Packet} {taken : Nat} (inside : Inside packets calls tx msg taken) :
    tx.rest = msg.drop taken := by
  have room : ((msg.length : Int) - (taken : Int)).toNat = (msg.drop taken).length := by
    rw [List.length_drop]
    omega
  rw [HdlcTx.rest, inside.buf, inside.len, inside.pos, Int.toNat_natCast, room, List.take_length]

/-- Each offer is the end of one packet. -/
theorem Sending.rest (sending : Sending packets calls tx) :
    tx.rest = [] ∨ ∃ packet ∈ packets, tx.rest <:+ packet := by
  rcases sending with between | ⟨msg, taken, inside⟩
  · exact .inl between.rest
  · refine .inr ⟨msg, inside.packets ▸ by simp, ?_⟩
    rw [inside.rest]
    exact List.drop_suffix taken msg

/-- When some of the offer has been taken the state is again what was sent. -/
theorem Sending.advance (sending : Sending packets calls tx) {count : Int} (positive : 0 ≤ count)
    (bound : count ≤ tx.rest.length) (hdlcTx : State) (samplesProcessed : Nat) (rv : Int) :
    Sending packets
      (calls ++ [⟨tx.rest, count, samplesProcessed, rv, (tx.advance count).2⟩])
      { (tx.advance count).1 with hdlcTx := hdlcTx } := by
  obtain ⟨count, rfl⟩ := Int.eq_ofNat_of_zero_le positive
  rcases sending with between | ⟨msg, taken, inside⟩
  · rw [HdlcTx.advance, if_pos between.len]
    refine .inl ⟨between.len, between.pos, ?_, ?_⟩
    · rw [freed_append]
      simpa using between.packets
    · rw [consumed_append, freed_append, between.rest]
      simpa using between.consumed
  · have current : tx.hdlcTxBufLen ≠ 0 := by
      rw [inside.len]
      exact Nat.ne_zero_of_lt inside.unfinished
    have sofar : (freed calls).flatten ++ msg.take (taken + count) =
        consumed calls ++ tx.rest.take count := by
      rw [inside.rest, inside.consumed, List.append_assoc, ← List.take_add]
    rw [inside.rest, List.length_drop] at bound
    rw [HdlcTx.advance, if_neg current]
    dsimp only
    rw [inside.pos, inside.len]
    split
    case isTrue ended =>
      have whole : taken + count = msg.length := by exact_mod_cast ended
      refine .inl ⟨rfl, rfl, ?_, ?_⟩
      · rw [freed_append, inside.msgb, inside.packets]
        simp
      · rw [consumed_append, freed_append, inside.msgb]
        simpa [whole] using sofar.symm
    case isFalse more =>
      have notAll : taken + count ≠ msg.length := by exact_mod_cast more
      have unfinished : taken + count < msg.length := by
        have := inside.unfinished
        omega
      refine .inr ⟨msg, taken + count, inside.msgb, inside.buf, rfl, rfl, unfinished, ?_, ?_⟩
      · rw [freed_append]
        simpa using inside.packets
      · rw [consumed_append, freed_append]
        simpa using sofar.symm

/-- The state agrees with the calls so far, and every call with the packets. -/
structure Ledger (packets : List Packet) (calls : List EncodeCall) (tx : HdlcTx State) :
    Prop where
  nonempty : ∀ packet ∈ packets, packet ≠ []
  sending : Sending packets calls tx
  accounted : ∀ before, before <+: calls → Accounted packets before
  offers : ∀ call ∈ calls, OfOnePacket packets call

/-- A packet is put into the queue. -/
theorem Ledger.append (ledger : Ledger packets calls tx) {packet : Packet}
    (nonempty : packet ≠ []) : Ledger (packets ++ [packet]) calls
      { tx with isdnHdlcTxQueue := tx.isdnHdlcTxQueue ++ [packet] } where
  nonempty other member := by
    rcases List.mem_append.mp member with old | new
    · exact ledger.nonempty other old
    · exact List.mem_singleton.mp new ▸ nonempty
  sending := by
    rcases ledger.sending with between | ⟨msg, taken, inside⟩
    · refine .inl ⟨between.len, between.pos, ?_, between.consumed⟩
      rw [between.packets, List.append_assoc]
    · refine .inr ⟨msg, taken, inside.msgb, inside.buf, inside.len, inside.pos, inside.unfinished,
        ?_, inside.consumed⟩
      rw [inside.packets, List.append_assoc, List.cons_append]
  accounted before within := (ledger.accounted before within).further nonempty
  offers call member := (ledger.offers call member).imp_right fun ⟨packet, mem, ends⟩ =>
    ⟨packet, List.mem_append_left _ mem, ends⟩

end Invariant

/-! ## One round and one buffer -/

/-- A call with space takes no more than it is offered, and fills some of the space. -/
def Encodes {State : Type}
    (osmoIsdnhdlcEncode : State → (src : Packet) → (dsize : Nat) → IsdnEncoded State) : Prop :=
  ∀ state src dsize, 0 < dsize →
    let encoded := osmoIsdnhdlcEncode state src dsize
    0 ≤ encoded.count ∧ encoded.count ≤ src.length ∧ 0 < encoded.rv ∧ encoded.rv ≤ dsize

section Rounds

variable {State : Type} {packets : List Packet} {calls : List EncodeCall} {tx : HdlcTx State}
  {osmoIsdnhdlcEncode : State → (src : Packet) → (dsize : Nat) → IsdnEncoded State}

theorem sendRound_eq {samplesProcessed space : Nat} {encoded : IsdnEncoded State}
    (called : osmoIsdnhdlcEncode tx.nextPacket.hdlcTx tx.nextPacket.rest space = encoded)
    (fills : 0 < encoded.rv) :
    sendRound osmoIsdnhdlcEncode tx samplesProcessed space =
      ({ (tx.nextPacket.advance encoded.count).1 with hdlcTx := encoded.state },
        ⟨tx.nextPacket.rest, encoded.count, samplesProcessed, encoded.rv,
          (tx.nextPacket.advance encoded.count).2⟩) := by
  simp only [sendRound, called, if_pos fills]

/-- A round keeps the books, and fills some of the space behind what was filled. -/
theorem Ledger.sendRound (encodes : Encodes osmoIsdnhdlcEncode) (ledger : Ledger packets calls tx)
    (samplesProcessed : Nat) {space : Nat} (positive : 0 < space) : ∃ after call,
      sendRound osmoIsdnhdlcEncode tx samplesProcessed space = (after, call) ∧
        Ledger packets (calls ++ [call]) after ∧
        call.samplesProcessed = samplesProcessed ∧ 0 < call.rv ∧ call.rv ≤ space := by
  have current := ledger.sending.nextPacket ledger.nonempty
  obtain ⟨taken, offered, fills, fits⟩ :=
    encodes tx.nextPacket.hdlcTx tx.nextPacket.rest space positive
  generalize called : osmoIsdnhdlcEncode tx.nextPacket.hdlcTx tx.nextPacket.rest space = encoded
    at taken offered fills fits
  have sending := current.advance taken offered encoded.state samplesProcessed encoded.rv
  refine ⟨_, _, sendRound_eq called fills, ⟨ledger.nonempty, sending, fun before within => ?_,
    fun call member => ?_⟩, rfl, fills, fits⟩
  · rcases List.prefix_concat_iff.mp within with rfl | earlier
    · exact sending.accounted ledger.nonempty
    · exact ledger.accounted before earlier
  · rcases List.mem_append.mp member with earlier | last
    · exact ledger.offers call earlier
    · exact List.mem_singleton.mp last ▸ current.rest

/-- The loop fills the buffer from where it is to its end. -/
theorem Ledger.sendPackets (encodes : Encodes osmoIsdnhdlcEncode) {numSamples : Int} :
    ∀ {rounds : Nat} {calls : List EncodeCall} {tx : HdlcTx State} {samplesProcessed : Nat},
      Ledger packets calls tx → numSamples.toNat ≤ samplesProcessed + rounds → ∃ after further,
        sendPackets osmoIsdnhdlcEncode numSamples rounds tx samplesProcessed =
            some (after, further) ∧
          Ledger packets (calls ++ further) after ∧
          further.flatMap EncodeCall.filled =
            List.range' samplesProcessed (numSamples.toNat - samplesProcessed) := by
  intro rounds
  induction rounds with
  | zero =>
      intro calls tx samplesProcessed ledger enough
      have full : ¬ (samplesProcessed : Int) < numSamples := by omega
      have nothing : numSamples.toNat - samplesProcessed = 0 := by omega
      refine ⟨tx, [], if_neg full, (List.append_nil calls).symm ▸ ledger, ?_⟩
      rw [nothing]
      rfl
  | succ rounds ih =>
      intro calls tx samplesProcessed ledger enough
      rw [Hdlc.sendPackets]
      split
      case isTrue room =>
        have space : 0 < (numSamples - samplesProcessed).toNat := by omega
        obtain ⟨next, call, round, ledger, place, fills, fits⟩ :=
          ledger.sendRound encodes samplesProcessed space
        have more : numSamples.toNat ≤ samplesProcessed + call.rv.toNat + rounds := by omega
        obtain ⟨after, further, run, ledger, filled⟩ := ih ledger more
        have sizes : numSamples.toNat - samplesProcessed =
            call.rv.toNat + (numSamples.toNat - (samplesProcessed + call.rv.toNat)) := by omega
        refine ⟨after, call :: further, ?_, ?_, ?_⟩
        · simp only [round, run, Option.map_some]
        · simpa using ledger
        · rw [List.flatMap_cons, filled, EncodeCall.filled, place, List.range'_append_1, sizes]
      case isFalse full =>
        have nothing : numSamples.toNat - samplesProcessed = 0 := by omega
        refine ⟨tx, [], rfl, (List.append_nil calls).symm ▸ ledger, ?_⟩
        rw [nothing]
        rfl

end Rounds

/-! ## A run -/

section Runs

variable {State : Type}
  {osmoIsdnhdlcEncode : State → (src : Packet) → (dsize : Nat) → IsdnEncoded State}

/-- The packets put into the queue, and the sample buffers. -/
inductive TxEvent where
  | append (packet : Packet)
  | samples (numSamples : Int)
deriving Repr, DecidableEq

/-- The state, and for every sample buffer its size and the calls of the encoder. -/
structure TxRun (State : Type) where
  tx : HdlcTx State
  buffers : List (Int × List EncodeCall)

def TxRun.calls (run : TxRun State) : List EncodeCall := run.buffers.flatMap (·.2)

/-- The globals at the start, with the initialised encoder. -/
def TxRun.start (hdlcTx : State) : TxRun State where
  tx :=
    { hdlcTx
      hdlcTxMsgb := none
      hdlcTxBuf := []
      hdlcTxBufPos := 0
      hdlcTxBufLen := 0
      isdnHdlcTxQueue := [] }
  buffers := []

def txStep (osmoIsdnhdlcEncode : State → (src : Packet) → (dsize : Nat) → IsdnEncoded State)
    (run : TxRun State) : TxEvent → Option (TxRun State)
  | .append packet =>
      some { run with
        tx := { run.tx with isdnHdlcTxQueue := run.tx.isdnHdlcTxQueue ++ [packet] } }
  | .samples numSamples =>
      (handleSampleBuffer osmoIsdnhdlcEncode run.tx numSamples).map fun (tx, calls) =>
        { tx, buffers := run.buffers ++ [(numSamples, calls)] }

/-- The packets of some events. -/
def packetsOf (events : List TxEvent) : List Packet :=
  events.filterMap fun
    | .append packet => some packet
    | .samples _ => none

/-- The sizes of the sample buffers of some events. -/
def samplesOf (events : List TxEvent) : List Int :=
  events.filterMap fun
    | .append _ => none
    | .samples numSamples => some numSamples

theorem packetsOf_append (events : List TxEvent) (packet : Packet) :
    packetsOf (events ++ [.append packet]) = packetsOf events ++ [packet] := by simp [packetsOf]

structure TxRun.Keeps (events : List TxEvent) (run : TxRun State) : Prop where
  ledger : Ledger (packetsOf events) run.calls run.tx
  sizes : run.buffers.map (·.1) = samplesOf events
  filled : ∀ buffer ∈ run.buffers,
    buffer.2.flatMap EncodeCall.filled = List.range buffer.1.toNat

theorem TxRun.keeps_start (hdlcTx : State) : (TxRun.start hdlcTx).Keeps [] where
  ledger :=
    { nonempty := fun _ member => absurd member List.not_mem_nil
      sending := .inl ⟨rfl, rfl, rfl, rfl⟩
      accounted := fun before within => by
        obtain rfl := List.prefix_nil.mp within
        exact ⟨List.nil_prefix, rfl⟩
      offers := fun _ member => absurd member List.not_mem_nil }
  sizes := rfl
  filled _ member := absurd member List.not_mem_nil

/-- One more event keeps it. -/
theorem TxRun.Keeps.step (encodes : Encodes osmoIsdnhdlcEncode) {events : List TxEvent}
    {run : TxRun State} (keeps : run.Keeps events) {event : TxEvent}
    (nonempty : ∀ packet, event = .append packet → packet ≠ []) :
    ∃ next, txStep osmoIsdnhdlcEncode run event = some next ∧ next.Keeps (events ++ [event]) := by
  cases event with
  | append packet =>
      refine ⟨_, rfl, ?_, ?_, keeps.filled⟩
      · rw [packetsOf_append]
        exact keeps.ledger.append (nonempty packet rfl)
      · simpa [samplesOf] using keeps.sizes
  | samples numSamples =>
      obtain ⟨after, further, run', ledger, filled⟩ :=
        keeps.ledger.sendPackets encodes (Nat.le_of_eq (Nat.zero_add numSamples.toNat).symm)
      refine ⟨⟨after, run.buffers ++ [(numSamples, further)]⟩, ?_, ?_, ?_, fun buffer member => ?_⟩
      · rw [txStep, handleSampleBuffer, run', Option.map_some]
      · simpa [packetsOf, TxRun.calls] using ledger
      · simpa [samplesOf] using keeps.sizes
      · rcases List.mem_append.mp member with earlier | last
        · exact keeps.filled buffer earlier
        · obtain rfl := List.mem_singleton.mp last
          rw [filled, List.range_eq_range', Nat.sub_zero]

theorem run_keeps (encodes : Encodes osmoIsdnhdlcEncode) (hdlcTx : State)
    (events : List TxEvent) (nonempty : ∀ packet, .append packet ∈ events → packet ≠ []) :
    ∃ run, runOps (txStep osmoIsdnhdlcEncode) (TxRun.start hdlcTx) events = some run ∧
      run.Keeps events := by
  induction events using List.reverseRecOn with
  | nil => exact ⟨_, rfl, TxRun.keeps_start hdlcTx⟩
  | append_singleton events event ih =>
      obtain ⟨run, ran, keeps⟩ := ih fun packet member =>
        nonempty packet (List.mem_append_left _ member)
      obtain ⟨next, step, kept⟩ := @TxRun.Keeps.step _ _ encodes _ _ keeps event fun packet same =>
        nonempty packet (same ▸ List.mem_append_right _ List.mem_cons_self)
      exact ⟨next, by rw [runOps_append, ran, Option.bind_some, runOps_singleton, step], kept⟩

/-- **Whatever packets are queued between sample buffers of whatever sizes, the encoder
takes their bytes in order.** No call is offered bytes of two packets, after every call the
messages freed are those whose last byte was taken, and each sample buffer is filled from
its start to its end. -/
theorem packets_sent_in_order (encodes : Encodes osmoIsdnhdlcEncode) (hdlcTx : State)
    (events : List TxEvent) (nonempty : ∀ packet, .append packet ∈ events → packet ≠ []) :
    ∃ run, runOps (txStep osmoIsdnhdlcEncode) (TxRun.start hdlcTx) events = some run ∧
      run.buffers.map (·.1) = samplesOf events ∧
      (∀ before, before <+: run.calls → consumed before <+: (packetsOf events).flatten ∧
        freed before = packetsWithin (packetsOf events) (consumed before).length) ∧
      (∀ call ∈ run.calls, OfOnePacket (packetsOf events) call) ∧
      ∀ buffer ∈ run.buffers,
        buffer.2.flatMap EncodeCall.filled = List.range buffer.1.toNat := by
  obtain ⟨run, ran, keeps⟩ := run_keeps encodes hdlcTx events nonempty
  exact ⟨run, ran, keeps.sizes, keeps.ledger.accounted, keeps.ledger.offers, keeps.filled⟩

end Runs

/-- An encoder that takes a packet when a whole frame has space: two flags, the packet and
its two check bytes, and no more than one stuffed byte. -/
def frameAtOnce (_ : Unit) (src : Packet) (dsize : Nat) : IsdnEncoded Unit where
  rv := dsize
  count := if src.length + 5 < dsize then src.length else 0
  state := ()

theorem packet_sent : ∃ run, runOps (txStep frameAtOnce) (TxRun.start ())
      [.append [0x41, 0x42], .samples 8] = some run ∧
    run.buffers.map (·.1) = [8] ∧
    (∀ before, before <+: run.calls → consumed before <+: [0x41, 0x42] ∧
      freed before = packetsWithin [[0x41, 0x42]] (consumed before).length) ∧
    (∀ call ∈ run.calls, OfOnePacket [[0x41, 0x42]] call) ∧
    ∀ buffer ∈ run.buffers,
      buffer.2.flatMap EncodeCall.filled = List.range buffer.1.toNat := by
  have encodes : Encodes frameAtOnce := by
    intro state src dsize positive
    refine ⟨?_, ?_, Int.natCast_pos.mpr positive, Int.le_refl _⟩ <;> unfold frameAtOnce <;>
      dsimp only <;> split <;> omega
  exact packets_sent_in_order encodes () [.append [0x41, 0x42], .samples 8] (by simp)

end IsdnRas.Hdlc
