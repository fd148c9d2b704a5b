import IsdnRas.Library.LossyLine
import IsdnRas.Ppp.Gateway

/-!
# From one pppd to the other

Two gateways stand at the ends of a line. What an encoder has taken whole is on its way to the
other end, and what a decoder finds was on its way to it; what is on the line may be lost. The
reads from the two pppds and the sample buffers of the two ends may come in any order.

PPP leaves lost packets to the layers above. What the gateways promise is that no packet is
altered, doubled or overtaken between one pppd and the other (`packets_arrive_in_order`).
-/

set_option autoImplicit false

namespace IsdnRas.Ppp

open Hdlc (Codec freed)

/-! ## The call -/

/-- The two gateways, and the packets on their way from one to the other. -/
structure PppCall (Enc Dec : Type) where
  a : Gateway Enc Dec
  b : Gateway Enc Dec
  ab : List Bytes
  ba : List Bytes

/-- What may happen at the two ends. -/
inductive CallOp where
  | atA (input : GatewayInput)
  | atB (input : GatewayInput)

def CallOp.input : CallOp → GatewayInput
  | .atA input => input
  | .atB input => input

section Call

variable {Enc Dec : Type}

def PppCall.start (hdlcRx : Dec) (hdlcTx : Enc) : PppCall Enc Dec where
  a := .start hdlcRx hdlcTx
  b := .start hdlcRx hdlcTx
  ab := []
  ba := []

/-- The call as it is seen from the other end. -/
def PppCall.swap (call : PppCall Enc Dec) : PppCall Enc Dec := ⟨call.b, call.a, call.ba, call.ab⟩

/-- A step of gateway A. What its decoder finds has arrived, and what its encoder frees is on
its way. -/
def callStepA (codec : Codec Enc Dec) (call : PppCall Enc Dec) (input : GatewayInput) :
    Option (PppCall Enc Dec) :=
  (gatewayStep codec call.a input).bind fun a =>
    (arrives call.ba (a.received.drop call.a.received.length)).map fun ba =>
      { call with
        a
        ab := call.ab ++ freed (a.encoded.drop call.a.encoded.length)
        ba }

/-- A step at one of the ends. -/
def callStep (codec : Codec Enc Dec) (call : PppCall Enc Dec) : CallOp → Option (PppCall Enc Dec)
  | .atA input => callStepA codec call input
  | .atB input => (callStepA codec call.swap input).map PppCall.swap

/-- What every step keeps: both gateways, and both directions of the line. -/
structure PppCall.Sound (call : PppCall Enc Dec) : Prop where
  a : call.a.Sound
  b : call.b.Sound
  forward : Delivered (freed call.a.encoded) call.b.received call.ab
  backward : Delivered (freed call.b.encoded) call.a.received call.ba

variable {codec : Codec Enc Dec} {call next : PppCall Enc Dec}

theorem PppCall.sound_start (hdlcRx : Dec) (hdlcTx : Enc) :
    (PppCall.start hdlcRx hdlcTx).Sound where
  a := Gateway.sound_start hdlcRx hdlcTx
  b := Gateway.sound_start hdlcRx hdlcTx
  forward := .start
  backward := .start

theorem PppCall.Sound.swap (sound : call.Sound) : call.swap.Sound :=
  ⟨sound.b, sound.a, sound.backward, sound.forward⟩

/-- A step of gateway A keeps it. -/
theorem PppCall.Sound.stepA (sound : call.Sound)
    (encodes : Hdlc.Encodes codec.osmoIsdnhdlcEncode) (decodes : Decodes codec.osmoIsdnhdlcDecode)
    {input : GatewayInput} (takes : input.TakesFrames)
    (taken : callStepA codec call input = some next) : next.Sound := by
  obtain ⟨a, stepped, later⟩ := Option.bind_eq_some_iff.mp taken
  obtain ⟨ba, arrived, rfl⟩ := Option.map_eq_some_iff.mp later
  obtain ⟨soundA, ⟨found, received⟩, ⟨calls, encoded⟩⟩ := sound.a.step encodes decodes takes stepped
  rw [← received, List.drop_left] at arrived
  refine ⟨soundA, sound.b, ?_, ?_⟩
  · have sent : freed a.encoded = freed call.a.encoded ++ freed calls := by
      rw [← encoded]
      exact List.filterMap_append
    dsimp only
    rw [sent, ← encoded, List.drop_left]
    exact sound.forward.send (freed calls)
  · dsimp only
    rw [← received]
    exact sound.backward.arrive found arrived

/-- **One step.** -/
theorem PppCall.Sound.step (sound : call.Sound)
    (encodes : Hdlc.Encodes codec.osmoIsdnhdlcEncode) (decodes : Decodes codec.osmoIsdnhdlcDecode)
    {op : CallOp} (takes : op.input.TakesFrames) (taken : callStep codec call op = some next) :
    next.Sound := by
  cases op with
  | atA input => exact sound.stepA encodes decodes takes taken
  | atB input =>
      obtain ⟨swapped, stepped, rfl⟩ := Option.map_eq_some_iff.mp taken
      exact (sound.swap.stepA encodes decodes takes stepped).swap

/-! ## What arrives -/

/-- When the bytes that a gateway has read are frames that fit its buffer, a receiver behind
the other one, with room for a frame, reads some of their packets in their order. -/
def CarriesInOrder (a b : Gateway Enc Dec) : Prop :=
  ∀ last sent, feed (OpenFrame.step tempPackBufSize) .idle (handed a.pppdRead) = some (last, sent) →
    ∀ dsize, maxMtu ≤ dsize + 2 → ∃ read,
      feed (OpenFrame.step dsize) .idle b.pppdWritten.flatten = some (.idle, read) ∧
        read.Sublist sent

theorem PppCall.Sound.carriesInOrder (sound : call.Sound) : CarriesInOrder call.a call.b := by
  intro last sent fed dsize room
  refine ⟨call.b.received, sound.b.feed_written room, ?_⟩
  have queued := sound.a.queued_eq fed
  have packets := Hdlc.packets_eq sound.a.ledger
  have within : (freed call.a.encoded).Sublist sent := by
    rw [← queued, packets]
    exact List.sublist_append_left ..
  exact sound.forward.sublist.trans within

end Call

end IsdnRas.Ppp
