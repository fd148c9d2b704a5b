import IsdnRas.Ppp.Pppd
import IsdnRas.Hdlc.Transmit

/-!
# Packets that wait

A packet that was queued has been freed behind the encoder, or it waits: the one being sent,
and those behind it in the queue. A sample buffer frees the first of those that wait
(`waiting_of_sent`).
-/

set_option autoImplicit false

namespace IsdnRas.Hdlc

/-- The functions of libosmocore that a process uses on the line. -/
structure Codec (Enc Dec : Type) where
  osmoIsdnhdlcEncode : Enc → (src : Packet) → (dsize : Nat) → IsdnEncoded Enc
  osmoIsdnhdlcDecode : Dec → Packet → Packet → Nat → Ppp.IsdnDecoded Dec

/-! ## The books -/

variable {Enc : Type} {tx after : HdlcTx Enc} {packets : List Packet} {calls : List EncodeCall}
  {osmoIsdnhdlcEncode : Enc → (src : Packet) → (dsize : Nat) → IsdnEncoded Enc}

/-- The books when no packet was queued. -/
theorem ledger_start (hdlcTx : Enc) : Ledger [] [] (TxRun.start hdlcTx).tx :=
  (TxRun.keeps_start hdlcTx).ledger

theorem Ledger.appendAll (further : List Packet) : ∀ {packets : List Packet} {tx : HdlcTx Enc},
    Ledger packets calls tx → (∀ packet ∈ further, packet ≠ []) →
      Ledger (packets ++ further) calls
        { tx with isdnHdlcTxQueue := tx.isdnHdlcTxQueue ++ further } := by
  induction further with
  | nil =>
      intro packets tx ledger _
      simpa using ledger
  | cons packet rest ih =>
      intro packets tx ledger nonempty
      have first := ledger.append (nonempty packet List.mem_cons_self)
      simpa using ih first fun packet member => nonempty packet (List.mem_cons_of_mem _ member)

theorem Ledger.filled (ledger : Ledger packets calls tx) (encodes : Encodes osmoIsdnhdlcEncode)
    {numSamples : Nat} {further : List EncodeCall}
    (sent : handleSampleBuffer osmoIsdnhdlcEncode tx numSamples = some (after, further)) :
    Ledger packets (calls ++ further) after := by
  obtain ⟨_, _, same, kept, -⟩ := ledger.sendPackets encodes
    (show (numSamples : Int).toNat ≤ 0 + (numSamples : Int).toNat by omega)
  rw [handleSampleBuffer, same] at sent
  cases sent
  exact kept

/-! ## Freed or waiting -/

/-- The packet being sent, and those behind it. -/
def waiting (tx : HdlcTx Enc) : List Packet :=
  (if tx.hdlcTxBufLen ≠ 0 then tx.hdlcTxMsgb.toList else []) ++ tx.isdnHdlcTxQueue

theorem packets_eq (ledger : Ledger packets calls tx) : packets = freed calls ++ waiting tx := by
  rcases ledger.sending with between | ⟨msg, taken, inside⟩
  · rw [waiting, if_neg (not_not_intro between.len), List.nil_append]
    exact between.packets
  · have current : tx.hdlcTxBufLen ≠ 0 := by
      rw [inside.len]
      exact Nat.ne_zero_of_lt inside.unfinished
    rw [waiting, if_pos current, inside.msgb]
    exact inside.packets

/-- A sample buffer frees the first of the packets that wait. -/
theorem waiting_of_sent (encodes : Encodes osmoIsdnhdlcEncode) (ledger : Ledger packets calls tx)
    {numSamples : Nat} {further : List EncodeCall}
    (sent : handleSampleBuffer osmoIsdnhdlcEncode tx numSamples = some (after, further)) :
    waiting tx = freed further ++ waiting after := by
  have later := ledger.filled encodes sent
  have split : freed (calls ++ further) = freed calls ++ freed further := List.filterMap_append
  have both := (packets_eq ledger).symm.trans (packets_eq later)
  rw [split, List.append_assoc] at both
  exact List.append_cancel_left both

end IsdnRas.Hdlc
