import IsdnRas.Ppp.Rfc1662

/-!
# Between pppd and the ISDN line

`pppdInputCb` reads from pppd and queues the packets that the decoder finds.
`pppdInputRawPacket` encodes the packets of the ISDN line into `pppd_tx_buf`. The ISDN
decoder that finds them belongs to a library.
-/

set_option autoImplicit false

namespace IsdnRas.Ppp

/-! ## From pppd -/

def tempPackBufSize : Nat := 2048

/-- The decoder state and `temp_pack_buf`, and what has happened: the values the
decoder has returned and the packets queued, oldest first. -/
structure PppdInput where
  rfc1662State : Rfc1662Vars
  tempPackBuf : Bytes
  returned : List Int
  queued : List Bytes
deriving Repr, DecidableEq

/-- One round of the loop: what it leaves, and the new `bytes_read`. `count` is
not initialised; the decoder sets it before it is read. -/
def pppdInputRound (rxBuf : Bytes) (bytesRead : Nat) (input : PppdInput) : PppdInput × Nat :=
  let decoded := pppdRfc1662Decode input.rfc1662State (rxBuf.drop bytesRead) 0 input.tempPackBuf
    tempPackBufSize
  ({ rfc1662State := decoded.state
     tempPackBuf := decoded.dst
     returned := input.returned ++ [decoded.rv]
     queued := input.queued ++
      if 0 < decoded.rv then [decoded.dst.take decoded.rv.toNat] else [] },
    bytesRead + decoded.count)

/-- `while (bytes_read != len - 1)`, for at most `rounds` rounds. The Boolean says
whether the loop has ended. -/
def pppdInputLoop (rxBuf : Bytes) : Nat → Nat → PppdInput → PppdInput × Bool
  | 0, _, input => (input, false)
  | rounds + 1, bytesRead, input =>
      if bytesRead ≠ rxBuf.length - 1 then
        let (input, bytesRead) := pppdInputRound rxBuf bytesRead input
        pppdInputLoop rxBuf rounds bytesRead input
      else (input, true)

/-- One call, on what `read` has returned. A read of nothing is ignored. -/
def pppdInputCb (input : PppdInput) (rxBuf : Bytes) : PppdInput × Bool :=
  if rxBuf = [] then (input, true)
  else pppdInputLoop rxBuf (rxBuf.length + 2) 0 input

/-- Consecutive calls. A call that does not end is the last one. -/
def pppdInputs : PppdInput → List Bytes → PppdInput × Bool
  | input, [] => (input, true)
  | input, rxBuf :: rest =>
      let (input, ended) := pppdInputCb input rxBuf
      if ended then pppdInputs input rest else (input, false)

/-! ## To pppd -/

/-- The writes into `pppd_tx_buf`. -/
def pppdInputRawPacket (buf : Bytes) : HdlcOut := pppdRfc1662Encode buf

/-- The size of `hdlc_rx_buf`. -/
def hdlcRxBufSize : Nat := maxMtu * 2

/-- What a call of `osmo_isdnhdlc_decode` leaves. -/
structure IsdnDecoded (State : Type) where
  rv : Int
  count : Nat
  state : State
  dst : Bytes

end IsdnRas.Ppp
