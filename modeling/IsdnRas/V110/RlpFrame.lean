import IsdnRas.V110.Bits
import Mathlib.Data.List.Induction

/-!
# RLP frames over V.110

An RLP frame is sent in four V.110 frames. `yate_v110.c` copies the D-bits of each to the
part of `rlp_frame_bits` that its frame sequence indicator names, and hands all four parts
on when the indicator is three.

Nothing checks that the indicators have arrived in order. A part is whatever was received
for it last (`rlp_frame_sent`), and after a lost frame it belongs to an earlier RLP frame
(`mixed_rlp_frame`). The parts belong together when the last four frames carried the
indicators zero to three.
-/

set_option autoImplicit false

namespace IsdnRas.V110

/-! ## The call-back of a frame -/

/-- The unpacked bits of a non-transparent (RLP) V.110 frame. -/
structure DecodedRlpFrame where
  dBits : List Ubit
  eBits : List Ubit
  dBits_length : dBits.length = 60
  eBits_length : eBits.length = 3

/-- What `memcpy` takes from a buffer. -/
def copied (bits : List Ubit) (offset len : Nat) : List Ubit := (bits.drop offset).take len

theorem copied_length {bits : List Ubit} {offset len : Nat} (within : offset + len ≤ bits.length) :
    (copied bits offset len).length = len := by
  rw [copied, List.length_take, List.length_drop]
  omega

/-- The octets are copied without their first bit, and the fifth without its E-bits. -/
def rlpFrameFields (raBits : List Ubit) (enough : 80 ≤ raBits.length) : DecodedRlpFrame where
  eBits := copied raBits (5 * 8 + 1) 3
  dBits :=
    copied raBits (1 * 8 + 1) 7 ++ copied raBits (2 * 8 + 1) 7 ++
    copied raBits (3 * 8 + 1) 7 ++ copied raBits (4 * 8 + 1) 7 ++
    copied raBits (5 * 8 + 4) 4 ++
    copied raBits (6 * 8 + 1) 7 ++ copied raBits (7 * 8 + 1) 7 ++
    copied raBits (8 * 8 + 1) 7 ++ copied raBits (9 * 8 + 1) 7
  eBits_length := copied_length (by omega)
  dBits_length := by
    simp (disch := omega) only [List.length_append, copied_length]

def osmoV110DecodeRlpFrame (raBits : List Ubit) : Option DecodedRlpFrame :=
  if enough : 80 ≤ raBits.length then some (rlpFrameFields raBits enough) else none

/-- The frame sequence indicator. -/
def DecodedRlpFrame.rlpFsi (dfr : DecodedRlpFrame) : Nat :=
  ((dfr.eBits.getD 1 false).toNat <<< 1) ||| (dfr.eBits.getD 2 false).toNat

theorem DecodedRlpFrame.rlpFsi_le (dfr : DecodedRlpFrame) : dfr.rlpFsi ≤ 3 := by
  rw [rlpFsi]
  cases dfr.eBits.getD 1 false <;> cases dfr.eBits.getD 2 false <;> decide

/-- `memcpy` into a buffer. -/
def overwrite (bits : List Ubit) (offset : Nat) (src : List Ubit) : List Ubit :=
  bits.take offset ++ src ++ bits.drop (offset + src.length)

theorem overwrite_length {bits src : List Ubit} {offset : Nat}
    (within : offset + src.length ≤ bits.length) :
    (overwrite bits offset src).length = bits.length := by
  simp only [overwrite, List.length_append, List.length_take, List.length_drop]
  omega

/-- The buffer of the four parts, and the RLP frames handed to `gsmtap_send_rlp`. -/
structure RlpReceiver where
  rlpFrameBits : List Ubit
  sent : List (List UInt8)
  rlpFrameBits_length : rlpFrameBits.length = 240

def RlpReceiver.start : RlpReceiver where
  rlpFrameBits := List.replicate 240 false
  sent := []
  rlpFrameBits_length := List.length_replicate

/-- Pack the bits, and reverse those of each byte. -/
def rlpFrame (osmo : Osmo) (rlpFrameBits : List Ubit) : List UInt8 :=
  (osmo.ubit2pbit rlpFrameBits).map osmo.revbytebits8

/-- Copy the D-bits to their part. -/
def RlpReceiver.store (rx : RlpReceiver) (dfr : DecodedRlpFrame) : RlpReceiver where
  rlpFrameBits := overwrite rx.rlpFrameBits (dfr.rlpFsi * 60) dfr.dBits
  sent := rx.sent
  rlpFrameBits_length := by
    have last := dfr.rlpFsi_le
    have len := rx.rlpFrameBits_length
    rw [overwrite_length (by rw [dfr.dBits_length]; omega), len]

def frameBitsCb (osmo : Osmo) (rx : RlpReceiver) (bits : List Ubit) : RlpReceiver :=
  match osmoV110DecodeRlpFrame bits with
  | none => rx
  | some dfr =>
      let rx := rx.store dfr
      if dfr.rlpFsi = 3 then { rx with sent := rx.sent ++ [rlpFrame osmo rx.rlpFrameBits] }
      else rx

/-! ## Received frames -/

/-- A synchronised frame. -/
abbrev V110Frame := Vector Ubit 80

def V110Frame.decoded (frame : V110Frame) : DecodedRlpFrame :=
  rlpFrameFields frame.toList (Nat.le_of_eq Vector.length_toList.symm)

/-- The state after some frames. -/
def afterFrames (osmo : Osmo) (frames : List V110Frame) : RlpReceiver :=
  frames.foldl (fun rx frame => frameBitsCb osmo rx frame.toList) .start

/-- The D-bits of the last frame with an indicator, and zeros before there is one. -/
def latestPart (frames : List V110Frame) (indicator : Nat) : List Ubit :=
  match (frames.filter fun frame => frame.decoded.rlpFsi = indicator).getLast? with
  | some frame => frame.decoded.dBits
  | none => List.replicate 60 false

/-- The parts of an RLP frame. -/
def latestParts (frames : List V110Frame) : List Ubit :=
  latestPart frames 0 ++ latestPart frames 1 ++ latestPart frames 2 ++ latestPart frames 3

/-- The RLP frame is built from the last four frames, and these carried the indicators zero
to three. -/
def BuiltFromLastFour (osmo : Osmo) (frames : List V110Frame) (sentFrame : List UInt8) : Prop :=
  ∃ earlier first second third fourth, frames = earlier ++ [first, second, third, fourth] ∧
    [first, second, third, fourth].map (·.decoded.rlpFsi) = [0, 1, 2, 3] ∧
    sentFrame = rlpFrame osmo ([first, second, third, fourth].flatMap (·.decoded.dBits))

theorem osmoV110DecodeRlpFrame_toList (frame : V110Frame) :
    osmoV110DecodeRlpFrame frame.toList = some frame.decoded :=
  dif_pos (Nat.le_of_eq Vector.length_toList.symm)

theorem latestPart_append (frames : List V110Frame) (frame : V110Frame) (indicator : Nat) :
    latestPart (frames ++ [frame]) indicator =
      if frame.decoded.rlpFsi = indicator then frame.decoded.dBits
      else latestPart frames indicator := by
  by_cases same : frame.decoded.rlpFsi = indicator
  · simp [latestPart, same]
  · simp [latestPart, same]

@[simp] theorem latestPart_length (frames : List V110Frame) (indicator : Nat) :
    (latestPart frames indicator).length = 60 := by
  rw [latestPart]
  split
  · exact DecodedRlpFrame.dBits_length _
  · exact List.length_replicate

/-- What is copied over a part takes its place. -/
theorem overwrite_part {offset : Nat} {src : List Ubit} (before part after : List Ubit)
    (place : offset = before.length) (same : src.length = part.length) :
    overwrite (before ++ (part ++ after)) offset src = before ++ (src ++ after) := by
  rw [overwrite, place, same, List.take_left, ← List.append_assoc before, ← List.length_append,
    List.drop_left, List.append_assoc]

/-- A frame replaces the part that its indicator names. -/
theorem overwrite_latestParts (frames : List V110Frame) (frame : V110Frame) :
    overwrite (latestParts frames) (frame.decoded.rlpFsi * 60) frame.decoded.dBits =
      latestParts (frames ++ [frame]) := by
  have bound := frame.decoded.rlpFsi_le
  have len : ∀ indicator, frame.decoded.dBits.length = (latestPart frames indicator).length :=
    fun indicator => by rw [frame.decoded.dBits_length, latestPart_length]
  simp only [latestParts, latestPart_append, List.append_assoc]
  generalize frame.decoded.rlpFsi = indicator at bound ⊢
  match indicator, bound with
  | 0, _ => exact overwrite_part [] _ _ rfl (len 0)
  | 1, _ => exact overwrite_part (latestPart frames 0) _ _ (by simp) (len 1)
  | 2, _ =>
      simpa using overwrite_part (latestPart frames 0 ++ latestPart frames 1) _
        (latestPart frames 3) (by simp) (len 2)
  | 3, _ =>
      simpa using overwrite_part
        (latestPart frames 0 ++ latestPart frames 1 ++ latestPart frames 2) _ [] (by simp) (len 3)

theorem afterFrames_append (osmo : Osmo) (frames : List V110Frame) (frame : V110Frame) :
    afterFrames osmo (frames ++ [frame]) =
      frameBitsCb osmo (afterFrames osmo frames) frame.toList := by
  rw [afterFrames, List.foldl_append]
  rfl

theorem RlpReceiver.store_rlpFrameBits (rx : RlpReceiver) (dfr : DecodedRlpFrame) :
    (rx.store dfr).rlpFrameBits = overwrite rx.rlpFrameBits (dfr.rlpFsi * 60) dfr.dBits := rfl

theorem frameBitsCb_rlpFrameBits (osmo : Osmo) (rx : RlpReceiver) (frame : V110Frame) :
    (frameBitsCb osmo rx frame.toList).rlpFrameBits = (rx.store frame.decoded).rlpFrameBits := by
  simp only [frameBitsCb, osmoV110DecodeRlpFrame_toList]
  split <;> rfl

theorem frameBitsCb_sent (osmo : Osmo) (rx : RlpReceiver) (frame : V110Frame) :
    (frameBitsCb osmo rx frame.toList).sent = rx.sent ++
      if frame.decoded.rlpFsi = 3 then [rlpFrame osmo (rx.store frame.decoded).rlpFrameBits]
      else [] := by
  simp only [frameBitsCb, osmoV110DecodeRlpFrame_toList]
  split
  · rfl
  · exact (List.append_nil _).symm

/-- The buffer holds the part that was received last for each indicator. -/
theorem afterFrames_rlpFrameBits (osmo : Osmo) (frames : List V110Frame) :
    (afterFrames osmo frames).rlpFrameBits = latestParts frames := by
  induction frames using List.reverseRecOn with
  | nil => simp [afterFrames, RlpReceiver.start, latestParts, latestPart]
  | append_singleton frames frame ih =>
      rw [afterFrames_append, frameBitsCb_rlpFrameBits, RlpReceiver.store_rlpFrameBits, ih,
        overwrite_latestParts]

/-- After the indicators zero to three the parts are those of the last four frames. -/
theorem latestParts_of_lastFour (earlier : List V110Frame) {first second third fourth : V110Frame}
    (indicators : [first, second, third, fourth].map (·.decoded.rlpFsi) = [0, 1, 2, 3]) :
    latestParts (earlier ++ [first, second, third, fourth]) =
      [first, second, third, fourth].flatMap (·.decoded.dBits) := by
  simp only [List.map_cons, List.map_nil, List.cons.injEq, and_true] at indicators
  obtain ⟨zero, one, two, three⟩ := indicators
  have step : earlier ++ [first, second, third, fourth] =
      earlier ++ [first] ++ [second] ++ [third] ++ [fourth] := by simp
  rw [step]
  simp only [latestParts, latestPart_append, zero, one, two, three]
  simp

/-- **An RLP frame is sent with every frame whose indicator is three, and its parts are
those received last.** They belong to the last four frames when these carried the
indicators zero to three. -/
theorem rlp_frame_sent (osmo : Osmo) (frames : List V110Frame) (frame : V110Frame) :
    (afterFrames osmo (frames ++ [frame])).sent = (afterFrames osmo frames).sent ++
        (if frame.decoded.rlpFsi = 3 then [rlpFrame osmo (latestParts (frames ++ [frame]))]
          else []) ∧
      ∀ earlier first second third fourth,
        frames ++ [frame] = earlier ++ [first, second, third, fourth] →
        [first, second, third, fourth].map (·.decoded.rlpFsi) = [0, 1, 2, 3] →
        BuiltFromLastFour osmo (frames ++ [frame])
          (rlpFrame osmo (latestParts (frames ++ [frame]))) := by
  refine ⟨?_, fun earlier first second third fourth last indicators => ?_⟩
  · rw [afterFrames_append, frameBitsCb_sent, RlpReceiver.store_rlpFrameBits,
      afterFrames_rlpFrameBits, overwrite_latestParts]
  · refine ⟨earlier, first, second, third, fourth, last, indicators, ?_⟩
    rw [last, latestParts_of_lastFour earlier indicators]

/-! ## A lost frame -/

/-- A frame with the given indicator and all its D-bits equal. -/
def uniformFrame (indicator : Nat) (bit : Ubit) : V110Frame :=
  Vector.ofFn fun i =>
    if i.val < 8 then false
    else if i.val = 5 * 8 + 2 then indicator.testBit 1
    else if i.val = 5 * 8 + 3 then indicator.testBit 0
    else bit

/-- Two RLP frames, without the third frame of the second. -/
def lostFrame : List V110Frame :=
  [uniformFrame 0 false, uniformFrame 1 false, uniformFrame 2 false, uniformFrame 3 false,
    uniformFrame 0 true, uniformFrame 1 true, uniformFrame 3 true]

/-- After the loss of a frame its part is that of the RLP frame before. -/
theorem mixed_rlp_frame :
    (afterFrames .plain lostFrame).sent =
        [List.replicate 30 0,
          List.replicate 15 0xff ++ List.replicate 7 0 ++ [0xf0] ++ List.replicate 7 0xff] ∧
      ∀ sentFrame, ¬ BuiltFromLastFour .plain lostFrame sentFrame := by
  refine ⟨by decide +kernel, ?_⟩
  rintro sentFrame ⟨earlier, first, second, third, fourth, same, indicators, -⟩
  have earlier_length : earlier.length = 3 := by
    simpa [lostFrame] using congrArg List.length same
  have last : [first, second, third, fourth] = lostFrame.drop 3 := by
    rw [same, ← earlier_length, List.drop_left]
  rw [last] at indicators
  exact absurd indicators (by decide +kernel)

end IsdnRas.V110
