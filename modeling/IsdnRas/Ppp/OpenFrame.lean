import IsdnRas.Ppp.Deframer
import IsdnRas.Ppp.FrameFormat

/-!
# The frame that is being received

Between two calls the decoder holds an open frame: the bytes received since it was last
empty, without their escapes, and perhaps an escape. `Rfc1662Vars` and the destination
buffer are a way to store it (`Stores`), for a buffer of any size.

A byte is added to the frame, or closes it, as the decoder does with what it has stored
(`Stores.step`). So what a call of the decoder does can be said in these terms
(`callOutcome_decode`): it takes all bytes, or it stops at the flag that closes a frame of two
bytes or more, or at a byte that the buffer has no room for.
-/

set_option autoImplicit false

namespace IsdnRas.Ppp

/-! ## Open frames -/

/-- The bytes without their escapes, and whether an escape is pending. -/
structure OpenFrame where
  symbols : Bytes
  pending : Bool
deriving Repr, DecidableEq

def OpenFrame.idle : OpenFrame := ⟨[], false⟩

/-- The packet of a closed frame: all but the last two bytes, unless nothing is left. -/
def packetOf (symbols : Bytes) : List Bytes :=
  if 2 < symbols.length then [symbols.take (symbols.length - 2)] else []

/-- Receive one byte into a buffer of `dsize` bytes. A flag after an escape is ignored. -/
def OpenFrame.step (dsize : Nat) (openFrame : OpenFrame) (ch : UInt8) :
    Option (OpenFrame × List Bytes) :=
  if ch = pppFlag then
    if openFrame.pending then some (openFrame, [])
    else some (.idle, packetOf openFrame.symbols)
  else if ch = pppEscape then some (⟨openFrame.symbols, true⟩, [])
  else if openFrame.symbols.length < dsize then
    some (⟨openFrame.symbols ++ [if openFrame.pending then ch ^^^ pppTrans else ch], false⟩, [])
  else none

/-- How the decoder stores an open frame. -/
structure Stores (dsize : Nat) (openFrame : OpenFrame) (state : Rfc1662Vars) (dst : Bytes) :
    Prop where
  count : state.deframedBytes = openFrame.symbols.length
  escape : state.escape = if openFrame.pending then pppTrans else 0
  symbols : dst.take openFrame.symbols.length = openFrame.symbols
  fits : openFrame.symbols.length ≤ dsize
  room : dsize ≤ dst.length

theorem stores_idle {dsize : Nat} {dst : Bytes} (room : dsize ≤ dst.length) :
    Stores dsize .idle ⟨0, 0⟩ dst := ⟨rfl, rfl, rfl, Nat.zero_le _, room⟩

section Stores

variable {dsize : Nat} {openFrame : OpenFrame} {state : Rfc1662Vars} {dst : Bytes} {ch : UInt8}

theorem Stores.escape_eq_zero_iff (stores : Stores dsize openFrame state dst) :
    state.escape = 0 ↔ openFrame.pending = false := by
  rw [stores.escape]
  cases openFrame.pending <;> decide

theorem Stores.escaped (stores : Stores dsize openFrame state dst) :
    Stores dsize ⟨openFrame.symbols, true⟩ { state with escape := pppTrans } dst :=
  ⟨stores.count, rfl, stores.symbols, stores.fits, stores.room⟩

theorem Stores.push (stores : Stores dsize openFrame state dst)
    (free : openFrame.symbols.length < dsize) :
    Stores dsize
      ⟨openFrame.symbols ++ [if openFrame.pending then ch ^^^ pppTrans else ch], false⟩
      ⟨state.deframedBytes + 1, 0⟩ (dst.set state.deframedBytes (ch ^^^ state.escape)) := by
  have symbol : ch ^^^ state.escape = if openFrame.pending then ch ^^^ pppTrans else ch := by
    rw [stores.escape]
    cases openFrame.pending with
    | true => rfl
    | false => exact UInt8.xor_zero
  have inside : state.deframedBytes < dst.length := by
    rw [stores.count]
    exact Nat.lt_of_lt_of_le free stores.room
  refine ⟨?_, rfl, ?_, ?_, ?_⟩
  · rw [List.length_append, List.length_singleton, stores.count]
  · rw [List.length_append, List.length_singleton, symbol, ← stores.count,
      List.take_add_one, List.take_set_of_le (Nat.le_refl _), stores.count, stores.symbols,
      ← stores.count, List.getElem?_set_self inside]
    rfl
  · rw [List.length_append, List.length_singleton]
    exact free
  · rw [List.length_set]
    exact stores.room

theorem Stores.packet (stores : Stores dsize openFrame state dst) :
    (if 2 < openFrame.symbols.length then [dst.take (openFrame.symbols.length - 2)] else []) =
      packetOf openFrame.symbols := by
  have whole := congrArg (List.take (openFrame.symbols.length - 2)) stores.symbols
  rw [List.take_take, Nat.min_eq_left (Nat.sub_le ..)] at whole
  rw [packetOf, whole]

/-- What a byte does to the decoder and to the frame that it stores. -/
inductive StoresStep (dsize : Nat) :
    Option (Deframer × List Bytes) → Option (OpenFrame × List Bytes) → Prop where
  | full : StoresStep dsize none none
  | taken {deframer : Deframer} {openFrame : OpenFrame} (out : List Bytes)
      (stores : Stores dsize openFrame deframer.vars deframer.buf) :
      StoresStep dsize (some (deframer, out)) (some (openFrame, out))

/-- **A byte does the same to both.** -/
theorem Stores.step (stores : Stores dsize openFrame state dst) (ch : UInt8) :
    StoresStep dsize (deframeInto dsize ⟨state, dst⟩ ch) (openFrame.step dsize ch) := by
  unfold deframeInto OpenFrame.step
  dsimp only
  by_cases flag : ch = pppFlag
  · rw [if_pos flag, if_pos flag]
    cases pending : openFrame.pending with
    | true =>
        have escaped : state.escape ≠ 0 := fun clear => by
          rw [stores.escape_eq_zero_iff, pending] at clear
          cases clear
        rw [if_pos escaped, if_pos rfl]
        exact .taken [] stores
    | false =>
        have clear : state.escape = 0 := stores.escape_eq_zero_iff.mpr pending
        rw [if_neg (not_not_intro clear), if_neg Bool.false_ne_true, stores.count]
        split
        case isTrue two =>
            rw [stores.packet]
            exact .taken _ (stores_idle stores.room)
        case isFalse short =>
            have nothing : packetOf openFrame.symbols = [] := if_neg (by omega)
            rw [nothing, clear]
            exact .taken [] (stores_idle stores.room)
  · rw [if_neg flag, if_neg flag]
    by_cases escape : ch = pppEscape
    · rw [if_pos escape, if_pos escape]
      exact .taken [] stores.escaped
    · rw [if_neg escape, if_neg escape, stores.count]
      split
      case isTrue free =>
          have pushed := @Stores.push _ _ _ _ ch stores free
          rw [stores.count] at pushed
          exact .taken [] pushed
      case isFalse => exact .full

/-- **The frame follows the decoder**, and the decoder follows the frame. -/
theorem Stores.feed {deframer : Deframer} {out : List Bytes} {src : Bytes}
    (stores : Stores dsize openFrame state dst)
    (fed : feed (deframeInto dsize) ⟨state, dst⟩ src = some (deframer, out)) :
    ∃ last, IsdnRas.feed (OpenFrame.step dsize) openFrame src = some (last, out) ∧
      Stores dsize last deframer.vars deframer.buf := by
  let follows (deframer : Deframer) (openFrame : OpenFrame) : Prop :=
    Stores dsize openFrame deframer.vars deframer.buf
  have now : follows ⟨state, dst⟩ openFrame := stores
  refine feed_simulates (deframeInto dsize) (OpenFrame.step dsize) follows ?_ src now fed
  intro deframer next openFrame ch out stores stepped
  have both := Stores.step stores ch
  rw [stepped] at both
  generalize openFrame.step dsize ch = result at both ⊢
  cases both with
  | taken out stores' => exact ⟨_, rfl, stores'⟩

theorem Stores.feed_deframe {last : OpenFrame} {out : List Bytes} {src : Bytes}
    (stores : Stores dsize openFrame state dst)
    (fed : IsdnRas.feed (OpenFrame.step dsize) openFrame src = some (last, out)) :
    ∃ deframer, IsdnRas.feed (deframeInto dsize) ⟨state, dst⟩ src = some (deframer, out) := by
  let follows (openFrame : OpenFrame) (deframer : Deframer) : Prop :=
    Stores dsize openFrame deframer.vars deframer.buf
  have now : follows openFrame ⟨state, dst⟩ := stores
  have followed : ∀ {openFrame next : OpenFrame} {deframer : Deframer} {ch : UInt8}
      {out : List Bytes}, follows openFrame deframer →
      openFrame.step dsize ch = some (next, out) →
        ∃ deframer', deframeInto dsize deframer ch = some (deframer', out) ∧
          follows next deframer' := by
    intro openFrame next deframer ch out stores stepped
    have both := Stores.step stores ch
    rw [stepped] at both
    generalize deframeInto dsize ⟨deframer.vars, deframer.buf⟩ ch = result at both ⊢
    cases both with
    | taken out stores' => exact ⟨_, rfl, stores'⟩
  obtain ⟨deframer, fed', -⟩ := feed_simulates (OpenFrame.step dsize) (deframeInto dsize) follows
    followed src now fed
  exact ⟨deframer, fed'⟩

end Stores

/-! ## One call of the decoder -/

/-- What a call of the decoder does with `src`. -/
inductive CallOutcome (dsize : Nat) (openFrame : OpenFrame) (i count : Nat) (src : Bytes) :
    Decoded → Prop where
  /-- All bytes are taken and no frame is closed. -/
  | ran {last : OpenFrame} {state : Rfc1662Vars} {dst : Bytes}
      (fed : feed (OpenFrame.step dsize) openFrame src = some (last, []))
      (stores : Stores dsize last state dst) :
      CallOutcome dsize openFrame i count src
        ⟨0, if src = [] then count else i + src.length - 1, state, dst⟩
  /-- The decoder stops at the flag that closes a frame. -/
  | closed {before : OpenFrame} {first rest dst : Bytes} (cut : src = first ++ pppFlag :: rest)
      (fed : feed (OpenFrame.step dsize) openFrame first = some (before, []))
      (clear : before.pending = false) (framed : 2 ≤ before.symbols.length)
      (fits : before.symbols.length ≤ dsize)
      (symbols : dst.take before.symbols.length = before.symbols) (room : dsize ≤ dst.length) :
      CallOutcome dsize openFrame i count src
        ⟨(before.symbols.length - 2 : Nat), i + first.length, ⟨0, 0⟩, dst⟩
  /-- The decoder stops at a byte that the buffer has no room for. -/
  | tooLong {before : OpenFrame} {first rest dst : Bytes} {ch : UInt8} {state : Rfc1662Vars}
      (cut : src = first ++ ch :: rest)
      (fed : feed (OpenFrame.step dsize) openFrame first = some (before, []))
      (full : before.step dsize ch = none)
      (stores : Stores dsize ⟨before.symbols, false⟩ state dst) :
      CallOutcome dsize openFrame i count src ⟨-einval, i + first.length, state, dst⟩

section Call

variable {dsize : Nat} {openFrame : OpenFrame} {state : Rfc1662Vars} {src dst : Bytes}

/-- **What a call of the decoder does**, from index `i` on. -/
theorem callOutcome_decode (src : Bytes) {openFrame : OpenFrame} {state : Rfc1662Vars}
    {dst : Bytes} (i count : Nat) (stores : Stores dsize openFrame state dst) :
    CallOutcome dsize openFrame i count src
      (pppdRfc1662DecodeLoop dsize i state dst count src) := by
  have outcome := pppdRfc1662DecodeLoop_outcome dsize src i count state dst
  generalize pppdRfc1662DecodeLoop dsize i state dst count src = decoded at outcome ⊢
  cases outcome with
  | ran fed =>
      obtain ⟨last, fed', stores'⟩ := stores.feed fed
      exact .ran fed' stores'
  | packet cut fed clear framed =>
      obtain ⟨before, fed', stores'⟩ := stores.feed fed
      rw [stores'.count] at framed ⊢
      exact .closed cut fed' (stores'.escape_eq_zero_iff.mp clear) framed stores'.fits
        stores'.symbols stores'.room
  | @tooLong _ _ _ ch cut fed full =>
      obtain ⟨before, fed', stores'⟩ := stores.feed fed
      have none : before.step dsize ch = none := by
        have both := stores'.step ch
        rw [full] at both
        generalize before.step dsize ch = result at both ⊢
        cases both
        rfl
      exact .tooLong cut fed' none
        ⟨stores'.count, rfl, stores'.symbols, stores'.fits, stores'.room⟩

end Call

end IsdnRas.Ppp
