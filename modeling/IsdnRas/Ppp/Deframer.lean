import IsdnRas.Library.Transducer
import IsdnRas.Ppp.Rfc1662

/-!
# The decoder byte by byte

The decoder is called on a piece of the stream and keeps its state between calls. A piece is
taken byte by byte: `deframeInto` decodes one byte into a buffer, and `DecodeOutcome` says
what a call does in these terms. It takes all bytes, or it stops at the flag that ends a
packet, or at a byte that the buffer has no room for.
-/

set_option autoImplicit false

namespace IsdnRas.Ppp

/-- The decoder state and the packet so far. -/
structure Deframer where
  vars : Rfc1662Vars
  buf : Bytes
deriving Repr, DecidableEq

/-- Decode one byte. It fails when the frame exceeds the buffer. -/
def deframeInto (dsize : Nat) (deframer : Deframer) (ch : UInt8) :
    Option (Deframer × List Bytes) :=
  let ⟨vars, buf⟩ := deframer
  if ch = pppFlag then
    if vars.escape ≠ 0 then some (deframer, [])
    else if 2 ≤ vars.deframedBytes then
      some (⟨⟨0, 0⟩, buf⟩,
        if 2 < vars.deframedBytes then [buf.take (vars.deframedBytes - 2)] else [])
    else some (⟨⟨0, vars.escape⟩, buf⟩, [])
  else if ch = pppEscape then some (⟨⟨vars.deframedBytes, pppTrans⟩, buf⟩, [])
  else if vars.deframedBytes < dsize then
    some (⟨⟨vars.deframedBytes + 1, 0⟩, buf.set vars.deframedBytes (ch ^^^ vars.escape)⟩, [])
  else none

/-- What a call of the decoder does with `src`. -/
inductive DecodeOutcome (dsize : Nat) (deframer : Deframer) (i count : Nat) (src : Bytes) :
    Decoded → Prop where
  /-- All bytes are taken and no packet ends. -/
  | ran {last : Deframer} (fed : feed (deframeInto dsize) deframer src = some (last, [])) :
      DecodeOutcome dsize deframer i count src
        ⟨0, if src = [] then count else i + src.length - 1, last.vars, last.buf⟩
  /-- The decoder stops at the flag that ends a packet. -/
  | packet {before : Deframer} {first rest : Bytes} (cut : src = first ++ pppFlag :: rest)
      (fed : feed (deframeInto dsize) deframer first = some (before, []))
      (clear : before.vars.escape = 0) (framed : 2 ≤ before.vars.deframedBytes) :
      DecodeOutcome dsize deframer i count src
        ⟨(before.vars.deframedBytes - 2 : Nat), i + first.length, ⟨0, 0⟩, before.buf⟩
  /-- The decoder stops at a byte that the buffer has no room for. -/
  | tooLong {before : Deframer} {first rest : Bytes} {ch : UInt8} (cut : src = first ++ ch :: rest)
      (fed : feed (deframeInto dsize) deframer first = some (before, []))
      (full : deframeInto dsize before ch = none) :
      DecodeOutcome dsize deframer i count src
        ⟨-einval, i + first.length, { before.vars with escape := 0 }, before.buf⟩

variable {dsize : Nat}

/-- A byte that is taken before the decoder goes on. -/
theorem DecodeOutcome.cons {deframer next : Deframer} {i count : Nat} {ch : UInt8} {src : Bytes}
    {decoded : Decoded} (stepped : deframeInto dsize deframer ch = some (next, []))
    (outcome : DecodeOutcome dsize next (i + 1) i src decoded) :
    DecodeOutcome dsize deframer i count (ch :: src) decoded := by
  have first : feed (deframeInto dsize) deframer [ch] = some (next, []) := by
    simp [feed, stepped]
  cases outcome with
  | ran fed =>
      rw [lastIndex_cons i count ch src]
      exact .ran (feed_append_some first fed)
  | @packet before taken rest cut fed clear framed =>
      have longer : ch :: src = (ch :: taken) ++ pppFlag :: rest := by rw [cut, List.cons_append]
      have taken_fed : feed (deframeInto dsize) deframer (ch :: taken) = some (before, []) :=
        feed_append_some first fed
      rw [index_cons i ch taken]
      exact .packet longer taken_fed clear framed
  | @tooLong before taken rest last cut fed full =>
      have longer : ch :: src = (ch :: taken) ++ last :: rest := by rw [cut, List.cons_append]
      have taken_fed : feed (deframeInto dsize) deframer (ch :: taken) = some (before, []) :=
        feed_append_some first fed
      rw [index_cons i ch taken]
      exact .tooLong longer taken_fed full

/-- **What a call of the decoder does.** -/
theorem pppdRfc1662DecodeLoop_outcome (dsize : Nat) (src : Bytes) :
    ∀ (i count : Nat) (state : Rfc1662Vars) (dst : Bytes),
      DecodeOutcome dsize ⟨state, dst⟩ i count src
        (pppdRfc1662DecodeLoop dsize i state dst count src) := by
  induction src with
  | nil =>
      intro i count state dst
      have nothing : feed (deframeInto dsize) ⟨state, dst⟩ [] = some (⟨state, dst⟩, []) := rfl
      exact .ran nothing
  | cons ch src ih =>
      intro i count state dst
      unfold pppdRfc1662DecodeLoop
      split
      case isTrue flag =>
          subst flag
          split
          case isTrue escaped =>
              refine .cons ?_ (ih ..)
              simp [deframeInto, escaped]
          case isFalse clear =>
          have clear' : state.escape = 0 := not_not.mp clear
          split
          case isTrue framed =>
              have now : pppFlag :: src = [] ++ pppFlag :: src := rfl
              exact .packet now rfl clear' framed
          case isFalse short =>
          split
          case isTrue one =>
              refine .cons ?_ (ih ..)
              simp [deframeInto, clear', one]
          case isFalse other =>
              have zero : state.deframedBytes = 0 := by omega
              refine .cons ?_ (ih ..)
              rcases state with ⟨deframedBytes, escape⟩
              simp_all [deframeInto]
      case isFalse data =>
      split
      case isTrue escape =>
          subst escape
          refine .cons ?_ (ih ..)
          simp [deframeInto, data]
      case isFalse plain =>
      split
      case isTrue fits =>
          refine .cons ?_ (ih ..)
          simp [deframeInto, data, plain, fits]
      case isFalse full =>
          have now : ch :: src = [] ++ ch :: src := rfl
          have none : deframeInto dsize ⟨state, dst⟩ ch = none := by
            simp [deframeInto, data, plain, full]
          exact .tooLong now rfl none

end IsdnRas.Ppp
