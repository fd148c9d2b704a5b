import IsdnRas.Library.WordMatcher
import IsdnRas.V110.Bits

/-!
# The fax synchronisation word

`fax_test.c` looks for a word of 64 bits in the D-bits of the V.110 frames. `syncpos` is
the number of bits of the word that have been matched, and a bit that does not continue the
match may be the first bit of the word.

A synchronisation is declared only on the word, but not on every word. A bit in front of it
can begin a match that takes the first bits of the word for its own, and when that match
ends the word has already begun (`hidden_syncword`). The word is found exactly when it
begins at `syncpos` zero, or at a position of the word that does not hold its first bit
(`sync_declared_iff_heard`).
-/

set_option autoImplicit false

namespace IsdnRas.V110

/-! ## The call-back of a frame -/

/-- The calls of the fax decoder. -/
inductive SpanCall where
  | inSync
  | faxBits (bit : Ubit)
deriving Repr, DecidableEq

/-- The globals, with the bits of `frame_bits` below `bit`, and the calls that were made. -/
structure FaxTest where
  syncpos : Nat
  frameBits : List Ubit
  inSync : Bool
  dataMode : Bool
  calls : List SpanCall
deriving Repr, DecidableEq

def FaxTest.start : FaxTest :=
  { syncpos := 0, frameBits := [], inSync := false, dataMode := false, calls := [] }

def FaxTest.bit (fax : FaxTest) : Nat := fax.frameBits.length

def syncword : List UInt8 := [0x3e, 0x37, 0x50, 0x96, 0xc1, 0xc8, 0xaf, 0x69]

def syncwordBits (osmo : Osmo) : List Ubit := (osmo.pbit2ubit syncword 64).toList

/-- The bytes that start the data mode. -/
def dataModeBytes : List UInt8 := [0x33, 0x0f, 0x33, 0x0f, 0x33, 0x0f, 0x33, 0x0f]

/-- The two comparisons of a D-bit with the synchronisation word. -/
def matchSyncword (osmo : Osmo) (syncpos : Nat) (dBit : Ubit) : Nat :=
  let syncpos := if (syncwordBits osmo)[syncpos]? ≠ some dBit then 0 else syncpos
  if (syncwordBits osmo)[syncpos]? = some dBit then syncpos + 1 else syncpos

/-- Sync found. -/
def FaxTest.syncFound (fax : FaxTest) : FaxTest :=
  let fax := { fax with syncpos := 0, frameBits := [] }
  if fax.inSync then fax
  else { fax with inSync := true, calls := fax.calls ++ [.inSync] }

/-- 64 bits have been collected. -/
def FaxTest.blockComplete (osmo : Osmo) (fax : FaxTest) : FaxTest :=
  let frameBits := fax.frameBits
  let fax := { fax with frameBits := [] }
  if osmo.ubit2pbit frameBits = dataModeBytes then { fax with dataMode := true }
  else if fax.dataMode then { fax with calls := fax.calls ++ frameBits.map .faxBits }
  else fax

/-- The loop over the D-bits, for one of them. -/
def v110Bit (osmo : Osmo) (fax : FaxTest) (dBit : Ubit) : FaxTest :=
  let fax := { fax with
    syncpos := matchSyncword osmo fax.syncpos dBit
    frameBits := fax.frameBits ++ [dBit] }
  let fax := if fax.syncpos = 64 then fax.syncFound else fax
  if fax.bit = 64 then fax.blockComplete osmo else fax

def v110BitsCb (osmo : Osmo) (fax : FaxTest) (bits : List Ubit) : FaxTest :=
  match osmo.v110DecodeFrame bits with
  | none => fax
  | some dBits => dBits.foldl (v110Bit osmo) fax

/-! ## The stream of D-bits -/

variable (osmo : Osmo)

/-- The D-bits of some frames. -/
def dBitsOf (frames : List (List Ubit)) : List Ubit :=
  frames.flatMap fun bits => (osmo.v110DecodeFrame bits).getD []

/-- The state after some D-bits. -/
def afterBits (dBits : List Ubit) : FaxTest := dBits.foldl (v110Bit osmo) .start

/-- A match is declared on the last of some D-bits: `syncpos` reaches 64, and the bit
counter restarts. -/
def SyncDeclared (heard : List Ubit) : Prop :=
  ∃ before dBit, heard = before ++ [dBit] ∧
    matchSyncword osmo (afterBits osmo before).syncpos dBit = 64 ∧
    (afterBits osmo heard).syncpos = 0 ∧ (afterBits osmo heard).bit = 0

/-- The last 64 D-bits are the synchronisation word, and none of them belongs to one that
was detected before. -/
def SyncwordHeard (heard : List Ubit) : Prop :=
  ∃ before, heard = before ++ syncwordBits osmo ∧
    ∀ k, 0 < k → k < 64 → ¬ SyncDeclared osmo (before ++ (syncwordBits osmo).take k)

variable {osmo}

@[simp] theorem length_syncwordBits : (syncwordBits osmo).length = 64 := Vector.length_toList

theorem dBitsOf_cons (bits : List Ubit) (frames : List (List Ubit)) :
    dBitsOf osmo (bits :: frames) =
      (osmo.v110DecodeFrame bits).getD [] ++ dBitsOf osmo frames := rfl

theorem foldl_v110BitsCb (frames : List (List Ubit)) (fax : FaxTest) :
    frames.foldl (v110BitsCb osmo) fax = (dBitsOf osmo frames).foldl (v110Bit osmo) fax := by
  induction frames generalizing fax with
  | nil => rfl
  | cons bits frames ih =>
      rw [List.foldl_cons, ih, dBitsOf_cons, List.foldl_append, v110BitsCb]
      cases osmo.v110DecodeFrame bits <;> rfl

@[simp] theorem FaxTest.syncFound_syncpos (fax : FaxTest) : fax.syncFound.syncpos = 0 := by
  rw [syncFound]
  split <;> rfl

@[simp] theorem FaxTest.syncFound_bit (fax : FaxTest) : fax.syncFound.bit = 0 := by
  rw [syncFound]
  split <;> rfl

@[simp] theorem FaxTest.blockComplete_syncpos (fax : FaxTest) :
    (fax.blockComplete osmo).syncpos = fax.syncpos := by
  simp only [blockComplete]
  split
  · rfl
  · split <;> rfl

theorem v110Bit_syncpos (fax : FaxTest) (dBit : Ubit) :
    (v110Bit osmo fax dBit).syncpos =
      if matchSyncword osmo fax.syncpos dBit = 64 then 0
      else matchSyncword osmo fax.syncpos dBit := by
  unfold v110Bit
  by_cases complete : matchSyncword osmo fax.syncpos dBit = 64
  · simp [complete]
  · simp only [complete, if_false]
    split <;> simp

/-- The bit counter restarts with the match. -/
theorem v110Bit_bit {fax : FaxTest} {dBit : Ubit}
    (complete : matchSyncword osmo fax.syncpos dBit = 64) : (v110Bit osmo fax dBit).bit = 0 := by
  simp [v110Bit, complete]

theorem afterBits_append (before : List Ubit) (dBit : Ubit) :
    afterBits osmo (before ++ [dBit]) = v110Bit osmo (afterBits osmo before) dBit := by
  rw [afterBits, List.foldl_append]
  rfl

/-- `syncpos` is the position of the matcher. -/
theorem afterBits_syncpos (dBits : List Ubit) :
    (afterBits osmo dBits).syncpos = positionAfter (syncwordBits osmo) dBits := by
  induction dBits using List.reverseRecOn with
  | nil => rfl
  | append_singleton before dBit ih =>
      rw [afterBits_append, v110Bit_syncpos, positionAfter_append, nextPosition, ih,
        length_syncwordBits]
      rfl

theorem syncDeclared_iff {heard : List Ubit} :
    SyncDeclared osmo heard ↔ Declared (syncwordBits osmo) heard := by
  constructor
  · rintro ⟨before, dBit, rfl, complete, -, -⟩
    rw [afterBits_syncpos] at complete
    exact ⟨before, dBit, rfl, complete.trans length_syncwordBits.symm⟩
  · rintro ⟨before, dBit, rfl, reached⟩
    have complete : matchSyncword osmo (afterBits osmo before).syncpos dBit = 64 := by
      rw [afterBits_syncpos]
      exact reached.trans length_syncwordBits
    refine ⟨before, dBit, rfl, complete, ?_, ?_⟩ <;> rw [afterBits_append]
    · rw [v110Bit_syncpos, if_pos complete]
    · exact v110Bit_bit complete

theorem syncwordHeard_iff {heard : List Ubit} :
    SyncwordHeard osmo heard ↔ Fresh (syncwordBits osmo) heard := by
  simp only [SyncwordHeard, Fresh, syncDeclared_iff, length_syncwordBits]

/-- **A match is declared on the synchronisation words and nowhere else, exactly when each
of them begins at `syncpos` zero or at a bit of the word that differs from its first.** -/
theorem sync_declared_iff_heard (osmo : Osmo) (frames : List (List Ubit)) :
    frames.foldl (v110BitsCb osmo) .start = afterBits osmo (dBitsOf osmo frames) ∧
      ((∀ heard, heard <+: dBitsOf osmo frames →
          (SyncDeclared osmo heard ↔ SyncwordHeard osmo heard)) ↔
        ∀ before, before ++ syncwordBits osmo <+: dBitsOf osmo frames →
          SyncwordHeard osmo (before ++ syncwordBits osmo) →
          (afterBits osmo before).syncpos = 0 ∨
            (syncwordBits osmo)[(afterBits osmo before).syncpos]? ≠ (syncwordBits osmo)[0]?) := by
  refine ⟨foldl_v110BitsCb frames .start, ?_⟩
  have nonempty : syncwordBits osmo ≠ [] := List.length_pos_iff.mp (by simp)
  simp only [syncDeclared_iff, syncwordHeard_iff, afterBits_syncpos]
  exact declared_iff_fresh_iff nonempty (dBitsOf osmo frames)

/-! ## A hidden word -/

/-- A zero, and then the synchronisation word. -/
def hiddenWord : List Ubit := false :: syncwordBits .plain

/-- Two frames with these D-bits, and zeros behind them. -/
def hiddenWordFrames : List (List Ubit) :=
  let dBits := hiddenWord ++ List.replicate 31 false
  [transparentFrame dBits, transparentFrame (dBits.drop 48)]

theorem dBitsOf_hiddenWordFrames :
    dBitsOf .plain hiddenWordFrames = hiddenWord ++ List.replicate 31 false := by
  decide +kernel

/-- The word is not found behind a zero. -/
theorem hidden_syncword : hiddenWord <+: dBitsOf .plain hiddenWordFrames ∧
    SyncwordHeard .plain hiddenWord ∧ ¬ SyncDeclared .plain hiddenWord := by
  have nonempty : syncwordBits .plain ≠ [] := by decide
  have heard : Fresh (syncwordBits .plain) ([false] ++ syncwordBits .plain) := by
    refine ⟨[false], rfl, fun k positive bound declared => ?_⟩
    -- the first bits of the word are zeros, so it does not begin with the zero in front of it
    obtain ⟨before, same, -⟩ := declared_fresh nonempty declared
    have lengths := congrArg List.length same
    have third := congrArg (fun bits => bits[2]?) same
    rw [length_syncwordBits] at bound
    simp only [List.length_append, List.length_take, length_syncwordBits, List.length_singleton]
      at lengths
    obtain rfl : k = 63 := by omega
    obtain rfl : before = [] := List.length_eq_zero_iff.mp (by omega)
    exact absurd third (by decide)
  refine ⟨dBitsOf_hiddenWordFrames ▸ List.prefix_append _ _, syncwordHeard_iff.mpr heard, ?_⟩
  rw [syncDeclared_iff]
  intro declared
  exact absurd ((declared_iff nonempty heard).mp declared) (by unfold Ready; decide)

end IsdnRas.V110
