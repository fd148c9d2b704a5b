import IsdnRas.V110.Characters

/-!
# Framing errors

A stop bit that is zero sets `OSMO_SUART_F_FRAMING_ERROR` in the flags. But the flags are
enumerated from zero on, so this mask has no bit, and no message can report a framing error
(`not_reports`). Framing errors are reported as they should be exactly when there are none
(`framing_reported_iff`).

Where the characters of a stream end is told apart here from the way the receiver counts
their bits.
-/

set_option autoImplicit false

namespace IsdnRas.V110

/-! ## Characters of a bit stream -/

/-- How many bits of a character have been on the line, and whether one of its stop bits was
zero. -/
structure LinePhase where
  count : Nat
  bad : Bool
deriving Repr, DecidableEq

def LinePhase.next (cfg : OsmoSoftUartCfg) (phase : LinePhase) (bit : Ubit) : LinePhase :=
  if phase.count = 0 then { count := if bit then 0 else 1, bad := false }
  else if phase.count + 1 = cfg.numBits then { count := 0, bad := false }
  else
    { count := phase.count + 1
      bad := phase.bad ||
        (1 + cfg.numDataBits.toNat + cfg.numParityBits ≤ phase.count && !bit) }

/-- The line after some bits. -/
def phaseAfter (cfg : OsmoSoftUartCfg) (bits : List Ubit) : LinePhase :=
  bits.foldl (LinePhase.next cfg) { count := 0, bad := false }

/-- A bit is the last one of a character, and a stop bit of this character is zero. -/
def EndsBadly (cfg : OsmoSoftUartCfg) (phase : LinePhase) (bit : Ubit) : Prop :=
  phase.count ≠ 0 ∧ phase.count + 1 = cfg.numBits ∧ (phase.bad = true ∨ bit = false)

instance (cfg : OsmoSoftUartCfg) (phase : LinePhase) (bit : Ubit) :
    Decidable (EndsBadly cfg phase bit) := inferInstanceAs (Decidable (_ ∧ _))

/-! ## Reports -/

/-- The flags of a message report a framing error. -/
def Reports (flags : UInt32) : Prop := flags &&& osmoSuartFFramingError ≠ 0

/-- A bit gives a character to the buffer, and at once a message that ends with it and
reports a framing error. -/
def DeliversError (last next : OsmoSoftUart) : Prop :=
  ∃ ch message, next.received = last.received ++ [ch] ∧
    next.delivered = last.delivered ++ [message] ∧
    message.data.getLast? = some ch ∧ Reports message.flags

/-- Every character with a stop bit that is zero is delivered with an error, and no message
reports an error behind another character. -/
def FramingReported (msgbAllocC : Nat → Nat) (sua : OsmoSoftUart) (bits : List Ubit) : Prop :=
  ∀ before bit, before ++ [bit] <+: bits →
    (EndsBadly sua.cfg (phaseAfter sua.cfg before) bit → ∃ last next,
      osmoSoftUartRxUbits msgbAllocC sua before = some last ∧
        osmoUartRxBit msgbAllocC last bit = some next ∧ DeliversError last next) ∧
    ∀ last next, osmoSoftUartRxUbits msgbAllocC sua before = some last →
      osmoUartRxBit msgbAllocC last bit = some next →
      (∃ message ∈ next.delivered.drop last.delivered.length, Reports message.flags) →
        EndsBadly sua.cfg (phaseAfter sua.cfg before) bit

/-- The mask has no bit. -/
theorem not_reports (flags : UInt32) : ¬ Reports flags :=
  not_not_intro UInt32.and_zero

/-- **Framing errors are reported as they should be exactly when no character has a stop bit
that is zero.** -/
theorem framing_reported_iff (msgbAllocC : Nat → Nat) (sua : OsmoSoftUart) (bits : List Ubit) :
    FramingReported msgbAllocC sua bits ↔ ∀ before bit, before ++ [bit] <+: bits →
      ¬ EndsBadly sua.cfg (phaseAfter sua.cfg before) bit := by
  constructor
  · intro reported before bit within bad
    obtain ⟨_, _, -, -, _, message, -, -, -, reports⟩ := (reported before bit within).1 bad
    exact not_reports message.flags reports
  · intro clean before bit within
    refine ⟨fun bad => absurd bad (clean before bit within), ?_⟩
    rintro last next - - ⟨message, -, reports⟩
    exact absurd reports (not_reports message.flags)

def twoBytes : OsmoSoftUartCfg := { eightBits with rxBufSize := 2 }

/-- A character with a stop bit that is zero. -/
def badCharacter : List Ubit := [false] ++ dataBits 8 0x41 ++ [false]

/-- A bad character is not delivered when it is the first, and without an error when it is
the second. -/
theorem framing_error_lost : twoBytes.Accepted ∧ twoBytes.rxCb = true ∧
    UartReached id (enabledWith id twoBytes) ∧
    (osmoSoftUartRxUbits id (enabledWith id twoBytes) badCharacter).map (·.delivered) = some [] ∧
    (osmoSoftUartRxUbits id (enabledWith id twoBytes) (badCharacter ++ badCharacter)).map
      (·.delivered) = some [⟨[0x41, 0x41], 0, 2⟩] ∧
    ¬ FramingReported id (enabledWith id twoBytes) badCharacter := by
  have accepted : twoBytes.Accepted := by decide
  refine ⟨accepted, rfl, enabledWith_reached id accepted, by decide +kernel, by decide +kernel,
    fun reported => ?_⟩
  have bad : EndsBadly twoBytes (phaseAfter twoBytes badCharacter.dropLast) false := by decide
  obtain ⟨last, next, run, step, _, message, -, delivered, -, -⟩ :=
    (reported badCharacter.dropLast false ⟨[], by decide⟩).1 bad
  have nothing : (osmoSoftUartRxUbits id (enabledWith id twoBytes) badCharacter.dropLast).bind
      (fun last => (osmoUartRxBit id last false).map (·.delivered)) = some [] := by decide +kernel
  rw [run, Option.bind_some, step, Option.map_some, delivered] at nothing
  exact absurd (Option.some.inj nothing) (by simp)

end IsdnRas.V110
