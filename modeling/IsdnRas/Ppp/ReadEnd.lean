import IsdnRas.Ppp.ReadCuts

/-!
# Where a read ends

The loop of `pppdInputCb` goes on from the byte at which the decoder has stopped.
After a packet that byte is its last flag, which does nothing when it is read
again. After a frame that is too long it is the byte for which the buffer had no
room. The decoder keeps the packet, so the byte has no room the next time either,
and the loop stands still.

It ends all the same when that byte is the last one of the read, which is where
the loop stops. So it ends exactly when the bytes before the last one fit
(`pppdInputLoop_ends_iff`).
-/

set_option autoImplicit false

namespace IsdnRas.Ppp

/-- The loop ends after some number of rounds. -/
def LoopEnds (rxBuf : Bytes) (input : PppdInput) : Prop :=
  ∃ rounds, (pppdInputLoop rxBuf rounds 0 input).2 = true

/-- All bytes but the last one fit into the packet they belong to. -/
def FitsBeforeLast (input : PppdInput) (rxBuf : Bytes) : Prop :=
  feed deframe input.deframer rxBuf.dropLast ≠ none

instance (input : PppdInput) (rxBuf : Bytes) : Decidable (FitsBeforeLast input rxBuf) :=
  inferInstanceAs (Decidable (_ ≠ _))

section Loop

variable {rxBuf src : Bytes} {bytesRead rounds : Nat} {input : PppdInput}

/-- A byte without room has none after an escape has been forgotten. -/
theorem deframe_forget_escape {before : Deframer} {ch : UInt8} (full : deframe before ch = none) :
    deframe ⟨{ before.vars with escape := 0 }, before.buf⟩ ch = none := by
  rcases before with ⟨⟨deframedBytes, escape⟩, buf⟩
  dsimp only [deframe, deframeInto] at full ⊢
  split at full
  case isTrue flag =>
      split at full
      · cases full
      · split at full <;> cases full
  case isFalse data =>
  rw [if_neg data]
  split at full
  case isTrue => cases full
  case isFalse plain =>
  rw [if_neg plain]
  split at full
  case isTrue => cases full
  case isFalse none => exact if_neg none

/-- The bytes before the last one, after those that the decoder has taken. -/
theorem feed_dropLast_of_cut {deframer before : Deframer} {taken rest : Bytes} {ch : UInt8}
    (cut : src = taken ++ ch :: rest) (fed : feed deframe deframer taken = some (before, []))
    (left : rest ≠ []) :
    feed deframe deframer src.dropLast = none ↔
      feed deframe before (ch :: rest.dropLast) = none := by
  have last : src.dropLast = taken ++ ch :: rest.dropLast := by
    rw [cut, List.dropLast_append_of_ne_nil (List.cons_ne_nil ch rest),
      List.dropLast_cons_of_ne_nil left]
  rw [last, feed_append fed]
  exact Option.map_eq_none_iff

/-- When a byte before the last one has no room and the first bytes fit, bytes
are left. -/
theorem rest_ne_nil_of_failed {deframer before : Deframer} {taken rest : Bytes} {ch : UInt8}
    (cut : src = taken ++ ch :: rest) (fed : feed deframe deframer taken = some (before, []))
    (failed : feed deframe deframer src.dropLast = none) : rest ≠ [] := by
  rintro rfl
  rw [cut, List.dropLast_concat, fed] at failed
  cases failed

/-- The flag that ends a packet leaves the decoder as it is before every packet. -/
theorem feed_flag_framed {before : Deframer} (clear : before.vars.escape = 0)
    (framed : 2 ≤ before.vars.deframedBytes) (rest : Bytes) :
    feed deframe before (pppFlag :: rest) = none ↔
      feed deframe ⟨⟨0, 0⟩, before.buf⟩ rest = none := by
  rcases before with ⟨⟨deframedBytes, escape⟩, buf⟩
  obtain rfl : escape = 0 := clear
  have framed' : 2 ≤ deframedBytes := framed
  simp [feed, deframeInto, framed']

/-- **The loop stands still** when a byte before the last one has no room. -/
theorem pppdInputLoop_not_ended : ∀ {rounds bytesRead : Nat} {input : PppdInput} {src : Bytes},
    rxBuf.drop bytesRead = src → feed deframe input.deframer src.dropLast = none →
      (pppdInputLoop rxBuf rounds bytesRead input).2 = false := by
  intro rounds
  induction rounds with
  | zero =>
      intro _ _ _ _ _
      rfl
  | succ rounds ih =>
      intro bytesRead input src unread failed
      have two : 2 ≤ src.length := by
        rcases src with _ | ⟨byte, _ | ⟨next, rest⟩⟩
        · cases failed
        · cases failed
        · simp
      have outcome :=
        pppdRfc1662DecodeLoop_outcome tempPackBufSize src 0 0 input.rfc1662State input.tempPackBuf
      rw [pppdInputLoop_succ unread two]
      simp only [pppdInputRound, pppdRfc1662Decode, unread]
      generalize pppdRfc1662DecodeLoop tempPackBufSize 0 input.rfc1662State input.tempPackBuf 0
        src = decoded at outcome
      cases outcome with
      | ran fed =>
          -- what fits as a whole fits without its last byte
          have nonempty : src ≠ [] := List.ne_nil_of_length_pos (by omega)
          have none := feed_append_none failed [src.getLast nonempty]
          rw [List.dropLast_append_getLast] at none
          cases none.symm.trans fed
      | @packet before taken rest cut fed clear framed =>
          have left := rest_ne_nil_of_failed cut fed failed
          have failed_rest := (feed_dropLast_of_cut cut fed left).mp failed
          refine ih (drop_of_cut unread cut) ?_
          rw [List.dropLast_cons_of_ne_nil left]
          have idle : Deframer.Idle ⟨⟨0, 0⟩, before.buf⟩ := rfl
          exact (feed_flag_idle idle _).trans ((feed_flag_framed clear framed _).mp failed_rest)
      | @tooLong before taken rest ch cut fed full =>
          have left := rest_ne_nil_of_failed cut fed failed
          refine ih (drop_of_cut unread cut) ?_
          rw [List.dropLast_cons_of_ne_nil left]
          simp only [PppdInput.deframer, feed, deframe_forget_escape full, Option.bind_none]

/-- One round of a loop that does not stand still: it ends, or goes on from the
flag of a packet. -/
theorem pppdInputLoop_ends_round (unread : rxBuf.drop bytesRead = src) (two : 2 ≤ src.length)
    (fits : feed deframe input.deframer src.dropLast ≠ none)
    (later : ∀ {next : PppdInput} {later : Nat} {taken rest : Bytes},
      src = taken ++ pppFlag :: rest → (taken = [] → ¬ input.deframer.Idle) →
        next.deframer.Idle → rxBuf.drop later = pppFlag :: rest →
          feed deframe next.deframer rest.dropLast ≠ none →
            (pppdInputLoop rxBuf (rounds + 1) later next).2 = true) :
    (pppdInputLoop rxBuf (rounds + 2) bytesRead input).2 = true := by
  have length : src.length = rxBuf.length - bytesRead := by rw [← unread, List.length_drop]
  have outcome :=
    pppdRfc1662DecodeLoop_outcome tempPackBufSize src 0 0 input.rfc1662State input.tempPackBuf
  rw [pppdInputLoop_succ unread two]
  simp only [pppdInputRound, pppdRfc1662Decode, unread]
  generalize pppdRfc1662DecodeLoop tempPackBufSize 0 input.rfc1662State input.tempPackBuf 0 src =
    decoded at outcome
  cases outcome with
  | ran fed => rw [pppdInputLoop_ran unread two]
  | @packet before taken rest cut fed clear framed =>
      refine later cut (not_idle_of_framed fed framed) rfl (drop_of_cut unread cut) ?_
      by_cases left : rest = []
      · subst left
        exact Option.some_ne_none _
      · intro failed
        refine fits ((feed_dropLast_of_cut cut fed left).mpr ?_)
        exact (feed_flag_framed clear framed _).mpr failed
  | @tooLong before taken rest ch cut fed full =>
      have last : rest = [] := by
        by_contra left
        refine fits ((feed_dropLast_of_cut cut fed left).mpr ?_)
        simp [feed, full]
      have lengths := congrArg List.length cut
      rw [last, List.length_append, List.length_singleton] at lengths
      have index : bytesRead + (0 + taken.length) = rxBuf.length - 1 := by omega
      simp only [index]
      rw [pppdInputLoop, if_neg (not_not.mpr rfl)]

/-- From a flag on, with no packet begun. -/
theorem pppdInputLoop_ends_idle : ∀ {rounds bytesRead : Nat} {input : PppdInput} {rest : Bytes},
    input.deframer.Idle → rxBuf.drop bytesRead = pppFlag :: rest → rest.length < rounds →
      feed deframe input.deframer rest.dropLast ≠ none →
        (pppdInputLoop rxBuf rounds bytesRead input).2 = true := by
  intro rounds
  induction rounds with
  | zero =>
      intro _ _ _ _ _ enough
      omega
  | succ rounds ih =>
      intro bytesRead input rest idle unread enough fits
      cases rest with
      | nil =>
          have length : rxBuf.length - bytesRead = 1 := by
            rw [← List.length_drop, unread, List.length_singleton]
          rw [pppdInputLoop, if_neg (by omega)]
      | cons byte rest =>
          rw [List.length_cons] at enough
          obtain ⟨rounds, rfl⟩ : ∃ fewer, rounds = fewer + 1 := ⟨rounds - 1, by omega⟩
          have fits' : feed deframe input.deframer (pppFlag :: byte :: rest).dropLast ≠ none := by
            rwa [List.dropLast_cons_of_ne_nil (List.cons_ne_nil byte rest), feed_flag_idle idle]
          apply pppdInputLoop_ends_round unread (by simp) fits'
          intro next later taken after cut fresh idle_next unread_next fits_next
          refine ih idle_next unread_next ?_ fits_next
          -- the first flag ends no packet, so another one did
          obtain ⟨head, tail, rfl⟩ := List.exists_cons_of_ne_nil fun none => fresh none idle
          have lengths := congrArg List.length cut
          simp only [List.length_cons, List.length_append] at lengths
          omega

/-- The rounds that the model allows are enough. -/
theorem pppdInputCb_ends (fits : FitsBeforeLast input rxBuf) :
    (pppdInputCb input rxBuf).2 = true := by
  rcases Nat.lt_or_ge rxBuf.length 2 with short | two
  · rw [pppdInputCb_of_one input (by omega)]
  · unfold pppdInputCb
    rw [if_neg (List.ne_nil_of_length_pos (by omega))]
    apply pppdInputLoop_ends_round List.drop_zero two fits
    intro next later taken rest cut _ idle unread fits_next
    refine pppdInputLoop_ends_idle idle unread ?_ fits_next
    rw [cut, List.length_append, List.length_cons]
    omega

end Loop

/-- **The loop ends** exactly when all bytes of the read but the last one fit into
the packets they belong to. -/
theorem pppdInputLoop_ends_iff (input : PppdInput) {rxBuf : Bytes} (some_read : rxBuf ≠ []) :
    LoopEnds rxBuf input ↔ FitsBeforeLast input rxBuf := by
  constructor
  · rintro ⟨rounds, ended⟩ failed
    rw [pppdInputLoop_not_ended List.drop_zero failed] at ended
    cases ended
  · intro fits
    have ends := pppdInputCb_ends fits
    unfold pppdInputCb at ends
    rw [if_neg some_read] at ends
    exact ⟨_, ends⟩

/-- A full buffer and two flags. -/
theorem pppdInputLoop_ends_two_flags :
    LoopEnds [pppFlag, pppFlag] ⟨⟨2048, 0⟩, List.replicate tempPackBufSize 0, [], []⟩ :=
  (pppdInputLoop_ends_iff _ (by decide)).mpr (by decide)

/-- **The loop never ends** when the buffer is full and two data bytes are read:
the decoder stops at the first of them again and again. -/
theorem full_buffer_never_ends :
    ¬ LoopEnds [0x41, 0x42] ⟨⟨2048, 0⟩, List.replicate tempPackBufSize 0, [], []⟩ := by
  rintro ⟨rounds, ended⟩
  have failed : feed deframe (PppdInput.deframer
      ⟨⟨2048, 0⟩, List.replicate tempPackBufSize 0, [], []⟩)
        (List.dropLast [(0x41 : UInt8), 0x42]) = none := rfl
  rw [pppdInputLoop_not_ended List.drop_zero failed] at ended
  cases ended

end IsdnRas.Ppp
