import IsdnRas.Fax.Pages
import IsdnRas.V110.FaxSync

/-!
# The fax in a V.110 stream

`fax_test.c` finds a fax in the D-bits of V.110 frames and calls the fax decoder: once when
the synchronisation word is found, and then with blocks of 64 bits. The modems are not used,
so no parameters are ever received, and no page has error correction.

Whatever the frames are, the decoder is called for whole blocks, the T.4 receiver is given
exactly their bits, nothing is given to the HDLC receiver, and at most one page is started
and ended (`fax_test_one_page`).
-/

set_option autoImplicit false

namespace IsdnRas.Fax

open V110 (Osmo Ubit FaxTest SpanCall)

/-! ## The calls of the decoder -/

/-- The bits that the decoder is called with. -/
def faxBitsOf (calls : List SpanCall) : List Bool :=
  calls.filterMap fun
    | .inSync => none
    | .faxBits bit => some bit

theorem faxBitsOf_append (first second : List SpanCall) :
    faxBitsOf (first ++ second) = faxBitsOf first ++ faxBitsOf second := List.filterMap_append

@[simp] theorem faxBitsOf_faxBits (bits : List Ubit) : faxBitsOf (bits.map .faxBits) = bits := by
  induction bits with
  | nil => rfl
  | cons bit rest ih => exact congrArg (bit :: ·) ih

/-- What the frame call-back keeps: one synchronisation at most, and whole blocks. -/
structure CallsBlocks (test : FaxTest) : Prop where
  synced : test.calls.count .inSync = if test.inSync then 1 else 0
  blocks : 64 ∣ (faxBitsOf test.calls).length

variable {osmo : Osmo} {test : FaxTest}

theorem CallsBlocks.syncFound (callsBlocks : CallsBlocks test) : CallsBlocks test.syncFound := by
  unfold FaxTest.syncFound
  dsimp only
  split
  case isTrue => exact ⟨callsBlocks.synced, callsBlocks.blocks⟩
  case isFalse searching =>
      have synced := callsBlocks.synced
      rw [if_neg searching] at synced
      constructor
      · simp [List.count_append, synced]
      · rw [faxBitsOf_append]
        simpa [faxBitsOf] using callsBlocks.blocks

theorem CallsBlocks.blockComplete (callsBlocks : CallsBlocks test)
    (full : test.frameBits.length = 64) : CallsBlocks (test.blockComplete osmo) := by
  unfold FaxTest.blockComplete
  dsimp only
  split
  · exact ⟨callsBlocks.synced, callsBlocks.blocks⟩
  · split
    case isFalse => exact ⟨callsBlocks.synced, callsBlocks.blocks⟩
    case isTrue =>
        constructor
        · have none : (test.frameBits.map SpanCall.faxBits).count .inSync = 0 := by
            refine List.count_eq_zero.mpr fun member => ?_
            obtain ⟨_, -, same⟩ := List.mem_map.mp member
            cases same
          dsimp only
          rw [List.count_append, none]
          exact callsBlocks.synced
        · dsimp only
          rw [faxBitsOf_append, faxBitsOf_faxBits, List.length_append, full]
          exact Nat.dvd_add callsBlocks.blocks (Nat.dvd_refl 64)

theorem CallsBlocks.bit (callsBlocks : CallsBlocks test) (dBit : Ubit) :
    CallsBlocks (V110.v110Bit osmo test dBit) := by
  have taken : CallsBlocks { test with
      syncpos := V110.matchSyncword osmo test.syncpos dBit
      frameBits := test.frameBits ++ [dBit] } := ⟨callsBlocks.synced, callsBlocks.blocks⟩
  unfold V110.v110Bit
  dsimp only
  split
  case isTrue =>
      split
      case isTrue full => exact taken.syncFound.blockComplete full
      case isFalse => exact taken.syncFound
  case isFalse =>
      split
      case isTrue full => exact taken.blockComplete full
      case isFalse => exact taken

theorem callsBlocks_foldl (dBits : List Ubit) : ∀ {test : FaxTest}, CallsBlocks test →
    CallsBlocks (dBits.foldl (V110.v110Bit osmo) test) := by
  induction dBits with
  | nil => exact fun callsBlocks => callsBlocks
  | cons dBit rest ih => exact fun callsBlocks => ih (callsBlocks.bit dBit)

/-! ## The decoder behind them -/

/-- The step of the decoder for a call. -/
def faxOp : SpanCall → FaxOp
  | .inSync => .spanInSync
  | .faxBits bit => .spanFaxBits bit

def faxOps (calls : List SpanCall) : List FaxOp := calls.map faxOp

/-- The bits given to the T.4 receiver. -/
def putBitsOf (calls : List T4Call) : List Bool :=
  calls.filterMap fun
    | .putBit bit => some bit
    | _ => none

/-- The starts and ends of pages. -/
def marksOf (calls : List T4Call) : List T4Call :=
  calls.filter fun call => call = .startPage ∨ call = .endPage

theorem putBitsOf_append (first second : List T4Call) :
    putBitsOf (first ++ second) = putBitsOf first ++ putBitsOf second := List.filterMap_append

theorem marksOf_append (first second : List T4Call) :
    marksOf (first ++ second) = marksOf first ++ marksOf second := List.filter_append ..

/-- A page is open or not. A page that is not open cannot be ended. -/
def markStep (isOpen : Bool) : T4Call → Option Bool
  | .startPage => some true
  | .endPage => if isOpen then some false else none
  | _ => some isOpen

/-- The other calls do not open or end a page. -/
theorem runOps_marksOf (calls : List T4Call) : ∀ isOpen : Bool,
    runOps markStep isOpen (marksOf calls) = runOps markStep isOpen calls := by
  induction calls with
  | nil => exact fun _ => rfl
  | cons call rest ih =>
      intro isOpen
      cases call with
      | startPage => exact ih true
      | endPage =>
          cases isOpen with
          | true => exact ih false
          | false => rfl
      | setRxEncoding | setXResolution | setYResolution | setImageWidth | putBit =>
          exact ih isOpen

theorem mem_marksOf {calls : List T4Call} {call : T4Call} (member : call ∈ marksOf calls) :
    call = .startPage ∨ call = .endPage := of_decide_eq_true (List.mem_filter.mp member).2

/-- Nothing follows a page when no other one is started. -/
theorem eq_nil_of_closed {marks : List T4Call} {isOpen : Bool}
    (among : ∀ call ∈ marks, call = .startPage ∨ call = .endPage) (none : .startPage ∉ marks)
    (ran : runOps markStep false marks = some isOpen) : marks = [] := by
  cases marks with
  | nil => rfl
  | cons call rest =>
      rcases among call List.mem_cons_self with rfl | rfl
      · exact absurd List.mem_cons_self none
      · cases ran

/-- A page that is started once is ended once at most. -/
theorem marksOf_prefix {calls : List T4Call} {isOpen : Bool}
    (marked : runOps markStep false calls = some isOpen)
    (once : (marksOf calls).count .startPage ≤ 1) : marksOf calls <+: [.startPage, .endPage] := by
  have among := fun call => @mem_marksOf calls call
  rw [← runOps_marksOf] at marked
  generalize marksOf calls = marks at marked once among ⊢
  match marks with
  | [] => exact List.nil_prefix
  | [call] =>
      rcases among call List.mem_cons_self with rfl | rfl
      · exact ⟨[.endPage], rfl⟩
      · cases marked
  | first :: second :: rest =>
      rcases among first List.mem_cons_self with rfl | rfl
      case inr => cases marked
      have later : .startPage ∉ second :: rest := by
        rw [List.count_cons_self] at once
        exact List.count_eq_zero.mp (by omega)
      rcases among second (by simp) with rfl | rfl
      · exact absurd List.mem_cons_self later
      · have closed : rest = [] := eq_nil_of_closed
          (fun call member => among call (by simp [member]))
          (fun member => later (List.mem_cons_of_mem _ member)) marked
        subst closed
        exact List.prefix_rfl

/-- No page is ended that is not open, and `t4_up` says whether one is. Bits may come when
none is. -/
def Marked (fax : FaxDecode) : Prop := runOps markStep false fax.t4Calls = some fax.t4Up

variable {span : SpanDsp} {fax after : FaxDecode} {calls : List SpanCall}

theorem Marked.change {op : FaxOp} (marked : Marked fax) (change : PageChange fax op after) :
    Marked after := by
  have bits : ∀ (bits : List Bool) isOpen,
      runOps markStep isOpen (bits.map .putBit) = some isOpen := by
    intro bits isOpen
    induction bits with
    | nil => rfl
    | cons bit rest ih => exact ih
  cases change with
  | kept _ calls up =>
      rw [Marked, calls, up]
      exact marked
  | begun _ calls up =>
      rw [Marked, calls, up, runOps_append, marked]
      rfl
  | ended sent _ wasUp calls up =>
      rw [Marked, calls, up, runOps_append, marked, Option.bind_some, runOps_append, bits, wasUp]
      rfl
  | put bit _ calls up =>
      rw [Marked, calls, up, runOps_append, marked, Option.bind_some]
      exact bits [bit] _

/-- The decoder after some calls without error correction. -/
structure Uncorrected (calls : List SpanCall) (fax : FaxDecode) : Prop where
  mode : fax.errorCorrectingMode = false
  hdlcBits : fax.hdlcBits = []
  starts : (marksOf fax.t4Calls).count .startPage = calls.count .inSync
  bits : putBitsOf fax.t4Calls = faxBitsOf calls

theorem Uncorrected.t4End (uncorrected : Uncorrected calls fax) :
    Uncorrected calls (Fax.t4End fax) := by
  unfold Fax.t4End
  split
  case isFalse => exact uncorrected
  case isTrue up =>
      refine ⟨uncorrected.mode, uncorrected.hdlcBits, ?_, ?_⟩
      · simpa [uncorrected.mode, marksOf] using uncorrected.starts
      · simpa [uncorrected.mode, putBitsOf] using uncorrected.bits

/-- A call of the decoder. -/
theorem Uncorrected.call (uncorrected : Uncorrected calls fax) (call : SpanCall) :
    ∃ after, faxStep span fax (faxOp call) = some after ∧ Uncorrected (calls ++ [call]) after := by
  cases call with
  | inSync =>
      refine ⟨spanInSync fax, rfl, uncorrected.mode, uncorrected.hdlcBits, ?_, ?_⟩
      · rw [spanInSync, t4Begin, marksOf_append, List.count_append, uncorrected.starts,
          List.count_append]
        rfl
      · rw [spanInSync, t4Begin, putBitsOf_append, uncorrected.bits, faxBitsOf_append]
        rfl
  | faxBits bit =>
      have put : Uncorrected (calls ++ [.faxBits bit])
          { fax with t4Calls := fax.t4Calls ++ [.putBit bit] } := by
        refine ⟨uncorrected.mode, uncorrected.hdlcBits, ?_, ?_⟩
        · rw [marksOf_append, List.count_append, uncorrected.starts, List.count_append]
          rfl
        · rw [putBitsOf_append, uncorrected.bits, faxBitsOf_append]
          rfl
      refine ⟨t4RxPutBit span fax bit, ?_, ?_⟩
      · simp [faxOp, faxStep, spanFaxBits, uncorrected.mode]
      · unfold t4RxPutBit
        dsimp only
        split
        · exact put.t4End
        · exact put

theorem uncorrected_calls (calls : List SpanCall) :
    ∃ fax, runOps (faxStep span) .start (faxOps calls) = some fax ∧ Uncorrected calls fax ∧
      Marked fax := by
  induction calls using List.reverseRecOn with
  | nil => exact ⟨.start, rfl, ⟨rfl, rfl, rfl, rfl⟩, rfl⟩
  | append_singleton calls call ih =>
      obtain ⟨fax, ran, uncorrected, marked⟩ := ih
      obtain ⟨after, called, next⟩ := @Uncorrected.call span _ _ uncorrected call
      refine ⟨after, ?_, next, marked.change (pageChange_faxStep called)⟩
      rw [faxOps, List.map_append, ← faxOps, List.map_singleton, runOps_append, ran,
        Option.bind_some, runOps_singleton, called]

/-- **One page, bit by bit.** Whatever the V.110 frames are and whatever the receivers of
spandsp answer: the decoder is called for whole blocks of 64 bits, the T.4 receiver is given
exactly these bits in their order, the HDLC receiver is given none, and at most one page is
started and then ended. -/
theorem fax_test_one_page (osmo : Osmo) (span : SpanDsp) (frames : List (List Ubit)) :
    let calls := (frames.foldl (V110.v110BitsCb osmo) .start).calls
    ∃ fax, runOps (faxStep span) .start (faxOps calls) = some fax ∧
      64 ∣ (faxBitsOf calls).length ∧
      putBitsOf fax.t4Calls = faxBitsOf calls ∧
      fax.hdlcBits = [] ∧
      marksOf fax.t4Calls <+: [.startPage, .endPage] := by
  intro calls
  have callsBlocks : CallsBlocks (frames.foldl (V110.v110BitsCb osmo) .start) := by
    rw [V110.foldl_v110BitsCb]
    exact callsBlocks_foldl _ ⟨rfl, Nat.dvd_zero 64⟩
  obtain ⟨fax, ran, uncorrected, marked⟩ := @uncorrected_calls span calls
  have once : (marksOf fax.t4Calls).count .startPage ≤ 1 := by
    rw [uncorrected.starts, callsBlocks.synced]
    split <;> decide
  exact ⟨fax, ran, callsBlocks.blocks, uncorrected.bits, uncorrected.hdlcBits,
    marksOf_prefix marked once⟩

end IsdnRas.Fax
