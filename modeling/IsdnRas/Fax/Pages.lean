import IsdnRas.Fax.Decode

/-!
# Pages of a fax

The T.4 receiver is given pages: a page is set up and started, it is given bits, and it is
ended before the next one is set up. The program sets a page up whenever a modem has trained,
and passes bits on whenever they come. So the calls are pages exactly as long as no modem
trains while a page is open, and no bit without error correction comes while none is; and then
`t4_up` says whether a page is open (`t4_calls_paged`).

A page with error correction is put together from the frames that the HDLC receiver reports,
in the order of their numbers, whatever the order of their arrival, and the last good frame
with a number counts (`ecm_page_reassembled`).
-/

set_option autoImplicit false

namespace IsdnRas.Fax

variable {span : SpanDsp} {fax after : FaxDecode}

/-! ## The page protocol -/

/-- How far a page has come. -/
inductive PagePhase where
  | closed
  | encoded
  | xResolved
  | yResolved
  | sized
  | started
deriving Repr, DecidableEq

/-- A page is set up in the order of `t4_begin`, started, given bits, and ended. -/
def pageStep : PagePhase → T4Call → Option PagePhase
  | .closed, .setRxEncoding _ => some .encoded
  | .encoded, .setXResolution _ => some .xResolved
  | .xResolved, .setYResolution _ => some .yResolved
  | .yResolved, .setImageWidth _ => some .sized
  | .sized, .startPage => some .started
  | .started, .putBit _ => some .started
  | .started, .endPage => some .closed
  | _, _ => none

def FaxDecode.pagePhase (fax : FaxDecode) : PagePhase := if fax.t4Up then .started else .closed

/-- A modem trains when no page is open, and bits that are not corrected come while one is. -/
def KeepsPages (fax : FaxDecode) : FaxOp → Prop
  | .fast _ .trainingSucceeded | .spanInSync => fax.t4Up = false
  | .fast _ (.bit _) | .spanFaxBits _ => fax.errorCorrectingMode = true ∨ fax.t4Up = true
  | .fast _ .carrierDown | .fast _ .otherStatus | .v21 _ => True

instance (fax : FaxDecode) (op : FaxOp) : Decidable (KeepsPages fax op) := by
  unfold KeepsPages
  split <;> infer_instance

/-- Bits do not open or end a page. -/
theorem runOps_putBit (bits : List Bool) :
    runOps pageStep .started (bits.map .putBit) = some .started := by
  induction bits with
  | nil => rfl
  | cons bit rest ih => exact ih

/-! ## Reports -/

/-- A good frame with image data. -/
def HdlcReport.IsFcd (span : SpanDsp) (report : HdlcReport) : Prop :=
  report.ok = true ∧ report.Headed ∧ report.type = span.t4Fcd ∧ 4 ≤ report.len ∧
    report.len ≤ 4 + 256

/-- A good frame with parameters. -/
def HdlcReport.IsDcs (span : SpanDsp) (report : HdlcReport) : Prop :=
  report.ok = true ∧ report.Headed ∧ report.type = span.t30Dcs ∧ 6 ≤ report.len

instance (span : SpanDsp) (report : HdlcReport) : Decidable (report.IsFcd span) :=
  inferInstanceAs (Decidable (_ ∧ _))

instance (span : SpanDsp) (report : HdlcReport) : Decidable (report.IsDcs span) :=
  inferInstanceAs (Decidable (_ ∧ _))

/-- The frame number. -/
def HdlcReport.frameNo (report : HdlcReport) : Fin 256 := (report.msg 3).toFin

/-- What `hdlc_accept` does with a report. -/
inductive Accepted (span : SpanDsp) (fax : FaxDecode) (report : HdlcReport) : FaxDecode → Prop where
  | stored (fcd : report.IsFcd span) : Accepted span fax report
      { fax with
        ecmData := Function.update fax.ecmData report.frameNo
          (report.imageData ++ (fax.ecmData report.frameNo).drop report.imageData.length)
        ecmLen := Function.update fax.ecmLen report.frameNo (report.len - 4) }
  | parameters (notFcd : ¬ report.IsFcd span) (dcs : report.IsDcs span) :
      Accepted span fax report (checkRxDcs span fax report.msg report.len)
  | ignored (notFcd : ¬ report.IsFcd span) (notDcs : ¬ report.IsDcs span) :
      Accepted span fax report fax

theorem accepted_of_hdlcAccept {report : HdlcReport}
    (taken : hdlcAccept span fax report = some after) : Accepted span fax report after := by
  unfold hdlcAccept at taken
  split at taken
  case isTrue special =>
      cases taken
      exact .ignored (fun fcd => absurd fcd.2.2.2.1 (by omega))
        (fun dcs => absurd dcs.2.2.2 (by omega))
  case isFalse =>
  split at taken
  case isFalse bad =>
      cases taken
      exact .ignored (fun fcd => bad fcd.1) (fun dcs => bad dcs.1)
  case isTrue good =>
  split at taken
  case isFalse header =>
      cases taken
      exact .ignored (fun fcd => header fcd.2.1) (fun dcs => header dcs.2.1)
  case isTrue headed =>
  split at taken
  case isTrue fcd =>
      have notDcs : ¬ report.IsDcs span := fun dcs =>
        span.fcd_ne_dcs (fcd.symm.trans dcs.2.2.1)
      unfold storeFcd at taken
      split at taken
      case isFalse long =>
          cases taken
          exact .ignored (fun fcd => long fcd.2.2.2.2) notDcs
      case isTrue fits =>
          split at taken
          case isTrue => cases taken
          case isFalse enough =>
              cases taken
              exact .stored ⟨good, headed, fcd, by omega, fits⟩
  case isFalse other =>
  have notFcd : ¬ report.IsFcd span := fun fcd => other fcd.2.2.1
  split at taken
  case isFalse unknown =>
      cases taken
      exact .ignored notFcd fun dcs => unknown dcs.2.2.1
  case isTrue dcs =>
      cases taken
      by_cases long : 6 ≤ report.len
      · exact .parameters notFcd ⟨good, headed, dcs, long⟩
      · have short : checkRxDcs span fax report.msg report.len = fax := if_pos (by omega)
        rw [short]
        exact .ignored notFcd fun dcs => long dcs.2.2.2

/-- Frames are kept apart from the pages. -/
structure SamePages (fax after : FaxDecode) : Prop where
  t4Calls : after.t4Calls = fax.t4Calls
  t4Up : after.t4Up = fax.t4Up
  fastTrained : after.fastTrained = fax.fastTrained

theorem SamePages.refl (fax : FaxDecode) : SamePages fax fax := ⟨rfl, rfl, rfl⟩

theorem SamePages.trans {middle : FaxDecode} (first : SamePages fax middle)
    (second : SamePages middle after) : SamePages fax after :=
  ⟨second.t4Calls.trans first.t4Calls, second.t4Up.trans first.t4Up,
    second.fastTrained.trans first.fastTrained⟩

theorem Accepted.samePages {report : HdlcReport} (accepted : Accepted span fax report after) :
    SamePages fax after := by
  cases accepted with
  | stored => exact ⟨rfl, rfl, rfl⟩
  | parameters =>
      unfold checkRxDcs
      split <;> exact ⟨rfl, rfl, rfl⟩
  | ignored => exact .refl fax

theorem samePages_of_reports (reports : List HdlcReport) : ∀ {fax : FaxDecode},
    runOps (hdlcAccept span) fax reports = some after → SamePages fax after := by
  induction reports with
  | nil =>
      intro fax ran
      cases ran
      exact .refl _
  | cons report rest ih =>
      intro fax ran
      obtain ⟨next, taken, later⟩ := Option.bind_eq_some_iff.mp ran
      exact (accepted_of_hdlcAccept taken).samePages.trans (ih later)

theorem samePages_hdlcRxPutBit {bit : Bool} (taken : hdlcRxPutBit span fax bit = some after) :
    SamePages fax after := by
  have same := samePages_of_reports _ taken
  exact ⟨same.t4Calls, same.t4Up, same.fastTrained⟩

/-! ## Runs -/

theorem faxStep_fast (modem : FastModem) (bit : ModemBit) :
    faxStep span fax (.fast modem bit) = fastPutBit modem span fax bit := by
  cases modem <;> rfl

/-- The calls of `t4_begin`. -/
def setUpCalls (fax : FaxDecode) : List T4Call :=
  [.setRxEncoding fax.lineEncoding, .setXResolution fax.xResolution,
    .setYResolution fax.yResolution, .setImageWidth fax.imageWidth, .startPage]

/-- What an operation does to the pages. -/
inductive PageChange (fax : FaxDecode) (op : FaxOp) (after : FaxDecode) : Prop where
  | kept (keeps : KeepsPages fax op) (calls : after.t4Calls = fax.t4Calls)
      (up : after.t4Up = fax.t4Up)
  | begun (keeps : KeepsPages fax op ↔ fax.t4Up = false)
      (calls : after.t4Calls = fax.t4Calls ++ setUpCalls fax) (up : after.t4Up = true)
  | ended (bits : List Bool) (keeps : KeepsPages fax op) (wasUp : fax.t4Up = true)
      (calls : after.t4Calls = fax.t4Calls ++ (bits.map .putBit ++ [.endPage]))
      (up : after.t4Up = false)
  | put (bit : Bool) (keeps : KeepsPages fax op ↔ fax.t4Up = true)
      (calls : after.t4Calls = fax.t4Calls ++ [.putBit bit]) (up : after.t4Up = fax.t4Up)

theorem SamePages.change {op : FaxOp} (same : SamePages fax after) (keeps : KeepsPages fax op) :
    PageChange fax op after := .kept keeps same.t4Calls same.t4Up

theorem pageChange_t4End {op : FaxOp} (keeps : KeepsPages fax op) :
    PageChange fax op (t4End fax) := by
  unfold t4End
  split
  case isFalse => exact .kept keeps rfl rfl
  case isTrue up =>
      refine .ended (if fax.errorCorrectingMode then ecmBits fax else []) keeps up ?_ rfl
      dsimp only
      rw [List.append_assoc]
      split <;> rfl

/-- A bit from a fast modem. Without error correction the page may end with it. -/
theorem pageChange_spanFaxBits {op : FaxOp} {bit : Bool}
    (keeps : KeepsPages fax op ↔ fax.errorCorrectingMode = true ∨ fax.t4Up = true)
    (taken : spanFaxBits span fax bit = some after) : PageChange fax op after := by
  unfold spanFaxBits at taken
  split at taken
  case isTrue corrected =>
      exact (samePages_hdlcRxPutBit taken).change (keeps.mpr (.inl corrected))
  case isFalse uncorrected =>
      have exact : KeepsPages fax op ↔ fax.t4Up = true := by simpa [uncorrected] using keeps
      cases taken
      unfold t4RxPutBit
      dsimp only
      split
      case isFalse => exact .put bit exact rfl rfl
      case isTrue =>
          unfold t4End
          split
          case isFalse => exact .put bit exact rfl rfl
          case isTrue up =>
              refine .ended [bit] (exact.mpr up) up ?_ rfl
              dsimp only
              rw [List.append_nil, List.append_assoc]
              rfl

/-- **One step.** -/
theorem pageChange_faxStep {op : FaxOp} (taken : faxStep span fax op = some after) :
    PageChange fax op after := by
  cases op with
  | v21 bit =>
      cases bit with
      | bit =>
          simp only [faxStep, v21PutBit] at taken
          split at taken
          case isTrue => exact (samePages_hdlcRxPutBit taken).change trivial
          case isFalse => exact Option.some.inj taken ▸ .kept trivial rfl rfl
      | trainingSucceeded | carrierDown | otherStatus =>
          exact Option.some.inj taken ▸ .kept trivial rfl rfl
  | fast modem bit =>
      rw [faxStep_fast] at taken
      cases bit with
      | bit bit => exact pageChange_spanFaxBits Iff.rfl taken
      | trainingSucceeded => exact Option.some.inj taken ▸ .begun Iff.rfl rfl rfl
      | otherStatus => exact Option.some.inj taken ▸ .kept trivial rfl rfl
      | carrierDown =>
          cases taken
          have ended : PageChange fax (.fast modem .carrierDown) (t4End fax) :=
            pageChange_t4End trivial
          split
          · cases ended with
            | kept keeps calls up => exact .kept keeps calls up
            | begun keeps calls up => exact .begun keeps calls up
            | ended bits keeps wasUp calls up => exact .ended bits keeps wasUp calls up
            | put bit keeps calls up => exact .put bit keeps calls up
          · exact ended
  | spanInSync => exact Option.some.inj taken ▸ .begun Iff.rfl rfl rfl
  | spanFaxBits bit => exact pageChange_spanFaxBits Iff.rfl taken

/-- The calls of the T.4 receiver are pages, and `t4_up` says whether one is open. -/
def Paged (fax : FaxDecode) : Prop :=
  runOps pageStep .closed fax.t4Calls = some fax.pagePhase

theorem Paged.append (paged : Paged fax) (calls : List T4Call) :
    runOps pageStep .closed (fax.t4Calls ++ calls) = runOps pageStep fax.pagePhase calls := by
  rw [runOps_append, paged, Option.bind_some]

/-- The calls are pages after a step exactly when it may be made. -/
theorem PageChange.phase {op : FaxOp} (change : PageChange fax op after) (paged : Paged fax) :
    (KeepsPages fax op → Paged after) ∧
      (¬ KeepsPages fax op → runOps pageStep .closed after.t4Calls = none) := by
  cases change with
  | kept keeps calls up =>
      refine ⟨fun _ => ?_, absurd keeps⟩
      rw [Paged, calls, FaxDecode.pagePhase, up]
      exact paged
  | begun keeps calls up =>
      rw [keeps, Paged, calls, paged.append, FaxDecode.pagePhase, FaxDecode.pagePhase, up]
      cases fax.t4Up <;> simp [runOps, pageStep, setUpCalls]
  | ended bits keeps wasUp calls up =>
      refine ⟨fun _ => ?_, absurd keeps⟩
      rw [Paged, calls, paged.append, runOps_append, FaxDecode.pagePhase, FaxDecode.pagePhase,
        wasUp, up, if_pos rfl, runOps_putBit]
      rfl
  | put bit keeps calls up =>
      rw [keeps, Paged, calls, paged.append, FaxDecode.pagePhase, FaxDecode.pagePhase, up]
      cases fax.t4Up <;> simp [runOps, pageStep]

/-- What has been called stays called. -/
theorem PageChange.calls {op : FaxOp} (change : PageChange fax op after) :
    ∃ calls, after.t4Calls = fax.t4Calls ++ calls := by
  cases change with
  | kept _ calls => exact ⟨[], by rw [calls, List.append_nil]⟩
  | begun _ calls => exact ⟨_, calls⟩
  | ended _ _ _ calls => exact ⟨_, calls⟩
  | put _ _ calls => exact ⟨_, calls⟩

/-- **The calls of the T.4 receiver are pages** after a run exactly when no modem trained while
a page was open and no bit without error correction came while none was. Then `t4_up` says
whether a page is open; otherwise the calls are not pages, however the run goes on. -/
theorem t4_calls_paged {ops : List FaxOp} (ran : runOps (faxStep span) .start ops = some fax) :
    (runOps pageStep .closed fax.t4Calls = some fax.pagePhase ↔
        MeetsAlong (faxStep span) KeepsPages .start ops) ∧
      (runOps pageStep .closed fax.t4Calls = none ↔
        ¬ MeetsAlong (faxStep span) KeepsPages .start ops) := by
  have start : Paged .start := rfl
  let broken (fax : FaxDecode) : Prop := runOps pageStep .closed fax.t4Calls = none
  refine @holds_last_iff _ _ (faxStep span) KeepsPages Paged broken
    (fun op paged keeps taken => ?_) (fun op paged breaks taken => ?_)
    (fun op lost taken => ?_) (fun paged lost => ?_) ops _ _ start ran
  · exact ((pageChange_faxStep taken).phase paged).1 keeps
  · exact ((pageChange_faxStep taken).phase paged).2 breaks
  · obtain ⟨calls, more⟩ := (pageChange_faxStep taken).calls
    dsimp only [broken] at lost ⊢
    rw [more, runOps_append, lost, Option.bind_none]
  · exact Option.some_ne_none _ (paged.symm.trans lost)

/-- The carrier comes, a bit is put, and the carrier goes and is reported gone once more. -/
def oneCarrier : List FaxOp :=
  [.fast .v29 .trainingSucceeded, .fast .v29 (.bit true), .fast .v29 .carrierDown,
    .fast .v29 .carrierDown]

theorem t4_calls_paged_carrier : ∃ fax, runOps (faxStep oneFrameSpan) .start oneCarrier = some fax ∧
    MeetsAlong (faxStep oneFrameSpan) KeepsPages .start oneCarrier ∧
    (runOps pageStep .closed fax.t4Calls = some fax.pagePhase ↔
        MeetsAlong (faxStep oneFrameSpan) KeepsPages .start oneCarrier) ∧
      (runOps pageStep .closed fax.t4Calls = none ↔
        ¬ MeetsAlong (faxStep oneFrameSpan) KeepsPages .start oneCarrier) :=
  ⟨_, rfl, by decide, t4_calls_paged rfl⟩

/-! ## Pages with error correction -/

/-- The reports for some bits behind others. -/
def reportsOf (span : SpanDsp) : (before bits : List Bool) → List HdlcReport
  | _, [] => []
  | before, bit :: rest =>
      span.hdlcRxPutBit (before ++ [bit]) ++ reportsOf span (before ++ [bit]) rest

/-- The image data that was reported last for a frame number. -/
def latestData (span : SpanDsp) (reports : List HdlcReport) (frameNo : Fin 256) :
    Option (List UInt8) :=
  (reports.filter fun report => report.IsFcd span ∧ report.frameNo = frameNo).getLast?.map
    (·.imageData)

/-- The octets of a page, frame by frame. A frame that was not reported is left out. -/
def pageOctets (span : SpanDsp) (reports : List HdlcReport) : List UInt8 :=
  (List.finRange 256).flatMap fun frameNo => (latestData span reports frameNo).getD []

theorem latestData_append (reports : List HdlcReport) (report : HdlcReport) (frameNo : Fin 256) :
    latestData span (reports ++ [report]) frameNo =
      if report.IsFcd span ∧ report.frameNo = frameNo then some report.imageData
      else latestData span reports frameNo := by
  rw [latestData, List.filter_append]
  split
  case isTrue here => simp [here]
  case isFalse other => simp [latestData, other]

/-- How a frame is kept. -/
def KeptAs (fax : FaxDecode) (frameNo : Fin 256) : Option (List UInt8) → Prop
  | none => fax.ecmLen frameNo = -1
  | some data => fax.ecmLen frameNo = data.length ∧
      (fax.ecmData frameNo).take data.length = data

/-- The frames are kept as they were reported last. -/
def Collects (span : SpanDsp) (reports : List HdlcReport) (fax : FaxDecode) : Prop :=
  ∀ frameNo, KeptAs fax frameNo (latestData span reports frameNo)

theorem collects_t4Begin (fax : FaxDecode) : Collects span [] (t4Begin fax) := fun _ => rfl

theorem HdlcReport.length_imageData {report : HdlcReport} (enough : 4 ≤ report.len) :
    (report.imageData.length : Int) = report.len - 4 := by
  rw [imageData, List.length_map, List.length_range]
  omega

theorem Collects.accepted {reports : List HdlcReport} {report : HdlcReport}
    (collects : Collects span reports fax) (accepted : Accepted span fax report after) :
    Collects span (reports ++ [report]) after := by
  intro frameNo
  rw [latestData_append]
  cases accepted with
  | stored fcd =>
      by_cases here : report.frameNo = frameNo
      · subst here
        rw [if_pos ⟨fcd, rfl⟩]
        constructor
        · dsimp only
          rw [Function.update_self, HdlcReport.length_imageData fcd.2.2.2.1]
        · dsimp only
          rw [Function.update_self, List.take_left]
      · rw [if_neg fun both => here both.2]
        have kept := collects frameNo
        have other : frameNo ≠ report.frameNo := fun same => here same.symm
        cases latest : latestData span reports frameNo with
        | none =>
            rw [latest] at kept
            exact (Function.update_of_ne other ..).trans kept
        | some data =>
            rw [latest] at kept
            constructor
            · exact (Function.update_of_ne other ..).trans kept.1
            · dsimp only
              rw [Function.update_of_ne other]
              exact kept.2
  | parameters notFcd =>
      rw [if_neg fun both => notFcd both.1]
      have kept := collects frameNo
      unfold checkRxDcs
      split <;> exact kept
  | ignored notFcd =>
      rw [if_neg fun both => notFcd both.1]
      exact collects frameNo

/-- The page is being received: nothing but frames can change. -/
structure Receiving (span : SpanDsp) (modem : FastModem) (reports : List HdlcReport)
    (bits : List Bool) (fax : FaxDecode) : Prop where
  mode : fax.errorCorrectingMode = true
  trained : fax.fastTrained = some modem
  hdlcBits : fax.hdlcBits = bits
  collects : Collects span reports fax

theorem Receiving.reports {modem : FastModem} {bits : List Bool} (further : List HdlcReport) :
    ∀ {reports : List HdlcReport} {fax : FaxDecode}, Receiving span modem reports bits fax →
      (∀ report ∈ further, ¬ report.IsDcs span) →
        runOps (hdlcAccept span) fax further = some after →
          Receiving span modem (reports ++ further) bits after := by
  induction further with
  | nil =>
      intro reports fax receiving _ ran
      cases ran
      rw [List.append_nil]
      exact receiving
  | cons report rest ih =>
      intro reports fax receiving noDcs ran
      obtain ⟨next, taken, later⟩ := Option.bind_eq_some_iff.mp ran
      have accepted := accepted_of_hdlcAccept taken
      have collects := receiving.collects.accepted accepted
      have first : Receiving span modem (reports ++ [report]) bits next := by
        cases accepted with
        | stored => exact ⟨receiving.mode, receiving.trained, receiving.hdlcBits, collects⟩
        | parameters _ dcs => exact absurd dcs (noDcs report List.mem_cons_self)
        | ignored => exact ⟨receiving.mode, receiving.trained, receiving.hdlcBits, collects⟩
      have all := ih first (fun other member => noDcs other (List.mem_cons_of_mem _ member)) later
      rwa [List.append_assoc, List.singleton_append] at all

/-- A bit of the page. -/
theorem Receiving.bit {modem : FastModem} {reports : List HdlcReport} {bits : List Bool}
    {bit : Bool} (receiving : Receiving span modem reports bits fax)
    (noDcs : ∀ report ∈ span.hdlcRxPutBit (bits ++ [bit]), ¬ report.IsDcs span)
    (taken : spanFaxBits span fax bit = some after) :
    Receiving span modem (reports ++ span.hdlcRxPutBit (bits ++ [bit])) (bits ++ [bit]) after := by
  rw [spanFaxBits, if_pos receiving.mode, hdlcRxPutBit, receiving.hdlcBits] at taken
  have first : Receiving span modem reports (bits ++ [bit])
      { fax with hdlcBits := bits ++ [bit] } :=
    ⟨receiving.mode, receiving.trained, rfl, receiving.collects⟩
  exact first.reports _ noDcs taken

/-- What happens while a page is received: bits and statuses of the fast modem, and whatever
the V.21 modem puts. -/
def FaxOp.Within (modem : FastModem) : FaxOp → Prop
  | .v21 _ => True
  | .fast other (.bit _) | .fast other .otherStatus => other = modem
  | .fast _ .trainingSucceeded | .fast _ .carrierDown | .spanInSync | .spanFaxBits _ => False

/-- The bit of a fast modem. -/
def FaxOp.fastBit : FaxOp → Option Bool
  | .fast _ (.bit bit) => some bit
  | _ => none

theorem Receiving.run {modem : FastModem} (ops : List FaxOp) :
    ∀ {reports : List HdlcReport} {bits : List Bool} {fax : FaxDecode},
      Receiving span modem reports bits fax → (∀ op ∈ ops, op.Within modem) →
        (∀ report ∈ reportsOf span bits (ops.filterMap (·.fastBit)), ¬ report.IsDcs span) →
          runOps (faxStep span) fax ops = some after →
            (∃ bits', Receiving span modem
              (reports ++ reportsOf span bits (ops.filterMap (·.fastBit))) bits' after) ∧
              SamePages fax after := by
  induction ops with
  | nil =>
      intro reports bits fax receiving _ _ ran
      cases ran
      exact ⟨⟨bits, by simpa [reportsOf] using receiving⟩, .refl _⟩
  | cons op rest ih =>
      intro reports bits fax receiving within noDcs ran
      obtain ⟨next, taken, later⟩ := Option.bind_eq_some_iff.mp ran
      have within' : ∀ op ∈ rest, op.Within modem :=
        fun other member => within other (List.mem_cons_of_mem _ member)
      have now := within op List.mem_cons_self
      match op with
      | .v21 bit =>
          have same : next = fax := by
            cases bit with
            | bit =>
                have trained : fax.fastTrained ≠ none := by
                  rw [receiving.trained]
                  exact Option.some_ne_none modem
                simp only [faxStep, v21PutBit, if_neg trained] at taken
                exact (Option.some.inj taken).symm
            | trainingSucceeded | carrierDown | otherStatus => exact (Option.some.inj taken).symm
          subst same
          exact ih receiving within' noDcs later
      | .fast other .otherStatus =>
          rw [faxStep_fast] at taken
          cases taken
          exact ih receiving within' noDcs later
      | .fast other (.bit bit) =>
          rw [faxStep_fast] at taken
          have member : ∀ report ∈ span.hdlcRxPutBit (bits ++ [bit]), ¬ report.IsDcs span :=
            fun report member => noDcs report (List.mem_append_left _ member)
          have first := receiving.bit member taken
          have same : SamePages fax next := by
            have put := taken
            simp only [fastPutBit, spanFaxBits, if_pos receiving.mode] at put
            exact samePages_hdlcRxPutBit put
          obtain ⟨⟨bits', all⟩, same'⟩ := ih first within'
            (fun report member => noDcs report (List.mem_append_right _ member)) later
          exact ⟨⟨bits', by rwa [List.append_assoc] at all⟩, same.trans same'⟩

/-- Reading the first bytes of a row. -/
theorem flatMap_range_of_take {row data : List UInt8} (stored : row.take data.length = data)
    (bits : UInt8 → List Bool) :
    (List.range data.length).flatMap (fun j => bits (row.getD j 0)) = data.flatMap bits := by
  have read : (List.range data.length).map (fun j => row.getD j 0) = data := by
    refine List.ext_getElem (by simp) fun j _ inside => ?_
    have same := congrArg (·[j]?) stored
    simp only [List.getElem?_take_of_lt inside, List.getElem?_eq_getElem inside] at same
    rw [List.getElem_map, List.getElem_range, List.getD_eq_getElem?_getD, same, Option.getD_some]
  calc (List.range data.length).flatMap (fun j => bits (row.getD j 0))
      = ((List.range data.length).map fun j => row.getD j 0).flatMap bits :=
        (List.flatMap_map ..).symm
    _ = data.flatMap bits := by rw [read]

/-- The bits of the page. -/
theorem Collects.ecmBits_eq {reports : List HdlcReport} (collects : Collects span reports fax) :
    ecmBits fax = (pageOctets span reports).flatMap octetBits := by
  rw [ecmBits, pageOctets, List.flatMap_assoc]
  refine List.flatMap_congr fun frameNo _ => ?_
  have kept := collects frameNo
  cases latest : latestData span reports frameNo with
  | none =>
      rw [latest] at kept
      have none : fax.ecmLen frameNo = -1 := kept
      rw [none]
      rfl
  | some data =>
      rw [latest] at kept
      obtain ⟨length, row⟩ := kept
      rw [length, Int.toNat_natCast, Option.getD_some]
      exact flatMap_range_of_take row octetBits

/-- **A page with error correction is put together.** Between the training of a modem and the
end of its carrier, with no new parameters reported, the T.4 receiver gets one page: the data
of the last good frame of each number, in the order of the numbers. The process does not
survive a good image frame of fewer than four bytes, so `ran` has none. -/
theorem ecm_page_reassembled {modem : FastModem} {ops : List FaxOp}
    (mode : fax.errorCorrectingMode = true) (within : ∀ op ∈ ops, op.Within modem)
    (noDcs : ∀ report ∈ reportsOf span fax.hdlcBits (ops.filterMap (·.fastBit)),
      ¬ report.IsDcs span)
    (ran : runOps (faxStep span) fax
      (.fast modem .trainingSucceeded :: (ops ++ [.fast modem .carrierDown])) = some after) :
    after.t4Calls = fax.t4Calls ++
      [.setRxEncoding fax.lineEncoding, .setXResolution fax.xResolution,
        .setYResolution fax.yResolution, .setImageWidth fax.imageWidth, .startPage] ++
      ((pageOctets span (reportsOf span fax.hdlcBits (ops.filterMap (·.fastBit)))).flatMap
        octetBits).map .putBit ++ [.endPage] ∧
    after.t4Up = false ∧ after.fastTrained = none := by
  rw [runOps, faxStep_fast, fastPutBit, Option.bind_some, runOps_append] at ran
  obtain ⟨received, page, ending⟩ := Option.bind_eq_some_iff.mp ran
  rw [runOps_singleton, faxStep_fast, fastPutBit] at ending
  have begun : Receiving span modem [] fax.hdlcBits
      (t4Begin { fax with fastTrained := some modem }) :=
    ⟨mode, rfl, rfl, collects_t4Begin _⟩
  obtain ⟨⟨bits, receiving⟩, same⟩ := begun.run ops within noDcs page
  have up : received.t4Up = true := same.t4Up
  have bits := receiving.collects.ecmBits_eq
  rw [List.nil_append] at bits
  have ended : t4End received = { received with
      t4Calls := received.t4Calls ++ ((pageOctets span (reportsOf span fax.hdlcBits
        (ops.filterMap (·.fastBit)))).flatMap octetBits).map .putBit ++ [.endPage]
      t4Up := false } := by
    rw [t4End, if_pos up, if_pos receiving.mode, bits]
  simp only [ended, if_pos receiving.trained] at ending
  cases ending
  refine ⟨?_, rfl, rfl⟩
  dsimp only
  rw [same.t4Calls]
  rfl

/-- The fax when the sender has chosen error correction. -/
def correctingFax : FaxDecode := { FaxDecode.start with errorCorrectingMode := true }

/-- A frame is received with V.17, while the V.21 modem hears noise. -/
def oneFrameOps : List FaxOp := .v21 (.bit true) :: fcdBits.map fun bit => .fast .v17 (.bit bit)

theorem ecm_page_one_frame : ∃ after,
    runOps (faxStep oneFrameSpan) correctingFax
      (.fast .v17 .trainingSucceeded :: (oneFrameOps ++ [.fast .v17 .carrierDown])) = some after ∧
    pageOctets oneFrameSpan (reportsOf oneFrameSpan [] fcdBits) = [0x41] ∧
    after.t4Calls =
      [.setRxEncoding .ituT41d, .setXResolution .r8, .setYResolution .standard,
        .setImageWidth 1728, .startPage] ++
      ((pageOctets oneFrameSpan (reportsOf oneFrameSpan [] fcdBits)).flatMap octetBits).map
        .putBit ++ [.endPage] ∧
    after.t4Up = false ∧ after.fastTrained = none := by
  have bits : oneFrameOps.filterMap (·.fastBit) = fcdBits := by decide
  have within : ∀ op ∈ oneFrameOps, op.Within .v17 := by
    intro op member
    rcases List.mem_cons.mp member with rfl | later
    · trivial
    · obtain ⟨bit, -, rfl⟩ := List.mem_map.mp later
      rfl
  have noDcs : ∀ report ∈ reportsOf oneFrameSpan [] (oneFrameOps.filterMap (·.fastBit)),
      ¬ report.IsDcs oneFrameSpan := by
    rw [bits]
    decide +kernel
  have runs : (runOps (faxStep oneFrameSpan) correctingFax
      (.fast .v17 .trainingSucceeded :: (oneFrameOps ++ [.fast .v17 .carrierDown]))).isSome =
        true := by decide +kernel
  obtain ⟨after, ran⟩ := Option.isSome_iff_exists.mp runs
  have page := ecm_page_reassembled rfl within noDcs ran
  rw [bits] at page
  exact ⟨after, ran, by decide +kernel, page⟩

end IsdnRas.Fax
