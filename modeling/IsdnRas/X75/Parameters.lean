import IsdnRas.X75.Steps

/-!
# Setting and reading the parameters

`x75Getparms` reads back what `x75Setparms` stores. The timers are set in seconds and
kept in milliseconds, in fields of sixteen bits, and the retry limit is narrowed to
sixteen bits as well. The checks of `x75Setparms` bound these values from below only.

So a set of parameters that is accepted comes back as it was asked for exactly when
both timers are at most 65 seconds and the retry limit is at most 65535
(`setparms_reported_iff`).
-/

set_option autoImplicit false

namespace IsdnRas.X75

/-! ## Reading the parameters -/

/-- The whole record of parameters, as `x75Getparms` fills it in. -/
structure ParmsReport extends ParmsStruct where
  t1timer : UInt32
  t2timer : UInt32
  n2count : UInt32
  state : UInt32
deriving Repr, DecidableEq

/-- The number of a link state. -/
def LinkState.number : LinkState → UInt32
  | .state0 => 0
  | .state1 => 1
  | .state2 => 2
  | .state3 => 3
  | .state4 => 4

/-- Whether a timer is armed. -/
def osmoTimerPending (timer : OsmoTimer) : Bool := timer.active

/-- `t1Sec` and `t2Sec` are the seconds of the clock at which the timers expire, which
an armed timer holds. -/
def x75Getparms (x75 : X75Cb) (t1Sec t2Sec : Nat) : ParmsReport where
  t1 := x75.t1.toUInt32 / hz
  t2 := x75.t2.toUInt32 / hz
  n2 := x75.n2.toUInt32
  n2count := x75.n2count.toUInt32
  state := x75.state.number
  window := UInt32.ofNat x75.window
  mode := x75.mode
  t1timer := if ¬ osmoTimerPending x75.t1timer then 0 else UInt32.ofNat (t1Sec / hz.toNat)
  t2timer := if ¬ osmoTimerPending x75.t2timer then 0 else UInt32.ofNat (t2Sec / hz.toNat)

/-! ## Accepted parameters -/

/-- `x75Setparms` takes the parameters. -/
def ParmsAccepted (x75 : X75Cb) (parms : ParmsStruct) : Prop :=
  (1 ≤ parms.t1 ∧ 1 ≤ parms.t2 ∧ 1 ≤ parms.n2) ∧
    (x75.state = .state0 → windowAccepted parms = true)

instance (x75 : X75Cb) (parms : ParmsStruct) : Decidable (ParmsAccepted x75 parms) :=
  inferInstanceAs (Decidable (_ ∧ _))

/-- What `x75Setparms` stores. -/
def setParms (x75 : X75Cb) (parms : ParmsStruct) : X75Cb :=
  { x75 with
    mode := if x75.state = .state0 then parms.mode else x75.mode
    window := if x75.state = .state0 then parms.window.toUInt8.toNat else x75.window
    t1 := (parms.t1 * hz).toUInt16
    t2 := (parms.t2 * hz).toUInt16
    n2 := parms.n2.toUInt16 }

section Setparms

variable {x75 : X75Cb} {parms : ParmsStruct}

theorem x75Setparms_of_accepted (accepted : ParmsAccepted x75 parms) :
    x75Setparms x75 parms = (.ok, setParms x75 parms) := by
  obtain ⟨⟨t1, t2, n2⟩, window⟩ := accepted
  have positive : ¬ (parms.t1 < 1 ∨ parms.t2 < 1 ∨ parms.n2 < 1) := by
    rintro (zero | zero | zero)
    · exact UInt32.not_lt.mpr t1 zero
    · exact UInt32.not_lt.mpr t2 zero
    · exact UInt32.not_lt.mpr n2 zero
  have fits : ¬ (x75.state = .state0 ∧ windowAccepted parms = false) := by
    rintro ⟨state, refused⟩
    exact Bool.false_ne_true (refused.symm.trans (window state))
  rw [x75Setparms, if_neg positive, if_neg fits, setParms]
  by_cases state : x75.state = .state0
  · simp only [if_pos state]
  · simp only [if_neg state]

theorem x75Setparms_of_refused (refused : ¬ ParmsAccepted x75 parms) :
    x75Setparms x75 parms = (.inValue, x75) := by
  unfold x75Setparms
  split
  · rfl
  case isFalse positive =>
  split
  · rfl
  case isFalse fits =>
      refine absurd ⟨?_, fun state => ?_⟩ refused
      · simp only [not_or, UInt32.not_lt] at positive
        exact positive
      · simpa [state] using fits

end Setparms

/-! ## What comes back -/

/-- Seconds come back when they fit as milliseconds. -/
theorem seconds_reported_iff (seconds : UInt32) :
    (seconds * hz).toUInt16.toUInt32 / hz = seconds ↔ seconds ≤ 65 := by
  have stored : ((seconds * hz).toUInt16.toUInt32 / hz).toNat =
      seconds.toNat * 1000 % 2 ^ 32 % 65536 / 1000 := by
    simp [hz]
  rw [← UInt32.toNat_inj, stored, UInt32.le_iff_toNat_le, show (65 : UInt32).toNat = 65 from rfl]
  omega

/-- A retry limit comes back when it fits sixteen bits. -/
theorem n2_reported_iff (n2 : UInt32) : n2.toUInt16.toUInt32 = n2 ↔ n2 ≤ 65535 := by
  have stored : n2.toUInt16.toUInt32.toNat = n2.toNat % 65536 := by simp
  rw [← UInt32.toNat_inj, stored, UInt32.le_iff_toNat_le,
    show (65535 : UInt32).toNat = 65535 from rfl]
  omega

/-- A window that is accepted comes back. -/
theorem window_reported {parms : ParmsStruct} (accepted : windowAccepted parms = true) :
    UInt32.ofNat parms.window.toUInt8.toNat = parms.window := by
  have upper : parms.window.toNat ≤ 127 := by
    unfold windowAccepted at accepted
    split at accepted
    all_goals
      simp only [Bool.and_eq_true, decide_eq_true_eq, UInt32.le_iff_toNat_le] at accepted
    · exact accepted.2
    · exact Nat.le_trans accepted.2 (by decide)
  have byte : parms.window.toUInt8.toNat = parms.window.toNat := by
    rw [UInt32.toNat_toUInt8]
    omega
  rw [byte, UInt32.ofNat_toNat]

/-- The parameters are refused and nothing changes, or a following `x75Getparms`
reports them: the timers and the retry limit, and in state 0 the window and the mode.
In the other states these two stay. -/
def ReportsParms (x75 : X75Cb) (parms : ParmsStruct) (t1Sec t2Sec : Nat) : Prop :=
  x75Setparms x75 parms = (.inValue, x75) ∨
    ∃ after, x75Setparms x75 parms = (.ok, after) ∧
      (x75Getparms after t1Sec t2Sec).t1 = parms.t1 ∧
      (x75Getparms after t1Sec t2Sec).t2 = parms.t2 ∧
      (x75Getparms after t1Sec t2Sec).n2 = parms.n2 ∧
      (x75.state = .state0 → (x75Getparms after t1Sec t2Sec).window = parms.window ∧
        (x75Getparms after t1Sec t2Sec).mode = parms.mode) ∧
      (x75.state ≠ .state0 → after.window = x75.window ∧ after.mode = x75.mode)

/-- The values fit where they are stored. -/
def ParmsFit (parms : ParmsStruct) : Prop :=
  parms.t1 ≤ 65 ∧ parms.t2 ≤ 65 ∧ parms.n2 ≤ 65535

/-- **Which parameters come back.** They are refused, or reported as they were asked
for, exactly when those that are accepted have timers of at most 65 seconds and a
retry limit of at most 65535. -/
theorem setparms_reported_iff (x75 : X75Cb) (parms : ParmsStruct) (t1Sec t2Sec : Nat) :
    ReportsParms x75 parms t1Sec t2Sec ↔ (ParmsAccepted x75 parms → ParmsFit parms) := by
  by_cases accepted : ParmsAccepted x75 parms
  · have stored := x75Setparms_of_accepted accepted
    have timers : (x75Getparms (setParms x75 parms) t1Sec t2Sec).t1 = parms.t1 ∧
        (x75Getparms (setParms x75 parms) t1Sec t2Sec).t2 = parms.t2 ∧
        (x75Getparms (setParms x75 parms) t1Sec t2Sec).n2 = parms.n2 ↔ ParmsFit parms :=
      and_congr (seconds_reported_iff parms.t1)
        (and_congr (seconds_reported_iff parms.t2) (n2_reported_iff parms.n2))
    constructor
    · rintro (refused | ⟨after, taken, t1, t2, n2, -⟩) -
      · cases stored.symm.trans refused
      · obtain rfl := (Prod.mk.inj (taken.symm.trans stored)).2
        exact timers.mp ⟨t1, t2, n2⟩
    · intro fit
      obtain ⟨t1, t2, n2⟩ := timers.mpr (fit accepted)
      refine .inr ⟨_, stored, t1, t2, n2, fun state => ?_, fun state => ?_⟩
      · have window : (setParms x75 parms).window = parms.window.toUInt8.toNat := if_pos state
        have mode : (setParms x75 parms).mode = parms.mode := if_pos state
        exact ⟨(congrArg UInt32.ofNat window).trans (window_reported (accepted.2 state)), mode⟩
      · exact ⟨if_neg state, if_neg state⟩
  · exact ⟨fun _ holds => absurd holds accepted, fun _ => .inl (x75Setparms_of_refused accepted)⟩

/-- **A timer of 66 seconds comes back as none.** It is accepted and stored as 464
milliseconds. -/
theorem setparms_reports_other_timer :
    ¬ ReportsParms (x75Register zeroed .all) ⟨66, 1, 20, 7, 4⟩ 0 0 ∧
      (x75Setparms (x75Register zeroed .all) ⟨66, 1, 20, 7, 4⟩).1 = .ok ∧
      (x75Getparms (x75Setparms (x75Register zeroed .all) ⟨66, 1, 20, 7, 4⟩).2 0 0).t1 = 0 := by
  refine ⟨?_, rfl, rfl⟩
  rintro (refused | ⟨after, taken, t1, -⟩)
  · cases refused
  · obtain rfl := (Prod.mk.inj taken).2
    exact absurd t1 (by decide)

end IsdnRas.X75
