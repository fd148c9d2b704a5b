import IsdnRas.X75.T1Supervision
import IsdnRas.X75.Parameters

/-!
# The retry limit

The handler of T1 gives up when `n2count` equals N2. The test is an equality, so the
count must not pass the limit: `n2count` is compared with N2 after every operation, and
the retries made in a state with the limit.

The handler itself never counts past N2. What can bring the limit below the count is a
new limit: `x75Setparms` stores one while frames are being retried, and narrows it to
sixteen bits, and `x75Register` sets the default one and leaves the count. Then the test
is stepped over and the retries go on (`lowered_limit_stepped_over`). In runs in which
every new limit is at least the retries counted, the count stays within N2 and so do
the retries (`retries_within_limit`).
-/

set_option autoImplicit false

namespace IsdnRas.X75

/-! ## Counting the retries -/

/-- A control block, and how often the handler of T1 has sent again since the link
entered its state or the retries started anew. -/
structure Retrying where
  x75 : X75Cb
  retries : Nat
deriving DecidableEq

/-- The frame starts the retries of state 3 anew: a link reset, a REJ, or an N(R) that
acknowledges all that was sent. An I-frame does not when the peer is busy. -/
def ClearsRetries (x75 : X75Cb) (frame : X75Frame) : Prop :=
  x75.state = .state3 ∧
    (frame.type = (if x75.extended then x75Sabme else x75Sabm) ∨
      x75ValidateNr x75 frame.nr = true ∧ (frame.type = x75Rej ∨
        CarriesNr frame.type ∧ x75.vs = frame.nr ∧ ¬ (frame.type = x75I ∧ PeerBusy x75)))

instance (x75 : X75Cb) (frame : X75Frame) : Decidable (ClearsRetries x75 frame) :=
  inferInstanceAs (Decidable (_ ∧ (_ ∨ _ ∧ (_ ∨ _ ∧ _ ∧ ¬ (_ ∧ _)))))

/-- The link enters another state, or a frame starts the retries anew. -/
def StartsRetries (x75 after : X75Cb) (op : Op) : Prop :=
  after.state ≠ x75.state ∨ ∃ frame ∈ receivedFrame x75 op, ClearsRetries x75 frame

instance (x75 after : X75Cb) (op : Op) : Decidable (StartsRetries x75 after op) :=
  inferInstanceAs (Decidable (_ ∨ ∃ _ ∈ _, _))

/-- One operation, and the retries. -/
def Retrying.step (retrying : Retrying) (op : Op) : Option Retrying :=
  (exec retrying.x75 op).map fun after =>
    { x75 := after
      retries :=
        if StartsRetries retrying.x75 after op then 0
        else if retrying.x75.T1Acts op then retrying.retries + 1
        else retrying.retries }

/-- A limit that the operation sets is at least the retries counted. -/
def RaisesLimit (retrying : Retrying) : Op → Prop
  | .setparms parms =>
      ParmsAccepted retrying.x75 parms → retrying.x75.n2count ≤ parms.n2.toUInt16
  | .register _ => retrying.x75.n2count ≤ x75DefaultN2
  | _ => True

instance (retrying : Retrying) : (op : Op) → Decidable (RaisesLimit retrying op)
  | .setparms _ => inferInstanceAs (Decidable (_ → _))
  | .register _ => inferInstanceAs (Decidable (_ ≤ _))
  | .dataRequest _ | .connectRequest | .disconnectRequest | .dataReceived _ _ | .t1Expiry
  | .t2Expiry | .unregister => inferInstanceAs (Decidable True)

/-! ## What an operation does to the count -/

/-- The limit stays, and the count stays unless `clears` holds. -/
def CountsOn (x75 after : X75Cb) (clears : Prop) : Prop :=
  after.n2 = x75.n2 ∧ (after.n2count = x75.n2count ∨ after.n2count = 0 ∧ clears)

/-- What an operation does to `n2count` and to the limit. -/
inductive CountStep (x75 : X75Cb) (op : Op) (after : X75Cb) : Prop where
  | cleared (limit : after.n2 = x75.n2) (zero : after.n2count = 0)
      (anew : StartsRetries x75 after op)
  | kept (fits : x75.n2count ≤ x75.n2 → x75.n2count ≤ after.n2)
      (same : after.n2count = x75.n2count) (still : StartsRetries x75 after op ∨ ¬ x75.T1Acts op)
  | counted (limit : after.n2 = x75.n2) (left : x75.n2count ≠ x75.n2)
      (more : after.n2count = x75.n2count + 1)

section Count

variable {x75 after : X75Cb}

theorem CountsOn.mono {clears clears' : Prop} (counts : CountsOn x75 after clears)
    (weaker : clears → clears') : CountsOn x75 after clears' :=
  ⟨counts.1, counts.2.imp_right (And.imp_right weaker)⟩

theorem countsOn_framesAcked (x75 : X75Cb) (nr : Nat) (clears : Prop) :
    CountsOn x75 (x75FramesAcked x75 nr) clears := by
  obtain ⟨_, _, _, same⟩ := x75FramesAcked_kept x75 nr
  rw [same]
  exact ⟨rfl, .inl rfl⟩

theorem countsOn_check (x75 : X75Cb) (nr : Nat) :
    CountsOn x75 (x75CheckIframesAcked x75 nr) (x75.vs = nr) := by
  obtain ⟨_, _, _, same⟩ := x75FramesAcked_kept x75 nr
  unfold x75CheckIframesAcked
  split
  case isTrue all =>
      rw [same]
      exact ⟨rfl, .inr ⟨rfl, all⟩⟩
  case isFalse =>
  split
  · rw [same]
    exact ⟨rfl, .inl rfl⟩
  · exact ⟨rfl, .inl rfl⟩

theorem countsOn_iframe (x75 : X75Cb) (nr : Nat) :
    CountsOn x75 (iframeAcknowledge x75 nr) (x75.vs = nr ∧ ¬ PeerBusy x75) := by
  unfold iframeAcknowledge
  split
  · exact countsOn_framesAcked x75 nr _
  case isFalse idle => exact (countsOn_check x75 nr).mono fun all => ⟨all, idle⟩

/-- The machine of the current state clears the count only when the link enters another
state or the frame starts the retries anew. -/
theorem countsOn_machine {skb : Bytes} {frame : X75Frame}
    (machine : MachineOutcome x75 skb frame after) :
    CountsOn x75 after (after.state ≠ x75.state ∨ ClearsRetries x75 frame) := by
  have iframe : x75.state = .state3 → frame.type = x75I → x75ValidateNr x75 frame.nr = true →
      x75.vs = frame.nr ∧ ¬ PeerBusy x75 → ClearsRetries x75 frame :=
    fun three type valid all => ⟨three, .inr ⟨valid, .inr ⟨carriesNr_of_iframe type, all.1,
      fun busy => all.2 busy.2⟩⟩⟩
  cases machine with
  | answered => exact ⟨rfl, .inl rfl⟩
  | connected _ _ _ _ setsUp =>
      refine ⟨rfl, .inr ⟨rfl, .inl ?_⟩⟩
      change LinkState.state3 ≠ x75.state
      rcases setsUp with ⟨zero | four, -⟩ | ⟨one, -⟩
      · simp [zero]
      · simp [four]
      · simp [one]
  | released => exact ⟨rfl, .inl rfl⟩
  | disconnected => exact ⟨rfl, .inl rfl⟩
  | reset _ _ three type =>
      rw [x75RequeueFrames_eq]
      exact ⟨rfl, .inr ⟨rfl, .inr ⟨three, .inl type⟩⟩⟩
  | rejected _ _ _ _ three =>
      refine ⟨rfl, .inr ⟨rfl, .inl ?_⟩⟩
      change LinkState.state4 ≠ x75.state
      simp [three]
  | ready condition events _ three type valid =>
      refine (countsOn_check (x75.note condition events) frame.nr).mono fun all => .inr ?_
      refine ⟨three, .inr ⟨valid, .inr ⟨carriesNr_of_ready type, all, fun busy => ?_⟩⟩⟩
      rcases type with ⟨rr, -⟩ | ⟨rnr, -⟩
      · exact absurd (rr.symm.trans busy.1) (by decide)
      · exact absurd (rnr.symm.trans busy.1) (by decide)
  | requeued condition events _ three type _ valid =>
      obtain ⟨_, _, _, same⟩ := x75FramesAcked_kept (x75.note condition events) frame.nr
      rw [x75RequeueFrames_eq, same]
      exact ⟨rfl, .inr ⟨rfl, .inr ⟨three, .inr ⟨valid, .inl type⟩⟩⟩⟩
  | inSequence three type valid _ =>
      obtain ⟨_, _, _, _, _, -, -, same⟩ :=
        receiveInSequence_eq (iframeAcknowledge x75 frame.nr) skb frame
      rw [same]
      exact (countsOn_iframe x75 frame.nr).mono fun all => .inr (iframe three type valid all)
  | outOfSequence three type valid _ =>
      obtain ⟨_, _, -, -, same⟩ := receiveOutOfSequence_eq (iframeAcknowledge x75 frame.nr) frame
      rw [same]
      exact (countsOn_iframe x75 frame.nr).mono fun all => .inr (iframe three type valid all)
  | reestablished three =>
      rw [x75RequeueFrames_eq]
      refine ⟨rfl, .inr ⟨rfl, .inl ?_⟩⟩
      change LinkState.state1 ≠ x75.state
      simp [three]

theorem countStep_received {skb : Bytes} {stack : X75Frame}
    (taken : exec x75 (.dataReceived skb stack) = some after) :
    CountStep x75 (.dataReceived skb stack) after := by
  change x75DataInput x75 skb stack = some after at taken
  unfold x75DataInput at taken
  split at taken
  case h_1 =>
      obtain rfl := Option.some.inj taken
      exact .kept id rfl (.inr not_false)
  case h_2 frame rest decoded =>
      have received : receivedFrame x75 (.dataReceived skb stack) = some frame := by
        simp [receivedFrame, decoded]
      obtain ⟨n2, n2count, -, state⟩ := x75Kick_retries taken
      obtain ⟨limit, same | ⟨zero, clears⟩⟩ := countsOn_machine (x75Machine_outcome x75 rest frame)
      · have stays := n2.trans limit
        exact .kept (fun fits => stays ▸ fits) (n2count.trans same) (.inr not_false)
      · refine .cleared (n2.trans limit) (n2count.trans zero) ?_
        rcases clears with moved | anew
        · exact .inl (state ▸ moved)
        · exact .inr ⟨frame, received, anew⟩

/-- The handler of T1 counts one retry and keeps the state, or leaves the state. -/
def HandlerCounts (x75 after : X75Cb) : Prop :=
  after.n2 = x75.n2 ∧
    (after.state ≠ x75.state ∧ (after.n2count = x75.n2count ∨ after.n2count = 0) ∨
      x75.n2count ≠ x75.n2 ∧ after.n2count = x75.n2count + 1)

/-- In the states in which the handler waits for an answer, N2 retries are the limit. -/
theorem x75T1timerExpiry_counts (due : x75.T1Due) (taken : x75T1timerExpiry x75 = some after) :
    HandlerCounts x75 after := by
  obtain ⟨expired, running⟩ := due
  unfold x75T1timerExpiry at taken
  rw [if_neg (by simp [expired]), if_neg (by simp [running])] at taken
  split at taken
  case h_1 state =>
      split at taken
      case isTrue left =>
          obtain rfl := Option.some.inj taken
          exact ⟨rfl, .inr ⟨left.2, rfl⟩⟩
      case isFalse =>
          obtain rfl := Option.some.inj taken
          refine ⟨rfl, .inl ⟨?_, .inr rfl⟩⟩
          change LinkState.state1 ≠ x75.state
          simp [state]
  case h_4 state =>
      split at taken
      case isTrue =>
          obtain rfl := Option.some.inj taken
          refine ⟨rfl, .inl ⟨?_, .inl rfl⟩⟩
          change LinkState.state0 ≠ x75.state
          simp [state]
      case isFalse left =>
          obtain ⟨sent, kicked, rfl⟩ := Option.map_eq_some_iff.mp taken
          obtain ⟨n2, n2count, -⟩ := x75Kick_retries kicked
          rw [x75RequeueFrames_eq] at n2 n2count
          exact ⟨n2, .inr ⟨left, n2count⟩⟩
  all_goals
    rename_i state
    split at taken
    case isTrue =>
        obtain rfl := Option.some.inj taken
        refine ⟨rfl, .inl ⟨?_, .inl rfl⟩⟩
        change LinkState.state0 ≠ x75.state
        simp [state]
    case isFalse left =>
        obtain rfl := Option.some.inj taken
        exact ⟨rfl, .inr ⟨left, rfl⟩⟩

/-- A handler that finds its timer armed again or stopped does nothing. -/
theorem x75T1timerExpiry_of_not_due (idle : ¬ x75.T1Due) : x75T1timerExpiry x75 = some x75 := by
  unfold x75T1timerExpiry
  split
  · rfl
  case isFalse expired =>
  split
  · rfl
  case isFalse running => exact absurd ⟨by simpa using expired, by simpa using running⟩ idle

/-- A timer that expires, with the timers of `x75` as the expiry leaves them. -/
theorem countStep_handler {handler : Option TimerHandler} {t1timer t2timer : OsmoTimer} {op : Op}
    (acts : x75.T1Acts op → handler = some .t1timerExpiry ∧
      X75Cb.T1Due { x75 with t1timer := t1timer, t2timer := t2timer })
    (handled : callHandler { x75 with t1timer := t1timer, t2timer := t2timer } handler =
      some after) : CountStep x75 op after := by
  rcases handler with - | (- | -)
  · obtain rfl := Option.some.inj handled
    exact .kept id rfl (.inr fun running => by cases (acts running).1)
  · by_cases due : X75Cb.T1Due { x75 with t1timer := t1timer, t2timer := t2timer }
    · obtain ⟨limit, ⟨moved, same | zero⟩ | ⟨left, more⟩⟩ := x75T1timerExpiry_counts due handled
      · exact .kept (fun fits => limit ▸ fits) same (.inl (.inl moved))
      · exact .cleared limit zero (.inl moved)
      · exact .counted limit left more
    · obtain rfl := Option.some.inj ((x75T1timerExpiry_of_not_due due).symm.trans handled)
      exact .kept id rfl (.inr fun running => due (acts running).2)
  · have still : ¬ x75.T1Acts op := fun running => by cases (acts running).1
    have outcome := x75T2timerExpiry_outcome { x75 with t1timer := t1timer, t2timer := t2timer }
    change some (x75T2timerExpiry _) = some after at handled
    rw [handled] at outcome
    cases outcome with
    | idle => exact .kept id rfl (.inr still)
    | acknowledged => exact .kept id rfl (.inr still)

/-- **What an operation does to the count and to the limit**, when a limit that it sets
is at least the retries counted. -/
theorem countStep_exec {op : Op} {retries : Nat} (raises : RaisesLimit ⟨x75, retries⟩ op)
    (taken : exec x75 op = some after) : CountStep x75 op after := by
  cases op with
  | dataRequest skb =>
      obtain ⟨result, requested, rfl⟩ := Option.map_eq_some_iff.mp taken
      unfold x75DataRequest at requested
      split at requested
      · obtain rfl := Option.some.inj requested
        exact .kept id rfl (.inr not_false)
      · obtain ⟨sent, kicked, rfl⟩ := Option.map_eq_some_iff.mp requested
        obtain ⟨n2, n2count, -⟩ := x75Kick_retries kicked
        exact .kept (fun fits => n2 ▸ fits) n2count (.inr not_false)
  | connectRequest =>
      obtain rfl := Option.some.inj taken
      unfold x75ConnectRequest
      split
      · exact .kept id rfl (.inr not_false)
      case isFalse apart =>
      split
      · exact .kept id rfl (.inr not_false)
      · exact .cleared rfl rfl (.inl fun same => apart same.symm)
  | disconnectRequest =>
      obtain rfl := Option.some.inj taken
      unfold x75DisconnectRequest
      split
      case h_1 => exact .kept id rfl (.inr not_false)
      case h_2 => exact .kept id rfl (.inr not_false)
      case h_3 => exact .kept id rfl (.inr not_false)
      case h_4 state | h_5 state =>
          refine .cleared rfl rfl (.inl ?_)
          change LinkState.state2 ≠ x75.state
          simp [state]
  | dataReceived skb stack => exact countStep_received taken
  | t1Expiry =>
      change t1timerExpires x75 = some after at taken
      unfold t1timerExpires at taken
      split at taken
      · refine countStep_handler ?_ taken
        exact fun acts => ⟨acts.2.1, rfl, acts.2.2⟩
      case isFalse disarmed =>
          obtain rfl := Option.some.inj taken
          exact .kept id rfl (.inr fun acts => disarmed acts.1)
  | t2Expiry =>
      change t2timerExpires x75 = some after at taken
      unfold t2timerExpires at taken
      split at taken
      · refine countStep_handler ?_ taken
        exact fun acts => ⟨acts.2.1, acts.2.2⟩
      case isFalse disarmed =>
          obtain rfl := Option.some.inj taken
          exact .kept id rfl (.inr fun acts => disarmed acts.1)
  | setparms parms =>
      obtain rfl := Option.some.inj taken
      by_cases accepted : ParmsAccepted x75 parms
      · rw [x75Setparms_of_accepted accepted]
        exact .kept (fun _ => raises accepted) rfl (.inr not_false)
      · rw [x75Setparms_of_refused accepted]
        exact .kept id rfl (.inr not_false)
  | unregister =>
      obtain rfl := Option.some.inj taken
      rw [x75Unregister_eq]
      exact .kept id rfl (.inr not_false)
  | register callbacks =>
      obtain rfl := Option.some.inj taken
      exact .kept (fun _ => raises) rfl (.inr not_false)

end Count

/-! ## Runs -/

/-- The count is within the limit, and it covers the retries of the state. -/
structure Retrying.Bounded (retrying : Retrying) : Prop where
  within : retrying.x75.n2count ≤ retrying.x75.n2
  covers : retrying.x75.state ≠ .state0 → retrying.retries ≤ retrying.x75.n2count.toNat

section Runs

variable {retrying : Retrying} {op : Op}

/-- A count below a sixteen-bit limit does not wrap. -/
theorem toNat_count_succ {n2count n2 : UInt16} (within : n2count ≤ n2) (left : n2count ≠ n2) :
    (n2count + 1).toNat = n2count.toNat + 1 := by
  have le : n2count.toNat ≤ n2.toNat := UInt16.le_iff_toNat_le.mp within
  have ne : n2count.toNat ≠ n2.toNat := fun same => left (UInt16.toNat_inj.mp same)
  have lt := n2.toNat_lt
  rw [UInt16.toNat_add]
  exact Nat.mod_eq_of_lt (by change n2count.toNat + 1 < 2 ^ 16; omega)

theorem Retrying.Bounded.step {next : Retrying} (bounded : retrying.Bounded)
    (raises : RaisesLimit retrying op) (taken : retrying.step op = some next) : next.Bounded := by
  obtain ⟨after, executed, rfl⟩ := Option.map_eq_some_iff.mp taken
  have unmoved : ¬ StartsRetries retrying.x75 after op → after.state ≠ .state0 →
      retrying.x75.state ≠ .state0 := by
    intro stays apart zero
    exact stays (.inl fun same => apart (same.trans zero))
  cases countStep_exec raises executed with
  | cleared limit zero anew =>
      refine ⟨?_, fun _ => ?_⟩
      · change after.n2count ≤ after.n2
        rw [zero]
        exact UInt16.le_iff_toNat_le.mpr (Nat.zero_le _)
      · exact (if_pos anew).trans_le (Nat.zero_le _)
  | kept fits same still =>
      refine ⟨?_, fun apart => ?_⟩
      · change after.n2count ≤ after.n2
        rw [same]
        exact fits bounded.within
      · change _ ≤ after.n2count.toNat
        rw [same]
        by_cases anew : StartsRetries retrying.x75 after op
        · exact (if_pos anew).trans_le (Nat.zero_le _)
        · simp only [if_neg anew, if_neg (still.resolve_left anew)]
          exact bounded.covers (unmoved anew apart)
  | counted limit left more =>
      have succ := toNat_count_succ bounded.within left
      have le : retrying.x75.n2count.toNat ≤ retrying.x75.n2.toNat :=
        UInt16.le_iff_toNat_le.mp bounded.within
      have ne : retrying.x75.n2count.toNat ≠ retrying.x75.n2.toNat :=
        fun same => left (UInt16.toNat_inj.mp same)
      refine ⟨?_, fun apart => ?_⟩
      · change after.n2count ≤ after.n2
        rw [more, limit, UInt16.le_iff_toNat_le, succ]
        omega
      · change _ ≤ after.n2count.toNat
        rw [more, succ]
        by_cases anew : StartsRetries retrying.x75 after op
        · exact (if_pos anew).trans_le (Nat.zero_le _)
        · have before := bounded.covers (unmoved anew apart)
          simp only [if_neg anew]
          split
          · exact Nat.succ_le_succ before
          · exact Nat.le_succ_of_le before

/-- **The retry limit holds.** In runs from `x75Register` in which every limit that is
set is at least the retries counted, `n2count` is at most N2 after every operation, and
the states 1 to 4 make at most N2 retries before the link leaves the state or a frame
starts the retries anew. -/
theorem retries_within_limit {callbacks : RegisterStruct}
    (reached : Reached Retrying.step RaisesLimit ⟨x75Register zeroed callbacks, 0⟩ retrying) :
    retrying.x75.n2count ≤ retrying.x75.n2 ∧
      (retrying.x75.state ≠ .state0 → retrying.retries ≤ retrying.x75.n2.toNat) := by
  have initial : Retrying.Bounded ⟨x75Register zeroed callbacks, 0⟩ :=
    ⟨UInt16.le_iff_toNat_le.mpr (Nat.zero_le 20), fun _ => Nat.zero_le _⟩
  have bounded := reached.invariant Retrying.Bounded initial
    fun _ bounded raises taken => bounded.step raises taken
  exact ⟨bounded.within, fun apart =>
    (bounded.covers apart).trans (UInt16.le_iff_toNat_le.mp bounded.within)⟩

end Runs

/-- A limit of two is set before anything is sent, and two retries are made. -/
theorem two_retries_within_limit :
    ∃ retrying, runOps Retrying.step ⟨x75Register zeroed .all, 0⟩
        [.dataReceived [0x01, 0x3F] .zero, .setparms ⟨1, 1, 2, 7, 4⟩, .dataRequest [0x41],
          .t1Expiry, .t1Expiry] = some retrying ∧
      retrying.x75.state = .state3 ∧ retrying.retries = 2 ∧
      retrying.x75.n2count ≤ retrying.x75.n2 ∧
      (retrying.x75.state ≠ .state0 → retrying.retries ≤ retrying.x75.n2.toNat) := by
  have meets : MeetsAlong Retrying.step RaisesLimit ⟨x75Register zeroed .all, 0⟩
      [.dataReceived [0x01, 0x3F] .zero, .setparms ⟨1, 1, 2, 7, 4⟩, .dataRequest [0x41],
        .t1Expiry, .t1Expiry] := by decide
  have reached := reached_of_meetsAlong _ .refl meets rfl
  exact ⟨_, rfl, rfl, rfl, retries_within_limit reached⟩

/-- **A lowered limit is stepped over.** A message is retried twice, and then the limit
is set to one. The count is past the limit, and the next expiries go on retrying. -/
theorem lowered_limit_stepped_over :
    ∃ retrying after, runOps Retrying.step ⟨x75Register zeroed .all, 0⟩
        [.dataReceived [0x01, 0x3F] .zero, .dataRequest [0x41], .t1Expiry, .t1Expiry,
          .setparms ⟨1, 1, 1, 7, 4⟩] = some retrying ∧
      runOps Retrying.step retrying [.t1Expiry, .t1Expiry] = some after ∧
      ¬ retrying.x75.n2count ≤ retrying.x75.n2 ∧
      after.x75.state = .state3 ∧ after.x75.n2 = 1 ∧ after.retries = 4 :=
  ⟨_, _, rfl, rfl, by decide, rfl, rfl, rfl⟩

end IsdnRas.X75
