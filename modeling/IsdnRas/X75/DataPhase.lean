import IsdnRas.X75.Sessions

/-!
# The states in which I-frames are sent

`x75Kick` sends I-frames and does not look at the state. `x75DataInput` calls it
after every frame and `x75DataRequest` calls it in states 3 and 4. So it is the
queues that decide in which states I-frames are sent: outside states 3 and 4 they
have to be empty.

Every way out of these states empties them except one. A FRMR in state 3 queues
the unacknowledged frames again and enters state 1. In runs in which a FRMR finds
empty queues, I-frames are sent in states 3 and 4 only (`iframes_in_data_phase`).
State 4 is one of them because `x75DataRequest` accepts payloads there
(`request_sends_in_state4`).
-/

set_option autoImplicit false

namespace IsdnRas.X75

/-- A FRMR in state 3 finds both queues empty. -/
def FrmrFindsNothing (x75 : X75Cb) (op : Op) : Prop :=
  ∀ frame ∈ receivedFrame x75 op, x75.state = .state3 → frame.type = x75Frmr → QueuesEmpty x75

instance (x75 : X75Cb) (op : Op) : Decidable (FrmrFindsNothing x75 op) :=
  inferInstanceAs (Decidable (∀ _ ∈ _, _))

/-! ## The way to state 1 -/

section State

variable (x75 : X75Cb) (nr : Nat)

theorem x75FramesAcked_state : (x75FramesAcked x75 nr).state = x75.state := by
  obtain ⟨_, _, _, same⟩ := x75FramesAcked_kept x75 nr
  rw [same]

theorem x75CheckIframesAcked_state : (x75CheckIframesAcked x75 nr).state = x75.state := by
  unfold x75CheckIframesAcked
  split
  · exact x75FramesAcked_state x75 nr
  split
  · exact x75FramesAcked_state x75 nr
  · rfl

theorem iframeAcknowledge_state : (iframeAcknowledge x75 nr).state = x75.state := by
  unfold iframeAcknowledge
  split
  · exact x75FramesAcked_state x75 nr
  · exact x75CheckIframesAcked_state x75 nr

theorem receiveInSequence_state (skb : Bytes) (frame : X75Frame) :
    (receiveInSequence x75 skb frame).state = x75.state := by
  obtain ⟨_, _, _, _, _, -, -, same⟩ := receiveInSequence_eq x75 skb frame
  rw [same]
  rfl

theorem receiveOutOfSequence_state (frame : X75Frame) :
    (receiveOutOfSequence x75 frame).state = x75.state := by
  obtain ⟨_, _, -, -, same⟩ := receiveOutOfSequence_eq x75 frame
  rw [same]
  rfl

end State

section Step

variable {x75 before after : X75Cb} {op : Op}

/-- From state 3 only a FRMR leads to state 1. -/
theorem MachineOutcome.frmr_of_state1 {skb : Bytes} {frame : X75Frame}
    (machine : MachineOutcome x75 skb frame after) (three : x75.state = .state3)
    (one : after.state = .state1) : frame.type = x75Frmr := by
  have apart : after.state ≠ x75.state := by
    rw [one, three]
    decide
  cases machine with
  | answered => exact absurd rfl apart
  | connected | released | disconnected | rejected => cases one
  | reset => exact absurd rfl apart
  | ready => exact absurd (x75CheckIframesAcked_state ..) apart
  | requeued condition events =>
      exact absurd (x75FramesAcked_state (x75.note condition events) frame.nr) apart
  | inSequence =>
      exact absurd ((receiveInSequence_state ..).trans (iframeAcknowledge_state ..)) apart
  | outOfSequence =>
      exact absurd ((receiveOutOfSequence_state ..).trans (iframeAcknowledge_state ..)) apart
  | reestablished _ type => exact type

theorem HandlerOutcome.state1_ne {handler : Option TimerHandler}
    (handled : HandlerOutcome x75 handler (some after)) (three : x75.state = .state3) :
    after.state ≠ .state1 := by
  cases handled with
  | idle | acknowledged | retried => simp [three]
  | dialled zero => simp [three] at zero
  | gaveUp => simp
  | retransmitted _ _ _ kicked =>
      obtain ⟨sent, sentKicked, rfl⟩ := Option.map_eq_some_iff.mp kicked
      have state : sent.state = x75.state := (x75Kick_change sentKicked).state
      simp [state, three]

theorem frmr_of_state1 (taken : exec x75 op = some after) (three : x75.state = .state3)
    (one : after.state = .state1) : ∃ frame ∈ receivedFrame x75 op, frame.type = x75Frmr := by
  have outcome := exec_outcome x75 op
  rw [taken] at outcome
  cases outcome with
  | ignored | parameters => simp_all
  | unregistered =>
      rw [x75Unregister_eq] at one
      cases three.symm.trans one
  | requested _ kicked =>
      have state := (x75Kick_change kicked).state
      simp_all [enqueueData]
  | @received _ _ _ frame _ _ decoded machine kicked =>
      refine ⟨frame, by simp [receivedFrame, decoded], machine.frmr_of_state1 three ?_⟩
      exact (x75Kick_change kicked).state.symm.trans one
  | dialled apart => simp [three] at apart
  | abandoned | hungUp | registered => cases one
  | t1Expired _ handled => exact absurd one (handled.state1_ne three)
  | t2Expired _ handled => exact absurd one (handled.state1_ne three)

/-! ## Empty queues -/

/-- Empty queues stay empty unless a payload is accepted. -/
theorem QueuesEmpty.change (empty : QueuesEmpty x75) (change : TrafficChange x75 op before)
    (apart : ¬ before.Connected) : QueuesEmpty before := by
  cases change with
  | kept same => exact empty.of_same same
  | accepted _ connected => exact absurd connected apart
  | purged _ same => exact QueuesEmpty.of_same same ⟨rfl, rfl⟩
  | setUp _ _ state => exact absurd (.inl state) apart
  | acked _ _ _ _ _ _ state => exact absurd (.inl state) apart
  | @requeued _ rounds _ vs va _ _ same =>
      refine QueuesEmpty.of_same same ⟨?_, rfl⟩
      simp [empty.1, empty.2]
  | parameters => exact empty
  | registered => exact ⟨rfl, rfl⟩

/-- Leaving states 3 and 4 empties the queues. -/
theorem queuesEmpty_of_left (left : TrafficChange x75 op before) (connected : x75.Connected)
    (apart : ¬ before.Connected)
    (one : x75.state = .state3 → before.state = .state1 → QueuesEmpty x75) :
    QueuesEmpty before := by
  by_cases empty : QueuesEmpty x75
  · exact empty.change left apart
  · cases left with
    | kept _ move =>
        exfalso
        rcases move with still | ⟨-, four⟩ | ⟨two, -⟩ | ⟨released, -⟩ | ⟨awaiting, -⟩
        · exact apart (by rwa [X75Cb.Connected, still])
        · exact apart (.inr four)
        · simp [X75Cb.Connected, two] at connected
        · rcases released with zero | two <;> simp [X75Cb.Connected, *] at connected
        · simp [X75Cb.Connected, awaiting] at connected
    | accepted => exact absurd connected apart
    | purged _ same => exact QueuesEmpty.of_same same ⟨rfl, rfl⟩
    | setUp _ _ state => exact absurd (.inl state) apart
    | acked _ _ _ _ _ _ state => exact absurd (.inl state) apart
    | requeued _ _ _ requeues _ state =>
        rcases state with three | awaiting
        · exact absurd (.inl three) apart
        · exact absurd (one (requeueRounds_cases requeues).1 awaiting) empty
    | parameters => exact absurd connected apart
    | registered => exact ⟨rfl, rfl⟩

/-- What an operation leaves to `x75Kick` outside states 3 and 4: nothing. -/
theorem queuesEmpty_before (empty : ¬ x75.Connected → QueuesEmpty x75)
    (finds : FrmrFindsNothing x75 op) (change : TrafficChange x75 op before)
    (taken : exec x75 op = some after) (state : after.state = before.state)
    (apart : ¬ before.Connected) : QueuesEmpty before := by
  by_cases connected : x75.Connected
  · refine queuesEmpty_of_left change connected apart fun three one => ?_
    obtain ⟨frame, received, frmr⟩ := frmr_of_state1 taken three (state.trans one)
    exact finds frame received three frmr
  · exact (empty connected).change change apart

theorem queuesEmpty_outside {after : X75Cb} (wellFormed : x75.WellFormed)
    (empty : ¬ x75.Connected → QueuesEmpty x75) (finds : FrmrFindsNothing x75 op)
    (taken : exec x75 op = some after) (apart : ¬ after.Connected) : QueuesEmpty after := by
  obtain ⟨before, sent, change, kicked, same, still⟩ := exec_change wellFormed taken
  have state := still.trans kicked.state
  have beforeEmpty := queuesEmpty_before empty finds change taken state
    (by rwa [X75Cb.Connected, ← state])
  obtain rfl := kick_of_empty beforeEmpty kicked
  exact beforeEmpty.of_same same

end Step

/-! ## Runs -/

/-- The invariant of runs in which a FRMR finds nothing. -/
theorem queuesEmpty_outside_of_reached {callbacks : RegisterStruct} {x75 : X75Cb}
    (reached : Reached exec FrmrFindsNothing (x75Register zeroed callbacks) x75) :
    x75.WellFormed ∧ (¬ x75.Connected → QueuesEmpty x75) :=
  reached.invariant (fun x75 => x75.WellFormed ∧ (¬ x75.Connected → QueuesEmpty x75))
    ⟨wellFormed_register _ _, fun _ => ⟨rfl, rfl⟩⟩
    fun _ inv finds taken =>
      ⟨inv.1.step taken, queuesEmpty_outside inv.1 inv.2 finds taken⟩

/-- **I-frames are sent in states 3 and 4 only**, in runs in which a FRMR finds
empty queues. The I-frames that an operation hands to `data_transmit` are those of
one call of `x75Kick`, and the link is in state 3 or 4 throughout that call. -/
theorem iframes_in_data_phase {callbacks : RegisterStruct} {x75 after : X75Cb} {op : Op}
    (reached : Reached exec FrmrFindsNothing (x75Register zeroed callbacks) x75)
    (finds : FrmrFindsNothing x75 op) (taken : exec x75 op = some after)
    (hands : carriedOf x75.extended after.events ≠ carriedOf x75.extended x75.events) :
    ∃ before sent, carriedOf x75.extended before.events = carriedOf x75.extended x75.events ∧
      x75Kick before = some sent ∧ sent.events = after.events ∧
        before.Connected ∧ sent.state = before.state ∧ after.state = before.state := by
  obtain ⟨wellFormed, empty⟩ := queuesEmpty_outside_of_reached reached
  obtain ⟨before, change, follows⟩ := exec_traffic wellFormed op
  have carried := carriedOf_change change
  have connected_of_kick : ∀ {sent : X75Cb}, x75Kick before = some sent →
      sent.events = after.events → after.state = sent.state → before.Connected := by
    intro sent kicked events state
    by_contra apart
    have still := (x75Kick_change kicked).state
    have beforeEmpty := queuesEmpty_before empty finds change taken (state.trans still) apart
    obtain rfl := kick_of_empty beforeEmpty (x75Kick_change kicked)
    exact hands (events ▸ carried)
  rw [taken] at follows
  cases follows with
  | omitted => exact absurd carried hands
  | kicked kicked =>
      have still := (x75Kick_change kicked).state
      exact ⟨before, after, carried, kicked, rfl, connected_of_kick kicked rfl rfl, still, still⟩
  | restarted kicked =>
      obtain ⟨sent, sentKicked, rfl⟩ := Option.map_eq_some_iff.mp kicked
      have still := (x75Kick_change sentKicked).state
      exact ⟨before, sent, carried, sentKicked, rfl, connected_of_kick sentKicked rfl rfl, still,
        still⟩

/-- A payload is sent in state 3. -/
theorem iframes_in_data_phase_request :
    ∃ x75 after, runOps exec (x75Register zeroed .all) [.dataReceived [0x01, 0x3F] .zero] =
        some x75 ∧ exec x75 (.dataRequest [0x41]) = some after ∧
      ∃ before sent, carriedOf x75.extended before.events = carriedOf x75.extended x75.events ∧
        x75Kick before = some sent ∧ sent.events = after.events ∧
          before.Connected ∧ sent.state = before.state ∧ after.state = before.state := by
  have meets : MeetsAlong exec FrmrFindsNothing (x75Register zeroed .all)
      [.dataReceived [0x01, 0x3F] .zero] := by decide
  exact ⟨_, _, rfl, rfl, @iframes_in_data_phase .all _ _ (.dataRequest [0x41])
    (reached_of_meetsAlong _ .refl meets rfl) (by decide) rfl (by decide)⟩

/-- **State 4 takes payloads.** An RR with an invalid N(R) leads to state 4, where
a payload is accepted and sent. -/
theorem request_sends_in_state4 :
    ∃ x75 after, runOps exec (x75Register zeroed .all) [.dataReceived [0x01, 0x3F] .zero,
        .dataReceived [0x01, 0xA1] .zero] = some x75 ∧ x75.state = .state4 ∧
      exec x75 (.dataRequest [0x41]) = some after ∧ after.state = .state4 ∧
      carriedOf x75.extended (after.events.drop x75.events.length) = [[0x41]] :=
  ⟨_, _, rfl, rfl, rfl, rfl, rfl⟩

end IsdnRas.X75
