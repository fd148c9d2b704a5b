import IsdnRas.X75.AckTimer
import IsdnRas.X75.DataPhase
import IsdnRas.X75.T1Supervision

/-!
# T1 in the states that wait

States 1, 2 and 4 are left by an answer of the peer or by T1. So T1 has to run in
them, whatever state 3 did to it: there it may be stopped, and it may be armed with the
handler of T2. Every way into the three states starts T1 anew, which sets up its own
handler. In them only T1 itself stops T1, and then it leads to state 0
(`awaiting_supervised`). The one exception is `x75Unregister`, which stops the timers
and keeps the state.
-/

set_option autoImplicit false

namespace IsdnRas.X75

/-- The link waits for the peer: to be connected, to be released, or to be reset. -/
def Awaiting (x75 : X75Cb) : Prop :=
  x75.state = .state1 ∨ x75.state = .state2 ∨ x75.state = .state4

/-- T1 runs and is armed with its own handler. -/
def T1Runs (x75 : X75Cb) : Prop := x75.t1timerRunning = true ∧ T1Armed x75

section Step

variable {x75 after : X75Cb}

theorem not_awaiting_of_state3 (three : x75.state = .state3) : ¬ Awaiting x75 := by
  simp [Awaiting, three]

theorem not_awaiting_of_state0 (zero : x75.state = .state0) : ¬ Awaiting x75 := by
  simp [Awaiting, zero]

/-- Starting T1 sets up its own handler. -/
theorem t1Runs_start (x75 : X75Cb) : T1Runs (x75StartT1timer x75) := ⟨rfl, rfl, rfl⟩

theorem T1Runs.kick (runs : T1Runs x75) (kicked : x75Kick x75 = some after) : T1Runs after := by
  rcases x75Kick_cases kicked with ⟨-, rfl⟩ | ⟨-, k, -, rfl⟩
  · exact runs
  · refine ⟨rfl, ?_⟩
    rw [T1Armed, afterKick_t1timer, if_pos runs.1]
    exact runs.2

theorem t1Runs_machine {skb : Bytes} {frame : X75Frame} (runs : Awaiting x75 → T1Runs x75)
    (machine : MachineOutcome x75 skb frame after) (awaiting : Awaiting after) : T1Runs after := by
  cases machine with
  | answered => exact runs awaiting
  | connected => exact absurd awaiting (not_awaiting_of_state3 rfl)
  | released => exact absurd awaiting (not_awaiting_of_state0 rfl)
  | disconnected => exact absurd awaiting (not_awaiting_of_state0 rfl)
  | reset _ _ three => exact absurd awaiting (not_awaiting_of_state3 three)
  | rejected => exact t1Runs_start x75
  | ready condition events _ three =>
      have state := x75CheckIframesAcked_state (x75.note condition events) frame.nr
      exact absurd awaiting (not_awaiting_of_state3 (state.trans three))
  | requeued condition events _ three =>
      have state := x75FramesAcked_state (x75.note condition events) frame.nr
      exact absurd awaiting (not_awaiting_of_state3 (state.trans three))
  | inSequence three =>
      have acked := (iframeAcknowledge_state x75 frame.nr).trans three
      exact absurd awaiting (not_awaiting_of_state3 ((receiveInSequence_state ..).trans acked))
  | outOfSequence three =>
      have acked := (iframeAcknowledge_state x75 frame.nr).trans three
      exact absurd awaiting (not_awaiting_of_state3 ((receiveOutOfSequence_state ..).trans acked))
  | reestablished =>
      rw [x75RequeueFrames_eq]
      exact ⟨rfl, rfl, rfl⟩

/-- The handler of an expired timer. The control block is the one after the expiry; the
handler of T1 does not find itself idle in the states that wait. -/
theorem t1Runs_handler {handler : Option TimerHandler}
    (idle : Awaiting x75 → (handler = some .t1timerExpiry → ¬ x75.T1Due) → T1Runs x75)
    (delayed : handler = some .t2timerExpiry → ¬ Awaiting x75)
    (handled : HandlerOutcome x75 handler (some after)) (awaiting : Awaiting after) :
    T1Runs after := by
  cases handled with
  | idle _ reason => exact idle awaiting reason
  | acknowledged => exact absurd awaiting (delayed rfl)
  | retried => exact t1Runs_start x75
  | dialled => exact t1Runs_start _
  | gaveUp => exact absurd awaiting (not_awaiting_of_state0 rfl)
  | retransmitted _ three _ kicked =>
      obtain ⟨sent, sentKicked, rfl⟩ := Option.map_eq_some_iff.mp kicked
      exact t1Runs_start sent

/-- One operation. T2 never has a handler, so its expiry does nothing. -/
theorem t1Runs_step {op : Op} (runs : Awaiting x75 → T1Runs x75) (without : x75.t2timer.cb = none)
    (stays : op ≠ .unregister) (taken : exec x75 op = some after) (awaiting : Awaiting after) :
    T1Runs after := by
  have outcome := exec_outcome x75 op
  rw [taken] at outcome
  cases outcome with
  | ignored => exact runs awaiting
  | @requested skb _ _ kicked =>
      rw [Awaiting, (x75Kick_change kicked).state] at awaiting
      have queued : T1Runs (enqueueData x75 skb) := runs awaiting
      exact queued.kick kicked
  | received _ machine kicked =>
      rw [Awaiting, (x75Kick_change kicked).state] at awaiting
      exact (t1Runs_machine runs machine awaiting).kick kicked
  | dialled => exact ⟨rfl, rfl, rfl⟩
  | abandoned => exact absurd awaiting (not_awaiting_of_state0 rfl)
  | hungUp => exact ⟨rfl, rfl, rfl⟩
  | parameters => exact runs awaiting
  | unregistered => exact absurd rfl stays
  | registered => exact absurd awaiting (not_awaiting_of_state0 rfl)
  | t1Expired _ handled =>
      refine t1Runs_handler ?_ ?_ handled awaiting
      · intro before reason
        obtain ⟨running, -, own⟩ := runs before
        exact absurd ⟨rfl, running⟩ (reason own)
      · intro delayed before
        have own := (runs before).2.2
        rw [delayed] at own
        cases own
  | t2Expired _ handled =>
      refine t1Runs_handler ?_ ?_ handled awaiting
      · exact fun before _ => runs before
      · intro delayed
        rw [without] at delayed
        cases delayed

end Step

/-- **T1 supervises the states that wait**, after every operation of a run without
`x75Unregister`: in states 1, 2 and 4 it runs, is armed and carries its own handler. -/
theorem awaiting_supervised {callbacks : RegisterStruct} {x75 : X75Cb}
    (reached : Reached exec (fun _ op => op ≠ .unregister) (x75Register zeroed callbacks) x75)
    (awaiting : x75.state = .state1 ∨ x75.state = .state2 ∨ x75.state = .state4) :
    x75.t1timerRunning = true ∧ x75.t1timer.active = true ∧
      x75.t1timer.cb = some .t1timerExpiry := by
  have invariant : x75.WellFormed ∧ x75.t2timer.cb = none ∧ (Awaiting x75 → T1Runs x75) := by
    refine reached.invariant
      (fun x75 => x75.WellFormed ∧ x75.t2timer.cb = none ∧ (Awaiting x75 → T1Runs x75))
      ⟨wellFormed_register _ _, rfl, fun awaiting => ?_⟩ ?_
    · exact absurd awaiting (not_awaiting_of_state0 rfl)
    · rintro state next op ⟨wellFormed, without, runs⟩ stays taken
      exact ⟨wellFormed.step taken, step_t2timer wellFormed without taken,
        t1Runs_step runs without stays taken⟩
  exact invariant.2.2 awaiting

/-- A frame with an invalid N(R) is rejected after T2 has put its handler on T1. -/
theorem awaiting_supervised_rejected :
    ∃ x75, runOps exec (x75Register zeroed .all) [.dataReceived [0x01, 0x3F] .zero,
        .dataReceived [0x01, 0x00, 0x41] .zero, .dataReceived [0x01, 0xA1] .zero] = some x75 ∧
      x75.state = .state4 ∧
      (x75.t1timerRunning = true ∧ x75.t1timer.active = true ∧
        x75.t1timer.cb = some .t1timerExpiry) := by
  have meets : MeetsAlong exec (fun _ op => op ≠ .unregister) (x75Register zeroed .all)
      [.dataReceived [0x01, 0x3F] .zero, .dataReceived [0x01, 0x00, 0x41] .zero,
        .dataReceived [0x01, 0xA1] .zero] := by decide
  exact ⟨_, rfl, rfl, awaiting_supervised (reached_of_meetsAlong _ .refl meets rfl)
    (.inr (.inr rfl))⟩

end IsdnRas.X75
