import IsdnRas.X75.T1Supervision

/-!
# Retries of an acknowledged transfer

In state 3 the handler of T1 queues the unacknowledged frames again, N2 times at most,
and then gives the link up. `n2count` says how often it has done so. A transfer that
advances should not be given up: the count is to start anew when the peer
acknowledges. So `n2count` is compared with the expiries of T1 since V(A) last advanced.

A frame that acknowledges everything clears `n2count`, and so does a REJ. A frame that
acknowledges a part does not, and neither does an I-frame from a peer that is busy. So
a link is given up that has just been acknowledged (`acknowledged_times_out`). In runs
in which such frames find nothing counted, N2 expiries come first
(`timed_out_after_retries`).
-/

set_option autoImplicit false

namespace IsdnRas.X75

/-! ## Counting the expiries -/

/-- A control block, and how often T1 has expired in state 3 since the transfer last
advanced. -/
structure Retries where
  x75 : X75Cb
  expiries : Nat
deriving DecidableEq

/-- The link is reset in state 3. -/
def OpResets (x75 : X75Cb) (op : Op) : Prop :=
  x75.state = .state3 ∧ ∃ frame ∈ receivedFrame x75 op,
    frame.type = if x75.extended then x75Sabme else x75Sabm

instance (x75 : X75Cb) (op : Op) : Decidable (OpResets x75 op) :=
  inferInstanceAs (Decidable (_ ∧ ∃ _ ∈ _, _))

/-- The link enters state 3 or is reset, or a received frame advances V(A). -/
def StartsAnew (x75 after : X75Cb) (op : Op) : Prop :=
  x75.state ≠ .state3 ∧ after.state = .state3 ∨ OpResets x75 op ∨
    receivedFrame x75 op ≠ none ∧ after.va ≠ x75.va

instance (x75 after : X75Cb) (op : Op) : Decidable (StartsAnew x75 after op) :=
  inferInstanceAs (Decidable (_ ∧ _ ∨ _ ∨ _ ∧ _))

/-- One operation, and the expiries of T1 in state 3. -/
def Retries.step (retries : Retries) (op : Op) : Option Retries :=
  (exec retries.x75 op).map fun after =>
    { x75 := after
      expiries :=
        if StartsAnew retries.x75 after op then 0
        else if retries.x75.state = .state3 ∧ retries.x75.T1Acts op then retries.expiries + 1
        else retries.expiries }

/-- The frame advances V(A) without clearing `n2count`. -/
def PartlyAcks (x75 : X75Cb) (frame : X75Frame) : Prop :=
  CarriesNr frame.type ∧ frame.type ≠ x75Rej ∧ x75ValidateNr x75 frame.nr = true ∧
    (x75.ackQueue.count ≠ 0 ∧ x75.va ≠ frame.nr) ∧
      (x75.vs ≠ frame.nr ∨ frame.type = x75I ∧ PeerBusy x75)

instance (x75 : X75Cb) (frame : X75Frame) : Decidable (PartlyAcks x75 frame) :=
  inferInstanceAs (Decidable (_ ∧ _ ∧ _ ∧ (_ ∧ _) ∧ (_ ∨ _ ∧ _)))

/-- A frame that acknowledges a part finds nothing counted. -/
def KeepsRetries (retries : Retries) (op : Op) : Prop :=
  ∀ frame ∈ receivedFrame retries.x75 op, retries.x75.state = .state3 →
    PartlyAcks retries.x75 frame → retries.x75.n2count = 0

instance (retries : Retries) (op : Op) : Decidable (KeepsRetries retries op) :=
  inferInstanceAs (Decidable (∀ _ ∈ _, _))

/-! ## What an operation does to the count -/

/-- What an operation that leaves the link in state 3 does to `n2count`. -/
inductive RetryChange (x75 : X75Cb) (op : Op) (after : X75Cb) : Prop where
  | cleared (zero : after.n2count = 0)
  | kept (connected : x75.state = .state3) (same : after.n2count = x75.n2count)
      (stays : ¬ StartsAnew x75 after op)
  | counted (connected : x75.state = .state3) (acts : x75.T1Acts op)
      (more : after.n2count = x75.n2count + 1) (stays : ¬ StartsAnew x75 after op)

section Change

variable {x75 after : X75Cb}

/-- Without a received frame nothing starts anew in state 3. -/
theorem not_startsAnew {op : Op} (connected : x75.state = .state3)
    (none : receivedFrame x75 op = none) : ¬ StartsAnew x75 after op := by
  rintro (⟨apart, -⟩ | ⟨-, frame, received, -⟩ | ⟨received, -⟩)
  · exact apart connected
  · rw [none] at received
    cases received
  · exact received none

/-- Nothing is released without unacknowledged frames, and nothing for V(A) itself. -/
theorem x75FramesAcked_stopped {nr : Nat} (stopped : ¬ (x75.ackQueue.count ≠ 0 ∧ x75.va ≠ nr)) :
    x75FramesAcked x75 nr = x75 := by
  unfold x75FramesAcked
  cases x75.modulus with
  | zero => rfl
  | succ fuel => exact if_neg stopped

theorem x75FramesAcked_n2count (x75 : X75Cb) (nr : Nat) :
    (x75FramesAcked x75 nr).n2count = x75.n2count := by
  obtain ⟨_, _, _, same⟩ := x75FramesAcked_kept x75 nr
  rw [same]

/-- What an N(R) does to the count: it is cleared, or V(A) stays unless `partly` does. -/
def Recounts (x75 after : X75Cb) (partly : Prop) : Prop :=
  after.n2count = 0 ∨ after.n2count = x75.n2count ∧ (after.va = x75.va ∨ partly)

theorem recounts_framesAcked (x75 : X75Cb) (nr : Nat) :
    Recounts x75 (x75FramesAcked x75 nr) (x75.ackQueue.count ≠ 0 ∧ x75.va ≠ nr) := by
  refine .inr ⟨x75FramesAcked_n2count x75 nr, ?_⟩
  by_cases released : x75.ackQueue.count ≠ 0 ∧ x75.va ≠ nr
  · exact .inr released
  · exact .inl (congrArg X75Cb.va (x75FramesAcked_stopped released))

theorem recounts_check (x75 : X75Cb) (nr : Nat) :
    Recounts x75 (x75CheckIframesAcked x75 nr)
      ((x75.ackQueue.count ≠ 0 ∧ x75.va ≠ nr) ∧ x75.vs ≠ nr) := by
  unfold x75CheckIframesAcked
  split
  case isTrue => exact .inl rfl
  case isFalse part =>
  split
  · rcases recounts_framesAcked x75 nr with zero | ⟨same, still | released⟩
    · exact .inl zero
    · exact .inr ⟨same, .inl still⟩
    · exact .inr ⟨same, .inr ⟨released, part⟩⟩
  · exact .inr ⟨rfl, .inl rfl⟩

theorem recounts_iframe (x75 : X75Cb) (nr : Nat) :
    Recounts x75 (iframeAcknowledge x75 nr)
      ((x75.ackQueue.count ≠ 0 ∧ x75.va ≠ nr) ∧ (x75.vs ≠ nr ∨ PeerBusy x75)) := by
  unfold iframeAcknowledge
  split
  case isTrue busy =>
      rcases recounts_framesAcked x75 nr with zero | ⟨same, still | released⟩
      · exact .inl zero
      · exact .inr ⟨same, .inl still⟩
      · exact .inr ⟨same, .inr ⟨released, .inr busy⟩⟩
  case isFalse =>
      rcases recounts_check x75 nr with zero | ⟨same, still | ⟨released, part⟩⟩
      · exact .inl zero
      · exact .inr ⟨same, .inl still⟩
      · exact .inr ⟨same, .inr ⟨released, .inl part⟩⟩

/-- A partial acknowledgement that finds nothing counted leaves nothing counted. -/
theorem Recounts.resolve {partly : Prop} (recounts : Recounts x75 after partly)
    (none : partly → x75.n2count = 0) :
    after.n2count = 0 ∨ after.n2count = x75.n2count ∧ after.va = x75.va := by
  rcases recounts with zero | ⟨same, still | part⟩
  · exact .inl zero
  · exact .inr ⟨same, still⟩
  · exact .inl (same.trans (none part))

/-- The machine of the current state, when the link is in state 3 afterwards. -/
theorem machine_retries {skb : Bytes} {frame : X75Frame}
    (none : x75.state = .state3 → PartlyAcks x75 frame → x75.n2count = 0)
    (machine : MachineOutcome x75 skb frame after) (connected : after.state = .state3) :
    after.n2count = 0 ∨
      x75.state = .state3 ∧ after.n2count = x75.n2count ∧ after.va = x75.va := by
  cases machine with
  | answered => exact .inr ⟨connected, rfl, rfl⟩
  | connected => exact .inl rfl
  | released => cases connected
  | disconnected => cases connected
  | reset =>
      rw [x75RequeueFrames_eq]
      exact .inl rfl
  | rejected => cases connected
  | ready condition events _ three type valid =>
      have recounts := recounts_check (x75.note condition events) frame.nr
      have other : frame.type ≠ x75Rej := by
        rcases type with ⟨rr, -⟩ | ⟨rnr, -⟩
        · rw [rr]
          decide
        · rw [rnr]
          decide
      refine (recounts.resolve fun part => none three ?_).imp_right (⟨three, ·⟩)
      exact ⟨carriesNr_of_ready type, other, valid, part.1, .inl part.2⟩
  | requeued =>
      rw [x75RequeueFrames_eq]
      exact .inl rfl
  | inSequence three type valid _ =>
      have recounts := (recounts_iframe x75 frame.nr).resolve fun part => none three
        ⟨carriesNr_of_iframe type, by rw [type]; decide, valid, part.1,
          part.2.imp_right (⟨type, ·⟩)⟩
      obtain ⟨_, _, _, _, _, -, -, same⟩ :=
        receiveInSequence_eq (iframeAcknowledge x75 frame.nr) skb frame
      rw [same]
      exact recounts.imp_right (⟨three, ·⟩)
  | outOfSequence three type valid _ =>
      have recounts := (recounts_iframe x75 frame.nr).resolve fun part => none three
        ⟨carriesNr_of_iframe type, by rw [type]; decide, valid, part.1,
          part.2.imp_right (⟨type, ·⟩)⟩
      obtain ⟨_, _, -, -, same⟩ := receiveOutOfSequence_eq (iframeAcknowledge x75 frame.nr) frame
      rw [same]
      exact recounts.imp_right (⟨three, ·⟩)
  | reestablished => cases connected

/-- A link reset clears the count. -/
theorem x75Machine_reset {skb : Bytes} {frame : X75Frame} (connected : x75.state = .state3)
    (type : frame.type = if x75.extended then x75Sabme else x75Sabm) :
    (x75Machine x75 skb frame).n2count = 0 := by
  have machine : x75Machine x75 skb frame = resetConnected x75 frame := by
    unfold x75Machine x75State3Machine
    cases extended : x75.extended <;> simp_all [x75Sabm, x75Sabme]
  rw [machine, resetConnected, x75RequeueFrames_eq]
  rfl

theorem retryChange_received {skb : Bytes} {stack : X75Frame} {expiries : Nat}
    (keeps : KeepsRetries ⟨x75, expiries⟩ (.dataReceived skb stack))
    (taken : exec x75 (.dataReceived skb stack) = some after) (connected : after.state = .state3) :
    RetryChange x75 (.dataReceived skb stack) after := by
  change x75DataInput x75 skb stack = some after at taken
  unfold x75DataInput at taken
  split at taken
  case h_1 undecoded =>
      obtain rfl := Option.some.inj taken
      exact .kept connected rfl (not_startsAnew connected (by simp [receivedFrame, undecoded]))
  case h_2 frame rest decoded =>
      have received : receivedFrame x75 (.dataReceived skb stack) = some frame := by
        simp [receivedFrame, decoded]
      obtain ⟨-, n2count, va, state⟩ := x75Kick_retries taken
      by_cases resets : OpResets x75 (.dataReceived skb stack)
      · obtain ⟨three, other, same, type⟩ := resets
        obtain rfl : frame = other := Option.some.inj (received.symm.trans same)
        exact .cleared (n2count.trans (x75Machine_reset three type))
      · rcases machine_retries (keeps frame received) (x75Machine_outcome x75 rest frame)
            (state.symm.trans connected) with zero | ⟨three, same, still⟩
        · exact .cleared (n2count.trans zero)
        · refine .kept three (n2count.trans same) ?_
          rintro (⟨apart, -⟩ | again | ⟨-, advanced⟩)
          · exact apart three
          · exact resets again
          · exact advanced (va.trans still)

/-- The handler of an expired timer. The control block is the one after the expiry. -/
theorem retryChange_handler {handler : Option TimerHandler} {t1timer t2timer : OsmoTimer} {op : Op}
    (acts : handler = some .t1timerExpiry → t1timer.active = false → x75.t1timerRunning = true →
      x75.T1Acts op)
    (none : receivedFrame x75 op = none)
    (handled : HandlerOutcome { x75 with t1timer := t1timer, t2timer := t2timer } handler
      (some after)) (connected : after.state = .state3) : RetryChange x75 op after := by
  cases handled with
  | idle => exact .kept connected rfl (not_startsAnew connected none)
  | acknowledged => exact .kept connected rfl (not_startsAnew connected none)
  | retried _ _ _ apart => exact absurd connected apart
  | dialled => simp [x75EstablishDataLink] at connected
  | gaveUp => cases connected
  | retransmitted due three _ kicked =>
      obtain ⟨sent, sentKicked, rfl⟩ := Option.map_eq_some_iff.mp kicked
      rw [x75RequeueFrames_eq] at sentKicked
      exact .counted three (acts rfl due.1 due.2) (x75Kick_retries sentKicked).2.1
        (not_startsAnew three none)

/-- **What an operation does to the count**, when the link is in state 3 afterwards. -/
theorem retryChange_exec {op : Op} {expiries : Nat} (keeps : KeepsRetries ⟨x75, expiries⟩ op)
    (taken : exec x75 op = some after) (connected : after.state = .state3) :
    RetryChange x75 op after := by
  by_cases frames : ∃ skb stack, op = .dataReceived skb stack
  · obtain ⟨skb, stack, rfl⟩ := frames
    exact retryChange_received keeps taken connected
  have none : receivedFrame x75 op = none := by
    cases op with
    | dataReceived skb stack => exact absurd ⟨skb, stack, rfl⟩ frames
    | _ => rfl
  have outcome := exec_outcome x75 op
  rw [taken] at outcome
  cases outcome with
  | ignored => exact .kept connected rfl (not_startsAnew connected none)
  | requested _ kicked =>
      obtain ⟨-, n2count, -, state⟩ := x75Kick_retries kicked
      have three := state.symm.trans connected
      exact .kept three n2count (not_startsAnew three none)
  | received => exact absurd ⟨_, _, rfl⟩ frames
  | dialled => cases connected
  | abandoned => cases connected
  | hungUp => cases connected
  | parameters => exact .kept connected rfl (not_startsAnew connected none)
  | unregistered =>
      rw [x75Unregister_eq] at connected ⊢
      exact .kept connected rfl (not_startsAnew connected none)
  | registered => cases connected
  | t1Expired armed handled =>
      refine retryChange_handler ?_ none handled connected
      exact fun handler _ running => ⟨armed, handler, running⟩
  | t2Expired armed handled =>
      refine retryChange_handler ?_ none handled connected
      exact fun handler active running => ⟨armed, handler, active, running⟩

end Change

/-! ## Runs -/

/-- In state 3 no more retries are counted than T1 has expired. -/
def Retries.Earned (retries : Retries) : Prop :=
  retries.x75.state = .state3 → retries.x75.n2count.toNat ≤ retries.expiries

section Runs

variable {retries : Retries} {op : Op}

/-- One operation. The count may wrap, which only makes it smaller. -/
theorem Retries.Earned.step {next : Retries} (earned : retries.Earned)
    (keeps : KeepsRetries retries op) (taken : retries.step op = some next) : next.Earned := by
  obtain ⟨after, executed, rfl⟩ := Option.map_eq_some_iff.mp taken
  intro connected
  change after.n2count.toNat ≤ _
  cases retryChange_exec keeps executed connected with
  | cleared zero =>
      rw [zero]
      exact Nat.zero_le _
  | kept three same stays =>
      have before := earned three
      rw [same]
      simp only [if_neg stays]
      split <;> omega
  | counted three acts more stays =>
      have before := earned three
      have le : (retries.x75.n2count + 1).toNat ≤ retries.x75.n2count.toNat + 1 := by
        rw [UInt16.toNat_add]
        exact Nat.mod_le _ _
      rw [more]
      simp only [if_neg stays, if_pos (And.intro three acts)]
      omega

/-- The handler of T1 gives a connection up only when the count has reached N2. -/
theorem n2count_of_gaveUp {x75 after : X75Cb} {handler : Option TimerHandler}
    (handled : HandlerOutcome x75 handler (some after)) (connected : x75.state = .state3)
    (released : after.state = .state0) : x75.n2count = x75.n2 := by
  cases handled with
  | idle | acknowledged | retried => cases connected.symm.trans released
  | dialled zero => cases connected.symm.trans zero
  | gaveUp _ _ _ _ _ _ _ exhausted => exact exhausted
  | retransmitted _ _ _ kicked =>
      obtain ⟨sent, sentKicked, rfl⟩ := Option.map_eq_some_iff.mp kicked
      have state := (x75Kick_retries sentKicked).2.2.2
      rw [x75RequeueFrames_eq] at state
      cases (state.trans connected).symm.trans released

theorem n2count_of_timedOut {x75 after : X75Cb} (connected : x75.state = .state3)
    (acts : x75.T1Acts op) (taken : exec x75 op = some after) (released : after.state = .state0) :
    x75.n2count = x75.n2 := by
  have outcome := exec_outcome x75 op
  rw [taken] at outcome
  cases outcome with
  | t1Expired _ handled =>
      have exhausted := n2count_of_gaveUp handled connected released
      exact exhausted
  | t2Expired _ handled =>
      have exhausted := n2count_of_gaveUp handled connected released
      exact exhausted
  | ignored => cases connected.symm.trans released
  | _ => exact acts.elim

/-- **A connection is given up only after N2 retries.** When the handler of T1 takes the
link from state 3 to state 0, T1 has expired in state 3 at least N2 times since the link
entered the state, was reset or had its V(A) advanced by a received frame. This holds in
runs in which a frame that acknowledges a part finds nothing counted. -/
theorem timed_out_after_retries {callbacks : RegisterStruct} {after : X75Cb}
    (reached : Reached Retries.step KeepsRetries ⟨x75Register zeroed callbacks, 0⟩ retries)
    (connected : retries.x75.state = .state3) (acts : retries.x75.T1Acts op)
    (taken : exec retries.x75 op = some after) (released : after.state = .state0) :
    retries.x75.n2.toNat ≤ retries.expiries := by
  have earned := reached.invariant Retries.Earned (fun three => by cases three)
    fun _ earned keeps taken => earned.step keeps taken
  rw [← n2count_of_timedOut connected acts taken released]
  exact earned connected

end Runs

/-- A message is sent again twenty times, and the next expiry gives up. -/
theorem timed_out_after_twenty_retries :
    ∃ retries after, runOps Retries.step ⟨x75Register zeroed .all, 0⟩
        ([.dataReceived [0x01, 0x3F] .zero, .dataRequest [0x41]] ++
          List.replicate 20 .t1Expiry) = some retries ∧
      exec retries.x75 .t1Expiry = some after ∧ after.state = .state0 ∧
      retries.x75.n2.toNat ≤ retries.expiries := by
  have meets : MeetsAlong Retries.step KeepsRetries ⟨x75Register zeroed .all, 0⟩
      ([.dataReceived [0x01, 0x3F] .zero, .dataRequest [0x41]] ++
        List.replicate 20 .t1Expiry) := by decide
  have reached := reached_of_meetsAlong _ .refl meets rfl
  exact ⟨_, _, rfl, rfl, rfl,
    @timed_out_after_retries _ .t1Expiry _ _ reached rfl ⟨rfl, rfl, rfl⟩ rfl rfl⟩

set_option maxRecDepth 2000 in
/-- **A transfer that is acknowledged times out.** Two messages are sent, and T1 expires
twenty times. Then the peer acknowledges the first of them, and the next expiry gives the
link up, although T1 has not expired since V(A) advanced. -/
theorem acknowledged_times_out :
    ∃ retries after, runOps Retries.step ⟨x75Register zeroed .all, 0⟩
        ([.dataReceived [0x01, 0x3F] .zero, .dataRequest [0x41], .dataRequest [0x42]] ++
          List.replicate 20 .t1Expiry ++ [.dataReceived [0x01, 0x21] .zero]) = some retries ∧
      retries.x75.state = .state3 ∧ retries.x75.va = 1 ∧ retries.x75.T1Acts .t1Expiry ∧
      exec retries.x75 .t1Expiry = some after ∧ after.state = .state0 ∧
      retries.x75.n2.toNat = 20 ∧ retries.expiries = 0 :=
  ⟨_, _, rfl, rfl, rfl, ⟨rfl, rfl, rfl⟩, rfl, rfl, rfl, rfl⟩

end IsdnRas.X75
