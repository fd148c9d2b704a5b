import IsdnRas.Library.SeqSpace
import IsdnRas.X75.Events

/-!
# What the procedures compute

One equation for each procedure with a loop. `x75RequeueFrames` moves the
acknowledgement queue behind the write queue. `x75FramesAcked` releases as many
messages as there are numbers from V(A) to N(R), or as the counter of the queue
allows (`x75FramesAcked_eq`). `x75ValidateNr` accepts the numbers from V(A) to
V(S) (`x75ValidateNr_iff`). `x75Kick` either does nothing or sends the first
messages of the write queue, up to the end of the queue or of the window
(`x75Kick_cases`).
-/

set_option autoImplicit false

namespace IsdnRas.X75

/-! ## Requeueing -/

/-- Both queues in the write queue, the unacknowledged frames last. The sequence
variables are given. -/
@[simps] def requeued (x75 : X75Cb) (vs va : Nat) : X75Cb :=
  { x75 with
    vs := vs
    va := va
    ackQueue := ⟨[], x75.ackQueue.count - UInt32.ofNat x75.ackQueue.msgs.length⟩
    writeQueue := ⟨x75.writeQueue.msgs ++ x75.ackQueue.msgs,
      x75.writeQueue.count + UInt32.ofNat x75.ackQueue.msgs.length⟩ }

/-- **What `x75RequeueFrames` does.** -/
theorem x75RequeueFrames_eq (x75 : X75Cb) :
    x75RequeueFrames x75 = requeued x75 x75.vs x75.va := by
  simp [x75RequeueFrames, requeued, CountedQueue.drain_eq]

/-! ## Releasing acknowledged frames -/

/-- Release the first `rounds` messages and advance V(A) as often. When there
are fewer messages the remaining rounds release NULL. -/
@[simps] def acknowledge (x75 : X75Cb) (rounds : Nat) : X75Cb :=
  { x75 with
    ackQueue := ⟨x75.ackQueue.msgs.drop rounds,
      x75.ackQueue.count - UInt32.ofNat (min rounds x75.ackQueue.msgs.length)⟩
    va := (x75.va + rounds) % x75.modulus
    events := x75.events ++ ((x75.ackQueue.msgs.take rounds).map (fun skb => .acked (some skb)) ++
      List.replicate (rounds - x75.ackQueue.msgs.length) (.acked none)) }

/-- The released messages are released payloads. -/
theorem releasedOf_acknowledge (x75 : X75Cb) (rounds : Nat) :
    releasedOf (acknowledge x75 rounds).events =
      releasedOf x75.events ++ x75.ackQueue.msgs.take rounds := by
  rw [acknowledge_events, releasedOf_append, releasedOf_append, releasedOf_acked,
    releasedOf_replicate_null, List.append_nil]

theorem acceptedOf_acknowledge (x75 : X75Cb) (rounds : Nat) :
    acceptedOf (acknowledge x75 rounds).events = acceptedOf x75.events := by
  rw [acknowledge_events, acceptedOf_append, acceptedOf_append, acceptedOf_acked,
    acceptedOf_replicate_null, List.append_nil, List.append_nil]

theorem carriedOf_acknowledge (extended : Bool) (x75 : X75Cb) (rounds : Nat) :
    carriedOf extended (acknowledge x75 rounds).events = carriedOf extended x75.events := by
  rw [acknowledge_events, carriedOf_append, carriedOf_append, carriedOf_acked,
    carriedOf_replicate_null, List.append_nil, List.append_nil]

/-- How many rounds `x75FramesAcked` makes: the numbers from V(A) to N(R), cut
off where the counter reaches zero. A counter above the length of the queue
never does. -/
def ackRounds (x75 : X75Cb) (nr : Nat) : Nat :=
  if x75.ackQueue.count.toNat ≤ x75.ackQueue.msgs.length then
    min (seqDist x75.modulus x75.va nr) x75.ackQueue.count.toNat
  else seqDist x75.modulus x75.va nr

theorem acknowledge_zero {x75 : X75Cb} (va_lt : x75.va < x75.modulus) :
    acknowledge x75 0 = x75 := by
  cases x75
  simp_all [acknowledge, Nat.mod_eq_of_lt]

theorem acknowledge_releaseHead (x75 : X75Cb) (rounds : Nat) :
    acknowledge (x75ReleaseHead x75) rounds = acknowledge x75 (rounds + 1) := by
  have one : UInt32.ofNat 1 = 1 := rfl
  have sum : ((x75.va + 1) % x75.modulus + rounds) % x75.modulus =
      (x75.va + (rounds + 1)) % x75.modulus := by
    rw [Nat.mod_add_mod, Nat.add_assoc, Nat.add_comm 1 rounds]
  rcases queue : x75.ackQueue with ⟨msgs, count⟩
  cases msgs with
  | nil =>
      apply X75Cb.ext
      case va => exact sum
      case ackQueue => simp [x75ReleaseHead, acknowledge, queue, CountedQueue.dequeue]
      case events =>
          simp [x75ReleaseHead, acknowledge, queue, CountedQueue.dequeue, List.replicate_succ]
      all_goals rfl
  | cons skb rest =>
      have counts : count - 1 - UInt32.ofNat (min rounds rest.length) =
          count - UInt32.ofNat (min (rounds + 1) (rest.length + 1)) := by
        rw [Nat.add_min_add_right, UInt32.ofNat_add, one]
        grind
      apply X75Cb.ext
      case va => exact sum
      case ackQueue => simp [x75ReleaseHead, acknowledge, queue, CountedQueue.dequeue, counts]
      case events => simp [x75ReleaseHead, acknowledge, queue, CountedQueue.dequeue]
      all_goals rfl

theorem ackRounds_eq_zero {x75 : X75Cb} {nr : Nat}
    (stopped : ¬ (x75.ackQueue.count ≠ 0 ∧ x75.va ≠ nr)) : ackRounds x75 nr = 0 := by
  by_cases count : x75.ackQueue.count = 0
  · simp [ackRounds, count]
  · have reached : x75.va = nr := by
      by_contra apart
      exact stopped ⟨count, apart⟩
    simp [ackRounds, reached]

theorem ackRounds_releaseHead {x75 : X75Cb} {nr : Nat} (count : x75.ackQueue.count ≠ 0)
    (va_lt : x75.va < x75.modulus) (nr_lt : nr < x75.modulus) (apart : x75.va ≠ nr) :
    ackRounds (x75ReleaseHead x75) nr + 1 = ackRounds x75 nr := by
  have shorter := seqDist_succ va_lt nr_lt apart
  rcases queue : x75.ackQueue with ⟨msgs, counter⟩
  have positive : counter.toNat ≠ 0 := by
    intro zero
    rw [queue] at count
    exact count (UInt32.toNat_inj.mp zero)
  have less : (counter - 1).toNat = counter.toNat - 1 := by
    rw [UInt32.toNat_sub_of_le]
    · rfl
    · rw [UInt32.le_iff_toNat_le]
      change 1 ≤ counter.toNat
      omega
  cases msgs with
  | nil =>
      simp only [ackRounds, x75ReleaseHead, queue, CountedQueue.dequeue, List.length_nil,
        Nat.le_zero_eq]
      rw [if_neg positive, if_neg positive]
      exact shorter
  | cons skb rest =>
      simp only [ackRounds, x75ReleaseHead, queue, CountedQueue.dequeue, List.length_cons, less,
        X75Cb.modulus] at shorter ⊢
      split <;> split <;> omega

theorem x75FramesAckedLoop_eq {nr : Nat} : ∀ (fuel : Nat) (x75 : X75Cb),
    x75.va < x75.modulus → nr < x75.modulus → seqDist x75.modulus x75.va nr ≤ fuel →
      x75FramesAckedLoop nr fuel x75 = acknowledge x75 (ackRounds x75 nr) := by
  intro fuel
  induction fuel with
  | zero =>
      intro x75 va_lt nr_lt within
      have reached : x75.va = nr := (seqDist_eq_zero_iff va_lt nr_lt).mp (by omega)
      rw [ackRounds_eq_zero fun running => running.2 reached, acknowledge_zero va_lt]
      rfl
  | succ fuel ih =>
      intro x75 va_lt nr_lt within
      unfold x75FramesAckedLoop
      by_cases running : x75.ackQueue.count ≠ 0 ∧ x75.va ≠ nr
      · have shorter := seqDist_succ va_lt nr_lt running.2
        have va_lt' : (x75ReleaseHead x75).va < (x75ReleaseHead x75).modulus :=
          Nat.mod_lt _ (modulus_pos x75.mode)
        have within' : seqDist (x75ReleaseHead x75).modulus (x75ReleaseHead x75).va nr ≤ fuel := by
          change seqDist x75.modulus ((x75.va + 1) % x75.modulus) nr ≤ fuel
          omega
        rw [if_pos running, ih _ va_lt' nr_lt within', acknowledge_releaseHead,
          ackRounds_releaseHead running.1 va_lt nr_lt running.2]
      · rw [if_neg running, ackRounds_eq_zero running, acknowledge_zero va_lt]

/-- **What `x75FramesAcked` does**, for an N(R) of the mode. -/
theorem x75FramesAcked_eq {x75 : X75Cb} {nr : Nat} (va_lt : x75.va < x75.modulus)
    (nr_lt : nr < x75.modulus) :
    x75FramesAcked x75 nr = acknowledge x75 (ackRounds x75 nr) :=
  x75FramesAckedLoop_eq _ x75 va_lt nr_lt
    (Nat.le_of_lt (seqDist_lt (modulus_pos x75.mode)))

/-- What releasing frames changes, for any N(R): the acknowledgement queue and V(A).
It is recorded which messages were freed. -/
theorem x75FramesAcked_kept (x75 : X75Cb) (nr : Nat) :
    ∃ (ackQueue : CountedQueue Bytes) (va : Nat) (freed : List (Option Bytes)),
      x75FramesAcked x75 nr = { x75 with
        ackQueue := ackQueue
        va := va
        events := x75.events ++ freed.map .acked } := by
  have loop : ∀ (fuel : Nat) (x75 : X75Cb),
      ∃ (ackQueue : CountedQueue Bytes) (va : Nat) (freed : List (Option Bytes)),
        x75FramesAckedLoop nr fuel x75 = { x75 with
          ackQueue := ackQueue
          va := va
          events := x75.events ++ freed.map .acked } := by
    intro fuel
    induction fuel with
    | zero =>
        intro x75
        exact ⟨x75.ackQueue, x75.va, [], by simp [x75FramesAckedLoop]⟩
    | succ fuel ih =>
        intro x75
        unfold x75FramesAckedLoop
        split
        · obtain ⟨ackQueue, va, freed, same⟩ := ih (x75ReleaseHead x75)
          refine ⟨ackQueue, va, x75.ackQueue.dequeue.1 :: freed, ?_⟩
          rw [same]
          simp [x75ReleaseHead]
        · exact ⟨x75.ackQueue, x75.va, [], by simp⟩
  exact loop x75.modulus x75

/-- `x75CheckIframesAcked` releases the same frames and restarts or stops T1. -/
theorem x75CheckIframesAcked_eq {x75 : X75Cb} {nr : Nat} (va_lt : x75.va < x75.modulus)
    (nr_lt : nr < x75.modulus) :
    ∃ t1timer t1timerRunning n2count, x75CheckIframesAcked x75 nr =
      { acknowledge x75 (ackRounds x75 nr) with
        t1timer := t1timer
        t1timerRunning := t1timerRunning
        n2count := n2count } := by
  unfold x75CheckIframesAcked
  split
  · exact ⟨_, _, _, by rw [x75FramesAcked_eq va_lt nr_lt]; rfl⟩
  split
  · exact ⟨_, _, _, by rw [x75FramesAcked_eq va_lt nr_lt]; rfl⟩
  case isFalse reached =>
      have none : ackRounds x75 nr = 0 := ackRounds_eq_zero fun running => reached running.2
      exact ⟨_, _, _, by rw [none, acknowledge_zero va_lt]⟩

theorem iframeAcknowledge_eq {x75 : X75Cb} {nr : Nat} (va_lt : x75.va < x75.modulus)
    (nr_lt : nr < x75.modulus) :
    ∃ t1timer t1timerRunning n2count, iframeAcknowledge x75 nr =
      { acknowledge x75 (ackRounds x75 nr) with
        t1timer := t1timer
        t1timerRunning := t1timerRunning
        n2count := n2count } := by
  unfold iframeAcknowledge
  split
  · exact ⟨_, _, _, x75FramesAcked_eq va_lt nr_lt⟩
  · exact x75CheckIframesAcked_eq va_lt nr_lt

/-! ## Validating N(R) -/

theorem x75ValidateNrLoop_eq {M vs nr : Nat} (vs_lt : vs < M) (nr_lt : nr < M) :
    ∀ (fuel vc : Nat), vc < M → seqDist M vc vs < fuel →
      x75ValidateNrLoop M vs nr fuel vc = some (decide (seqDist M vc nr ≤ seqDist M vc vs)) := by
  intro fuel
  induction fuel with
  | zero =>
      intro vc _ within
      omega
  | succ fuel ih =>
      intro vc vc_lt within
      unfold x75ValidateNrLoop
      by_cases reached : vc = vs
      · subst reached
        have same := seqDist_eq_zero_iff vc_lt nr_lt
        simp only [ne_eq, not_true_eq_false, if_false, seqDist_self, Nat.le_zero_eq, same]
        exact congrArg some (by rw [beq_eq_decide]; simp only [eq_comm])
      · have toStop := seqDist_succ vc_lt vs_lt reached
        rw [if_pos reached]
        by_cases found : nr = vc
        · subst found
          simp
        · have toNr := seqDist_succ vc_lt nr_lt (Ne.symm found)
          rw [if_neg found, ih _ (Nat.mod_lt _ (by omega)) (by omega)]
          congr 1
          exact decide_eq_decide.mpr (by omega)

/-- **`x75ValidateNr` accepts exactly the numbers from V(A) to V(S).** -/
theorem x75ValidateNr_iff {x75 : X75Cb} {nr : Nat} (va_lt : x75.va < x75.modulus)
    (vs_lt : x75.vs < x75.modulus) (nr_lt : nr < x75.modulus) :
    x75ValidateNr x75 nr = true ↔
      seqDist x75.modulus x75.va nr ≤ seqDist x75.modulus x75.va x75.vs := by
  have rounds := x75ValidateNrLoop_eq vs_lt nr_lt (x75.modulus + 1) x75.va va_lt
    (Nat.lt_succ_of_lt (seqDist_lt (by omega)))
  simp [x75ValidateNr, rounds]

/-! ## Sending I-frames -/

/-- The transmissions of messages with consecutive N(S) from `vs`. -/
def iframesFrom (x75 : X75Cb) : Nat → List Bytes → List Event
  | _, [] => []
  | vs, skb :: rest =>
      transmitted x75 (iframeField { x75 with vs := vs } skb x75Polloff) x75Command ++
        iframesFrom x75 ((vs + 1) % x75.modulus) rest

/-- The transmissions depend on the mode, on V(R) and on the call-backs. -/
theorem iframesFrom_congr {x75 other : X75Cb} (mode : other.mode = x75.mode)
    (vr : other.vr = x75.vr) (callbacks : other.callbacks = x75.callbacks) (msgs : List Bytes) :
    ∀ vs, iframesFrom other vs msgs = iframesFrom x75 vs msgs := by
  induction msgs with
  | nil =>
      intro vs
      rfl
  | cons skb rest ih =>
      intro vs
      simp [iframesFrom, iframeField, transmitted, x75Address, mode, vr, callbacks, ih]

/-- Only the messages are transmitted. -/
theorem mem_iframesFrom {x75 : X75Cb} {event : Event} {msgs : List Bytes} :
    ∀ {vs : Nat}, event ∈ iframesFrom x75 vs msgs → ∃ number, ∃ skb ∈ msgs,
      event = .dataTransmit (x75Address x75 x75Command ::
        iframeField { x75 with vs := number } skb x75Polloff) := by
  induction msgs with
  | nil =>
      intro vs member
      cases member
  | cons skb rest ih =>
      intro vs member
      rcases List.mem_append.mp member with first | later
      · refine ⟨vs, skb, List.mem_cons_self .., ?_⟩
        unfold transmitted called at first
        split at first
        · exact List.mem_singleton.mp first
        · cases first
      · obtain ⟨number, other, member, same⟩ := ih later
        exact ⟨number, other, List.mem_cons_of_mem _ member, same⟩

/-- The message at position `i` is transmitted with N(S) `i` steps after `vs`. -/
theorem iframesFrom_mem {x75 : X75Cb} (installed : x75.callbacks.dataTransmit = true)
    {msgs : List Bytes} : ∀ {vs i : Nat} {skb : Bytes}, vs < x75.modulus → msgs[i]? = some skb →
      .dataTransmit (x75Address x75 x75Command ::
        iframeField { x75 with vs := (vs + i) % x75.modulus } skb x75Polloff) ∈
          iframesFrom x75 vs msgs := by
  induction msgs with
  | nil =>
      intro vs i skb _ read
      cases read
  | cons first rest ih =>
      intro vs i skb vs_lt read
      cases i with
      | zero =>
          obtain rfl : first = skb := Option.some.inj read
          refine List.mem_append_left _ ?_
          simp [transmitted, called, installed, Nat.mod_eq_of_lt vs_lt]
      | succ i =>
          have later := ih (Nat.mod_lt (vs + 1) (modulus_pos x75.mode)) read
          have walk : (vs + (i + 1)) % x75.modulus =
              ((vs + 1) % x75.modulus + i) % x75.modulus := by
            rw [Nat.mod_add_mod, Nat.add_assoc, Nat.add_comm 1 i]
          rw [walk]
          exact List.mem_append_right _ later

theorem acceptedOf_iframesFrom (x75 : X75Cb) (vs : Nat) (msgs : List Bytes) :
    acceptedOf (iframesFrom x75 vs msgs) = [] := by
  refine List.filterMap_eq_nil_iff.mpr fun event member => ?_
  obtain ⟨_, _, -, rfl⟩ := mem_iframesFrom member
  rfl

theorem releasedOf_iframesFrom (x75 : X75Cb) (vs : Nat) (msgs : List Bytes) :
    releasedOf (iframesFrom x75 vs msgs) = [] := by
  refine List.filterMap_eq_nil_iff.mpr fun event member => ?_
  obtain ⟨_, _, -, rfl⟩ := mem_iframesFrom member
  rfl

theorem indicatedOf_iframesFrom (x75 : X75Cb) (vs : Nat) (msgs : List Bytes) :
    indicatedOf (iframesFrom x75 vs msgs) = [] := by
  refine List.filterMap_eq_nil_iff.mpr fun event member => ?_
  obtain ⟨_, _, -, rfl⟩ := mem_iframesFrom member
  rfl

/-- Send the first `k` messages of the write queue. -/
@[simps] def sendFirst (x75 : X75Cb) (k : Nat) : X75Cb :=
  { x75 with
    vs := (x75.vs + k) % x75.modulus
    writeQueue := ⟨x75.writeQueue.msgs.drop k, x75.writeQueue.count - UInt32.ofNat k⟩
    ackQueue := ⟨x75.ackQueue.msgs ++ x75.writeQueue.msgs.take k,
      x75.ackQueue.count + UInt32.ofNat k⟩
    events := x75.events ++ iframesFrom x75 x75.vs (x75.writeQueue.msgs.take k) }

/-- The loop sends until V(S) is `stop` or the queue is empty. -/
structure KickCount (x75 : X75Cb) (stop k : Nat) : Prop where
  positive : 0 < k
  le_length : k ≤ x75.writeQueue.msgs.length
  ended : k = x75.writeQueue.msgs.length ∨ (x75.vs + k) % x75.modulus = stop
  running : ∀ j, 0 < j → j < k → (x75.vs + j) % x75.modulus ≠ stop

section Window

variable {x75 : X75Cb} {sent k : Nat}

/-- Numbers from V(S) on, counted from V(A). -/
theorem vs_walk (start : x75.vs = (x75.va + sent) % x75.modulus) (j : Nat) :
    (x75.vs + j) % x75.modulus = (x75.va + (sent + j)) % x75.modulus := by
  rw [start, Nat.mod_add_mod, Nat.add_assoc]

/-- The loop stops before the window is exceeded. -/
theorem KickCount.within_window (count : KickCount x75 (kickStop x75) k)
    (start : x75.vs = (x75.va + sent) % x75.modulus) (le : sent ≤ x75.window)
    (ready : x75.vs ≠ kickStop x75) : sent + k ≤ x75.window := by
  have room : sent ≠ x75.window := by
    rintro rfl
    exact ready start
  by_contra beyond
  refine count.running (x75.window - sent) (by omega) (by omega) ?_
  rw [vs_walk start, Nat.add_sub_cancel' le, kickStop]

end Window

/-- The state after one round of the loop. -/
theorem x75KickOne_eq {x75 : X75Cb} {skb : Bytes} {rest : List Bytes}
    (queue : x75.writeQueue.msgs = skb :: rest) :
    x75KickOne { x75 with writeQueue := ⟨rest, x75.writeQueue.count - 1⟩ } skb =
      sendFirst x75 1 := by
  apply X75Cb.ext
  case writeQueue => simp [x75KickOne, sendFirst, queue]
  case ackQueue => simp [x75KickOne, sendFirst, queue, CountedQueue.enqueue]
  case events => simp [x75KickOne, sendFirst, queue, iframesFrom]; rfl
  all_goals rfl

theorem sendFirst_sendFirst {x75 : X75Cb} {skb : Bytes} {rest : List Bytes}
    (queue : x75.writeQueue.msgs = skb :: rest) (k : Nat) :
    sendFirst (sendFirst x75 1) k = sendFirst x75 (k + 1) := by
  have one : UInt32.ofNat 1 = 1 := rfl
  have later : iframesFrom (sendFirst x75 1) ((x75.vs + 1) % x75.modulus) (rest.take k) =
      iframesFrom x75 ((x75.vs + 1) % x75.modulus) (rest.take k) := by
    apply iframesFrom_congr <;> rfl
  apply X75Cb.ext
  case vs =>
      change ((x75.vs + 1) % x75.modulus + k) % x75.modulus = (x75.vs + (k + 1)) % x75.modulus
      rw [Nat.mod_add_mod, Nat.add_assoc, Nat.add_comm 1 k]
  case writeQueue =>
      simp only [sendFirst, queue, List.drop_succ_cons, List.drop_zero, UInt32.ofNat_add, one,
        CountedQueue.mk.injEq, true_and]
      grind
  case ackQueue =>
      simp only [sendFirst, queue, List.drop_succ_cons, List.drop_zero, List.take_succ_cons,
        List.take_zero, List.append_assoc, List.singleton_append, UInt32.ofNat_add, one,
        CountedQueue.mk.injEq, true_and]
      grind
  case events =>
      have msgs : (sendFirst x75 1).writeQueue.msgs.take k = rest.take k := by simp [queue]
      rw [sendFirst_events, msgs, sendFirst_vs, later]
      simp [sendFirst, queue, iframesFrom]
  all_goals rfl

theorem x75KickLoop_eq (stop : Nat) : ∀ (queue : List Bytes) (x75 : X75Cb),
    x75.writeQueue.msgs = queue → queue ≠ [] →
      ∃ k, KickCount x75 stop k ∧ x75KickLoop stop queue x75 = sendFirst x75 k := by
  intro queue
  induction queue with
  | nil =>
      intro x75 _ nonempty
      exact absurd rfl nonempty
  | cons skb rest ih =>
      intro x75 msgs _
      have length : x75.writeQueue.msgs.length = rest.length + 1 := by rw [msgs, List.length_cons]
      simp only [x75KickLoop, x75KickOne_eq msgs, sendFirst_vs]
      by_cases stopped : (x75.vs + 1) % x75.modulus = stop
      · refine ⟨1, ⟨by omega, by omega, .inr stopped, fun j => by omega⟩, ?_⟩
        rw [if_neg (not_not.mpr stopped)]
      · rw [if_pos stopped]
        cases rest with
        | nil =>
            exact ⟨1, ⟨by omega, by omega, .inl (by simp [length]), fun j => by omega⟩, rfl⟩
        | cons next others =>
            obtain ⟨k, count, sent⟩ := ih (sendFirst x75 1) (by simp [msgs]) (by simp)
            have shift : ∀ j, ((sendFirst x75 1).vs + j) % (sendFirst x75 1).modulus =
                (x75.vs + (j + 1)) % x75.modulus := by
              intro j
              change ((x75.vs + 1) % x75.modulus + j) % x75.modulus = _
              rw [Nat.mod_add_mod, Nat.add_assoc, Nat.add_comm 1 j]
            have length' : (sendFirst x75 1).writeQueue.msgs.length = others.length + 1 := by
              simp [msgs]
            refine ⟨k + 1, ⟨by omega, ?_, ?_, ?_⟩, ?_⟩
            · have := count.le_length
              simp only [length, List.length_cons]
              omega
            · rcases count.ended with all | full
              · exact .inl (by simp only [length, List.length_cons]; omega)
              · exact .inr (by rw [← shift]; exact full)
            · intro j positive below
              by_cases first : j = 1
              · rw [first]
                exact stopped
              · have running := count.running (j - 1) (by omega) (by omega)
                rwa [shift, Nat.sub_add_cancel positive] at running
            · rw [sent, sendFirst_sendFirst msgs]

/-- What `x75Kick` leaves when it sends `k` messages: the acknowledgement that
was pending has been carried by the I-frames, and T1 runs. -/
@[simps] def afterKick (x75 : X75Cb) (k : Nat) : X75Cb :=
  { sendFirst { x75 with vs := kickStart x75 } k with
    condition := clearFlag x75.condition x75AckPendingCondition
    t1timerRunning := true
    t1timer := if x75.t1timerRunning then x75.t1timer else (x75StartT1timer x75).t1timer }

/-- **What `x75Kick` does**: nothing, or it sends the first messages of the
write queue. -/
theorem x75Kick_cases {x75 after : X75Cb} (kicked : x75Kick x75 = some after) :
    ¬ KickReady x75 ∧ after = x75 ∨
      KickReady x75 ∧ ∃ k, KickCount { x75 with vs := kickStart x75 } (kickStop x75) k ∧
        after = afterKick x75 k := by
  unfold x75Kick at kicked
  by_cases ready : KickReady x75
  · rw [if_pos ready] at kicked
    rcases queue : x75.writeQueue.msgs with - | ⟨skb, rest⟩
    · rw [queue] at kicked
      cases kicked
    · simp only [queue, Option.some.injEq] at kicked
      obtain ⟨k, count, sent⟩ := x75KickLoop_eq (kickStop x75) (skb :: rest)
        { x75 with vs := kickStart x75 } queue (by simp)
      refine .inr ⟨ready, k, count, ?_⟩
      rw [← kicked, sent]
      cases running : x75.t1timerRunning with
      | true => simp [afterKick, sendFirst, running]
      | false => simp [afterKick, sendFirst, running, x75StartT1timer]
  · rw [if_neg ready, Option.some.injEq] at kicked
    exact .inl ⟨ready, kicked.symm⟩

/-- `x75Kick` fails only on a counter that promises a message the queue does not
have. -/
theorem x75Kick_eq_none_iff {x75 : X75Cb} :
    x75Kick x75 = none ↔ KickReady x75 ∧ x75.writeQueue.msgs = [] := by
  unfold x75Kick
  by_cases ready : KickReady x75
  · rcases queue : x75.writeQueue.msgs with - | ⟨skb, rest⟩ <;> simp [ready]
  · simp [ready]

end IsdnRas.X75
