import IsdnRas.X75.QueueCounts

/-!
# Acknowledging with a valid N(R)

`x75ValidateNr` walks from V(A) and ends when it meets V(S), so it needs both below the
modulus. They are, in every connection of every run: only state 0 accepts a new mode, and
a link is set up with all variables zero (`WellFormed`).

The walk, the distances between the variables, and the frames that `x75FramesAcked`
releases then agree for every position of the window (`valid_nr_releases`).
-/

set_option autoImplicit false

namespace IsdnRas.X75

section Acknowledge

variable {x75 : X75Cb} {nr : Nat}

/-- The walk of `x75ValidateNr` ends, however many rounds it is given. -/
theorem x75ValidateNrLoop_ends (inModulus : x75.InModulus) (nr_lt : nr < x75.modulus)
    {rounds : Nat} (enough : x75.modulus < rounds) :
    x75ValidateNrLoop x75.modulus x75.vs nr rounds x75.va = some (x75ValidateNr x75 nr) := by
  obtain ⟨vs_lt, -, va_lt⟩ := inModulus
  have within : seqDist x75.modulus x75.va x75.vs < x75.modulus := seqDist_lt (by omega)
  have ends := x75ValidateNrLoop_eq vs_lt nr_lt
  rw [x75ValidateNr, ends (x75.modulus + 1) x75.va va_lt (by omega),
    ends rounds x75.va va_lt (by omega)]
  rfl

/-- The frames between V(A) and a valid N(R) are the oldest ones. -/
theorem ackRounds_of_valid (valid : seqDist x75.modulus x75.va nr ≤
      seqDist x75.modulus x75.va x75.vs)
    (length : x75.ackQueue.msgs.length = seqDist x75.modulus x75.va x75.vs)
    (exact : x75.ackQueue.Exact) : ackRounds x75 nr = seqDist x75.modulus x75.va nr := by
  rw [ackRounds, if_pos (Nat.le_of_eq exact), exact, length]
  exact Nat.min_eq_left valid

theorem x75FramesAcked_of_valid (inModulus : x75.InModulus) (nr_lt : nr < x75.modulus)
    (valid : x75ValidateNr x75 nr = true)
    (length : x75.ackQueue.msgs.length = seqDist x75.modulus x75.va x75.vs)
    (exact : x75.ackQueue.Exact) :
    x75FramesAcked x75 nr = acknowledge x75 (seqDist x75.modulus x75.va nr) ∧
      seqDist x75.modulus x75.va nr ≤ x75.ackQueue.msgs.length := by
  obtain ⟨vs_lt, -, va_lt⟩ := inModulus
  have within := (x75ValidateNr_iff va_lt vs_lt nr_lt).mp valid
  rw [x75FramesAcked_eq va_lt nr_lt, ackRounds_of_valid within length exact, length]
  exact ⟨rfl, within⟩

end Acknowledge

theorem wellFormed_of_reached {callbacks : RegisterStruct} {x75 : X75Cb}
    (reached : Reached exec (fun _ _ => True) (x75Register zeroed callbacks) x75) :
    x75.WellFormed :=
  reached.invariant X75Cb.WellFormed (wellFormed_register _ _)
    fun _ wellFormed _ taken => wellFormed.step taken

/-- **Valid N(R), in every connection of every run.** The sequence variables are below the
modulus. So for every N(R) below the modulus `x75ValidateNr` ends, and accepts exactly the
numbers from V(A) up to V(S). When it does, and the queue holds as many frames as lie
between V(A) and V(S) and counts them correctly, `x75FramesAcked` releases the frames from
V(A) up to N(R), which are the oldest, and no others, and advances V(A) to N(R). -/
theorem valid_nr_releases {callbacks : RegisterStruct} {x75 : X75Cb}
    (reached : Reached exec (fun _ _ => True) (x75Register zeroed callbacks) x75)
    (connected : x75.Connected) :
    x75.InModulus ∧ ∀ nr, nr < x75.modulus →
      (∀ rounds, x75.modulus < rounds →
        x75ValidateNrLoop x75.modulus x75.vs nr rounds x75.va = some (x75ValidateNr x75 nr)) ∧
      (x75ValidateNr x75 nr = true ↔
        seqDist x75.modulus x75.va nr ≤ seqDist x75.modulus x75.va x75.vs) ∧
      (x75ValidateNr x75 nr = true →
        x75.ackQueue.msgs.length = seqDist x75.modulus x75.va x75.vs → x75.ackQueue.Exact →
          (x75FramesAcked x75 nr).va = nr ∧
          (x75FramesAcked x75 nr).ackQueue.msgs =
            x75.ackQueue.msgs.drop (seqDist x75.modulus x75.va nr) ∧
          (x75FramesAcked x75 nr).ackQueue.Exact ∧
          (x75FramesAcked x75 nr).events = x75.events ++
            (x75.ackQueue.msgs.take (seqDist x75.modulus x75.va nr)).map
              (fun skb => .acked (some skb)) ∧
          seqDist x75.modulus x75.va nr ≤ x75.ackQueue.msgs.length) := by
  have inModulus := (wellFormed_of_reached reached).sequence connected
  refine ⟨inModulus, fun nr nr_lt => ⟨fun rounds => x75ValidateNrLoop_ends inModulus nr_lt,
    x75ValidateNr_iff inModulus.2.2 inModulus.1 nr_lt, fun valid length exact => ?_⟩⟩
  obtain ⟨released, le⟩ := x75FramesAcked_of_valid inModulus nr_lt valid length exact
  rw [released]
  refine ⟨add_seqDist inModulus.2.2 nr_lt, rfl, exact_acknowledge exact le, ?_, le⟩
  rw [acknowledge_events, Nat.sub_eq_zero_of_le le, List.replicate_zero, List.append_nil]

/-- Of two frames sent the first is acknowledged. -/
theorem valid_nr_releases_first :
    ∃ x75, runOps exec (x75Register zeroed .all) [.dataReceived [0x01, 0x3F] .zero,
        .dataRequest [0x41], .dataRequest [0x42]] = some x75 ∧
      x75.ackQueue.msgs = [[0x41], [0x42]] ∧ x75ValidateNr x75 1 = true ∧
      (x75FramesAcked x75 1).va = 1 ∧ (x75FramesAcked x75 1).ackQueue.msgs = [[0x42]] := by
  have meets : MeetsAlong exec (fun _ _ => True) (x75Register zeroed .all)
      [.dataReceived [0x01, 0x3F] .zero, .dataRequest [0x41], .dataRequest [0x42]] := by
    decide
  have releases := (valid_nr_releases (reached_of_meetsAlong _ .refl meets rfl) (by decide)).2 1
    (by decide)
  obtain ⟨va, msgs, -⟩ := releases.2.2 (by decide) (by decide) (by decide)
  exact ⟨_, rfl, rfl, releases.2.1.mpr (by decide), va, msgs⟩

end IsdnRas.X75
