import IsdnRas.Library.Runs
import IsdnRas.X75.RoundTrip
import IsdnRas.X75.Acts

/-!
# What a station says

`RoundTrip` follows one procedure at a time to the peer. Here a whole run is followed: every
frame that it hands to `data_transmit` is read by a peer of the other role as one of the
frames a station of this mode may send, a command or a response as its type demands, with
numbers below the modulus (`frames_understood`).

V(S) stands in the control field unreduced. A mode with a smaller modulus than V(S) would
let it run into the poll bit, so the runs are those in which a change of the mode leaves
V(S) and V(A) below the modulus. Nothing is asked of the state: `x75Kick` is called in
every one of them. Each act of an operation is followed by itself (`Speaks.act`).
-/

set_option autoImplicit false

namespace IsdnRas.X75

/-! ## Legal frames -/

/-- A frame that a station of this mode may send. -/
structure Legal (mode : UInt32) (frame : X75Frame) : Prop where
  kind : (frame.type = x75I ∨ IsCommandType mode frame.type) ∧ frame.cr = x75Command ∨
    (IsResponseType frame.type ∨ frame.type = x75Frmr) ∧ frame.cr = x75Response
  nr_lt : CarriesNr frame.type → frame.nr < modulusOf mode
  ns_lt : frame.type = x75I → frame.ns < modulusOf mode

/-- A peer of the other role reads these bytes as a legal frame. -/
def Understood (mode : UInt32) (bytes : Bytes) : Prop :=
  ∀ (peer : X75Cb) (stack : X75Frame), peer.mode = peerMode mode →
    ∃ frame rest, x75Decode peer bytes stack = some (frame, rest) ∧ Legal mode frame

/-- An empty frame is not understood. -/
theorem Understood.ne_nil {mode : UInt32} {bytes : Bytes} (understood : Understood mode bytes) :
    bytes ≠ [] := by
  rintro rfl
  obtain ⟨frame, rest, decoded, -⟩ := understood { zeroed with mode := peerMode mode } .zero rfl
  cases decoded

section Frames

variable (x75 : X75Cb)

/-- The peer reads numbers below the modulus of the sender. -/
theorem decoded_nr_lt {peer : X75Cb} {mode : UInt32} (opposite : peer.mode = peerMode mode)
    {bytes rest : Bytes} {stack frame : X75Frame}
    (decoded : x75Decode peer bytes stack = some (frame, rest)) (carries : CarriesNr frame.type) :
    frame.nr < modulusOf mode := by
  have below := x75Decode_nr_lt decoded carries
  rwa [X75Cb.modulus, opposite, modulusOf, extendedMode_peerMode] at below

theorem understood_iframe (vs_lt : x75.vs < x75.modulus) (skb : Bytes) (pollBit : UInt8) :
    Understood x75.mode (x75Address x75 x75Command :: iframeField x75 skb pollBit) := by
  intro peer stack opposite
  obtain ⟨frame, decoded, type, ns, -, -, cr⟩ := decode_iframe peer x75 vs_lt skb pollBit
    (x75Address x75 x75Command) stack (extended_peer opposite)
  refine ⟨frame, _, decoded, .inl ⟨.inl type, ?_⟩, fun carries => ?_, fun _ => ?_⟩
  · exact cr.trans (x75DecodeCr_x75Address opposite (.inl rfl) stack.cr)
  · exact decoded_nr_lt opposite decoded carries
  · exact ns ▸ vs_lt

/-- Control frames are read with the type and the direction they were sent with. -/
theorem understood_control {frametype : UInt16} (known : IsControlType frametype)
    (pollBit : UInt8) {type : UInt8}
    (kind : IsCommandType x75.mode frametype ∧ type = x75Command ∨
      IsResponseType frametype ∧ type = x75Response) :
    Understood x75.mode (x75Address x75 type :: controlField x75 frametype pollBit) := by
  intro peer stack opposite
  have direction : type = x75Command ∨ type = x75Response := kind.imp (·.2) (·.2)
  have cr_eq := x75DecodeCr_x75Address opposite direction stack.cr
  obtain ⟨frame, rest, decoded, same, cr⟩ : ∃ frame rest,
      x75Decode peer (x75Address x75 type :: controlField x75 frametype pollBit) stack =
        some (frame, rest) ∧ frame.type = frametype ∧ frame.cr = type := by
    rcases known with supervisory | unnumbered
    · obtain ⟨frame, decoded, same, -, -, cr⟩ := decode_supervisory peer x75 supervisory pollBit
        (x75Address x75 type) stack (extended_peer opposite)
      exact ⟨frame, _, decoded, same, cr.trans cr_eq⟩
    · obtain ⟨odd, format, same, -⟩ := unnumbered_bits unnumbered pollBit
      obtain ⟨frame, decoded, read, -, cr⟩ :=
        decode_unnumbered peer (x75Address x75 type) _ [] stack odd format
      rw [← controlField_unnumbered x75 unnumbered] at decoded
      exact ⟨frame, _, decoded, read.trans same, cr.trans cr_eq⟩
  refine ⟨frame, rest, decoded, ?_, fun carries => ?_, fun iframe => ?_⟩
  · rw [same, cr]
    exact kind.imp (fun sent => ⟨.inr sent.1, sent.2⟩) (fun sent => ⟨.inl sent.1, sent.2⟩)
  · exact decoded_nr_lt opposite decoded carries
  · rw [same] at iframe
    subst iframe
    rcases known with (h | h | h) | (h | h | h | h | h) <;> cases h

theorem understood_frmr :
    Understood x75.mode (x75Address x75 x75Response :: frmrField x75) := by
  intro peer stack opposite
  have odd : x75Frmr.toUInt8 &&& x75S ≠ 0 := by decide
  have format : x75Frmr.toUInt8 &&& x75U = 3 := by decide
  obtain ⟨frame, decoded, type, -, cr⟩ :=
    decode_unnumbered peer (x75Address x75 x75Response) _ (frmrInfo x75) stack odd format
  rw [← frmrField_eq] at decoded
  have frmr : frame.type = x75Frmr := type
  refine ⟨frame, _, decoded, .inr ⟨.inr frmr, ?_⟩, fun carries => ?_, fun iframe => ?_⟩
  · exact cr.trans (x75DecodeCr_x75Address opposite (.inr rfl) stack.cr)
  · exact decoded_nr_lt opposite decoded carries
  · rw [frmr] at iframe
    cases iframe

end Frames

/-! ## Changes in which the station speaks -/

/-- V(S) and V(A) are below the modulus, whatever the state. -/
def X75Cb.SendsInModulus (x75 : X75Cb) : Prop := x75.vs < x75.modulus ∧ x75.va < x75.modulus

instance (x75 : X75Cb) : Decidable x75.SendsInModulus := inferInstanceAs (Decidable (_ ∧ _))

theorem sentOf_called {installed : Bool} {event : Event} (own : sentOf [event] = []) :
    sentOf (called installed event) = [] := by
  cases installed with
  | false => rfl
  | true => exact own

/-- The mode stays, V(S) and V(A) stay below the modulus, and what is sent is understood. -/
structure Speaks (x75 after : X75Cb) : Prop where
  mode : after.mode = x75.mode
  range : x75.SendsInModulus → after.SendsInModulus
  sent : x75.SendsInModulus → ∃ frames, sentOf after.events = sentOf x75.events ++ frames ∧
    ∀ bytes ∈ frames, Understood x75.mode bytes

namespace Speaks

variable {x75 middle after : X75Cb}

theorem trans (first : Speaks x75 middle) (second : Speaks middle after) : Speaks x75 after where
  mode := second.mode.trans first.mode
  range inModulus := second.range (first.range inModulus)
  sent inModulus := by
    obtain ⟨early, sent, understood⟩ := first.sent inModulus
    obtain ⟨late, sent', understood'⟩ := second.sent (first.range inModulus)
    refine ⟨early ++ late, ?_, fun bytes member => ?_⟩
    · rw [sent', sent, List.append_assoc]
    · rcases List.mem_append.mp member with now | later
      · exact understood bytes now
      · rw [← first.mode]
        exact understood' bytes later

theorem silent (mode : after.mode = x75.mode) (range : x75.SendsInModulus → after.SendsInModulus)
    (sent : sentOf after.events = sentOf x75.events) : Speaks x75 after where
  mode := mode
  range := range
  sent _ := ⟨[], by rw [sent, List.append_nil], fun _ member => absurd member List.not_mem_nil⟩

/-- Fields that are not about sending change. -/
theorem of_fields (mode : after.mode = x75.mode) (vs : after.vs = x75.vs)
    (va : after.va = x75.va) (sent : sentOf after.events = sentOf x75.events) :
    Speaks x75 after := by
  refine silent mode (fun inModulus => ?_) sent
  rw [X75Cb.SendsInModulus, X75Cb.modulus, mode, vs, va]
  exact inModulus

theorem refl (x75 : X75Cb) : Speaks x75 x75 := of_fields rfl rfl rfl rfl

/-- A call-back other than `data_transmit`, in whatever state. -/
theorem callback (x75 : X75Cb) (state : LinkState) {installed : Bool} {event : Event}
    (own : sentOf [event] = []) :
    Speaks x75 ({ x75 with state := state }.record (called installed event)) := by
  refine of_fields rfl rfl rfl ?_
  rw [X75Cb.record_events, sentOf_append, sentOf_called own, List.append_nil]

theorem transmit (skb : Bytes) (type : UInt8)
    (understood : x75.SendsInModulus → Understood x75.mode (x75Address x75 type :: skb)) :
    Speaks x75 (x75.record (transmitted x75 skb type)) where
  mode := rfl
  range inModulus := inModulus
  sent inModulus := by
    refine ⟨sentOf (transmitted x75 skb type), sentOf_append .., fun bytes member => ?_⟩
    unfold transmitted called at member
    split at member
    · obtain rfl := List.mem_singleton.mp member
      exact understood inModulus
    · cases member

theorem response (x75 : X75Cb) {frametype : UInt16} (kind : IsResponseType frametype)
    (pollBit : UInt8) : Speaks x75 (x75SendControl x75 frametype pollBit x75Response) := by
  have known : IsControlType frametype := by
    rcases kind with rfl | rfl | rfl | rfl <;> simp [IsControlType, IsSupervisory, IsUnnumberedType]
  exact transmit _ _ fun _ => understood_control x75 known pollBit (.inr ⟨kind, rfl⟩)

theorem command (x75 : X75Cb) {frametype : UInt16} (kind : IsCommandType x75.mode frametype)
    (pollBit : UInt8) : Speaks x75 (x75SendControl x75 frametype pollBit x75Command) := by
  have known : IsControlType frametype := by
    rcases kind with rfl | rfl
    · split <;> simp [IsControlType, IsUnnumberedType]
    · simp [IsControlType, IsUnnumberedType]
  exact transmit _ _ fun _ => understood_control x75 known pollBit (.inl ⟨kind, rfl⟩)

theorem frmr (x75 : X75Cb) : Speaks x75 (x75TransmitFrmr x75) :=
  transmit _ _ fun _ => understood_frmr x75

/-! ### The procedures -/

theorem resetLink (x75 : X75Cb) : Speaks x75 (resetLink x75) := by
  refine silent rfl (fun _ => ⟨?_, ?_⟩) (by simp [resetLink_eq, sentOf]) <;>
    exact modulus_pos x75.mode

/-- I-frames from V(S) on, each with its own number. -/
theorem iframesFrom (x75 : X75Cb) (msgs : List Bytes) : ∀ {vs : Nat}, vs < x75.modulus →
    ∀ bytes ∈ sentOf (iframesFrom x75 vs msgs), Understood x75.mode bytes := by
  induction msgs with
  | nil => exact fun _ _ member => absurd member List.not_mem_nil
  | cons skb rest ih =>
      intro vs vs_lt bytes member
      rw [X75.iframesFrom, sentOf_append] at member
      rcases List.mem_append.mp member with first | later
      · unfold transmitted called at first
        split at first
        · obtain rfl := List.mem_singleton.mp first
          exact understood_iframe { x75 with vs := vs } vs_lt skb x75Polloff
        · cases first
      · exact ih (Nat.mod_lt _ (modulus_pos x75.mode)) bytes later

theorem kick (kicked : x75Kick x75 = some after) : Speaks x75 after := by
  rcases x75Kick_cases kicked with ⟨-, rfl⟩ | ⟨-, k, -, rfl⟩
  · exact refl after
  · refine ⟨rfl, fun inModulus => ⟨Nat.mod_lt _ (modulus_pos x75.mode), inModulus.2⟩,
      fun inModulus => ⟨_, sentOf_append .., fun bytes member => ?_⟩⟩
    have start : kickStart x75 < x75.modulus := by
      unfold kickStart
      split
      · exact inModulus.2
      · exact inModulus.1
    exact iframesFrom { x75 with vs := kickStart x75 } _ start bytes member

theorem framesAcked (x75 : X75Cb) (nr : Nat) : Speaks x75 (x75FramesAcked x75 nr) := by
  have loop : ∀ (fuel : Nat) (x75 : X75Cb), Speaks x75 (x75FramesAckedLoop nr fuel x75) := by
    intro fuel
    induction fuel with
    | zero => exact refl
    | succ fuel ih =>
        intro x75
        have released : Speaks x75 (x75ReleaseHead x75) := by
          refine silent rfl (fun inModulus => ⟨inModulus.1, ?_⟩) (by simp [x75ReleaseHead, sentOf])
          exact Nat.mod_lt _ (modulus_pos x75.mode)
        unfold x75FramesAckedLoop
        split
        · exact released.trans (ih _)
        · exact refl x75
  exact loop x75.modulus x75

/-! ### The acts -/

theorem continuing (act : Continuing x75 after) : Speaks x75 after := by
  cases act with
  | noted same => exact of_fields same.mode same.vs same.va (by rw [same.events])
  | acked nr => exact framesAcked x75 nr
  | kicked kicked => exact kick kicked
  | enqueued skb => exact of_fields rfl rfl rfl (by simp [enqueueData, sentOf])
  | cleared => exact of_fields rfl rfl rfl (by simp [sentOf])
  | command kind pollBit => exact command x75 kind pollBit
  | frmr => exact frmr x75

theorem act (act : Act x75 after) : Speaks x75 after := by
  cases act with
  | continuing act => exact continuing act
  | noted same => exact of_fields same.mode same.vs same.va (by rw [same.events])
  | response kind pollBit => exact response x75 kind pollBit
  | delivered => exact callback x75 x75.state rfl
  | reset => exact resetLink x75
  | moved => exact of_fields rfl rfl rfl rfl
  | connectConfirmation | connectIndication => exact callback x75 .state3 rfl
  | disconnectConfirmation | disconnectIndication => exact callback x75 .state0 rfl

theorem acts (acts : Acts x75 after) : Speaks x75 after := by
  induction acts with
  | refl => exact refl x75
  | tail _ last ih => exact ih.trans (act last)

end Speaks

/-! ## Runs -/

/-- The operation leaves V(S) and V(A) below the modulus if it changes the mode. -/
def KeepsSequence (x75 : X75Cb) : Op → Prop
  | .setparms parms => (x75Setparms x75 parms).2.SendsInModulus
  | .register callbacks => (x75Register x75 callbacks).SendsInModulus
  | _ => True

instance (x75 : X75Cb) : (op : Op) → Decidable (KeepsSequence x75 op)
  | .setparms parms => inferInstanceAs (Decidable (x75Setparms x75 parms).2.SendsInModulus)
  | .register callbacks => inferInstanceAs (Decidable (x75Register x75 callbacks).SendsInModulus)
  | .dataRequest _ | .connectRequest | .disconnectRequest | .dataReceived _ _ | .t1Expiry
  | .t2Expiry | .unregister => inferInstanceAs (Decidable True)

section Step

variable {x75 after : X75Cb} {op : Op}

/-- **One operation** that does not choose the mode. -/
theorem Speaks.exec (keeps : op.keepsMode = true) (taken : exec x75 op = some after) :
    Speaks x75 after := by
  by_cases giving : op = .disconnectRequest ∧ x75.state = .state1
  · -- state 0 is entered at once, after a DISC
    obtain ⟨rfl, calling⟩ := giving
    obtain rfl := Option.some.inj taken
    simp only [x75DisconnectRequest, calling]
    exact (command x75 (.inr rfl) x75Pollon).trans (of_fields rfl rfl rfl rfl)
  · exact acts (exec_acts keeps (fun request calling => giving ⟨request, calling⟩) taken)

/-- Choosing the mode sends nothing. -/
theorem sentOf_of_mode (chooses : op.keepsMode = false) (taken : exec x75 op = some after) :
    sentOf after.events = sentOf x75.events := by
  cases op with
  | setparms parms =>
      cases taken
      dsimp only [x75Setparms]
      split
      · rfl
      split
      · rfl
      · dsimp only
        split <;> rfl
  | register callbacks => exact Option.some.inj taken ▸ rfl
  | _ => cases chooses

/-- The range is kept by every step that meets the condition. -/
theorem sendsInModulus_step (inModulus : x75.SendsInModulus) (keeps : KeepsSequence x75 op)
    (taken : exec x75 op = some after) : after.SendsInModulus := by
  cases op with
  | setparms parms => exact Option.some.inj taken ▸ keeps
  | register callbacks => exact Option.some.inj taken ▸ keeps
  | _ => exact (Speaks.exec rfl taken).range inModulus

end Step

/-- **Whatever a run sends is understood.** In every state that a run reaches, in whatever
state of the link, the frames that an operation hands to `data_transmit` are read by a peer
of the other role as legal frames of the mode in force. -/
theorem frames_understood {callbacks : RegisterStruct} {x75 after : X75Cb} {op : Op}
    (reached : Reached exec KeepsSequence (x75Register zeroed callbacks) x75)
    (taken : exec x75 op = some after) :
    ∃ frames, sentOf after.events = sentOf x75.events ++ frames ∧
      ∀ bytes ∈ frames, Understood x75.mode bytes := by
  have inModulus : x75.SendsInModulus := by
    refine reached.invariant X75Cb.SendsInModulus ⟨?_, ?_⟩ fun _ inModulus keeps taken =>
      sendsInModulus_step inModulus keeps taken
    all_goals exact modulus_pos _
  cases keeps : op.keepsMode with
  | true => exact (Speaks.exec keeps taken).sent inModulus
  | false =>
      refine ⟨[], ?_, fun _ member => absurd member List.not_mem_nil⟩
      rw [sentOf_of_mode keeps taken, List.append_nil]

/-- The parameters of the extended mode are set, the peer sets the link up, and a payload
is sent. -/
theorem frames_understood_extended :
    ∃ x75 after, runOps exec (x75Register zeroed .all)
        [.setparms ⟨1, 1, 10, 127, x75Extended ||| x75Dce⟩,
          .dataReceived [0x01, 0x7F] .zero] = some x75 ∧
      exec x75 (.dataRequest [0x41]) = some after ∧
      ∃ frames, sentOf after.events = sentOf x75.events ++ frames ∧
        ∀ bytes ∈ frames, Understood x75.mode bytes := by
  have meets : MeetsAlong exec KeepsSequence (x75Register zeroed .all)
      [.setparms ⟨1, 1, 10, 127, x75Extended ||| x75Dce⟩,
        .dataReceived [0x01, 0x7F] .zero] := by decide
  have reached := reached_of_meetsAlong _ .refl meets rfl
  exact ⟨_, _, rfl, rfl, @frames_understood _ _ _ (.dataRequest [0x41]) reached rfl⟩

end IsdnRas.X75
