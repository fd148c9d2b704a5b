import IsdnRas.Library.Runs
import IsdnRas.X75.Acts
import IsdnRas.X75.Traffic

/-!
# What the owner is told

The owner of a control block learns about the connection from four call-backs: two
say that it is connected, two that it is not. It also learns it from
`x75DisconnectRequest`, which returns `notConnected` where it enters or finds state
0 at once and makes no call-back (`disconnect_without_callback`).

`Owner` keeps the last news beside the control block. The news are right when all
four call-backs are installed: in states 3 and 4 the last was a connect, and in
state 0 it was not (`owner_informed`). Every act of an operation keeps them right
(`Informs.act`).
-/

set_option autoImplicit false

namespace IsdnRas.X75

/-! ## News -/

/-- What an event tells the owner: connected, or not connected. -/
def Event.news : Event → Option Bool
  | .connectConfirmation _ => some true
  | .connectIndication _ => some true
  | .disconnectConfirmation _ => some false
  | .disconnectIndication _ => some false
  | _ => none

/-- The news, in order. -/
def newsOf (events : List Event) : List Bool := events.filterMap Event.news

@[simp] theorem newsOf_append (first second : List Event) :
    newsOf (first ++ second) = newsOf first ++ newsOf second :=
  List.filterMap_append

@[simp] theorem newsOf_nil : newsOf [] = [] := rfl

@[simp] theorem newsOf_transmitted (x75 : X75Cb) (skb : Bytes) (type : UInt8) :
    newsOf (transmitted x75 skb type) = [] := by
  unfold transmitted called
  split <;> rfl

@[simp] theorem newsOf_dataIndication (installed : Bool) (skb : Bytes) :
    newsOf (called installed (.dataIndication skb)) = [] := by
  cases installed <;> rfl

@[simp] theorem newsOf_iframesFrom (x75 : X75Cb) (msgs : List Bytes) :
    ∀ vs, newsOf (iframesFrom x75 vs msgs) = [] := by
  induction msgs with
  | nil => exact fun _ => rfl
  | cons skb rest ih =>
      intro vs
      rw [iframesFrom, newsOf_append, newsOf_transmitted, ih]
      rfl

@[simp] theorem newsOf_acked (freed : List (Option Bytes)) :
    newsOf (freed.map .acked) = [] := by
  induction freed with
  | nil => rfl
  | cons _ rest ih => exact ih

@[simp] theorem newsOf_sequenceReset : newsOf [.sequenceReset] = [] := rfl
@[simp] theorem newsOf_queuesCleared (events : List Event) :
    newsOf (.queuesCleared :: events) = newsOf events := rfl
@[simp] theorem newsOf_accepted (skb : Bytes) : newsOf [.accepted skb] = [] := rfl

/-- A call-back that is installed is heard. -/
theorem newsOf_called {installed told : Bool} {event : Event} (heard : installed = true)
    (news : event.news = some told) : newsOf (called installed event) = [told] := by
  simp [newsOf, called, heard, news]

/-- All four call-backs about the connection are installed. -/
def HearsAll (callbacks : RegisterStruct) : Prop :=
  callbacks.connectConfirmation = true ∧ callbacks.connectIndication = true ∧
    callbacks.disconnectConfirmation = true ∧ callbacks.disconnectIndication = true

instance (callbacks : RegisterStruct) : Decidable (HearsAll callbacks) :=
  inferInstanceAs (Decidable (_ ∧ _))

/-- The last of the news, or what was known before. -/
def heard (known : Bool) (news : List Bool) : Bool := news.getLast?.getD known

theorem heard_append (known : Bool) (first second : List Bool) :
    heard known (first ++ second) = heard (heard known first) second := by
  unfold heard
  rw [List.getLast?_append]
  cases second.getLast? <;> rfl

/-- What is known of the connection agrees with the state. -/
structure Informed (known : Bool) (state : LinkState) : Prop where
  connected : state = .state3 ∨ state = .state4 → known = true
  disconnected : state = .state0 → known = false

/-! ## What an act tells -/

/-- The news of a change keep an owner in the picture. -/
structure Informs (x75 after : X75Cb) : Prop where
  callbacks : after.callbacks = x75.callbacks
  news : HearsAll x75.callbacks → ∃ news, newsOf after.events = newsOf x75.events ++ news ∧
    ∀ known, Informed known x75.state → Informed (heard known news) after.state

namespace Informs

variable {x75 middle after : X75Cb}

theorem trans (first : Informs x75 middle) (second : Informs middle after) : Informs x75 after where
  callbacks := second.callbacks.trans first.callbacks
  news hears := by
    obtain ⟨early, told, informed⟩ := first.news hears
    obtain ⟨late, told', informed'⟩ := second.news (first.callbacks ▸ hears)
    refine ⟨early ++ late, by rw [told', told, List.append_assoc], fun known before => ?_⟩
    rw [heard_append]
    exact informed' _ (informed known before)

/-- Nothing is told, and nothing has to be. -/
theorem silent (callbacks : after.callbacks = x75.callbacks)
    (news : newsOf after.events = newsOf x75.events)
    (informed : ∀ known, Informed known x75.state → Informed known after.state) :
    Informs x75 after where
  callbacks := callbacks
  news _ := ⟨[], by rw [news, List.append_nil], informed⟩

theorem of_same (callbacks : after.callbacks = x75.callbacks) (state : after.state = x75.state)
    (news : newsOf after.events = newsOf x75.events) : Informs x75 after := by
  refine silent callbacks news fun known informed => ?_
  rwa [state]

theorem refl (x75 : X75Cb) : Informs x75 x75 := of_same rfl rfl rfl

/-- A call-back tells the state that is entered. -/
theorem told {state : LinkState} {installed known : Bool} {event : Event}
    (heard : HearsAll x75.callbacks → installed = true) (news : event.news = some known)
    (informed : Informed known state) :
    Informs x75 ({ x75 with state := state }.record (called installed event)) where
  callbacks := rfl
  news hears := by
    refine ⟨[known], ?_, fun _ _ => informed⟩
    rw [X75Cb.record_events, newsOf_append, newsOf_called (heard hears) news]

theorem continuing (act : Continuing x75 after) : Informs x75 after := by
  obtain ⟨-, callbacks, state⟩ := act.same
  refine of_same callbacks state ?_
  cases act with
  | noted same => rw [same.events]
  | acked nr =>
      obtain ⟨_, _, freed, same⟩ := x75FramesAcked_kept x75 nr
      simp [same]
  | kicked kicked =>
      rcases x75Kick_cases kicked with ⟨-, rfl⟩ | ⟨-, k, -, rfl⟩
      · rfl
      · simp
  | enqueued => simp [enqueueData]
  | cleared | command | frmr => simp

theorem act (act : Act x75 after) : Informs x75 after := by
  have connected : Informed true .state3 := ⟨fun _ => rfl, fun zero => by cases zero⟩
  have disconnected : Informed false .state0 := ⟨by simp, fun _ => rfl⟩
  cases act with
  | continuing act => exact continuing act
  | noted same => exact of_same same.callbacks same.state (by rw [same.events])
  | response => exact of_same rfl rfl (by simp)
  | delivered => exact of_same rfl rfl (by simp [x75DataIndication])
  | reset => exact of_same rfl rfl (by simp [resetLink])
  | moved allowed =>
      refine silent rfl rfl fun known informed => ?_
      rcases allowed with rfl | rfl | ⟨three, rfl⟩
      · exact ⟨by simp, by simp⟩
      · exact ⟨by simp, by simp⟩
      · exact ⟨fun _ => informed.connected (.inl three), by simp⟩
  | connectConfirmation => exact told (fun hears => hears.1) rfl connected
  | connectIndication => exact told (fun hears => hears.2.1) rfl connected
  | disconnectConfirmation => exact told (fun hears => hears.2.2.1) rfl disconnected
  | disconnectIndication => exact told (fun hears => hears.2.2.2) rfl disconnected

theorem acts (acts : Acts x75 after) : Informs x75 after := by
  induction acts with
  | refl => exact refl x75
  | tail _ last ih => exact ih.trans (act last)

end Informs

section Exec

variable {x75 after : X75Cb}

theorem informs_setparms (x75 : X75Cb) (parms : ParmsStruct) :
    Informs x75 (x75Setparms x75 parms).2 := by
  unfold x75Setparms
  split
  · exact .refl x75
  split
  · exact .refl x75
  · refine .of_same ?_ ?_ ?_ <;> dsimp only <;> split <;> rfl

/-- Only a registration installs other call-backs. -/
theorem exec_callbacks {op : Op} (wellFormed : x75.WellFormed) (taken : exec x75 op = some after) :
    after.callbacks = x75.callbacks ∨ op = .register after.callbacks := by
  obtain ⟨before, sent, change, kicked, same, -⟩ := exec_change wellFormed taken
  have kept : after.callbacks = before.callbacks := by
    rw [same.callbacks]
    cases kicked with
    | none => rfl
    | sent _ _ same => exact same.callbacks
  rw [kept]
  cases change with
  | kept same | purged _ same | setUp _ same | acked _ _ _ _ _ same | requeued _ _ _ _ same =>
      exact .inl same.callbacks
  | accepted => exact .inl rfl
  | parameters => exact .inl rfl
  | registered => exact .inr rfl

end Exec

/-! ## The owner -/

/-- A control block and whether the last news its owner had was a connect. -/
structure Owner where
  x75 : X75Cb
  told : Bool
deriving DecidableEq

/-- One operation, and what the owner learns from its call-backs and from what its own
request to disconnect returns. A registration starts anew. -/
def Owner.step (owner : Owner) (op : Op) : Option Owner :=
  (exec owner.x75 op).map fun x75 =>
    let new := newsOf (x75.events.drop owner.x75.events.length)
    { x75 := x75
      told :=
        match op with
        | .register _ => false
        | .disconnectRequest =>
            if (x75DisconnectRequest owner.x75).1 = .notConnected then false
            else heard owner.told new
        | _ => heard owner.told new }

/-- A registration installs the four call-backs. -/
def RegistersAll (_ : Owner) : Op → Prop
  | .register callbacks => HearsAll callbacks
  | _ => True

instance (owner : Owner) : (op : Op) → Decidable (RegistersAll owner op)
  | .register callbacks => inferInstanceAs (Decidable (HearsAll callbacks))
  | .dataRequest _ | .connectRequest | .disconnectRequest | .dataReceived _ _ | .t1Expiry
  | .t2Expiry | .setparms _ | .unregister => inferInstanceAs (Decidable True)

section Runs

variable {owner : Owner}

/-- What the call-backs of a change tell, read off the events. -/
theorem Informs.informed {x75 after : X75Cb} {op : Op} (informs : Informs x75 after)
    (wellFormed : x75.WellFormed) (hears : HearsAll x75.callbacks)
    (taken : exec x75 op = some after) {known : Bool} (informed : Informed known x75.state) :
    Informed (heard known (newsOf (after.events.drop x75.events.length))) after.state := by
  obtain ⟨new, appended⟩ := exec_events wellFormed taken
  obtain ⟨news, told, keeps⟩ := informs.news hears
  rw [← appended, newsOf_append] at told
  rw [← appended, List.drop_left, List.append_cancel_left told]
  exact keeps known informed

/-- A request to disconnect tells by what it returns that state 0 is entered at once. -/
theorem informed_disconnectRequest (wellFormed : owner.x75.WellFormed)
    (hears : HearsAll owner.x75.callbacks) (informed : Informed owner.told owner.x75.state) :
    Informed (if (x75DisconnectRequest owner.x75).1 = .notConnected then false
      else heard owner.told
        (newsOf ((x75DisconnectRequest owner.x75).2.events.drop owner.x75.events.length)))
      (x75DisconnectRequest owner.x75).2.state := by
  by_cases refused : (x75DisconnectRequest owner.x75).1 = .notConnected
  · have zero : (x75DisconnectRequest owner.x75).2.state = .state0 := by
      unfold x75DisconnectRequest at refused ⊢
      split at refused
      case h_1 state => simp [state]
      case h_2 state => simp
      all_goals cases refused
    rw [if_pos refused, zero]
    exact ⟨by simp, fun _ => rfl⟩
  · have settled : owner.x75.state ≠ .state1 := by
      intro calling
      simp [x75DisconnectRequest, calling] at refused
    rw [if_neg refused]
    exact @Informs.informed _ _ .disconnectRequest (.acts (acts_disconnectRequest settled))
      wellFormed hears rfl _ informed

theorem informed_step {next : Owner} {op : Op} (wellFormed : owner.x75.WellFormed)
    (hears : HearsAll owner.x75.callbacks) (informed : Informed owner.told owner.x75.state)
    (taken : owner.step op = some next) : Informed next.told next.x75.state := by
  obtain ⟨after, executed, rfl⟩ := Option.map_eq_some_iff.mp taken
  cases op with
  | register =>
      cases executed
      exact ⟨by simp [x75Register], fun _ => rfl⟩
  | disconnectRequest =>
      cases executed
      exact informed_disconnectRequest wellFormed hears informed
  | setparms parms =>
      cases executed
      exact @Informs.informed _ _ (.setparms parms) (informs_setparms owner.x75 parms) wellFormed
        hears rfl _ informed
  | _ =>
      have informs := Informs.acts (exec_acts rfl (fun request => by cases request) executed)
      exact informs.informed wellFormed hears executed informed

/-- **The owner is informed** after every operation, in runs in which every
registration installs the four call-backs: in states 3 and 4 the last news was a
connect. In state 0 it was not, or there was none since the registration. -/
theorem owner_informed {callbacks : RegisterStruct} (hears : HearsAll callbacks)
    (reached : Reached Owner.step RegistersAll ⟨x75Register zeroed callbacks, false⟩ owner) :
    (owner.x75.Connected → owner.told = true) ∧
      (owner.x75.state = .state0 → owner.told = false) := by
  have invariant : owner.x75.WellFormed ∧ HearsAll owner.x75.callbacks ∧
      Informed owner.told owner.x75.state := by
    refine reached.invariant
      (fun owner => owner.x75.WellFormed ∧ HearsAll owner.x75.callbacks ∧
        Informed owner.told owner.x75.state)
      ⟨wellFormed_register _ _, hears, ⟨by simp [x75Register], fun _ => rfl⟩⟩ ?_
    rintro owner next op ⟨wellFormed, hears, informed⟩ registers taken
    refine ⟨?_, ?_, informed_step wellFormed hears informed taken⟩ <;>
      obtain ⟨after, executed, rfl⟩ := Option.map_eq_some_iff.mp taken
    · exact wellFormed.step executed
    · rcases exec_callbacks wellFormed executed with kept | rfl
      · exact kept ▸ hears
      · exact registers
  exact ⟨invariant.2.2.connected, invariant.2.2.disconnected⟩

end Runs

/-- The peer connects, and its DISC is told. -/
theorem owner_informed_disc :
    ∃ owner, runOps Owner.step ⟨x75Register zeroed .all, false⟩
        [.dataReceived [0x01, 0x3F] .zero, .dataReceived [0x01, 0x53] .zero] = some owner ∧
      owner.x75.state = .state0 ∧
      ((owner.x75.Connected → owner.told = true) ∧
        (owner.x75.state = .state0 → owner.told = false)) := by
  have meets : MeetsAlong Owner.step RegistersAll ⟨x75Register zeroed .all, false⟩
      [.dataReceived [0x01, 0x3F] .zero, .dataReceived [0x01, 0x53] .zero] := by decide
  exact ⟨_, rfl, rfl, owner_informed (by decide) (reached_of_meetsAlong _ .refl meets rfl)⟩

/-- **Call-backs alone do not tell everything.** The peer connects and sends a FRMR, and
the owner gives up while the link is set up anew. State 0 is entered at once, and the last
call-back was a connect; the request has returned `notConnected`. Without call-backs
nothing is told in state 3, and a new registration makes no call-back. -/
theorem disconnect_without_callback :
    (∃ x75 after, runOps exec (x75Register zeroed .all) [.dataReceived [0x01, 0x3F] .zero,
        .dataReceived [0x01, 0x87] .zero] = some x75 ∧ x75.state = .state1 ∧
      exec x75 .disconnectRequest = some after ∧ after.state = .state0 ∧
      newsOf after.events = [true] ∧ (x75DisconnectRequest x75).1 = .notConnected) ∧
    (∃ x75, runOps exec (x75Register zeroed ⟨false, false, false, false, false, false⟩)
        [.dataReceived [0x01, 0x3F] .zero] = some x75 ∧ x75.state = .state3 ∧
      newsOf x75.events = []) ∧
    ∃ x75, runOps exec (x75Register zeroed .all) [.dataReceived [0x01, 0x3F] .zero,
        .register .all] = some x75 ∧ x75.state = .state0 ∧ newsOf x75.events = [true] :=
  ⟨⟨_, _, rfl, rfl, rfl, rfl, rfl, rfl⟩, ⟨_, rfl, rfl, rfl⟩, ⟨_, rfl, rfl, rfl⟩⟩

end IsdnRas.X75
