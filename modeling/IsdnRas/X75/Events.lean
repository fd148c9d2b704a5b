import Mathlib.Data.List.Basic
import IsdnRas.X75.Iface

/-!
# Reading the events

What a run has done is read off the events of the control block: the payloads
accepted, released and delivered, and the frames handed to `data_transmit`. Each
reading is a filter of the list, so it distributes over the events that an
operation appends.

A quiet event is a connect or disconnect call-back or the transmission of an
unnumbered frame. It carries no payload and no N(R).
-/

set_option autoImplicit false

namespace IsdnRas.X75

/-! ## Readings -/

/-- The payloads `x75DataRequest` accepted. -/
def acceptedOf (events : List Event) : List Bytes :=
  events.filterMap fun
    | .accepted skb => some skb
    | _ => none

/-- The payloads `x75FramesAcked` released. -/
def releasedOf (events : List Event) : List Bytes :=
  events.filterMap fun
    | .acked (some skb) => some skb
    | _ => none

/-- The payloads handed to `data_indication`. -/
def indicatedOf (events : List Event) : List Bytes :=
  events.filterMap fun
    | .dataIndication skb => some skb
    | _ => none

/-- The frames handed to `data_transmit`. -/
def sentOf (events : List Event) : List Bytes :=
  events.filterMap fun
    | .dataTransmit skb => some skb
    | _ => none

section Append

variable (first second : List Event)

@[simp] theorem acceptedOf_append :
    acceptedOf (first ++ second) = acceptedOf first ++ acceptedOf second :=
  List.filterMap_append

@[simp] theorem releasedOf_append :
    releasedOf (first ++ second) = releasedOf first ++ releasedOf second :=
  List.filterMap_append

@[simp] theorem indicatedOf_append :
    indicatedOf (first ++ second) = indicatedOf first ++ indicatedOf second :=
  List.filterMap_append

@[simp] theorem sentOf_append : sentOf (first ++ second) = sentOf first ++ sentOf second :=
  List.filterMap_append

end Append

@[simp] theorem acceptedOf_nil : acceptedOf [] = [] := rfl
@[simp] theorem releasedOf_nil : releasedOf [] = [] := rfl
@[simp] theorem indicatedOf_nil : indicatedOf [] = [] := rfl
@[simp] theorem sentOf_nil : sentOf [] = [] := rfl

/-- Released messages are read back. -/
theorem releasedOf_acked (msgs : List Bytes) :
    releasedOf (msgs.map fun skb => .acked (some skb)) = msgs := by
  induction msgs with
  | nil => rfl
  | cons skb rest ih => exact congrArg (skb :: ·) ih

theorem acceptedOf_acked (msgs : List Bytes) :
    acceptedOf (msgs.map fun skb => .acked (some skb)) = [] := by
  induction msgs with
  | nil => rfl
  | cons skb rest ih => exact ih

/-- NULL is no payload. -/
theorem releasedOf_replicate_null (rounds : Nat) :
    releasedOf (List.replicate rounds (.acked none)) = [] := by
  simp [releasedOf]

theorem acceptedOf_replicate_null (rounds : Nat) :
    acceptedOf (List.replicate rounds (.acked none)) = [] := by
  simp [acceptedOf]

/-! ## Frame formats on the wire -/

/-- The first control byte of a frame with an address. -/
def controlByte : Bytes → Option UInt8
  | _ :: control :: _ => some control
  | _ => none

/-- A frame whose control field is that of an unnumbered frame. -/
def IsUnnumbered (frame : Bytes) : Prop := ∃ control, controlByte frame = some control ∧
  control &&& x75U = 3

/-- The payload of an I-frame. -/
def iframePayload (extended : Bool) : Bytes → Option Bytes
  | _ :: control :: rest =>
      if control &&& x75S = 0 then some (if extended then rest.drop 1 else rest) else none
  | _ => none

/-- The payloads carried by the I-frames handed to `data_transmit`. -/
def carriedOf (extended : Bool) (events : List Event) : List Bytes :=
  events.filterMap fun
    | .dataTransmit frame => iframePayload extended frame
    | _ => none

@[simp] theorem carriedOf_append (extended : Bool) (first second : List Event) :
    carriedOf extended (first ++ second) =
      carriedOf extended first ++ carriedOf extended second :=
  List.filterMap_append

theorem carriedOf_acked (extended : Bool) (msgs : List Bytes) :
    carriedOf extended (msgs.map fun skb => .acked (some skb)) = [] := by
  induction msgs with
  | nil => rfl
  | cons skb rest ih => exact ih

theorem carriedOf_replicate_null (extended : Bool) (rounds : Nat) :
    carriedOf extended (List.replicate rounds (.acked none)) = [] := by
  simp [carriedOf]

/-- The N(R) of an I-frame or a supervisory frame. -/
def frameNr (extended : Bool) : Bytes → Option Nat
  | _ :: control :: rest =>
      if control &&& x75U = 3 then none
      else if extended then rest.head?.map fun byte : UInt8 => ((byte >>> 1) &&& 0x7F).toNat
      else some ((control >>> 5) &&& 0x07).toNat
  | _ => none

/-- A frame with a first control byte has an address and that byte. -/
theorem eq_cons_of_controlByte {frame : Bytes} {control : UInt8}
    (read : controlByte frame = some control) :
    ∃ addr rest, frame = addr :: control :: rest := by
  rcases frame with - | ⟨addr, - | ⟨first, rest⟩⟩
  · cases read
  · cases read
  · cases read
    exact ⟨addr, rest, rfl⟩

theorem IsUnnumbered.iframePayload_eq_none {frame : Bytes} (unnumbered : IsUnnumbered frame)
    (extended : Bool) : iframePayload extended frame = none := by
  obtain ⟨first, read, bits⟩ := unnumbered
  obtain ⟨addr, rest, rfl⟩ := eq_cons_of_controlByte read
  have odd : first &&& x75S ≠ 0 := by
    have both : first &&& x75U &&& x75S = first &&& x75S := UInt8.and_assoc ..
    rw [← both, bits]
    decide
  simp [iframePayload, odd]

theorem IsUnnumbered.frameNr_eq_none {frame : Bytes} (unnumbered : IsUnnumbered frame)
    (extended : Bool) : frameNr extended frame = none := by
  obtain ⟨first, read, bits⟩ := unnumbered
  obtain ⟨addr, rest, rfl⟩ := eq_cons_of_controlByte read
  simp [frameNr, bits]

/-! ## Quiet events -/

/-- A call-back about the connection, or the transmission of an unnumbered
frame. -/
def Event.Quiet : Event → Prop
  | .connectConfirmation _ => True
  | .connectIndication _ => True
  | .disconnectConfirmation _ => True
  | .disconnectIndication _ => True
  | .dataTransmit frame => IsUnnumbered frame
  | _ => False

/-- Events that are all quiet. -/
def AllQuiet (events : List Event) : Prop := ∀ event ∈ events, event.Quiet

theorem allQuiet_nil : AllQuiet [] := by simp [AllQuiet]

theorem AllQuiet.append {first second : List Event} (quiet : AllQuiet first)
    (later : AllQuiet second) : AllQuiet (first ++ second) := by
  intro event member
  rcases List.mem_append.mp member with early | late
  · exact quiet event early
  · exact later event late

theorem AllQuiet.called {installed : Bool} {event : Event} (quiet : event.Quiet) :
    AllQuiet (called installed event) := by
  intro other member
  cases installed with
  | false => simp [X75.called] at member
  | true =>
      simp only [X75.called, if_true, List.mem_singleton] at member
      exact member ▸ quiet

/-! ## What the sending procedures record -/

/-- The transmission of a buffer. -/
def transmitted (x75 : X75Cb) (skb : Bytes) (type : UInt8) : List Event :=
  called x75.callbacks.dataTransmit (.dataTransmit (x75Address x75 type :: skb))

@[simp] theorem x75SendControl_eq (x75 : X75Cb) (frametype : UInt16) (pollBit type : UInt8) :
    x75SendControl x75 frametype pollBit type =
      x75.record (transmitted x75 (controlField x75 frametype pollBit) type) := rfl

@[simp] theorem x75TransmitFrmr_eq (x75 : X75Cb) :
    x75TransmitFrmr x75 = x75.record (transmitted x75 (frmrField x75) x75Response) := rfl

@[simp] theorem x75SendIframe_eq (x75 : X75Cb) (skb : Bytes) (pollBit : UInt8) :
    x75SendIframe x75 skb pollBit =
      x75.record (transmitted x75 (iframeField x75 skb pollBit) x75Command) := rfl

/-- A control byte of an unnumbered frame keeps its two low bits when the poll
bit is set. -/
theorem unnumbered_or_poll {control : UInt8} (unnumbered : control &&& x75U = x75U)
    (pollBit : UInt8) :
    (control ||| if pollBit ≠ 0 then x75Spf else 0) &&& x75U = 3 := by
  have keep : ∀ flag : UInt8, flag &&& x75U = 0 → (control ||| flag) &&& x75U = 3 := by
    intro flag apart
    rw [or_and_of_and_eq_zero apart, unnumbered]
    rfl
  split
  · exact keep x75Spf (by decide)
  · exact keep 0 (by decide)

/-- Unnumbered frames have one control byte in both modes. -/
theorem controlField_of_unnumbered (x75 : X75Cb) {frametype : UInt16} (pollBit : UInt8)
    (unnumbered : frametype.toUInt8 &&& x75U = x75U) :
    controlField x75 frametype pollBit =
      [frametype.toUInt8 ||| if pollBit ≠ 0 then x75Spf else 0] := by
  have notSupervisory : ¬ frametype.toUInt8 &&& x75U = x75S := by
    rw [unnumbered]
    decide
  cases ext : x75.extended with
  | true => simp only [controlField, ext, if_true, if_pos unnumbered]
  | false => simp only [controlField, ext, Bool.false_eq_true, if_false, if_neg notSupervisory]

theorem quiet_unnumbered (x75 : X75Cb) {frametype : UInt16} (pollBit type : UInt8)
    (unnumbered : frametype.toUInt8 &&& x75U = x75U) :
    AllQuiet (transmitted x75 (controlField x75 frametype pollBit) type) := by
  rw [controlField_of_unnumbered x75 pollBit unnumbered]
  exact AllQuiet.called ⟨_, rfl, unnumbered_or_poll unnumbered pollBit⟩

theorem quiet_frmr (x75 : X75Cb) : AllQuiet (transmitted x75 (frmrField x75) x75Response) := by
  refine AllQuiet.called ⟨x75Frmr.toUInt8, ?_, by decide⟩
  cases ext : x75.extended <;> simp [frmrField, ext, controlByte]

end IsdnRas.X75
