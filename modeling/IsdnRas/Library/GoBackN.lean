import Mathlib.Data.List.Basic
import IsdnRas.Library.SeqSpace

/-!
# Go-back-N over channels that lose frames

Two stations send each other numbered payloads and acknowledge what they have
received. Each channel keeps the order of its frames and may lose any of them.
Here the numbers count without bound. A protocol transmits remainders, and the
window makes them sufficient: in a safe link a number in flight is determined by
its remainder (`Flow.number_eq`).

In one turn a station reads at most one frame and appends frames to its channel.
What a turn may do is deliberately loose (`Turn`). A station may ignore what it
reads, and it may send any number between the acknowledged and the sent ones
again, in any order. That is enough for safety: acknowledgements never run ahead
of reception, and reception never runs ahead of sending (`Safe.step`).

Payloads come second. If every frame in flight carries the payload of its number,
then what the receiver delivers is a prefix of what the sender has accepted
(`Delivery`).
-/

set_option autoImplicit false

namespace IsdnRas.GoBackN

universe u

variable {Payload : Type u}

/-! ## Stations and links -/

/-- A frame acknowledges every number below `nr`, and may carry a payload with
its number. -/
structure Frame (Payload : Type u) where
  nr : Nat
  data : Option (Nat × Payload)

/-- What a station has counted: its own payloads acknowledged and sent, and the
payloads received from its peer. -/
structure Station where
  acked : Nat
  sent : Nat
  received : Nat

/-- Two stations and the frames in flight between them, oldest first. -/
structure Link (Payload : Type u) where
  a : Station
  b : Station
  ab : List (Frame Payload)
  ba : List (Frame Payload)

/-- The same link seen from the other end. -/
def Link.swap (link : Link Payload) : Link Payload := ⟨link.b, link.a, link.ba, link.ab⟩

/-- The numbered payloads in a channel. -/
def dataOf (channel : List (Frame Payload)) : List (Nat × Payload) := channel.filterMap (·.data)

/-- The acknowledgements in a channel. -/
def nrsOf (channel : List (Frame Payload)) : List Nat := channel.map (·.nr)

@[simp] theorem dataOf_append (first second : List (Frame Payload)) :
    dataOf (first ++ second) = dataOf first ++ dataOf second := List.filterMap_append

@[simp] theorem nrsOf_append (first second : List (Frame Payload)) :
    nrsOf (first ++ second) = nrsOf first ++ nrsOf second := List.map_append

theorem mem_dataOf {channel : List (Frame Payload)} {entry : Nat × Payload} :
    entry ∈ dataOf channel ↔ ∃ frame ∈ channel, entry ∈ frame.data := by
  simp [dataOf]

/-- One turn of a station: it reads at most one frame and sends frames. -/
structure Turn (window : Nat) (before : Station) (input : Option (Frame Payload))
    (after : Station) (out : List (Frame Payload)) : Prop where
  acked_le : before.acked ≤ after.acked
  released : after.acked = before.acked ∨ ∃ frame ∈ input, after.acked ≤ frame.nr
  sent_le : before.sent ≤ after.sent
  within : after.sent ≤ after.acked + window
  received : after.received = before.received ∨
    after.received = before.received + 1 ∧
      ∃ frame ∈ input, ∃ payload, frame.data = some (before.received, payload)
  answers : ∀ frame ∈ out, frame.nr = after.received
  numbers : ∀ entry ∈ dataOf out, after.acked ≤ entry.1 ∧ entry.1 < after.sent

/-- The steps of a link: a turn of either station, or the loss of the oldest
frame of either channel. -/
inductive Step (windowA windowB : Nat) : Link Payload → Link Payload → Prop where
  | turnA {a a' b : Station} {ab out rest : List (Frame Payload)} {input : Option (Frame Payload)}
      (turn : Turn windowA a input a' out) :
      Step windowA windowB ⟨a, b, ab, input.toList ++ rest⟩ ⟨a', b, ab ++ out, rest⟩
  | turnB {a b b' : Station} {ba out rest : List (Frame Payload)} {input : Option (Frame Payload)}
      (turn : Turn windowB b input b' out) :
      Step windowA windowB ⟨a, b, input.toList ++ rest, ba⟩ ⟨a, b', rest, ba ++ out⟩
  | loseA {a b : Station} {ab ba : List (Frame Payload)} {frame : Frame Payload} :
      Step windowA windowB ⟨a, b, ab, frame :: ba⟩ ⟨a, b, ab, ba⟩
  | loseB {a b : Station} {ab ba : List (Frame Payload)} {frame : Frame Payload} :
      Step windowA windowB ⟨a, b, frame :: ab, ba⟩ ⟨a, b, ab, ba⟩

/-! ## One direction -/

/-- One direction of a link. Nothing is acknowledged before it is received or
received before it is sent, the window is kept, and what is in flight is close
to what the ends have counted. -/
structure Flow (window : Nat) (sender receiver : Station)
    (forward backward : List (Frame Payload)) : Prop where
  acked_le : sender.acked ≤ receiver.received
  received_le : receiver.received ≤ sender.sent
  within : sender.sent ≤ sender.acked + window
  data_lt : ∀ entry ∈ dataOf forward, entry.1 < sender.sent
  data_near : ∀ entry ∈ dataOf forward, receiver.received ≤ entry.1 + window
  data_ordered : (dataOf forward).Pairwise fun early late => early.1 < late.1 + window
  nr_ge : ∀ nr ∈ nrsOf backward, sender.acked ≤ nr
  nr_le : ∀ nr ∈ nrsOf backward, nr ≤ receiver.received
  nr_sorted : (nrsOf backward).Pairwise (· ≤ ·)

namespace Flow

variable {window : Nat} {sender receiver : Station} {forward backward : List (Frame Payload)}

theorem initial (window received acked sent : Nat) :
    @Flow Payload window ⟨0, 0, received⟩ ⟨acked, sent, 0⟩ [] [] where
  acked_le := Nat.le_refl 0
  received_le := Nat.le_refl 0
  within := Nat.zero_le _
  data_lt := fun _ member => by cases member
  data_near := fun _ member => by cases member
  data_ordered := .nil
  nr_ge := fun _ member => by cases member
  nr_le := fun _ member => by cases member
  nr_sorted := .nil

theorem lose {forward' backward' : List (Frame Payload)}
    (flow : Flow window sender receiver forward backward) (sublist : forward'.Sublist forward)
    (sublist' : backward'.Sublist backward) : Flow window sender receiver forward' backward' := by
  have data : (dataOf forward').Sublist (dataOf forward) := sublist.filterMap _
  have nrs : (nrsOf backward').Sublist (nrsOf backward) := sublist'.map _
  exact
    { acked_le := flow.acked_le
      received_le := flow.received_le
      within := flow.within
      data_lt := fun entry member => flow.data_lt entry (data.subset member)
      data_near := fun entry member => flow.data_near entry (data.subset member)
      data_ordered := flow.data_ordered.sublist data
      nr_ge := fun nr member => flow.nr_ge nr (nrs.subset member)
      nr_le := fun nr member => flow.nr_le nr (nrs.subset member)
      nr_sorted := flow.nr_sorted.sublist nrs }

/-- The acknowledgements in flight lie between what is acknowledged and what is
sent. -/
theorem nr_bounds {frame : Frame Payload} (flow : Flow window sender receiver forward backward)
    (member : frame ∈ backward) : sender.acked ≤ frame.nr ∧ frame.nr ≤ sender.sent := by
  have inNrs : frame.nr ∈ nrsOf backward := List.mem_map_of_mem member
  exact ⟨flow.nr_ge _ inNrs, Nat.le_trans (flow.nr_le _ inNrs) flow.received_le⟩

/-- **A number in flight is determined by its remainder**: when it looks like the
expected number, it is. -/
theorem number_eq {M : Nat} {entry : Nat × Payload}
    (flow : Flow window sender receiver forward backward) (window_lt : window < M)
    (member : entry ∈ dataOf forward) (same : entry.1 % M = receiver.received % M) :
    entry.1 = receiver.received := by
  have low := flow.data_near entry member
  have high := flow.data_lt entry member
  have acked := flow.acked_le
  have within := flow.within
  exact mod_inj_of_near (by omega) (by omega) same

/-- A turn of the sender. -/
theorem turnSender {after : Station} {input : Option (Frame Payload)}
    {out rest : List (Frame Payload)}
    (flow : Flow window sender receiver forward (input.toList ++ rest))
    (turn : Turn window sender input after out) :
    Flow window after receiver (forward ++ out) rest := by
  have kept := flow.lose (List.Sublist.refl _) (List.sublist_append_right input.toList rest)
  have acked_le : after.acked ≤ receiver.received := by
    rcases turn.released with same | ⟨frame, read, le⟩
    · rw [same]
      exact flow.acked_le
    · refine Nat.le_trans le (flow.nr_le frame.nr (List.mem_map_of_mem ?_))
      exact List.mem_append_left _ (Option.mem_toList.mpr read)
  have sent_le := turn.sent_le
  have within := turn.within
  have received_le := flow.received_le
  refine ⟨acked_le, by omega, within, ?_, ?_, ?_, ?_, kept.nr_le, kept.nr_sorted⟩
  · intro entry member
    rcases List.mem_append.mp (dataOf_append forward out ▸ member) with old | new
    · exact Nat.lt_of_lt_of_le (flow.data_lt entry old) sent_le
    · exact (turn.numbers entry new).2
  · intro entry member
    rcases List.mem_append.mp (dataOf_append forward out ▸ member) with old | new
    · exact flow.data_near entry old
    · have := (turn.numbers entry new).1
      omega
  · rw [dataOf_append, List.pairwise_append]
    refine ⟨flow.data_ordered, ?_, ?_⟩
    · refine List.pairwise_of_forall_mem_list fun early early_mem late late_mem => ?_
      have := (turn.numbers early early_mem).2
      have := (turn.numbers late late_mem).1
      omega
    · intro early early_mem late late_mem
      have := flow.data_lt early early_mem
      have := (turn.numbers late late_mem).1
      omega
  · intro nr member
    rcases turn.released with same | ⟨frame, read, le⟩
    · rw [same]
      exact kept.nr_ge nr member
    · have sorted := flow.nr_sorted
      rw [nrsOf_append, List.pairwise_append] at sorted
      exact Nat.le_trans le (sorted.2.2 frame.nr
        (List.mem_map_of_mem (Option.mem_toList.mpr read)) nr member)

/-- A turn of the receiver. -/
theorem turnReceiver {window' : Nat} {after : Station} {input : Option (Frame Payload)}
    {out rest : List (Frame Payload)}
    (flow : Flow window sender receiver (input.toList ++ rest) backward)
    (turn : Turn window' receiver input after out) :
    Flow window sender after rest (backward ++ out) := by
  have kept := flow.lose (List.sublist_append_right input.toList rest) (List.Sublist.refl _)
  have received_le : receiver.received ≤ after.received := by
    rcases turn.received with same | ⟨next, -⟩ <;> omega
  have acked_le := flow.acked_le
  refine ⟨Nat.le_trans acked_le received_le, ?_, flow.within, kept.data_lt, ?_, kept.data_ordered,
    ?_, ?_, ?_⟩
  · rcases turn.received with same | ⟨next, frame, read, payload, data⟩
    · rw [same]
      exact flow.received_le
    · rw [next]
      refine flow.data_lt (receiver.received, payload) (mem_dataOf.mpr ⟨frame, ?_, data⟩)
      exact List.mem_append_left _ (Option.mem_toList.mpr read)
  · intro entry member
    rcases turn.received with same | ⟨next, frame, read, payload, data⟩
    · rw [same]
      exact kept.data_near entry member
    · rw [next]
      have ordered := flow.data_ordered
      rw [dataOf_append, List.pairwise_append] at ordered
      refine ordered.2.2 (receiver.received, payload) (mem_dataOf.mpr ⟨frame, ?_, data⟩) entry
        member
      exact Option.mem_toList.mpr read
  · intro nr member
    rcases List.mem_append.mp (nrsOf_append backward out ▸ member) with old | new
    · exact flow.nr_ge nr old
    · obtain ⟨frame, sent, rfl⟩ := List.mem_map.mp new
      rw [turn.answers frame sent]
      exact Nat.le_trans acked_le received_le
  · intro nr member
    rcases List.mem_append.mp (nrsOf_append backward out ▸ member) with old | new
    · exact Nat.le_trans (flow.nr_le nr old) received_le
    · obtain ⟨frame, sent, rfl⟩ := List.mem_map.mp new
      exact Nat.le_of_eq (turn.answers frame sent)
  · rw [nrsOf_append, List.pairwise_append]
    have answers : ∀ nr ∈ nrsOf out, nr = after.received := by
      intro nr member
      obtain ⟨frame, sent, rfl⟩ := List.mem_map.mp member
      exact turn.answers frame sent
    refine ⟨flow.nr_sorted, ?_, ?_⟩
    · refine List.pairwise_of_forall_mem_list fun early early_mem late late_mem => ?_
      rw [answers early early_mem, answers late late_mem]
    · intro early early_mem late late_mem
      rw [answers late late_mem]
      exact Nat.le_trans (flow.nr_le early early_mem) received_le

end Flow

/-! ## Safety -/

/-- Both directions of a link are in order. -/
structure Safe (windowA windowB : Nat) (link : Link Payload) : Prop where
  ab : Flow windowA link.a link.b link.ab link.ba
  ba : Flow windowB link.b link.a link.ba link.ab

/-- A link on which nothing has been sent. -/
theorem safe_initial (windowA windowB : Nat) :
    @Safe Payload windowA windowB ⟨⟨0, 0, 0⟩, ⟨0, 0, 0⟩, [], []⟩ :=
  ⟨Flow.initial .., Flow.initial ..⟩

theorem Safe.swap {windowA windowB : Nat} {link : Link Payload}
    (safe : Safe windowA windowB link) : Safe windowB windowA link.swap := ⟨safe.ba, safe.ab⟩

/-- **Every step keeps a link safe.** -/
theorem Safe.step {windowA windowB : Nat} {before after : Link Payload}
    (safe : Safe windowA windowB before) (step : Step windowA windowB before after) :
    Safe windowA windowB after := by
  cases step with
  | turnA turn => exact ⟨safe.ab.turnSender turn, safe.ba.turnReceiver turn⟩
  | turnB turn => exact ⟨safe.ab.turnReceiver turn, safe.ba.turnSender turn⟩
  | loseA =>
      exact ⟨safe.ab.lose (List.Sublist.refl _) (List.sublist_cons_self ..),
        safe.ba.lose (List.sublist_cons_self ..) (List.Sublist.refl _)⟩
  | loseB =>
      exact ⟨safe.ab.lose (List.sublist_cons_self ..) (List.Sublist.refl _),
        safe.ba.lose (List.Sublist.refl _) (List.sublist_cons_self ..)⟩

/-! ## Delivery -/

/-- Every payload in flight is the accepted one of its number, and the delivered
payloads are the first ones that were accepted. -/
structure Delivery (accepted delivered : List Payload) (received : Nat)
    (forward : List (Frame Payload)) : Prop where
  carried : ∀ entry ∈ dataOf forward, accepted[entry.1]? = some entry.2
  received_le : received ≤ accepted.length
  delivered_eq : delivered = accepted.take received

namespace Delivery

variable {accepted delivered : List Payload} {received : Nat} {forward : List (Frame Payload)}

theorem initial : Delivery ([] : List Payload) [] 0 [] where
  carried := fun _ member => by cases member
  received_le := Nat.le_refl 0
  delivered_eq := rfl

/-- **Delivered payloads are a prefix of the accepted ones.** -/
theorem isPrefix (delivery : Delivery accepted delivered received forward) :
    delivered <+: accepted := by
  rw [delivery.delivered_eq]
  exact List.take_prefix ..

theorem lose {forward' : List (Frame Payload)}
    (delivery : Delivery accepted delivered received forward) (sublist : forward'.Sublist forward) :
    Delivery accepted delivered received forward' where
  carried := fun entry member =>
    delivery.carried entry ((sublist.filterMap _).subset member)
  received_le := delivery.received_le
  delivered_eq := delivery.delivered_eq

/-- The sender accepts payloads and sends frames. -/
theorem send {accepted' : List Payload} {out : List (Frame Payload)}
    (delivery : Delivery accepted delivered received forward) (grown : accepted <+: accepted')
    (carries : ∀ entry ∈ dataOf out, accepted'[entry.1]? = some entry.2) :
    Delivery accepted' delivered received (forward ++ out) where
  carried := by
    intro entry member
    rcases List.mem_append.mp (dataOf_append forward out ▸ member) with old | new
    · obtain ⟨more, rfl⟩ := grown
      have carried := delivery.carried entry old
      rwa [List.getElem?_append_left (List.getElem?_eq_some_iff.mp carried).1]
    · exact carries entry new
  received_le := Nat.le_trans delivery.received_le grown.length_le
  delivered_eq := by
    obtain ⟨more, rfl⟩ := grown
    rw [List.take_append_of_le_length delivery.received_le]
    exact delivery.delivered_eq

/-- The receiver delivers the payload of the number it expects. -/
theorem receive {payload : Payload} (delivery : Delivery accepted delivered received forward)
    (member : (received, payload) ∈ dataOf forward) :
    Delivery accepted (delivered ++ [payload]) (received + 1) forward where
  carried := delivery.carried
  received_le := by
    obtain ⟨bound, -⟩ := List.getElem?_eq_some_iff.mp (delivery.carried _ member)
    exact bound
  delivered_eq := by
    rw [List.take_add_one, delivery.carried _ member, delivery.delivered_eq]
    rfl

end Delivery

end IsdnRas.GoBackN
