import IsdnRas.Library.Staircase
import Mathlib.Tactic.Choose

/-!
# A-law

Yate takes the bytes of the line for audio in A-law and hands them on as signed linear
samples. `yate.c` turns them back with a table that it fills by the code that Yate uses, and
turns what it sends into samples again.

The codes of one sign, in the order of their values, are the levels of a staircase: the loop
that fills the table raises the code when the sample is eight above the value of the code. So
the code of a sample is the first one whose value is more than the sample less eight
(`converted_isLevel`), and a sample that is the value of a code is turned back into this code
(`yateCodecSlinToAlaw_value`).
-/

set_option autoImplicit false

namespace IsdnRas.Yate

/-! ## The tables -/

/-- `a2s` of `a2s.h`. -/
def a2sTable : List UInt16 := [
    0xEA80, 0xEB80, 0xE880, 0xE980, 0xEE80, 0xEF80, 0xEC80, 0xED80,
    0xE280, 0xE380, 0xE080, 0xE180, 0xE680, 0xE780, 0xE480, 0xE580,
    0xF540, 0xF5C0, 0xF440, 0xF4C0, 0xF740, 0xF7C0, 0xF640, 0xF6C0,
    0xF140, 0xF1C0, 0xF040, 0xF0C0, 0xF340, 0xF3C0, 0xF240, 0xF2C0,
    0xAA00, 0xAE00, 0xA200, 0xA600, 0xBA00, 0xBE00, 0xB200, 0xB600,
    0x8A00, 0x8E00, 0x8200, 0x8600, 0x9A00, 0x9E00, 0x9200, 0x9600,
    0xD500, 0xD700, 0xD100, 0xD300, 0xDD00, 0xDF00, 0xD900, 0xDB00,
    0xC500, 0xC700, 0xC100, 0xC300, 0xCD00, 0xCF00, 0xC900, 0xCB00,
    0xFEA8, 0xFEB8, 0xFE88, 0xFE98, 0xFEE8, 0xFEF8, 0xFEC8, 0xFED8,
    0xFE28, 0xFE38, 0xFE08, 0xFE18, 0xFE68, 0xFE78, 0xFE48, 0xFE58,
    0xFFA8, 0xFFB8, 0xFF88, 0xFF98, 0xFFE8, 0xFFF8, 0xFFC8, 0xFFD8,
    0xFF28, 0xFF38, 0xFF08, 0xFF18, 0xFF68, 0xFF78, 0xFF48, 0xFF58,
    0xFAA0, 0xFAE0, 0xFA20, 0xFA60, 0xFBA0, 0xFBE0, 0xFB20, 0xFB60,
    0xF8A0, 0xF8E0, 0xF820, 0xF860, 0xF9A0, 0xF9E0, 0xF920, 0xF960,
    0xFD50, 0xFD70, 0xFD10, 0xFD30, 0xFDD0, 0xFDF0, 0xFD90, 0xFDB0,
    0xFC50, 0xFC70, 0xFC10, 0xFC30, 0xFCD0, 0xFCF0, 0xFC90, 0xFCB0,
    0x1580, 0x1480, 0x1780, 0x1680, 0x1180, 0x1080, 0x1380, 0x1280,
    0x1D80, 0x1C80, 0x1F80, 0x1E80, 0x1980, 0x1880, 0x1B80, 0x1A80,
    0x0AC0, 0x0A40, 0x0BC0, 0x0B40, 0x08C0, 0x0840, 0x09C0, 0x0940,
    0x0EC0, 0x0E40, 0x0FC0, 0x0F40, 0x0CC0, 0x0C40, 0x0DC0, 0x0D40,
    0x5600, 0x5200, 0x5E00, 0x5A00, 0x4600, 0x4200, 0x4E00, 0x4A00,
    0x7600, 0x7200, 0x7E00, 0x7A00, 0x6600, 0x6200, 0x6E00, 0x6A00,
    0x2B00, 0x2900, 0x2F00, 0x2D00, 0x2300, 0x2100, 0x2700, 0x2500,
    0x3B00, 0x3900, 0x3F00, 0x3D00, 0x3300, 0x3100, 0x3700, 0x3500,
    0x0158, 0x0148, 0x0178, 0x0168, 0x0118, 0x0108, 0x0138, 0x0128,
    0x01D8, 0x01C8, 0x01F8, 0x01E8, 0x0198, 0x0188, 0x01B8, 0x01A8,
    0x0058, 0x0048, 0x0078, 0x0068, 0x0018, 0x0008, 0x0038, 0x0028,
    0x00D8, 0x00C8, 0x00F8, 0x00E8, 0x0098, 0x0088, 0x00B8, 0x00A8,
    0x0560, 0x0520, 0x05E0, 0x05A0, 0x0460, 0x0420, 0x04E0, 0x04A0,
    0x0760, 0x0720, 0x07E0, 0x07A0, 0x0660, 0x0620, 0x06E0, 0x06A0,
    0x02B0, 0x0290, 0x02F0, 0x02D0, 0x0230, 0x0210, 0x0270, 0x0250,
    0x03B0, 0x0390, 0x03F0, 0x03D0, 0x0330, 0x0310, 0x0370, 0x0350]

def a2s (val : UInt8) : UInt16 := a2sTable.getD val.toNat 0

/-- The loop that fills one side of `s2a`, from index `i` on. Both sides have their own
guard and step for `v`. -/
def fillSide (guard : UInt8 → Bool) (step : UInt8 → UInt8) :
    (rounds : Nat) → (i : Int) → (v val : UInt8) → List UInt8
  | 0, _, _, _ => []
  | rounds + 1, i, v, val =>
      if guard v ∧ i - 8 ≥ (a2s val).toNat then
        let v := step v
        let val := v ^^^ 0xd5
        val :: fillSide guard step rounds (i + 1) v val
      else val :: fillSide guard step rounds (i + 1) v val

def positiveSide : List UInt8 := fillSide (· < 0x7f) (· + 1) 32768 0 0 0xd5

def negativeSide : List UInt8 := fillSide (· > 0x80) (· - 1) 32768 32768 0xff 0x2a

/-- What `yate_codec_alaw_slin_init` stores in `s2a`. -/
def yateCodecAlawSlinInit : List UInt8 := positiveSide ++ negativeSide

/-- `s2a` before the first conversion. -/
def s2aZeroed : List UInt8 := List.replicate 65536 0

/-- The table is generated when its first entry is zero. -/
def s2aReady (s2a : List UInt8) : List UInt8 :=
  if s2a.getD 0 0 = 0 then yateCodecAlawSlinInit else s2a

/-- The table after the call, and the output. -/
def yateCodecSlinToAlaw (s2a : List UInt8) (samples : List UInt16) : List UInt8 × List UInt8 :=
  let s2a := s2aReady s2a
  (s2a, samples.map fun sample => s2a.getD sample.toNat 0)

def yateCodecAlawToSlin (bytes : List UInt8) : List UInt16 := bytes.map a2s

/-! ## The staircases of the two signs -/

/-- The codes of one sign in the order of their values, as the loop goes through them. -/
structure Side where
  guard : UInt8 → Bool
  step : UInt8 → UInt8
  /-- `v` on each level. -/
  v : Nat → UInt8
  start : Nat
  guard_v : ∀ level ≤ 127, guard (v level) = decide (level < 127)
  step_v : ∀ level < 127, step (v level) = v (level + 1)
  apart : ∀ level < 127, (a2s (v level ^^^ 0xd5)).toNat + 16 ≤ (a2s (v (level + 1) ^^^ 0xd5)).toNat
  start_le : start ≤ (a2s (v 0 ^^^ 0xd5)).toNat
  last_lt : (a2s (v 127 ^^^ 0xd5)).toNat < start + 32768

def positive : Side where
  guard := (· < 0x7f)
  step := (· + 1)
  v := UInt8.ofNat
  start := 0
  guard_v := by decide
  step_v := by decide
  apart := by decide +kernel
  start_le := by decide
  last_lt := by decide

def negative : Side where
  guard := (· > 0x80)
  step := (· - 1)
  v level := UInt8.ofNat (0xff - level)
  start := 32768
  guard_v := by decide
  step_v := by decide
  apart := by decide +kernel
  start_le := by decide
  last_lt := by decide

namespace Side

variable (side : Side)

/-- The code on a level. -/
def code (level : Nat) : UInt8 := side.v level ^^^ 0xd5

/-- The loop leaves a level eight above the value of its code. -/
def threshold (level : Nat) : Int := (a2s (side.code level)).toNat + 8

/-- The half of `s2a` that the loop fills. -/
def table : List UInt8 :=
  fillSide side.guard side.step 32768 side.start (side.v 0) (side.code 0)

variable {side}

theorem increasing {level level' : Nat} (less : level < level') (le : level' ≤ 127) :
    (a2s (side.code level)).toNat + 16 ≤ (a2s (side.code level')).toNat := by
  induction level' with
  | zero => exact absurd less (Nat.not_lt_zero level)
  | succ middle ih =>
      have last := side.apart middle le
      rcases Nat.lt_succ_iff_lt_or_eq.mp less with earlier | rfl
      · have before := ih earlier (Nat.le_of_succ_le le)
        unfold code at before ⊢
        omega
      · exact last

/-- The loop goes through the levels of the staircase. -/
theorem fillSide_eq (rounds : Nat) : ∀ {i : Int} {level : Nat}, level ≤ 127 →
    fillSide side.guard side.step rounds i (side.v level) (side.code level) =
      (levels side.threshold 127 rounds i level).map side.code := by
  induction rounds with
  | zero => exact fun _ => rfl
  | succ rounds ih =>
      intro i level le
      have condition : (side.guard (side.v level) = true ∧ i - 8 ≥ (a2s (side.code level)).toNat) ↔
          level < 127 ∧ side.threshold level ≤ i := by
        rw [side.guard_v level le, decide_eq_true_iff, threshold]
        exact and_congr_right fun _ => by omega
      rw [fillSide, levels, rise]
      simp only [condition]
      split
      case isTrue up =>
          rw [side.step_v level up.1, List.map_cons, ← ih up.1]
          rfl
      case isFalse => rw [List.map_cons, ← ih le]

/-- **One half of the table.** -/
theorem table_isLevel {index : Nat} (less : index < 32768) :
    ∃ level, side.table[index]? = some (side.code level) ∧
      IsLevel side.threshold 127 ((side.start + index : Nat) : Int) level := by
  have first : IsLevel side.threshold 127 ((side.start : Int) - 1) 0 := by
    refine ⟨Nat.zero_le _, fun index less => absurd less (Nat.not_lt_zero index), fun _ => ?_⟩
    have start := side.start_le
    unfold threshold code
    omega
  have grows : ∀ level, level + 1 < 127 → side.threshold level < side.threshold (level + 1) := by
    intro level less
    have gap := @increasing side level (level + 1) (Nat.lt_succ_self level) (Nat.le_of_lt less)
    unfold threshold
    omega
  obtain ⟨level, found, isLevel⟩ := levels_isLevel grows 32768 first index less
  refine ⟨level, ?_, by rwa [Int.natCast_add]⟩
  rw [table, fillSide_eq _ (Nat.zero_le 127), List.getElem?_map, found, Option.map_some]

/-- The value of a code is on the level of the code. -/
theorem isLevel_value {level : Nat} (le : level ≤ 127) :
    IsLevel side.threshold 127 (a2s (side.code level)).toNat level := by
  refine ⟨le, fun index less => ?_, fun _ => ?_⟩
  · have gap := @increasing side index level less le
    unfold threshold
    omega
  · unfold threshold
    omega

/-- The values of a side are samples of it. -/
theorem value_bounds {level : Nat} (le : level ≤ 127) :
    side.start ≤ (a2s (side.code level)).toNat ∧
      (a2s (side.code level)).toNat < side.start + 32768 := by
  have start := side.start_le
  have last := side.last_lt
  constructor
  · rcases Nat.eq_zero_or_pos level with rfl | later
    · exact start
    · have gap := @increasing side 0 level later le
      unfold code at gap ⊢
      omega
  · rcases Nat.lt_or_eq_of_le le with earlier | rfl
    · have gap := @increasing side level 127 earlier (Nat.le_refl 127)
      unfold code at gap ⊢
      omega
    · exact last

end Side

/-- The side of a sample. Samples from 32768 on are negative. -/
def sideOf (sample : UInt16) : Side := if sample.toNat < 32768 then positive else negative

theorem yateCodecAlawSlinInit_eq : yateCodecAlawSlinInit = positive.table ++ negative.table := rfl

theorem Side.table_length (side : Side) : side.table.length = 32768 := by
  rw [Side.table, Side.fillSide_eq _ (Nat.zero_le 127), List.length_map, length_levels]

/-- **The table.** The code of a sample is on the level of the sample: the sample has reached
the values of all codes below it, plus eight, and not its own, unless this is the last. -/
theorem s2a_isLevel (sample : UInt16) :
    ∃ level, yateCodecAlawSlinInit.getD sample.toNat 0 = (sideOf sample).code level ∧
      IsLevel (sideOf sample).threshold 127 sample.toNat level := by
  have bound := sample.toNat_lt
  rw [yateCodecAlawSlinInit_eq, List.getD_eq_getElem?_getD, sideOf]
  split
  case isTrue low =>
      obtain ⟨level, found, isLevel⟩ := @Side.table_isLevel positive _ low
      refine ⟨level, ?_, by simpa [positive] using isLevel⟩
      rw [List.getElem?_append_left (by rwa [Side.table_length]), found, Option.getD_some]
  case isFalse high =>
      have high : 32768 ≤ sample.toNat := Nat.le_of_not_lt high
      obtain ⟨level, found, isLevel⟩ :=
        @Side.table_isLevel negative (sample.toNat - 32768) (by omega)
      have index : negative.start + (sample.toNat - 32768) = sample.toNat :=
        Nat.add_sub_of_le high
      refine ⟨level, ?_, by rwa [index] at isLevel⟩
      rw [List.getElem?_append_right (by rwa [Side.table_length]), Side.table_length, found,
        Option.getD_some]

/-- Every code is on a level of its side. -/
theorem exists_level (val : UInt8) :
    ∃ level ≤ 127, val = positive.code level ∨ val = negative.code level := by
  have undo : val ^^^ 0xd5 ^^^ 0xd5 = val := by rw [UInt8.xor_assoc]; simp
  have bound := (val ^^^ 0xd5).toNat_lt
  rcases Nat.lt_or_ge (val ^^^ 0xd5).toNat 128 with low | high
  · refine ⟨(val ^^^ 0xd5).toNat, Nat.le_of_lt_succ low, .inl ?_⟩
    change val = UInt8.ofNat (val ^^^ 0xd5).toNat ^^^ 0xd5
    rw [UInt8.ofNat_toNat, undo]
  · refine ⟨0xff - (val ^^^ 0xd5).toNat, by omega, .inr ?_⟩
    have back : 0xff - (0xff - (val ^^^ 0xd5).toNat) = (val ^^^ 0xd5).toNat := by omega
    change val = UInt8.ofNat (0xff - (0xff - (val ^^^ 0xd5).toNat)) ^^^ 0xd5
    rw [back, UInt8.ofNat_toNat, undo]

/-- The value of a code on its own side is turned back. -/
theorem Side.s2a_value {side : Side} {level : Nat} (le : level ≤ 127)
    (own : sideOf (a2s (side.code level)) = side) :
    yateCodecAlawSlinInit.getD (a2s (side.code level)).toNat 0 = side.code level := by
  obtain ⟨found, entry, isLevel⟩ := s2a_isLevel (a2s (side.code level))
  rw [own] at entry isLevel
  rw [entry, isLevel.unique (Side.isLevel_value le)]

/-- **The value of a code is turned back into the code.** -/
theorem s2a_a2s (val : UInt8) : yateCodecAlawSlinInit.getD (a2s val).toNat 0 = val := by
  obtain ⟨level, le, rfl | rfl⟩ := exists_level val
  · have bounds := @Side.value_bounds positive level le
    exact Side.s2a_value le (if_pos (Nat.zero_add 32768 ▸ bounds.2))
  · have bounds := @Side.value_bounds negative level le
    exact Side.s2a_value le (if_neg (Nat.not_lt.mpr bounds.1))

/-! ## Conversions -/

/-- The table after some conversions. -/
def tableAfter (calls : List (List UInt16)) : List UInt8 :=
  calls.foldl (fun s2a samples => (yateCodecSlinToAlaw s2a samples).1) s2aZeroed

/-- The first entry of the generated table is not zero, so it is generated once. -/
theorem s2aReady_init : s2aReady yateCodecAlawSlinInit = yateCodecAlawSlinInit := by
  obtain ⟨level, entry, isLevel⟩ := s2a_isLevel 0
  have first : level = 0 := isLevel.unique
    ⟨Nat.zero_le _, fun index less => absurd less (Nat.not_lt_zero index), fun _ => by decide⟩
  rw [first] at entry
  exact if_neg fun zero => absurd (entry.symm.trans zero) (by decide)

theorem s2aReady_zeroed : s2aReady s2aZeroed = yateCodecAlawSlinInit := if_pos rfl

theorem s2aReady_tableAfter (calls : List (List UInt16)) :
    s2aReady (tableAfter calls) = yateCodecAlawSlinInit := by
  have kept : ∀ s2a, s2aReady s2a = yateCodecAlawSlinInit → s2aReady (calls.foldl
      (fun s2a samples => (yateCodecSlinToAlaw s2a samples).1) s2a) = yateCodecAlawSlinInit := by
    induction calls with
    | nil => exact fun _ ready => ready
    | cons samples rest ih =>
        intro s2a ready
        refine ih _ ?_
        change s2aReady (s2aReady s2a) = yateCodecAlawSlinInit
        rw [ready, s2aReady_init]
  exact kept s2aZeroed s2aReady_zeroed

/-- **The conversion is lossless.** The samples that Yate makes of some bytes are turned back
into these bytes. -/
theorem yateCodecSlinToAlaw_value {s2a : List UInt8} (ready : s2aReady s2a = yateCodecAlawSlinInit)
    (bytes : List UInt8) : (yateCodecSlinToAlaw s2a (yateCodecAlawToSlin bytes)).2 = bytes := by
  rw [yateCodecSlinToAlaw, ready, yateCodecAlawToSlin, List.map_map]
  exact (List.map_congr_left fun val _ => s2a_a2s val).trans (List.map_id bytes)

/-- **The code of any sample**, after any conversions: it is on the level of the sample among
the codes of its sign. So a higher sample of the same sign is on no lower level. -/
theorem converted_isLevel (calls : List (List UInt16)) (samples : List UInt16) :
    ∃ level : UInt16 → Nat,
      (yateCodecSlinToAlaw (tableAfter calls) samples).2 =
        samples.map (fun sample => (sideOf sample).code (level sample)) ∧
      (∀ sample, IsLevel (sideOf sample).threshold 127 sample.toNat (level sample)) ∧
      ∀ sample sample' : UInt16, (sample.toNat < 32768 ↔ sample'.toNat < 32768) →
        sample ≤ sample' → level sample ≤ level sample' := by
  choose level entry isLevel using s2a_isLevel
  refine ⟨level, ?_, isLevel, fun sample sample' same le => ?_⟩
  · rw [yateCodecSlinToAlaw, s2aReady_tableAfter]
    exact List.map_congr_left fun sample _ => entry sample
  · refine (isLevel sample).le_of_le ?_ (Int.ofNat_le.mpr (UInt16.le_iff_toNat_le.mp le))
    have side : sideOf sample = sideOf sample' := by simp only [sideOf, same]
    rw [side]
    exact isLevel sample'

end IsdnRas.Yate
