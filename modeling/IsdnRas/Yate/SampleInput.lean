import IsdnRas.Yate.Codec
import Mathlib.Data.List.Induction

/-!
# Samples from Yate and back

`yate_sample_input_cb` reads what Yate has made of the bytes of the line, turns the samples
back into bytes, lets the program handle them, and writes its answer as samples. A sample has
two bytes, the low one first.

The program behind it is a parameter: what it does with a buffer of the line, and what it puts
into the buffer for the line. As long as Yate sends what it makes of line bytes, the
call-back is not to be seen: the program is handed the bytes of the line, and what Yate makes of
the written samples are the bytes that the program has answered, as many as it was handed
(`line_transparent`).
-/

set_option autoImplicit false

namespace IsdnRas.Yate

/-! ## The call-back -/

/-- The size of `yate_slin_samples`. -/
def yateSlinSamplesSize : Nat := 4096

/-- A program behind the call-back: `handle_sample_buffer` with its globals, on a buffer for
the line and the bytes from the line. -/
structure Program (State : Type) where
  handleSampleBuffer : State → (outBuf inBuf : List UInt8) → State × List UInt8
  keeps_size : ∀ state (outBuf inBuf : List UInt8), inBuf.length ≤ outBuf.length →
    (handleSampleBuffer state outBuf inBuf).2.length = outBuf.length

/-- What `read` has returned. -/
structure SlinRead where
  bytes : List UInt8
  fits : bytes.length ≤ yateSlinSamplesSize

/-- The table, `outSampleBuf` and the globals of the program; and what has happened: the bytes
handed to the program and the bytes written to Yate, oldest first. -/
structure SampleInput (State : Type) where
  s2a : List UInt8
  outSampleBuf : List UInt8
  program : State
  handed : List (List UInt8)
  written : List (List UInt8)

/-- The samples in a buffer. A last odd byte belongs to none. -/
def samplesOf : List UInt8 → List UInt16
  | low :: high :: rest => UInt16.ofNat (low.toNat + 256 * high.toNat) :: samplesOf rest
  | _ => []

/-- The bytes of some samples. -/
def bytesOf (samples : List UInt16) : List UInt8 :=
  samples.flatMap fun sample => [UInt8.ofNat (sample.toNat % 256), UInt8.ofNat (sample.toNat / 256)]

section Callback

variable {State : Type} (program : Program State)

/-- One call. The samples for Yate are stored over the ones that were read, so that a last odd
byte is written as it is. -/
def yateSampleInputCb (io : SampleInput State) (read : SlinRead) : SampleInput State :=
  if read.bytes = [] then io
  else
    let numSamples := read.bytes.length / 2
    let (s2a, inSampleBuf) := yateCodecSlinToAlaw io.s2a (samplesOf read.bytes)
    let (state, outSampleBuf) := program.handleSampleBuffer io.program io.outSampleBuf inSampleBuf
    let slinSamples := bytesOf (yateCodecAlawToSlin (outSampleBuf.take numSamples)) ++
      read.bytes.drop (2 * numSamples)
    { s2a, outSampleBuf
      program := state
      handed := io.handed ++ [inSampleBuf]
      written := io.written ++ [slinSamples] }

def yateSampleInputs (io : SampleInput State) (reads : List SlinRead) : SampleInput State :=
  reads.foldl (yateSampleInputCb program) io

end Callback

def SampleInput.start {State : Type} (state : State) : SampleInput State where
  s2a := s2aZeroed
  outSampleBuf := List.replicate (yateSlinSamplesSize / 2) 0
  program := state
  handed := []
  written := []

/-! ## Samples and bytes -/

theorem length_bytesOf (samples : List UInt16) : (bytesOf samples).length = 2 * samples.length := by
  induction samples with
  | nil => rfl
  | cons sample rest ih =>
      rw [bytesOf, List.flatMap_cons, ← bytesOf, List.length_append, ih, List.length_cons]
      simp only [List.length_cons, List.length_nil]
      omega

/-- **Samples are read back from their bytes.** -/
theorem samplesOf_bytesOf (samples : List UInt16) : samplesOf (bytesOf samples) = samples := by
  induction samples with
  | nil => rfl
  | cons sample rest ih =>
      have bound := sample.toNat_lt
      have low : (UInt8.ofNat (sample.toNat % 256)).toNat = sample.toNat % 256 := by
        simp
      have high : (UInt8.ofNat (sample.toNat / 256)).toNat = sample.toNat / 256 := by
        rw [UInt8.toNat_ofNat']
        omega
      rw [bytesOf, List.flatMap_cons, ← bytesOf]
      simp only [List.cons_append, List.nil_append, samplesOf, ih, low, high]
      rw [show sample.toNat % 256 + 256 * (sample.toNat / 256) = sample.toNat by omega,
        UInt16.ofNat_toNat]

/-! ## On the line -/

/-- A buffer of bytes from the line. -/
structure LineBlock where
  bytes : List UInt8
  nonempty : bytes ≠ []
  fits : bytes.length ≤ yateSlinSamplesSize / 2

theorem LineBlock.slin_fits (block : LineBlock) :
    (bytesOf (yateCodecAlawToSlin block.bytes)).length ≤ yateSlinSamplesSize := by
  have fits := block.fits
  rw [length_bytesOf, yateCodecAlawToSlin, List.length_map]
  unfold yateSlinSamplesSize at fits ⊢
  omega

/-- What Yate sends for it. -/
def LineBlock.slinRead (block : LineBlock) : SlinRead where
  bytes := bytesOf (yateCodecAlawToSlin block.bytes)
  fits := block.slin_fits

/-- What Yate puts on the line for the samples it is sent, by the same code. -/
def lineBytes (slinSamples : List UInt8) : List UInt8 :=
  (yateCodecSlinToAlaw s2aZeroed (samplesOf slinSamples)).2

/-- A program that works on the line itself, and its answers. -/
structure Line (State : Type) where
  program : State
  outSampleBuf : List UInt8
  answers : List (List UInt8)

section Transparent

variable {State : Type} (program : Program State)

def Line.start (state : State) : Line State where
  program := state
  outSampleBuf := List.replicate (yateSlinSamplesSize / 2) 0
  answers := []

/-- The program handles a buffer of the line. -/
def Line.handle (line : Line State) (block : LineBlock) : Line State :=
  let (state, outSampleBuf) := program.handleSampleBuffer line.program line.outSampleBuf block.bytes
  { program := state
    outSampleBuf
    answers := line.answers ++ [outSampleBuf.take block.bytes.length] }

/-- The call-back does on the samples what the program does on the line. -/
structure Mirrors (io : SampleInput State) (line : Line State) (blocks : List LineBlock) :
    Prop where
  program : io.program = line.program
  outSampleBuf : io.outSampleBuf = line.outSampleBuf
  ready : s2aReady io.s2a = yateCodecAlawSlinInit
  handed : io.handed = blocks.map (·.bytes)
  written : io.written.map lineBytes = line.answers
  size : line.outSampleBuf.length = yateSlinSamplesSize / 2
  lengths : line.answers.map List.length = blocks.map (·.bytes.length)

theorem lineBytes_value (bytes : List UInt8) :
    lineBytes (bytesOf (yateCodecAlawToSlin bytes)) = bytes := by
  rw [lineBytes, samplesOf_bytesOf]
  exact yateCodecSlinToAlaw_value s2aReady_zeroed bytes

variable {program}

theorem Mirrors.step {io : SampleInput State} {line : Line State} {blocks : List LineBlock}
    (mirrors : Mirrors io line blocks) (block : LineBlock) :
    Mirrors (yateSampleInputCb program io block.slinRead) (line.handle program block)
      (blocks ++ [block]) := by
  have length : block.slinRead.bytes.length = 2 * block.bytes.length := by
    rw [LineBlock.slinRead, length_bytesOf, yateCodecAlawToSlin, List.length_map]
  have half : block.slinRead.bytes.length / 2 = block.bytes.length := by omega
  have nonempty : block.slinRead.bytes ≠ [] := by
    have some := List.length_pos_iff.mpr block.nonempty
    exact List.length_pos_iff.mp (by omega)
  have seen : (yateCodecSlinToAlaw io.s2a (samplesOf block.slinRead.bytes)).2 = block.bytes := by
    rw [LineBlock.slinRead, samplesOf_bytesOf]
    exact yateCodecSlinToAlaw_value mirrors.ready block.bytes
  have rest : block.slinRead.bytes.drop (2 * block.bytes.length) = [] :=
    List.drop_eq_nil_of_le (Nat.le_of_eq length)
  have fits : block.bytes.length ≤ line.outSampleBuf.length := mirrors.size ▸ block.fits
  have size := program.keeps_size line.program line.outSampleBuf block.bytes fits
  rw [yateSampleInputCb, if_neg nonempty]
  simp only [half, seen, rest, List.append_nil, mirrors.program, mirrors.outSampleBuf]
  constructor
  · rfl
  · rfl
  · change s2aReady (s2aReady io.s2a) = yateCodecAlawSlinInit
    rw [mirrors.ready, s2aReady_init]
  · rw [mirrors.handed, List.map_append]
    rfl
  · rw [List.map_append, mirrors.written, List.map_singleton, lineBytes_value]
    rfl
  · exact size.trans mirrors.size
  · have answer : ((program.handleSampleBuffer line.program line.outSampleBuf
        block.bytes).2.take block.bytes.length).length = block.bytes.length := by
      rw [List.length_take, size]
      exact Nat.min_eq_left fits
    rw [Line.handle, List.map_append, mirrors.lengths, List.map_append, List.map_singleton,
      answer, List.map_singleton]

/-- **The call-back is not to be seen.** When Yate sends what it makes of some bytes of the
line, the program is handed these bytes, its state is as if it worked on the line itself, and
what Yate puts on the line are its answers, as many bytes as came from the line. -/
theorem line_transparent (state : State) (blocks : List LineBlock) :
    Mirrors (yateSampleInputs program (.start state) (blocks.map (·.slinRead)))
      (blocks.foldl (Line.handle program) (.start state)) blocks := by
  induction blocks using List.reverseRecOn with
  | nil => exact ⟨rfl, rfl, s2aReady_zeroed, rfl, rfl, List.length_replicate, rfl⟩
  | append_singleton blocks block ih =>
      rw [List.map_append, yateSampleInputs, List.foldl_append, List.foldl_append]
      exact ih.step block

end Transparent

/-- `handle_sample_buffer` of `yate_v110.c`, with the bytes fed into the demultiplexer. The
line gets its bytes back. -/
def v110Program : Program (List UInt8) where
  handleSampleBuffer fed outBuf inBuf := (fed ++ inBuf, inBuf ++ outBuf.drop inBuf.length)
  keeps_size fed outBuf inBuf fits := by
    rw [List.length_append, List.length_drop]
    omega

/-- Two buffers of idle line, and one of silence. -/
def silentBlocks : List LineBlock :=
  [⟨[0xff, 0xff], by decide, by decide⟩, ⟨[0xff], by decide, by decide⟩,
    ⟨[0xd5, 0xd5, 0x55], by decide, by decide⟩]

theorem line_transparent_silent :
    (silentBlocks.foldl (Line.handle v110Program) (.start [])).answers =
        silentBlocks.map (·.bytes) ∧
      Mirrors (yateSampleInputs v110Program (.start []) (silentBlocks.map (·.slinRead)))
        (silentBlocks.foldl (Line.handle v110Program) (.start [])) silentBlocks :=
  ⟨rfl, line_transparent [] silentBlocks⟩

end IsdnRas.Yate
