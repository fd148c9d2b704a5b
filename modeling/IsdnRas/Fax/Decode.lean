import IsdnRas.Library.Runs
import Mathlib.Data.List.FinRange

/-!
# Decoding a fax

`fax_decode.c` stands between the modems and the T.4 receiver of spandsp. A page without error
correction goes to the T.4 receiver bit by bit. A page with error correction goes through the
HDLC receiver, which reports frames; their data is kept by its frame number until the carrier
is gone, and then put into the T.4 receiver in the order of the numbers.

The receivers belong to spandsp and are parameters: what they answer to a bit is a function of
what they were given before. Beside the globals stands what they were given, the bits of the
HDLC receiver and the calls of the T.4 receiver.
-/

set_option autoImplicit false

namespace IsdnRas.Fax

/-! ## Calls into spandsp -/

inductive T4Compression where
  | ituT41d
  | ituT42d
  | ituT6
deriving Repr, DecidableEq

/-- The only value that the program uses. -/
inductive T4XResolution where
  | r8
deriving Repr, DecidableEq

inductive T4YResolution where
  | standard
  | fine
  | superfine
deriving Repr, DecidableEq

/-- The calls of the T.4 receiver. -/
inductive T4Call where
  | setRxEncoding (encoding : T4Compression)
  | setXResolution (resolution : T4XResolution)
  | setYResolution (resolution : T4YResolution)
  | setImageWidth (width : Int)
  | startPage
  | putBit (bit : Bool)
  | endPage
deriving Repr, DecidableEq

/-- What the HDLC receiver reports: the bytes from `msg` on, their number or a negative
status, and whether the check was good. -/
structure HdlcReport where
  msg : Nat → UInt8
  len : Int
  ok : Bool

/-- The functions and constants of spandsp that are used. -/
structure SpanDsp where
  t4Fcd : UInt8
  t30Dcs : UInt8
  fcd_ne_dcs : t4Fcd ≠ t30Dcs
  t30MaxDisDtcDcsLen : Nat
  /-- Whether the page has ended with a bit, after some calls. -/
  t4RxPutBit : List T4Call → (bit : Bool) → Bool
  /-- The reports for the last of some bits. -/
  hdlcRxPutBit : (bits : List Bool) → List HdlcReport

/-- What a modem puts: a bit, or a status. -/
inductive ModemBit where
  | bit (bit : Bool)
  | trainingSucceeded
  | carrierDown
  | otherStatus
deriving Repr, DecidableEq

/-! ## The state -/

/-- The fast modems. -/
inductive FastModem where
  | v27ter
  | v29
  | v17
deriving Repr, DecidableEq

/-- The globals, with the bits given to the HDLC receiver and the calls of the T.4 receiver.
`fastTrained` is the fast modem that has been trained, if there is one. -/
structure FaxDecode where
  t4Up : Bool
  fastTrained : Option FastModem
  ecmData : Fin 256 → List UInt8
  ecmLen : Fin 256 → Int
  lineEncoding : T4Compression
  xResolution : T4XResolution
  yResolution : T4YResolution
  imageWidth : Int
  octetsPerEcmFrame : Nat
  errorCorrectingMode : Bool
  currentFallback : Int
  hdlcBits : List Bool
  t4Calls : List T4Call

/-- The state behind `span_fax_init`. -/
def FaxDecode.start : FaxDecode where
  t4Up := false
  fastTrained := none
  ecmData := fun _ => List.replicate 260 0
  ecmLen := fun _ => 0
  lineEncoding := .ituT41d
  xResolution := .r8
  yResolution := .standard
  imageWidth := 1728
  octetsPerEcmFrame := 256
  errorCorrectingMode := false
  currentFallback := 0
  hdlcBits := []
  t4Calls := []

def disbit1 : UInt8 := 0x01
def disbit2 : UInt8 := 0x02
def disbit3 : UInt8 := 0x04
def disbit4 : UInt8 := 0x08
def disbit5 : UInt8 := 0x10
def disbit6 : UInt8 := 0x20
def disbit7 : UInt8 := 0x40
def disbit8 : UInt8 := 0x80

/-! ## Frames of the HDLC receiver -/

/-- The bit rates, and the codes in a DCS. -/
def fallbackSequence : List (Nat × UInt8) :=
  [(14400, disbit6), (12000, disbit6 ||| disbit4), (9600, disbit6 ||| disbit3), (9600, disbit3),
    (7200, disbit6 ||| disbit4 ||| disbit3), (7200, disbit4 ||| disbit3), (4800, disbit4),
    (2400, 0)]

def findFallbackEntry (dcsCode : UInt8) : Int :=
  match fallbackSequence.findIdx? fun entry => entry.2 == dcsCode with
  | some i => i
  | none => -1

def widths : List (List Int) :=
  [[864, 1024, 1216, -1], [1728, 2048, 2432, -1], [3456, 4096, 4864, -1]]

/-- The parameters of a DCS of at least six bytes. What it does not have is zero. -/
def checkRxDcs (span : SpanDsp) (fax : FaxDecode) (msg : Nat → UInt8) (len : Int) : FaxDecode :=
  if len < 6 then fax
  else
    let dcsFrame (i : Nat) : UInt8 := if i < len ∧ i < span.t30MaxDisDtcDcsLen then msg i else 0
    { fax with
      octetsPerEcmFrame := if dcsFrame 6 &&& disbit4 ≠ 0 then 256 else 64
      yResolution :=
        if dcsFrame 8 &&& disbit1 ≠ 0 then .superfine
        else if dcsFrame 4 &&& disbit7 ≠ 0 then .fine
        else .standard
      imageWidth :=
        (widths.getD (if dcsFrame 8 &&& disbit3 ≠ 0 then 2 else 1) []).getD
          (dcsFrame 5 &&& (disbit2 ||| disbit1)).toNat 0
      lineEncoding :=
        if dcsFrame 6 &&& disbit7 ≠ 0 then .ituT6
        else if dcsFrame 4 &&& disbit8 ≠ 0 then .ituT42d
        else .ituT41d
      currentFallback :=
        findFallbackEntry (dcsFrame 4 &&& (disbit6 ||| disbit5 ||| disbit4 ||| disbit3))
      errorCorrectingMode := dcsFrame 6 &&& disbit3 ≠ 0 }

/-- The image data of a frame. -/
def HdlcReport.imageData (report : HdlcReport) : List UInt8 :=
  (List.range (report.len - 4).toNat).map fun i => report.msg (4 + i)

/-- The image data is stored at the frame number. `none` when the length of the copy is
negative. -/
def storeFcd (fax : FaxDecode) (report : HdlcReport) : Option FaxDecode :=
  if report.len ≤ 4 + 256 then
    if report.len < 4 then none
    else
      let frameNo : Fin 256 := (report.msg 3).toFin
      some { fax with
        ecmData := Function.update fax.ecmData frameNo
          (report.imageData ++ (fax.ecmData frameNo).drop report.imageData.length)
        ecmLen := Function.update fax.ecmLen frameNo (report.len - 4) }
  else some fax

/-- The header of a frame that is looked at. -/
def HdlcReport.Headed (report : HdlcReport) : Prop :=
  report.msg 0 = 0xFF ∧ (report.msg 1 = 0x03 ∨ report.msg 1 = 0x13)

instance (report : HdlcReport) : Decidable report.Headed :=
  inferInstanceAs (Decidable (_ ∧ (_ ∨ _)))

def HdlcReport.type (report : HdlcReport) : UInt8 := report.msg 2 &&& 0xFE

def hdlcAccept (span : SpanDsp) (fax : FaxDecode) (report : HdlcReport) : Option FaxDecode :=
  if report.len < 0 then some fax
  else if report.ok = true then
    if report.Headed then
      if report.type = span.t4Fcd then storeFcd fax report
      else if report.type = span.t30Dcs then some (checkRxDcs span fax report.msg report.len)
      else some fax
    else some fax
  else some fax

/-- `hdlc_rx_put_bit`, which calls `hdlc_accept` for each report. -/
def hdlcRxPutBit (span : SpanDsp) (fax : FaxDecode) (bit : Bool) : Option FaxDecode :=
  let hdlcBits := fax.hdlcBits ++ [bit]
  runOps (hdlcAccept span) { fax with hdlcBits } (span.hdlcRxPutBit hdlcBits)

/-! ## Pages -/

def t4Begin (fax : FaxDecode) : FaxDecode :=
  { fax with
    t4Calls := fax.t4Calls ++ [.setRxEncoding fax.lineEncoding, .setXResolution fax.xResolution,
      .setYResolution fax.yResolution, .setImageWidth fax.imageWidth, .startPage]
    t4Up := true
    ecmLen := fun _ => -1 }

/-- The bits of an octet, the lowest first. -/
def octetBits (octet : UInt8) : List Bool := (List.range 8).map octet.toNat.testBit

/-- The bits of the frames that are kept, in the order of their numbers. -/
def ecmBits (fax : FaxDecode) : List Bool :=
  (List.finRange 256).flatMap fun i =>
    (List.range (fax.ecmLen i).toNat).flatMap fun j => octetBits ((fax.ecmData i).getD j 0)

def t4End (fax : FaxDecode) : FaxDecode :=
  if fax.t4Up then
    { fax with
      t4Calls := fax.t4Calls ++
        (if fax.errorCorrectingMode then (ecmBits fax).map .putBit else []) ++ [.endPage]
      t4Up := false }
  else fax

/-- A bit of a page. The page may end with it. -/
def t4RxPutBit (span : SpanDsp) (fax : FaxDecode) (bit : Bool) : FaxDecode :=
  let ended := span.t4RxPutBit fax.t4Calls bit
  let fax := { fax with t4Calls := fax.t4Calls ++ [.putBit bit] }
  if ended then t4End fax else fax

/-- A bit from a fast modem, with or without error correction. -/
def spanFaxBits (span : SpanDsp) (fax : FaxDecode) (bit : Bool) : Option FaxDecode :=
  if fax.errorCorrectingMode then hdlcRxPutBit span fax bit
  else some (t4RxPutBit span fax bit)

def spanInSync (fax : FaxDecode) : FaxDecode := t4Begin { fax with fastTrained := some .v27ter }

/-! ## Modems -/

def v21PutBit (span : SpanDsp) (fax : FaxDecode) : ModemBit → Option FaxDecode
  | .bit bit => if fax.fastTrained = none then hdlcRxPutBit span fax bit else some fax
  | .trainingSucceeded | .carrierDown | .otherStatus => some fax

def fastPutBit (modem : FastModem) (span : SpanDsp) (fax : FaxDecode) :
    ModemBit → Option FaxDecode
  | .trainingSucceeded => some (t4Begin { fax with fastTrained := some modem })
  | .carrierDown =>
      let fax := t4End fax
      some (if fax.fastTrained = some modem then { fax with fastTrained := none } else fax)
  | .otherStatus => some fax
  | .bit bit => spanFaxBits span fax bit

def v17PutBit : SpanDsp → FaxDecode → ModemBit → Option FaxDecode := fastPutBit .v17

def v29PutBit : SpanDsp → FaxDecode → ModemBit → Option FaxDecode := fastPutBit .v29

def v27terPutBit : SpanDsp → FaxDecode → ModemBit → Option FaxDecode := fastPutBit .v27ter

/-- What may be called from outside. -/
inductive FaxOp where
  | v21 (bit : ModemBit)
  | fast (modem : FastModem) (bit : ModemBit)
  | spanInSync
  | spanFaxBits (bit : Bool)
deriving Repr, DecidableEq

def faxStep (span : SpanDsp) (fax : FaxDecode) : FaxOp → Option FaxDecode
  | .v21 bit => v21PutBit span fax bit
  | .fast .v17 bit => v17PutBit span fax bit
  | .fast .v29 bit => v29PutBit span fax bit
  | .fast .v27ter bit => v27terPutBit span fax bit
  | .spanInSync => some (Fax.spanInSync fax)
  | .spanFaxBits bit => Fax.spanFaxBits span fax bit

/-! ## A frame -/

/-- The bits of a frame with number zero and one octet, behind five flags. -/
def fcdBits : List Bool :=
  let flag := [0, 1, 1, 1, 1, 1, 1, 0]
  let frame :=
    [1, 1, 1, 1, 1, 0, 1, 1, 1, 1, 1, 0, 0, 0, 0, 0, 0, 0, 0, 1, 1, 0, 0, 0, 0, 0, 0, 0, 0,
      0, 0, 0, 0, 0, 1, 0, 0, 0, 0, 0, 1, 0, 0, 0, 1, 0, 1, 1, 0, 1, 0, 1, 0, 1, 1, 0, 0, 1]
  ((List.replicate 5 flag).flatten ++ frame ++ flag).map fun bit => bit == 1

def fcdReport : HdlcReport where
  msg i := [0xFF, 0x03, 0x06, 0x00, 0x41, 0xB4, 0x9A].getD i 0
  len := 5
  ok := true

/-- The receivers on this frame: the framing is found behind the flags, and then the frame. -/
def oneFrameSpan : SpanDsp where
  t4Fcd := 0x06
  t30Dcs := 0x82
  fcd_ne_dcs := by decide
  t30MaxDisDtcDcsLen := 22
  t4RxPutBit _ _ := false
  hdlcRxPutBit bits :=
    if bits = fcdBits.take 40 then [⟨fun _ => 0, -6, true⟩]
    else if bits = fcdBits then [fcdReport]
    else []

end IsdnRas.Fax
