import Mathlib.Data.List.Basic

/-!
# The messages of Yate

`yate_message.c` reads lines from Yate on the standard input. A line is collected in
`yate_msg_buf` over several reads; at its newline it is split at colons in place, its
parameters are stored in globals, and a call is started when it is a `call.execute`
message.

The parser is given the whole array, so that a search which goes on behind the line stays
visible: the bytes that `memchr` looks at and the bytes that are set to NUL are recorded.
A search that leaves the array has no result in the model.
-/

set_option autoImplicit false

namespace IsdnRas.Yate

/-- The characters of a buffer or a string. -/
abbrev Chars := List UInt8

def chars (text : String) : Chars := text.toList.map fun c => c.toNat.toUInt8

def strBufSize : Nat := 4096

def newline : UInt8 := 0x0a
def colon : UInt8 := 0x3a
def equals : UInt8 := 0x3d

/-! ## Strings in a buffer -/

/-- The string that starts at an index, up to the first NUL. -/
def cString (buf : Chars) (start : Nat) : Chars := (buf.drop start).takeWhile (· ≠ 0)

/-- What a search ends with: an index, nothing, or reading behind the array. -/
inductive Search where
  | found (index : Nat)
  | absent
  | outside
deriving Repr, DecidableEq

/-- `memchr(&buf[start], c, n)`. -/
def memchr (buf : Chars) (start : Nat) (c : UInt8) (n : Nat) : Search :=
  match ((buf.drop start).take n).idxOf? c with
  | some offset => .found (start + offset)
  | none => if start + n ≤ buf.length then .absent else .outside

/-- What the parser does to the buffer: the bytes from `start` on and before `stop` are
looked at, or a byte is set to NUL. -/
inductive Access where
  | examined (start stop : Nat)
  | cleared (index : Nat)
deriving Repr, DecidableEq

/-- The access stays within the first `len` bytes. -/
def Access.Within (len : Nat) : Access → Prop
  | .examined _ stop => stop ≤ len
  | .cleared index => index < len

instance (len : Nat) (access : Access) : Decidable (access.Within len) := by
  unfold Access.Within
  split <;> exact inferInstance

/-- A search looks at bytes until it has found one. -/
def Search.stop (start n : Nat) : Search → Nat
  | .found index => index + 1
  | _ => start + n

/-! ## The parser -/

/-- The strings in `yate_called`, `yate_caller` and `yate_format`. -/
structure Parameters where
  called : Chars
  caller : Chars
  format : Chars
deriving Repr, DecidableEq

/-- The array, the globals, what has been written to `out`, and the accesses. -/
structure Parser where
  buf : Chars
  params : Parameters
  out : Chars
  accesses : List Access
deriving Repr, DecidableEq

def Parser.memchr (parser : Parser) (start : Nat) (c : UInt8) (n : Nat) : Search × Parser :=
  let search := Yate.memchr parser.buf start c n
  (search, { parser with accesses := parser.accesses ++ [.examined start (search.stop start n)] })

/-- `end[0] = 0x00`. -/
def Parser.clear (parser : Parser) (index : Nat) : Parser :=
  { parser with
    buf := parser.buf.set index 0
    accesses := parser.accesses ++ [.cleared index] }

/-- Copy a value to the global of its key. -/
def Parameters.store (params : Parameters) (key value : Chars) : Parameters :=
  let params := if key = chars "callednr" then { params with called := value } else params
  let params := if key = chars "caller" then { params with caller := value } else params
  if key = chars "format" then { params with format := value } else params

/-- `buf` is the string at `start`. -/
def yateMessageParseParameter (parser : Parser) (start : Nat) : Parser :=
  let len := (cString parser.buf start).length
  match parser.memchr start equals len with
  | (.found stop, parser) =>
      let parser := parser.clear stop
      let key := cString parser.buf start
      let value := cString parser.buf (stop + 1)
      if key.length = 0 then parser
      else if value.length > strBufSize - 1 then parser
      else { parser with params := parser.params.store key value }
  | (_, parser) => parser

/-- The loop, for at most `rounds` rounds. `none` when a search has left the array. -/
def yateMessageParseParametersLoop : Nat → Parser → (start remaining argumentCounter : Nat) →
    (type : Option Nat) → Parser × Option Bool
  | 0, parser, _, _, _, _ => (parser, none)
  | rounds + 1, parser, start, remaining, argumentCounter, type =>
      match parser.memchr start colon remaining with
      | (.outside, parser) => (parser, none)
      | (.absent, parser) =>
          let parser := yateMessageParseParameter parser start
          match type with
          | some type => (parser, some (cString parser.buf type == chars "call.execute"))
          | none => (parser, some false)
      | (.found stop, parser) =>
          -- the separator itself is not subtracted
          let remaining := remaining - (stop - start)
          let parser := yateMessageParseParameter (parser.clear stop) start
          let type := if argumentCounter = 1 then some start else type
          yateMessageParseParametersLoop rounds parser (stop + 1) remaining (argumentCounter + 1)
            type

/-- Every round but the last finds a separator in the array. -/
def yateMessageParseParameters (parser : Parser) (buf len : Nat) : Parser × Option Bool :=
  yateMessageParseParametersLoop (parser.buf.length + 1) parser buf len 0 none

/-- The line is in the first `len` bytes of the array. -/
def yateMessageParseIncoming (parser : Parser) (len : Nat) : Parser × Option Bool :=
  match parser.memchr 0 colon len with
  | (.outside, parser) => (parser, none)
  | (.absent, parser) => (parser, some false)
  | (.found stop, parser) =>
      let messageId := stop + 1
      match parser.memchr messageId colon (len - messageId) with
      | (.outside, parser) => (parser, none)
      | (.absent, parser) => (parser, some false)
      | (.found messageIdEnd, parser) =>
          match yateMessageParseParameters (parser.clear messageIdEnd) (messageIdEnd + 1)
            (len - messageIdEnd - 1) with
          | (parser, some true) =>
              let reply := chars "%%<message:" ++ cString parser.buf messageId ++ chars ":true:\n"
              ({ parser with out := parser.out ++ reply }, some true)
          | (parser, other) => (parser, other)

/-! ## Reading -/

/-- The size of `temp_buf`. -/
def tempBufSize : Nat := 4096

/-- A line that was handed to the parser, with its final NUL, and the strings that were
passed to `call_initialize`, if it was called. -/
structure Handed where
  line : Chars
  passed : Option Parameters
deriving Repr, DecidableEq

/-- The globals, whether the standard input is still read, and what has happened: the
lines handed to the parser and the output, oldest first. The parameters are `none` once
the parser has left the array. -/
structure YateMessage where
  yateMsgBuf : Chars
  yateMsgBufPos : Nat
  params : Option Parameters
  reading : Bool
  handed : List Handed
  out : Chars
deriving Repr, DecidableEq

/-- The zeroed globals. -/
def YateMessage.initial : YateMessage where
  yateMsgBuf := List.replicate strBufSize 0
  yateMsgBufPos := 0
  params := some ⟨[], [], []⟩
  reading := true
  handed := []
  out := []

/-- `memset`, and the position. -/
def YateMessage.reset (yateMessage : YateMessage) : YateMessage :=
  { yateMessage with
    yateMsgBuf := List.replicate strBufSize 0
    yateMsgBufPos := 0 }

/-- `process incoming message`. `data` says whether `fd->data` is set. -/
def YateMessage.process (yateMessage : YateMessage) (data : Bool) : YateMessage :=
  let buf := yateMessage.yateMsgBuf.set (yateMessage.yateMsgBufPos - 1) 0
  let line := buf.take yateMessage.yateMsgBufPos
  match yateMessage.params with
  | none => { yateMessage with handed := yateMessage.handed ++ [⟨line, none⟩] }
  | some params =>
      match yateMessageParseIncoming ⟨buf, params, yateMessage.out, []⟩
        yateMessage.yateMsgBufPos with
      | (parser, some callExecute) =>
          let passed := if callExecute && data then some parser.params else none
          { yateMessage with
            params := some parser.params
            handed := yateMessage.handed ++ [⟨line, passed⟩]
            out := parser.out }
      | (_, none) =>
          { yateMessage with
            params := none
            handed := yateMessage.handed ++ [⟨line, none⟩] }

/-- The loop over the bytes of one read. An overflow drops the byte and the rest. -/
def yateMessageReadLoop (data : Bool) : YateMessage → Chars → YateMessage × Int
  | yateMessage, [] => (yateMessage, 0)
  | yateMessage, ch :: tempBuf =>
      if yateMessage.yateMsgBufPos = strBufSize - 1 then (yateMessage.reset, -1)
      else
        let yateMessage :=
          { yateMessage with
            yateMsgBuf := yateMessage.yateMsgBuf.set yateMessage.yateMsgBufPos ch
            yateMsgBufPos := yateMessage.yateMsgBufPos + 1 }
        if ch = newline then yateMessageReadLoop data (yateMessage.process data).reset tempBuf
        else yateMessageReadLoop data yateMessage tempBuf

/-- One call, on what `read` has returned. Nothing means that it has failed. -/
def yateMessageReadCb (data : Bool) (yateMessage : YateMessage) (tempBuf : Chars) :
    YateMessage × Int :=
  if tempBuf = [] then ({ yateMessage with reading := false }, -1)
  else yateMessageReadLoop data yateMessage tempBuf

def yateMessageReads (data : Bool) : YateMessage → List Chars → YateMessage
  | yateMessage, [] => yateMessage
  | yateMessage, tempBuf :: rest =>
      yateMessageReads data (yateMessageReadCb data yateMessage tempBuf).1 rest

end IsdnRas.Yate
