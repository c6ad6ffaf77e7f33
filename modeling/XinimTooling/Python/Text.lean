/-
Module: XinimTooling.Python.Text
Purpose: Python `bytes` and `str` as the scripts handle them: slicing, strict UTF-8
  decoding (`bytes.decode()`, which raises `UnicodeDecodeError`), lenient decoding
  (`bytes.decode(errors="ignore")`), and `readlines()` of a file opened in text mode.
Trusted boundary: CPython's `utf-8` codec, which accepts exactly the well-formed sequences
  of Unicode Table 3-7
Main exports: decodeChar?, decodeStrict, decodeIgnore, sliceBytes, readLinesIgnore
-/
import Mathlib.Data.List.Basic

namespace XinimTooling

/-!
A file's content is a list of bytes.  The script decodes it twice over: each captured
node's bytes strictly (`source_bytes[start:end].decode()`), and the whole file leniently
before a regex fallback runs on it.  Both decoders walk the bytes with a count of bytes
still to skip, so that they recurse structurally and evaluate by `decide`.

CPython's lenient decoder drops the maximal ill-formed subpart at each error.  Dropping one
byte at a time gives the same text: the rest of such a subpart is continuation bytes,
which never start a well-formed sequence and are dropped in turn.
-/

/-- `lo <= b <= hi`. -/
def byteIn (lo hi : UInt8) (b : UInt8) : Bool := lo ≤ b && b ≤ hi

/-- The second byte of a three-byte sequence, by lead byte (no overlongs, no surrogates). -/
def secondOfThreeOk (lead b : UInt8) : Bool :=
  if lead = 0xE0 then byteIn 0xA0 0xBF b
  else if lead = 0xED then byteIn 0x80 0x9F b
  else byteIn 0x80 0xBF b

/-- The second byte of a four-byte sequence, by lead byte (no overlongs, nothing past
U+10FFFF). -/
def secondOfFourOk (lead b : UInt8) : Bool :=
  if lead = 0xF0 then byteIn 0x90 0xBF b
  else if lead = 0xF4 then byteIn 0x80 0x8F b
  else byteIn 0x80 0xBF b

/-- A continuation byte `10xxxxxx`. -/
def isContinuation (b : UInt8) : Bool := byteIn 0x80 0xBF b

/-- The well-formed UTF-8 sequence at the front of the bytes, if there is one: its
character and its length in bytes. -/
def decodeChar? : List UInt8 → Option (Char × Nat)
  | [] => none
  | b0 :: rest =>
      if b0 < 0x80 then some (Char.ofNat b0.toNat, 1)
      else if byteIn 0xC2 0xDF b0 then
        match rest with
        | b1 :: _ =>
            if isContinuation b1 then
              some (Char.ofNat ((b0.toNat % 32) * 64 + b1.toNat % 64), 2)
            else none
        | [] => none
      else if byteIn 0xE0 0xEF b0 then
        match rest with
        | b1 :: b2 :: _ =>
            if secondOfThreeOk b0 b1 && isContinuation b2 then
              some (Char.ofNat ((b0.toNat % 16) * 4096 + (b1.toNat % 64) * 64 +
                b2.toNat % 64), 3)
            else none
        | _ => none
      else if byteIn 0xF0 0xF4 b0 then
        match rest with
        | b1 :: b2 :: b3 :: _ =>
            if secondOfFourOk b0 b1 && isContinuation b2 && isContinuation b3 then
              some (Char.ofNat ((b0.toNat % 8) * 262144 + (b1.toNat % 64) * 4096 +
                (b2.toNat % 64) * 64 + b3.toNat % 64), 4)
            else none
        | _ => none
      else none

/-- Strict decoding after skipping `skip` bytes already consumed by the previous
character. -/
def decodeStrictFrom : Nat → List UInt8 → Option (List Char)
  | _, [] => some []
  | skip + 1, _ :: rest => decodeStrictFrom skip rest
  | 0, b :: rest =>
      match decodeChar? (b :: rest) with
      | some (c, width) => (decodeStrictFrom (width - 1) rest).map (c :: ·)
      | none => none

/-- `bytes.decode()`: `none` where CPython raises `UnicodeDecodeError`. -/
def decodeStrict (bytes : List UInt8) : Option String :=
  (decodeStrictFrom 0 bytes).map String.mk

/-- Lenient decoding after skipping `skip` bytes already consumed by the previous
character. -/
def decodeIgnoreFrom : Nat → List UInt8 → List Char
  | _, [] => []
  | skip + 1, _ :: rest => decodeIgnoreFrom skip rest
  | 0, b :: rest =>
      match decodeChar? (b :: rest) with
      | some (c, width) => c :: decodeIgnoreFrom (width - 1) rest
      | none => decodeIgnoreFrom 0 rest

/-- `bytes.decode(errors="ignore")`: ill-formed bytes are dropped; it never raises. -/
def decodeIgnore (bytes : List UInt8) : String := ⟨decodeIgnoreFrom 0 bytes⟩

/-- `data[start:stop]` for non-negative bounds: Python clamps both to the length, and a
stop before the start gives the empty slice. -/
def sliceBytes (data : List UInt8) (start stop : Nat) : List UInt8 :=
  (data.drop start).take (stop - start)

/-- Reading in text mode with universal newlines: `\r\n` and a lone `\r` both read as
`\n`. -/
def universalNewlines : List Char → List Char
  | '\r' :: '\n' :: rest => '\n' :: universalNewlines rest
  | '\r' :: rest => '\n' :: universalNewlines rest
  | c :: rest => c :: universalNewlines rest
  | [] => []

/-- `readlines()` after `line` has been read of the current line: each line ends with its
newline, and a last line without one is kept. -/
def readLinesFrom (line : List Char) : List Char → List (List Char)
  | [] => if line = [] then [] else [line]
  | c :: rest =>
      if c = '\n' then (line ++ [c]) :: readLinesFrom [] rest else readLinesFrom (line ++ [c]) rest

/-- `open(path, "r", errors="ignore").readlines()` on a file with these bytes, under a
UTF-8 locale. -/
def readLinesIgnore (bytes : List UInt8) : List (List Char) :=
  readLinesFrom [] (universalNewlines (decodeIgnore bytes).data)

end XinimTooling
