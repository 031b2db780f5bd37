import VmScan.Text.Quoted

/-!
# UTF-8

* `readCharacter` — the character at the start of a row of bytes. Where there is none, the longest
  start of a character that stands there is taken away, and at least one byte.
* `pieces` — a row of bytes in characters and pieces that are none.
* `decodeLossy` — the text with a replacement character for every piece that is none.
* `decode` — the text, if every piece is a character; else the first piece that is none.
* `encode` — the bytes of a text.
-/

namespace VmScan.Text.Utf8

/-- What a first byte says about the bytes behind it. -/
structure Lead where
  /-- The number of bytes behind it. -/
  more : Nat
  /-- The bits of the character that it holds. -/
  bits : Nat
  /-- The least byte that may come next. -/
  least : Nat := 0x80
  /-- The greatest byte that may come next. -/
  greatest : Nat := 0xBF
  deriving DecidableEq, Repr

/-- What a byte says as the first one of a character. -/
def lead? (byte : Nat) : Option Lead :=
  if byte < 0x80 then some { more := 0, bits := byte }
  else if byte < 0xC2 then none
  else if byte < 0xE0 then some { more := 1, bits := byte - 0xC0 }
  else if byte = 0xE0 then some { more := 2, bits := 0, least := 0xA0 }
  else if byte = 0xED then some { more := 2, bits := 0xD, greatest := 0x9F }
  else if byte < 0xF0 then some { more := 2, bits := byte - 0xE0 }
  else if byte = 0xF0 then some { more := 3, bits := 0, least := 0x90 }
  else if byte < 0xF4 then some { more := 3, bits := byte - 0xF0 }
  else if byte = 0xF4 then some { more := 3, bits := 4, greatest := 0x8F }
  else none

/-- Why there is no character. -/
inductive Defect where
  | badStart
  | badContinuation
  | unfinished
  deriving DecidableEq, Repr

/-- What a defect is called. -/
def Defect.message : Defect → String
  | .badStart => "invalid start byte"
  | .badContinuation => "invalid continuation byte"
  | .unfinished => "unexpected end of data"

/-- A character or what is wrong with it. -/
abbrev Piece := Except Defect Char

/-- The character whose remaining bytes stand at the start, or what is wrong with it; the bytes
that it takes up, and the ones behind them. -/
def readRest (lead : Lead) : Nat → List UInt8 → Piece × List UInt8 × List UInt8
  | 0, bytes => (.ok (Char.ofNat lead.bits), [], bytes)
  | _ + 1, [] => (.error .unfinished, [], [])
  | more + 1, byte :: bytes =>
    if lead.least ≤ byte.toNat && byte.toNat ≤ lead.greatest then
      let (piece, taken, rest) :=
        readRest { more, bits := lead.bits * 64 + byte.toNat % 64 } more bytes
      (piece, byte :: taken, rest)
    else (.error .badContinuation, [], byte :: bytes)

theorem readRest_append (lead : Lead) (more : Nat) (bytes : List UInt8) :
    (readRest lead more bytes).2.1 ++ (readRest lead more bytes).2.2 = bytes := by
  induction more generalizing lead bytes with
  | zero => rfl
  | succ more ih =>
    cases bytes with
    | nil => rfl
    | cons byte bytes =>
      unfold readRest
      split
      · exact congrArg (byte :: ·) (ih _ _)
      · rfl

/-- The character that starts with the byte, or what is wrong with it; the bytes that it takes up
besides, and the ones behind them. -/
def readCharacter (byte : UInt8) (bytes : List UInt8) : Piece × List UInt8 × List UInt8 :=
  match lead? byte.toNat with
  | none => (.error .badStart, [], bytes)
  | some lead => readRest lead lead.more bytes

theorem readCharacter_append (byte : UInt8) (bytes : List UInt8) :
    (readCharacter byte bytes).2.1 ++ (readCharacter byte bytes).2.2 = bytes := by
  unfold readCharacter
  split
  · rfl
  · exact readRest_append _ _ _

/-- The pieces of the bytes, each with the bytes that it is made of. -/
def pieces : List UInt8 → List (Piece × List UInt8)
  | [] => []
  | byte :: bytes =>
    let read := readCharacter byte bytes
    (read.1, byte :: read.2.1) :: pieces read.2.2
termination_by bytes => bytes.length
decreasing_by
  have := congrArg List.length (readCharacter_append byte bytes)
  rw [List.length_append] at this
  rw [List.length_cons]
  omega

/-- The character that stands for a piece that is none. -/
def replacement : Char := Char.ofNat 0xFFFD

/-- The text, with a replacement for every piece that is no character. -/
def decodeLossy (bytes : List UInt8) : List Char :=
  (pieces bytes).map fun (piece, _) => piece.toOption.getD replacement

/-- The first piece that is no character, with its place. -/
structure Fault where
  position : Nat
  bytes : List UInt8
  defect : Defect
  deriving DecidableEq, Repr

/-- The message of a fault. -/
def Fault.message (fault : Fault) : String :=
  let place := match fault.bytes with
    | [byte] =>
      "byte 0x" ++ String.ofList (hexFixed 2 byte.toNat) ++ s!" in position {fault.position}"
    | bytes => s!"bytes in position {fault.position}-{fault.position + bytes.length - 1}"
  s!"'utf-8' codec can't decode {place}: {fault.defect.message}"

/-- The text of pieces behind `position` bytes, if every piece is a character. -/
def decodeFrom (position : Nat) : List (Piece × List UInt8) → Except Fault (List Char)
  | [] => .ok []
  | (.error defect, bytes) :: _ => .error { position, bytes, defect }
  | (.ok c, bytes) :: rest => (decodeFrom (position + bytes.length) rest).map (c :: ·)

/-- The text, if every piece is a character. -/
def decode (bytes : List UInt8) : Except Fault (List Char) :=
  decodeFrom 0 (pieces bytes)

/-- The bytes of a text. -/
def encode (text : List Char) : List UInt8 :=
  text.flatMap String.utf8EncodeChar

end VmScan.Text.Utf8
