import Tradespeak.Text.Basic

/-!
# Reading UTF-8

* `Utf8.firstPiece` — the character that bytes begin with, or why they begin with none.
* `Utf8.readBlocks` — the text of a file that is read block by block. A character may lie across the
  border of two blocks; bytes that begin none make a fault, which ends the reading.
-/

set_option autoImplicit false

namespace Tradespeak

namespace Utf8

/-- What is wrong with bytes that begin no character. -/
inductive Reason where
  | invalidStart
  | invalidContinuation
  | unexpectedEnd
  deriving DecidableEq, Repr

/-- A reason in words. -/
def Reason.message : Reason → Text
  | invalidStart => "invalid start byte".toList
  | invalidContinuation => "invalid continuation byte".toList
  | unexpectedEnd => "unexpected end of data".toList

/-- Bytes that begin no character: the first of them, where it is, how many they are, and why. -/
structure Fault where
  byte : UInt8
  position : Nat
  length : Nat
  reason : Reason
  deriving DecidableEq, Repr

/-- A fault in words. -/
def Fault.message (fault : Fault) : Text :=
  "'utf-8' codec can't decode ".toList
    ++ (if fault.length = 1 then
          "byte 0x".toList ++ Text.hex 2 fault.byte.toNat ++ " in position ".toList
            ++ Text.ofNat fault.position
        else
          "bytes in position ".toList ++ Text.ofNat fault.position ++ '-' ::
            Text.ofNat (fault.position + fault.length - 1))
    ++ ": ".toList ++ fault.reason.message

/-- What bytes begin with. -/
inductive Piece where
  /-- A character in that many bytes. -/
  | char (c : Char) (width : Nat)
  /-- The first bytes of a character of which the later ones are missing. -/
  | incomplete
  /-- That many bytes that begin no character. -/
  | invalid (length : Nat) (reason : Reason)
  deriving DecidableEq, Repr

/-- The byte can be a later byte of a character. -/
def isContinuation (byte : UInt8) : Bool := 0x80 ≤ byte && byte ≤ 0xbf

/-- The second byte is possible after the first one of a character in three or four bytes: the
character has no shorter form, is no surrogate and is not beyond the last code point. -/
def isSecond (first second : UInt8) : Bool :=
  isContinuation second && (first != 0xe0 || 0xa0 ≤ second) && (first != 0xed || second ≤ 0x9f)
    && (first != 0xf0 || 0x90 ≤ second) && (first != 0xf4 || second ≤ 0x8f)

/-- The number that the lower bits of the bytes make, those of the first byte being given. -/
def codePoint (first : Nat) (later : List UInt8) : Nat :=
  later.foldl (fun code byte => 64 * code + byte.toNat % 64) first

/-- What the bytes begin with, for a first byte that needs two or three more. -/
def longPiece (first : UInt8) (bits needed : Nat) : List UInt8 → Piece
  | [] => .incomplete
  | second :: rest =>
    if isSecond first second = false then .invalid 1 .invalidContinuation
    else
      let good := (rest.take (needed - 1)).takeWhile isContinuation
      if good.length = needed - 1 then
        .char (Char.ofNat (codePoint bits (second :: good))) (needed + 1)
      else if good.length = rest.length then .incomplete
      else .invalid (2 + good.length) .invalidContinuation

/-- What the bytes begin with. -/
def firstPiece (first : UInt8) (rest : List UInt8) : Piece :=
  if first < 0x80 then .char (Char.ofNat first.toNat) 1
  else if first < 0xc2 then .invalid 1 .invalidStart
  else if first < 0xe0 then
    match rest with
    | [] => .incomplete
    | second :: _ =>
      if isContinuation second then
        .char (Char.ofNat (codePoint (first.toNat % 32) [second])) 2
      else .invalid 1 .invalidContinuation
  else if first < 0xf0 then longPiece first (first.toNat % 16) 2 rest
  else if first < 0xf5 then longPiece first (first.toNat % 8) 3 rest
  else .invalid 1 .invalidStart

/-- The bytes are the first two of a surrogate: no character, but more bytes have to come before
this counts as a fault. -/
def isHalfSurrogate : List UInt8 → Bool
  | [first, second] => first == 0xed && 0xa0 ≤ second && second ≤ 0xbf
  | _ => false

/-- The text of a block and the bytes at its end that begin a character of which the later bytes are
missing. The first argument is how many bytes belong to the character read last, the second one the
position of the bytes in the block. The last block must not end within a character. -/
def readBlock (isLast : Bool) (skip position : Nat) : List UInt8 → Except Fault (Text × List UInt8)
  | [] => .ok ([], [])
  | byte :: rest =>
    match skip with
    | skip + 1 => readBlock isLast skip (position + 1) rest
    | 0 =>
      match firstPiece byte rest with
      | .char c width =>
        (readBlock isLast (width - 1) (position + 1) rest).map fun read => (c :: read.1, read.2)
      | .incomplete =>
        if isLast then .error ⟨byte, position, rest.length + 1, .unexpectedEnd⟩
        else .ok ([], byte :: rest)
      | .invalid length reason =>
        if !isLast && isHalfSurrogate (byte :: rest) then .ok ([], byte :: rest)
        else .error ⟨byte, position, length, reason⟩

/-- How many bytes a block has. -/
def blockSize : Nat := 8192

/-- The text of the blocks that come before the first fault, and this fault. The first argument is
what the blocks read so far have left. The position of a fault counts from the first byte that was
left for its block. -/
def readBlocks (left bytes : List UInt8) : Text × Option Fault :=
  if bytes = [] then
    match readBlock true 0 0 left with
    | .error fault => ([], some fault)
    | .ok (text, _) => (text, none)
  else
    match readBlock false 0 0 (left ++ bytes.take blockSize) with
    | .error fault => ([], some fault)
    | .ok (text, left) =>
      let (later, fault) := readBlocks left (bytes.drop blockSize)
      (text ++ later, fault)
termination_by bytes.length
decreasing_by
  have : 0 < bytes.length := List.length_pos_iff.2 (by assumption)
  rw [List.length_drop]
  exact Nat.sub_lt this (by decide)

/-- The text of a file up to its first fault, and this fault. -/
def read (bytes : List UInt8) : Text × Option Fault := readBlocks [] bytes

end Utf8

end Tradespeak
