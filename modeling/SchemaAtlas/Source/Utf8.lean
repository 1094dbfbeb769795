import SchemaAtlas.Value.Display

namespace SchemaAtlas
namespace Utf8

/-!
Reading bytes as UTF-8 text.

A character is one byte, or a first byte that announces one to three further ones.  Not every byte
may come second: the bounds exclude forms longer than needed, surrogates, and numbers beyond the
last character.  The first violation ends the reading, and it names the bytes of the broken
character that were in order so far.
-/

/-- Why bytes are no text. -/
inductive Reason where
  | invalidStart
  | invalidContinuation
  | unexpectedEnd
deriving DecidableEq

/-- The bytes of a broken character, with the position of the first one. -/
structure Violation where
  reason : Reason
  position : Nat
  bytes : List UInt8
deriving DecidableEq

/-- A character whose bytes are not complete: the bytes so far, the number that they spell, how many
are still owed, and the bounds of the next one. -/
structure Pending where
  bytes : List UInt8
  number : Nat
  owed : Nat
  low : UInt8
  high : UInt8
deriving DecidableEq

/-- What the first byte of a character announces. -/
inductive Opening where
  | complete
  | pending (p : Pending)
  | invalid
deriving DecidableEq

/-- What a byte announces as the first one of a character. -/
def opening (b : UInt8) : Opening :=
  if b < 0x80 then .complete
  else if b < 0xC2 then .invalid
  else if b < 0xE0 then .pending ⟨[b], b.toNat - 0xC0, 1, 0x80, 0xBF⟩
  else if b < 0xF0 then
    .pending ⟨[b], b.toNat - 0xE0, 2, if b == 0xE0 then 0xA0 else 0x80,
      if b == 0xED then 0x9F else 0xBF⟩
  else if b < 0xF5 then
    .pending ⟨[b], b.toNat - 0xF0, 3, if b == 0xF0 then 0x90 else 0x80,
      if b == 0xF4 then 0x8F else 0xBF⟩
  else .invalid

/-- The next byte belongs to the character. -/
def Pending.accepts (p : Pending) (b : UInt8) : Bool :=
  p.low ≤ b && b ≤ p.high

/-- The character with one more byte.  Every byte after the second one has the same bounds. -/
def Pending.push (p : Pending) (b : UInt8) : Pending :=
  ⟨p.bytes ++ [b], p.number * 64 + (b.toNat - 0x80), p.owed - 1, 0x80, 0xBF⟩

/-- The text of bytes that begin at a position, where a character may be incomplete. -/
def decodeFrom (position : Nat) : Option Pending -> List UInt8 -> Except Violation Text
  | none, [] => .ok []
  | some p, [] => .error ⟨.unexpectedEnd, position - p.bytes.length, p.bytes⟩
  | none, b :: rest =>
    match opening b with
    | .complete => (decodeFrom (position + 1) none rest).map (Char.ofNat b.toNat :: ·)
    | .pending p => decodeFrom (position + 1) (some p) rest
    | .invalid => .error ⟨.invalidStart, position, [b]⟩
  | some p, b :: rest =>
    if p.accepts b then
      if p.owed == 1 then
        (decodeFrom (position + 1) none rest).map (Char.ofNat (p.push b).number :: ·)
      else decodeFrom (position + 1) (some (p.push b)) rest
    else .error ⟨.invalidContinuation, position - p.bytes.length, p.bytes⟩

/-- The bytes without the mark of their order that may stand at the beginning. -/
def withoutMark : List UInt8 -> List UInt8
  | 0xEF :: 0xBB :: 0xBF :: rest => rest
  | bytes => bytes

/-- The text of some bytes.  Positions are counted after the mark of the byte order. -/
def decode (bytes : List UInt8) : Except Violation Text :=
  decodeFrom 0 none (withoutMark bytes)

def Reason.words : Reason -> Text
  | .invalidStart => "invalid start byte"
  | .invalidContinuation => "invalid continuation byte"
  | .unexpectedEnd => "unexpected end of data"

/-- The place of a violation: one byte is shown, several are told by their positions. -/
def Violation.place (v : Violation) : Text :=
  match v.bytes with
  | [b] => "byte 0x".toList ++ Text.hex 2 b.toNat ++ " in position ".toList ++ Text.ofNat v.position
  | bytes =>
    "bytes in position ".toList ++ Text.ofNat v.position ++ ['-']
      ++ Text.ofNat (v.position + bytes.length - 1)

def Violation.message (v : Violation) : Text :=
  "'utf-8' codec can't decode ".toList ++ v.place ++ ": ".toList ++ v.reason.words

end Utf8
end SchemaAtlas
