import TileBrain.Text.Quoted

/-! # Reading UTF-8

Octets are read by a machine that is either between characters or inside one. Inside, it knows
which octets may come next, so overlong forms, surrogates and values past the last code point are
refused at the octet that would complete the mistake.

A fault says where its sequence begins, and how long it is. Line ends are unified after decoding, on
characters.
-/

namespace TileBrain.Text

/-- What is wrong with a sequence of octets. -/
inductive Utf8Cause where
  | invalidStart
  | invalidContinuation
  | unexpectedEnd
  deriving DecidableEq

/-- A faulty sequence: where it begins, its first octet and its length. -/
structure Utf8Fault where
  cause : Utf8Cause
  position : Nat
  first : UInt8
  length : Nat
  deriving DecidableEq

def Utf8Cause.text : Utf8Cause → String
  | .invalidStart => "invalid start byte"
  | .invalidContinuation => "invalid continuation byte"
  | .unexpectedEnd => "unexpected end of data"

def Utf8Fault.message (fault : Utf8Fault) : String :=
  let place :=
    if fault.length ≤ 1 then
      "byte 0x" ++ String.ofList (hexadecimal 2 fault.first.toNat) ++ " in position " ++
        toString fault.position
    else
      "bytes in position " ++ toString fault.position ++ "-" ++
        toString (fault.position + fault.length - 1)
  "'utf-8' codec can't decode " ++ place ++ ": " ++ fault.cause.text

/-- A character begun: its first octet and position, the bits so far, how many octets are still to
come, and the bounds of the next one. -/
structure Utf8Pending where
  first : UInt8
  start : Nat
  bits : Nat
  missing : Nat
  low : Nat
  high : Nat

/-- What a first octet beyond ASCII announces. -/
def Utf8Pending.ofFirst? (first : UInt8) (start : Nat) : Option Utf8Pending :=
  let n := first.toNat
  if 0xc2 ≤ n ∧ n ≤ 0xdf then some ⟨first, start, n - 0xc0, 1, 0x80, 0xbf⟩
  else if n = 0xe0 then some ⟨first, start, 0, 2, 0xa0, 0xbf⟩
  else if n = 0xed then some ⟨first, start, 0xd, 2, 0x80, 0x9f⟩
  else if 0xe1 ≤ n ∧ n ≤ 0xef then some ⟨first, start, n - 0xe0, 2, 0x80, 0xbf⟩
  else if n = 0xf0 then some ⟨first, start, 0, 3, 0x90, 0xbf⟩
  else if 0xf1 ≤ n ∧ n ≤ 0xf3 then some ⟨first, start, n - 0xf0, 3, 0x80, 0xbf⟩
  else if n = 0xf4 then some ⟨first, start, 4, 3, 0x80, 0x8f⟩
  else none

/-- Reads on from a position, inside a character or between two. -/
def readUtf8 (position : Nat) : Option Utf8Pending → List UInt8 → Except Utf8Fault (List Char)
  | none, [] => .ok []
  | some pending, [] =>
    .error ⟨.unexpectedEnd, pending.start, pending.first, position - pending.start⟩
  | none, octet :: rest =>
    if octet.toNat < 0x80 then
      (readUtf8 (position + 1) none rest).map (Char.ofNat octet.toNat :: ·)
    else match Utf8Pending.ofFirst? octet position with
      | some pending => readUtf8 (position + 1) (some pending) rest
      | none => .error ⟨.invalidStart, position, octet, 1⟩
  | some pending, octet :: rest =>
    if octet.toNat < pending.low ∨ pending.high < octet.toNat then
      .error ⟨.invalidContinuation, pending.start, pending.first, position - pending.start⟩
    else
      let bits := pending.bits * 64 + (octet.toNat - 0x80)
      if pending.missing ≤ 1 then
        (readUtf8 (position + 1) none rest).map (Char.ofNat bits :: ·)
      else
        readUtf8 (position + 1)
          (some { pending with bits, missing := pending.missing - 1, low := 0x80, high := 0xbf })
          rest

/-- The text that octets encode. -/
def decodeUtf8 (octets : List UInt8) : Except Utf8Fault String :=
  (readUtf8 0 none octets).map String.ofList

/-- Every way to end a line becomes a line feed. -/
def unifyLineEnds : List Char → List Char
  | '\r' :: '\n' :: rest => '\n' :: unifyLineEnds rest
  | '\r' :: rest => '\n' :: unifyLineEnds rest
  | c :: rest => c :: unifyLineEnds rest
  | [] => []

end TileBrain.Text
