import SqlFanout.Text.Numeral

/-!
# UTF-8

Decoding of bytes.  A text that is not UTF-8 is refused at the first byte that rules it out; the
fault names the bytes of the broken sequence.
-/

namespace SqlFanout.Text.Utf8

inductive Reason where
  | invalidStart
  | invalidContinuation
  | unexpectedEnd
  deriving DecidableEq, Repr

/-- A broken sequence: its position, its bytes and what is wrong with it. -/
structure DecodeFault where
  position : Nat
  bytes : List Nat
  reason : Reason
  deriving DecidableEq, Repr

def Reason.message : Reason → Text
  | .invalidStart => "invalid start byte"
  | .invalidContinuation => "invalid continuation byte"
  | .unexpectedEnd => "unexpected end of data"

def DecodeFault.message (fault : DecodeFault) : Text :=
  let place : Text :=
    match fault.bytes with
    | [byte] => "byte 0x" ++ hex 2 byte ++ " in position " ++ ofNat fault.position
    | bytes =>
        "bytes in position " ++ ofNat fault.position ++ "-"
          ++ ofNat (fault.position + bytes.length - 1)
  "'utf-8' codec can't decode " ++ place ++ ": " ++ fault.reason.message

/-- What a sequence still needs: the number of bytes, the bounds of the next one, the bits read. -/
structure Pending where
  remaining : Nat
  low : Nat
  high : Nat
  bits : Nat

/-- What the first byte of a longer sequence announces. -/
def Pending.ofLead? (byte : Nat) : Option Pending :=
  if 0xc2 ≤ byte && byte ≤ 0xdf then some ⟨1, 0x80, 0xbf, byte - 0xc0⟩
  else if byte == 0xe0 then some ⟨2, 0xa0, 0xbf, 0⟩
  else if byte == 0xed then some ⟨2, 0x80, 0x9f, 0xd⟩
  else if 0xe1 ≤ byte && byte ≤ 0xef then some ⟨2, 0x80, 0xbf, byte - 0xe0⟩
  else if byte == 0xf0 then some ⟨3, 0x90, 0xbf, 0⟩
  else if byte == 0xf4 then some ⟨3, 0x80, 0x8f, 4⟩
  else if 0xf1 ≤ byte && byte ≤ 0xf3 then some ⟨3, 0x80, 0xbf, byte - 0xf0⟩
  else none

/-- Decodes from a position, inside a sequence whose bytes so far are given or between characters. -/
def decodeFrom (position : Nat) : Option (Pending × List Nat) → List Nat → Except DecodeFault Text
  | none, [] => .ok []
  | some (_, seen), [] => .error ⟨position - seen.length, seen, .unexpectedEnd⟩
  | none, byte :: rest =>
      if byte < 0x80 then
        (decodeFrom (position + 1) none rest).map (Char.ofNat byte :: ·)
      else
        match Pending.ofLead? byte with
        | some pending => decodeFrom (position + 1) (some (pending, [byte])) rest
        | none => .error ⟨position, [byte], .invalidStart⟩
  | some (pending, seen), byte :: rest =>
      if pending.low ≤ byte && byte ≤ pending.high then
        let bits := pending.bits * 64 + (byte - 0x80)
        if pending.remaining ≤ 1 then
          (decodeFrom (position + 1) none rest).map (Char.ofNat bits :: ·)
        else
          decodeFrom (position + 1)
            (some (⟨pending.remaining - 1, 0x80, 0xbf, bits⟩, seen ++ [byte])) rest
      else .error ⟨position - seen.length, seen, .invalidContinuation⟩

def decode (bytes : List Nat) : Except DecodeFault Text :=
  decodeFrom 0 none bytes

end SqlFanout.Text.Utf8
