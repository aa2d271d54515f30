/-!
# UTF-8

Bytes denote characters in sequences of one to four. A lead byte fixes how many bytes follow and
what the first of them may be; overlong forms, surrogates and what is above U+10FFFF are excluded.
-/

namespace Chartboard.Text

/-- A byte that continues a sequence. -/
def isContinuation (b : UInt8) : Bool :=
  0x80 ≤ b && b ≤ 0xBF

/-- The payload of a continuation byte. -/
def continuation (b : UInt8) : Nat :=
  b.toNat - 0x80

/-- The character at the start of some bytes and the number of its bytes. -/
def decodeChar? : List UInt8 → Option (Char × Nat)
  | [] => none
  | a :: rest =>
    if a < 0x80 then some (Char.ofNat a.toNat, 1)
    else match rest with
      | [] => none
      | b :: rest =>
        if 0xC2 ≤ a ∧ a ≤ 0xDF then
          if isContinuation b then
            some (Char.ofNat ((a.toNat - 0xC0) * 0x40 + continuation b), 2)
          else none
        else match rest with
          | [] => none
          | c :: rest =>
            if 0xE0 ≤ a ∧ a ≤ 0xEF then
              let low : UInt8 := if a = 0xE0 then 0xA0 else 0x80
              let high : UInt8 := if a = 0xED then 0x9F else 0xBF
              if low ≤ b ∧ b ≤ high ∧ isContinuation c then
                some (Char.ofNat
                  ((a.toNat - 0xE0) * 0x1000 + continuation b * 0x40 + continuation c), 3)
              else none
            else match rest with
              | [] => none
              | d :: _ =>
                let low : UInt8 := if a = 0xF0 then 0x90 else 0x80
                let high : UInt8 := if a = 0xF4 then 0x8F else 0xBF
                if 0xF0 ≤ a ∧ a ≤ 0xF4 ∧ low ≤ b ∧ b ≤ high ∧ isContinuation c
                    ∧ isContinuation d then
                  some (Char.ofNat ((a.toNat - 0xF0) * 0x40000 + continuation b * 0x1000
                    + continuation c * 0x40 + continuation d), 4)
                else none

/-- Decodes bytes from a given index on. `skip` bytes belong to a character already read. -/
def decodeFrom (index skip : Nat) : List UInt8 → Except Nat (List Char)
  | [] => .ok []
  | byte :: rest =>
    match skip with
    | skip + 1 => decodeFrom (index + 1) skip rest
    | 0 =>
      match decodeChar? (byte :: rest) with
      | none => .error index
      | some (c, width) => (c :: ·) <$> decodeFrom (index + 1) (width - 1) rest

/-- The text of some bytes, or the index at which they stop being a text. -/
def decode (bytes : List UInt8) : Except Nat String :=
  String.ofList <$> decodeFrom 0 0 bytes

end Chartboard.Text
