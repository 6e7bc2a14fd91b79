/-! Decoding bytes as text. The decoder takes one byte at a time and keeps what it
knows of the character that is under way; the first byte that no character
allows decides the flaw. -/

namespace Lox.Utf8

/-- Bytes that are no text, by the index of the first byte of the bad sequence.
An invalid sequence also has a length: its first byte and the bytes after it that
were still allowed. -/
inductive Flaw where
  | invalid (index length : Nat)
  | incomplete (index : Nat)
  deriving DecidableEq, Repr

def Flaw.message : Flaw → String
  | .invalid index length =>
      "invalid utf-8 sequence of " ++ toString length ++ " bytes from index " ++ toString index
  | .incomplete index => "incomplete utf-8 byte sequence from index " ++ toString index

/-- A character that is under way: where it began, how many bytes are read, how
many are missing, the range of the next byte, and the bits so far. -/
structure Pending where
  index : Nat
  taken : Nat
  missing : Nat
  low : Nat
  high : Nat
  bits : Nat

/-- What a first byte promises. The ranges leave out overlong forms, surrogates
and values beyond the last code point. -/
def lead (index byte : Nat) : Option Pending :=
  if 0xC2 ≤ byte ∧ byte ≤ 0xDF then some ⟨index, 1, 1, 0x80, 0xBF, byte % 32⟩
  else if byte = 0xE0 then some ⟨index, 1, 2, 0xA0, 0xBF, byte % 16⟩
  else if byte = 0xED then some ⟨index, 1, 2, 0x80, 0x9F, byte % 16⟩
  else if 0xE1 ≤ byte ∧ byte ≤ 0xEF then some ⟨index, 1, 2, 0x80, 0xBF, byte % 16⟩
  else if byte = 0xF0 then some ⟨index, 1, 3, 0x90, 0xBF, byte % 8⟩
  else if 0xF1 ≤ byte ∧ byte ≤ 0xF3 then some ⟨index, 1, 3, 0x80, 0xBF, byte % 8⟩
  else if byte = 0xF4 then some ⟨index, 1, 3, 0x80, 0x8F, byte % 8⟩
  else none

def decodeFrom (index : Nat) (pending : Option Pending) : List UInt8 → Except Flaw (List Char)
  | [] =>
      match pending with
      | none => .ok []
      | some character => .error (.incomplete character.index)
  | byte :: rest =>
      let value := byte.toNat
      match pending with
      | none =>
          if value < 0x80 then (decodeFrom (index + 1) none rest).map (Char.ofNat value :: ·)
          else
            match lead index value with
            | none => .error (.invalid index 1)
            | some character => decodeFrom (index + 1) (some character) rest
      | some character =>
          if character.low ≤ value ∧ value ≤ character.high then
            let bits := character.bits * 64 + value % 64
            if character.missing = 1 then
              (decodeFrom (index + 1) none rest).map (Char.ofNat bits :: ·)
            else
              decodeFrom (index + 1)
                (some { character with
                  taken := character.taken + 1
                  missing := character.missing - 1
                  low := 0x80
                  high := 0xBF
                  bits := bits }) rest
          else .error (.invalid character.index character.taken)

def decode (bytes : List UInt8) : Except Flaw String :=
  (decodeFrom 0 none bytes).map String.ofList

end Lox.Utf8
