/-!
Contract: text from bytes that may be no text.

Owns:
- which bytes may start and continue a character, and the character that they denote;
- the replacement of what is no character.

Does not own: bytes of a text.
-/

namespace SchemaMatch.Text

/-- The character in place of bytes that are none. -/
def replacement : Char := '\uFFFD'

/-- How many bytes follow the first one of a character, the bits of it that count, and the
bounds of the second byte. Those keep out overlong forms, surrogates and codes that are too
large. -/
def lead? (byte : Nat) : Option (Nat × Nat × Nat × Nat) :=
  if 0xC2 ≤ byte ∧ byte ≤ 0xDF then some (1, byte - 0xC0, 0x80, 0xBF)
  else if byte = 0xE0 then some (2, 0, 0xA0, 0xBF)
  else if byte = 0xED then some (2, 0xD, 0x80, 0x9F)
  else if 0xE1 ≤ byte ∧ byte ≤ 0xEF then some (2, byte - 0xE0, 0x80, 0xBF)
  else if byte = 0xF0 then some (3, 0, 0x90, 0xBF)
  else if byte = 0xF4 then some (3, 4, 0x80, 0x8F)
  else if 0xF1 ≤ byte ∧ byte ≤ 0xF3 then some (3, byte - 0xF0, 0x80, 0xBF)
  else none

/-- What a character is read up to: how many bytes it still needs, its bits so far, and the
bounds of the next byte. -/
abbrev Pending := Option (Nat × Nat × Nat × Nat)

/-- The characters of a row of bytes. The longest start of a character that does not go on is
replaced as one. -/
def decodeFrom (pending : Pending) : List UInt8 → List Char
  | [] => if pending.isSome then [replacement] else []
  | byte :: rest =>
      let code := byte.toNat
      let fresh (before : List Char) : List Char :=
        if code < 0x80 then before ++ Char.ofNat code :: decodeFrom none rest
        else
          match lead? code with
          | some start => before ++ decodeFrom (some start) rest
          | none => before ++ replacement :: decodeFrom none rest
      match pending with
      | none => fresh []
      | some (count, bits, least, greatest) =>
          if least ≤ code ∧ code ≤ greatest then
            let bits := bits * 64 + (code - 0x80)
            if count ≤ 1 then Char.ofNat bits :: decodeFrom none rest
            else decodeFrom (some (count - 1, bits, 0x80, 0xBF)) rest
          else fresh [replacement]

def decodeLossily (bytes : List UInt8) : String :=
  String.ofList (decodeFrom none bytes)

end SchemaMatch.Text
