import TextTemplate.Text.Utf8

/-!
# Form encoding

The encoding of form fields in addresses. `encode` keeps ASCII letters, digits and the characters
`*`, `-`, `.` and `_`, writes `+` for a space and every other octet of the UTF-8 form as `%` with
two hexadecimal digits. `decode` turns `+` into a space and `%` with two digits of either case
into their octet, and leaves everything else as it is.
-/

namespace TextTemplate.Text.FormEncoding

/-- Whether an octet is written as the ASCII character that it stands for. -/
def isPlain (b : UInt8) : Bool :=
  let c := Char.ofNat b.toNat
  (b < 0x80 && c.isAlphanum) || c == '*' || c == '-' || c == '.' || c == '_'

/-- A digit of base 16, with capital letters. -/
def hexDigit (n : Nat) : Char :=
  if n < 10 then Char.ofNat ('0'.toNat + n) else Char.ofNat ('A'.toNat + (n - 10))

/-- The written form of an octet. -/
def encodeOctet (b : UInt8) : List Char :=
  if isPlain b then [Char.ofNat b.toNat]
  else if b = 0x20 then ['+']
  else ['%', hexDigit (b.toNat / 16), hexDigit (b.toNat % 16)]

/-- The form encoding of a text. -/
def encode (s : String) : String :=
  String.ofList ((Utf8.encode s).flatMap encodeOctet)

/-- The value of a digit of base 16 in either case. -/
def hexValue? (b : UInt8) : Option UInt8 :=
  if 0x30 ≤ b && b ≤ 0x39 then some (b - 0x30)
  else if 0x41 ≤ b && b ≤ 0x46 then some (b - 0x41 + 10)
  else if 0x61 ≤ b && b ≤ 0x66 then some (b - 0x61 + 10)
  else none

/-- The octets that a form-encoded text stands for. -/
def decodeOctets : List UInt8 → List UInt8
  | [] => []
  | 0x25 :: h :: l :: rest =>
    match hexValue? h, hexValue? l with
    | some high, some low => (high * 16 + low) :: decodeOctets rest
    | _, _ => 0x25 :: decodeOctets (h :: l :: rest)
  | b :: rest => (if b = 0x2B then 0x20 else b) :: decodeOctets rest

/-- The text that a form-encoded text stands for. -/
def decode (s : String) : Except Utf8.DecodeError String :=
  Utf8.decode (decodeOctets (Utf8.encode s))

end TextTemplate.Text.FormEncoding
