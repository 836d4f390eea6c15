/-!
# UTF-8

`Utf8.decode` reads a text from octets. It refuses overlong forms, surrogates and numbers above
the last code point, and says where the first fault lies: at which octet the faulty sequence
starts, and how many octets of it can still be the start of a well-formed one. A sequence that
breaks off at the end of the input has no such count.
-/

namespace TextTemplate.Text.Utf8

/-- A faulty sequence, by the octet that it starts at. -/
inductive DecodeError where
  | invalid (start length : Nat)
  | incomplete (start : Nat)
deriving DecidableEq, Repr

/-- The wording of the error. -/
def DecodeError.message : DecodeError → String
  | .invalid start length =>
    "invalid utf-8 sequence of " ++ toString length ++ " bytes from index " ++ toString start
  | .incomplete start => "incomplete utf-8 byte sequence from index " ++ toString start

/-- The octets of a text. -/
def encode (s : String) : List UInt8 := s.toList.flatMap String.utf8EncodeChar

/-- Whether an octet can follow the second octet of a sequence. -/
def isContinuation (b : UInt8) : Bool := 0x80 ≤ b && b ≤ 0xBF

/-- Whether `b` can follow the first octet `a` of a sequence. -/
def isSecond (a b : UInt8) : Bool :=
  -- After 0xE0 and 0xF0 a lower octet would make a form that is too long.
  if a = 0xE0 then 0xA0 ≤ b && b ≤ 0xBF
  -- After 0xED a higher octet would make a surrogate.
  else if a = 0xED then 0x80 ≤ b && b ≤ 0x9F
  else if a = 0xF0 then 0x90 ≤ b && b ≤ 0xBF
  -- After 0xF4 a higher octet would pass the last code point.
  else if a = 0xF4 then 0x80 ≤ b && b ≤ 0x8F
  else isContinuation b

/-- The number of octets of a sequence that starts with `a`, if one can. -/
def length? (a : UInt8) : Option Nat :=
  if a < 0x80 then some 1
  else if 0xC2 ≤ a && a ≤ 0xDF then some 2
  else if 0xE0 ≤ a && a ≤ 0xEF then some 3
  else if 0xF0 ≤ a && a ≤ 0xF4 then some 4
  else none

/-- The payload of an octet that continues a sequence. -/
def payload (b : UInt8) : Nat := b.toNat % 0x40

/-- Reads octets that start at offset `start` of the whole input. -/
def decodeFrom (start : Nat) : List UInt8 → Except DecodeError (List Char)
  | [] => .ok []
  | a :: rest =>
    match length? a with
    | none => .error (.invalid start 1)
    | some 1 => push a.toNat (decodeFrom (start + 1) rest)
    | some 2 =>
      match rest with
      | [] => .error (.incomplete start)
      | b :: rest =>
        if isSecond a b then
          push (a.toNat % 0x20 * 0x40 + payload b) (decodeFrom (start + 2) rest)
        else .error (.invalid start 1)
    | some 3 =>
      match rest with
      | [] => .error (.incomplete start)
      | b :: rest =>
        if isSecond a b then
          match rest with
          | [] => .error (.incomplete start)
          | c :: rest =>
            if isContinuation c then
              push ((a.toNat % 0x10 * 0x40 + payload b) * 0x40 + payload c)
                (decodeFrom (start + 3) rest)
            else .error (.invalid start 2)
        else .error (.invalid start 1)
    | some _ =>
      match rest with
      | [] => .error (.incomplete start)
      | b :: rest =>
        if isSecond a b then
          match rest with
          | [] => .error (.incomplete start)
          | c :: rest =>
            if isContinuation c then
              match rest with
              | [] => .error (.incomplete start)
              | d :: rest =>
                if isContinuation d then
                  push (((a.toNat % 0x8 * 0x40 + payload b) * 0x40 + payload c) * 0x40 + payload d)
                    (decodeFrom (start + 4) rest)
                else .error (.invalid start 3)
            else .error (.invalid start 2)
        else .error (.invalid start 1)
where
  /-- Puts the character with a code point in front of what follows it. -/
  push (code : Nat) (rest : Except DecodeError (List Char)) : Except DecodeError (List Char) :=
    rest.map (Char.ofNat code :: ·)

/-- The text that octets spell. -/
def decode (octets : List UInt8) : Except DecodeError String :=
  (decodeFrom 0 octets).map String.ofList

end TextTemplate.Text.Utf8
