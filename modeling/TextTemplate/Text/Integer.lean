/-!
# Integers in text

`Bounds.read` reads an integer in a base of at most 36 and within given bounds. A sign may stand
in front of the digits: `+` always, `-` only where negative numbers are admitted. The digits are
taken from the left and the first fault decides the error, so a number that has already left its
bounds is reported before a later character that is no digit.
-/

namespace TextTemplate.Text

/-- Why a text is no integer within bounds. -/
inductive IntegerError where
  | empty
  | invalidDigit
  | tooLarge
  | tooSmall
deriving DecidableEq, Repr

/-- The wording of the error. -/
def IntegerError.message : IntegerError → String
  | .empty => "cannot parse integer from empty string"
  | .invalidDigit => "invalid digit found in string"
  | .tooLarge => "number too large to fit in target type"
  | .tooSmall => "number too small to fit in target type"

/-- The least and the greatest integer that a reader admits. -/
structure Bounds where
  least : Int
  greatest : Int
  least_nonpos : least ≤ 0 := by decide
  greatest_nonneg : 0 ≤ greatest := by decide
deriving DecidableEq, Repr

namespace Bounds

/-- Signed numbers of 64 bits. -/
def signed64 : Bounds := { least := -9223372036854775808, greatest := 9223372036854775807 }

/-- Unsigned numbers of 64 bits. -/
def unsigned64 : Bounds := { least := 0, greatest := 18446744073709551615 }

/-- Unsigned numbers of 32 bits. -/
def unsigned32 : Bounds := { least := 0, greatest := 4294967295 }

end Bounds

/-- The value of a digit, where letters of either case continue after `9`. -/
def digitValue? (base : Nat) (c : Char) : Option Nat :=
  let value? :=
    if '0' ≤ c ∧ c ≤ '9' then some (c.toNat - '0'.toNat)
    else if 'a' ≤ c ∧ c ≤ 'z' then some (c.toNat - 'a'.toNat + 10)
    else if 'A' ≤ c ∧ c ≤ 'Z' then some (c.toNat - 'A'.toNat + 10)
    else none
  value?.filter (· < base)

/-- Appends digits to a magnitude that may not pass `limit`. -/
def readDigits (base limit : Nat) (overflow : IntegerError) :
    Nat → List Char → Except IntegerError Nat
  | magnitude, [] => .ok magnitude
  | magnitude, c :: cs =>
    match digitValue? base c with
    | none => .error .invalidDigit
    | some digit =>
      if magnitude * base + digit ≤ limit then
        readDigits base limit overflow (magnitude * base + digit) cs
      else
        .error overflow

theorem readDigits_le {base limit n : Nat} {overflow : IntegerError} {cs : List Char}
    {magnitude : Nat} (hm : magnitude ≤ limit)
    (h : readDigits base limit overflow magnitude cs = .ok n) : n ≤ limit := by
  induction cs generalizing magnitude with
  | nil =>
    cases h
    exact hm
  | cons c cs ih =>
    unfold readDigits at h
    split at h
    · cases h
    · split at h
      · rename_i hle
        exact ih hle h
      · cases h

/-- Reads an integer within the bounds. -/
def Bounds.read (bounds : Bounds) (base : Nat) (cs : List Char) : Except IntegerError Int :=
  match cs with
  | [] => .error .empty
  | ['+'] | ['-'] => .error .invalidDigit
  | '+' :: digits => readPositive digits
  | '-' :: digits =>
    if bounds.least < 0 then
      (readDigits base bounds.least.natAbs .tooSmall 0 digits).map fun (n : Nat) => -(n : Int)
    else
      .error .invalidDigit
  | digits => readPositive digits
where
  /-- Reads digits that stand for a number that is not negative. -/
  readPositive (digits : List Char) : Except IntegerError Int :=
    (readDigits base bounds.greatest.natAbs .tooLarge 0 digits).map Int.ofNat

/-- What has been mapped is a result if it was one before. -/
theorem exists_of_map_eq_ok {ε α β : Type} {f : α → β} {x : Except ε α} {b : β}
    (h : x.map f = .ok b) : ∃ a, x = .ok a ∧ f a = b := by
  cases x with
  | error e => cases h
  | ok a =>
    cases h
    exact ⟨a, rfl, rfl⟩

end TextTemplate.Text
