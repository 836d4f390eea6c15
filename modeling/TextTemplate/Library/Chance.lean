import TextTemplate.Library.Arithmetic

/-!
# Chance

Random numbers, texts and identifiers. All draws are uniform.
-/

namespace TextTemplate.Library

/-- An answer that leaves the generator in another state. -/
def drawn (call : Call) (entropy : Entropy) (result : String) : Reply Unit :=
  { result := .ok result, state := (), shared := call.shared, entropy }

/-- A random integer between two bounds, which can be drawn themselves. -/
def random : Routine where
  signature := .ofParameters "__Random"
    [.required "min" "Smallest value that may be returned",
      .required "max" "Largest value that may be returned"]
  State := Unit
  initial := ()
  run call _ :=
    match integerArgument "__Random" 0 (call.argument 0) with
    | .error e => call.reply () (.error e)
    | .ok min =>
      match integerArgument "__Random" 1 (call.argument 1) with
      | .error e => call.reply () (.error e)
      | .ok max =>
        if max < min then
          let reason := "max " ++ toString max ++ " is smaller than min " ++ toString min
          call.reply () (.error (.invalidArgument "__Random" 1 reason))
        else
          let (n, entropy) := call.entropy.below (max - min + 1).toNat
          drawn call entropy (toString (min + n))

/-- The ASCII letters and digits. -/
def alphanumerics : List Char :=
  "ABCDEFGHIJKLMNOPQRSTUVWXYZabcdefghijklmnopqrstuvwxyz0123456789".toList

/-- A random text over a list of characters, which may hold one of them repeatedly. -/
def randomString : Routine where
  signature := .ofParameters "__RandomString"
    [.required "length" "Number of characters to generate",
      .omissible "characters" "Characters to choose from"]
  State := Unit
  initial := ()
  run call _ :=
    match integerArgument "__RandomString" 0 (call.argument 0) with
    | .error e => call.reply () (.error e)
    | .ok length =>
      if length < 0 then
        call.reply ()
          (.error (.invalidArgument "__RandomString" 0 "length must not be negative"))
      else
        let chosen := (call.argument 1).toList
        let alphabet := if chosen.isEmpty then alphanumerics else chosen
        let (indices, entropy) := call.entropy.draws alphabet.length length.toNat
        drawn call entropy (String.ofList (indices.filterMap (alphabet[·]?)))

/-- A random identifier made of 32 digits of base 16, in five groups. Its version is 4, whatever the
digit in that place is, and the digit that marks its variant is one of `8`, `9`, `a` and `b`. -/
def uuidOfDigits (digits : List Nat) : List Char :=
  let group := fun (first count : Nat) => ((digits.drop first).take count).map Nat.digitChar
  let variant := (digits[16]?).getD 0 % 4
  group 0 8 ++ '-' :: group 8 4 ++ '-' :: '4' :: group 13 3 ++
    '-' :: Nat.digitChar (8 + variant) :: group 17 3 ++ '-' :: group 20 12

/-- A random identifier. -/
def uuid : Routine where
  signature := .nullary "__UUID"
  State := Unit
  initial := ()
  run call _ :=
    let (digits, entropy) := call.entropy.draws 16 32
    drawn call entropy (String.ofList (uuidOfDigits digits))

end TextTemplate.Library
