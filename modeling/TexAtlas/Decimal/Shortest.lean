/-
The shortest decimal text of a floating-point number: the fewest digits that read
back as the same number, of those the nearest to it, and of two equally near the even
one. Digits are chosen by exact arithmetic on natural numbers; how they are laid out is
decided by the function that writes them.
-/

namespace TexAtlas.Decimal

/-- A positive number `significand * 2 ^ exponent` and whether the next smaller number
of its format is only half as far away as the next larger one. -/
structure Binary where
  significand : Nat
  exponent : Int
  closeBelow : Bool

/-- The parts of a finite positive double from its bits without the sign. -/
def Binary.ofBits (bits : Nat) : Binary :=
  let fraction : Nat := bits % Nat.pow 2 52
  let power : Nat := bits / Nat.pow 2 52 % Nat.pow 2 11
  if power = 0 then ⟨fraction, -1074, false⟩
  else ⟨fraction + Nat.pow 2 52, (power : Int) - 1075, fraction == 0 && decide (1 < power)⟩

/-- A ratio of natural numbers equal to `value * 2 ^ two * 10 ^ ten`. -/
def scaled (value : Nat) (two ten : Int) : Nat × Nat :=
  (value * Nat.pow 2 two.toNat * Nat.pow 10 ten.toNat,
    Nat.pow 2 (-two).toNat * Nat.pow 10 (-ten).toNat)

/-- Whether `digits * 10 ^ ten` reads back as the number: it lies between the middles
to the two neighbours, and on a middle only where the significand is even. -/
def readsBack (number : Binary) (digits : Nat) (ten : Int) : Bool :=
  let two := number.exponent - 2
  let (value, one) := scaled digits 0 ten
  let (high, highOne) := scaled (4 * number.significand + 2) two 0
  let (low, lowOne) := scaled
    (4 * number.significand - (if number.closeBelow then 1 else 2)) two 0
  let even := number.significand % 2 == 0
  if even then low * one ≤ value * lowOne && value * highOne ≤ high * one
  else low * one < value * lowOne && value * highOne < high * one

/-- Whether the grid point after `lower * 10 ^ ten` is nearer to the number than that one
is. Where both are equally near, the even one counts as nearer. -/
def nextIsNearer (number : Binary) (lower : Nat) (ten : Int) : Bool :=
  let (middle, one) := scaled (2 * lower + 1) 0 ten
  let (twice, exact) := scaled (2 * number.significand) number.exponent 0
  middle * exact < twice * one || (middle * exact == twice * one && lower % 2 == 1)

/-- The digits of the number on the grid of multiples of `10 ^ ten`, if one of the two
grid points beside it reads back. -/
def digitsOnGrid (number : Binary) (ten : Int) : Option Nat :=
  let (top, bottom) := scaled number.significand number.exponent (-ten)
  let lower := top / bottom
  let upper := lower + 1
  match readsBack number lower ten && decide (0 < lower), readsBack number upper ten with
  | true, true => some (if nextIsNearer number lower ten then upper else lower)
  | true, false => some lower
  | false, true => some upper
  | false, false => none

/-- The first of `count` grids, from coarse to fine, on which the number has digits. -/
def firstGrid (number : Binary) : Nat → Int → Nat × Int
  | 0, ten => (number.significand, ten)
  | count + 1, ten =>
    match digitsOnGrid number ten with
    | some digits => (digits, ten)
    | none => firstGrid number count (ten - 1)

/-- Digits without zeros at the end; the exponent grows for every zero left out. -/
def dropZeros : Nat → Nat → Int → Nat × Int
  | 0, digits, ten => (digits, ten)
  | count + 1, digits, ten =>
    if digits % 10 = 0 && 0 < digits then dropZeros count (digits / 10) (ten + 1)
    else (digits, ten)

/-- The shortest digits of a positive number and the exponent of their last place.
Doubles lie between `10 ^ (-324)` and `10 ^ 309`, and seventeen digits always suffice;
searching from the coarsest grid of all costs little and needs no logarithm. -/
def shortest (number : Binary) : Nat × Int :=
  let (digits, ten) := firstGrid number 640 309
  dropZeros 400 digits ten

/-- A positive number in decimal: positional between a hundred-thousandth and ten
million billions, else with an exponent, and always with a fraction or an exponent. -/
def layOut (digits : Nat) (ten : Int) : String :=
  let written := (toString digits).toList
  let point := (written.length : Int) + ten
  let place := point - 1
  if 0 ≤ ten && point ≤ 16 then
    String.ofList (written ++ List.replicate ten.toNat '0') ++ ".0"
  else if 0 < point && point ≤ 16 then
    String.ofList (written.take point.toNat) ++ "." ++ String.ofList (written.drop point.toNat)
  else if -5 < point && point ≤ 0 then
    "0." ++ String.ofList (List.replicate (-point).toNat '0' ++ written)
  else
    let fraction := match written with
      | first :: second :: rest => String.ofList (first :: '.' :: second :: rest)
      | _ => String.ofList written
    let sign := if place < 0 then "e-" else "e+"
    fraction ++ sign ++ toString place.natAbs

/-- The decimal text of a finite double. -/
def text (number : Float) : String :=
  let bits := number.toBits.toNat
  let sign := if bits / Nat.pow 2 63 = 1 then "-" else ""
  let magnitude := bits % Nat.pow 2 63
  if magnitude = 0 then sign ++ "0.0"
  else
    let (digits, ten) := shortest (Binary.ofBits magnitude)
    sign ++ layOut digits ten

end TexAtlas.Decimal
