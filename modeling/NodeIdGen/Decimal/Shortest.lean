/-!
# The shortest decimal that reads back

A positive binary number `m * 2 ^ q` stands for every real that rounds to it: the interval between
the midpoints to its two neighbours, the ends included if `m` is even. Of the decimals in that
interval, `shortest` takes one with the fewest digits, and among those the nearest to the number.
All arithmetic is exact. A decimal is given by its digits and the place of its last digit.
-/

namespace NodeIdGen.Decimal

/-- Quotient and divisor of a number scaled by a power of two. -/
structure Binary where
  /-- The significand, positive. -/
  significand : Nat
  /-- The exponent of two. -/
  exponent : Int
  /-- The number below is only half as far away as the one above. -/
  narrowBelow : Bool
  deriving DecidableEq, Repr

namespace Binary

/-- The lower end of the interval, the number and the upper end, over one denominator. -/
def scaled (b : Binary) : Nat × Nat × Nat × Nat :=
  let unit := 1 <<< b.exponent.toNat
  let den := 4 <<< (-b.exponent).toNat
  let mid := 4 * b.significand * unit
  let below := (if b.narrowBelow then 1 else 2) * unit
  (mid - below, mid, mid + 2 * unit, den)

/-- The decimals with the last digit at `place` next to the number, below and above, if the interval
holds them; the nearer one of two, and of two equally near the even one. -/
def atPlace (b : Binary) (place : Int) : Option Nat :=
  let (low, mid, high, den) := b.scaled
  -- everything is scaled so that one step of the decimal grid is `step` over `den`
  let up := Nat.pow 10 (-place).toNat
  let low := low * up
  let mid := mid * up
  let high := high * up
  let step := den * Nat.pow 10 place.toNat
  let ends := decide (b.significand % 2 = 0)
  let inside (n : Nat) : Bool :=
    let v := n * step
    if ends then low ≤ v && v ≤ high else low < v && v < high
  let down := mid / step
  let above := down + 1
  match 0 < down && inside down, inside above with
  | true, true =>
    let toDown := mid - down * step
    let toAbove := above * step - mid
    if toDown < toAbove then some down
    else if toAbove < toDown then some above
    else if down % 2 = 0 then some down
    else some above
  | true, false => some down
  | false, true => some above
  | false, false => none

/-- The number of decimal digits before the point, or minus the number of zeros behind it. -/
def magnitude (b : Binary) : Int :=
  let (_, mid, _, den) := b.scaled
  if den ≤ mid then ((Nat.toDigits 10 (mid / den)).length : Int)
  else 1 - ((Nat.toDigits 10 (den / mid)).length : Int)

/-- The first place from the left, of at most `n`, at which the interval holds a decimal. -/
def search (b : Binary) : Nat → Int → Option (Nat × Int)
  | 0, _ => none
  | n + 1, place =>
    match b.atPlace place with
    | some digits => some (digits, place)
    | none => b.search n (place - 1)

/-- The digits of the shortest decimal and the place of the last one. -/
def shortest (b : Binary) : Nat × Int :=
  (b.search 24 (b.magnitude + 1)).getD (0, 0)

end Binary

/-- The sign and the size of a double, unless it is infinite or no number. -/
def ofBits (bits : UInt64) : Bool × Option Binary :=
  let n := bits.toNat
  let negative : Bool := n >>> 63 = 1
  let exponent : Nat := (n >>> 52) % (1 <<< 11)
  let fraction : Nat := n % (1 <<< 52)
  if exponent = 0 then
    (negative, if fraction = 0 then none else some ⟨fraction, -1074, false⟩)
  else
    (negative,
      some ⟨(1 <<< 52) + fraction, (exponent : Int) - 1075, fraction = 0 && 1 < exponent⟩)

/-- How a decimal is laid out. -/
structure Layout where
  /-- The least exponent of the first digit that is written without an exponent. -/
  leastPlain : Int
  /-- The greatest such exponent. -/
  greatestPlain : Int
  /-- The least number of digits of an exponent. -/
  exponentWidth : Nat

/-- Digits without the zeros at their end, and how many were dropped. -/
def dropZeros (cs : List Char) : List Char × Nat :=
  let zeros := (cs.reverse.takeWhile (· = '0')).length
  (cs.take (cs.length - zeros), zeros)

/-- A decimal in positional notation, always with a fraction. -/
def plain (digits : List Char) (place : Int) : List Char :=
  if 0 ≤ place then digits ++ List.replicate place.toNat '0' ++ ['.', '0']
  else
    let fraction := (-place).toNat
    if fraction < digits.length then
      digits.take (digits.length - fraction) ++ '.' :: digits.drop (digits.length - fraction)
    else '0' :: '.' :: (List.replicate (fraction - digits.length) '0' ++ digits)

/-- A decimal with an exponent, the first digit before the point. -/
def scientific (width : Nat) (digits : List Char) (exponent : Int) : List Char :=
  let power := Nat.toDigits 10 exponent.natAbs
  let power := List.replicate (width - power.length) '0' ++ power
  digits.take 1 ++ (if digits.length ≤ 1 then [] else '.' :: digits.drop 1) ++
    'e' :: (if exponent < 0 then '-' else '+') :: power

/-- The shortest decimal of a finite double in the given layout. -/
def Layout.render (l : Layout) (bits : UInt64) : String :=
  let (negative, size) := ofBits bits
  let body :=
    match size with
    | none => ['0', '.', '0']
    | some b =>
      let (n, place) := b.shortest
      let (digits, zeros) := dropZeros (Nat.toDigits 10 n)
      let place := place + zeros
      let exponent := place + digits.length - 1
      if l.leastPlain ≤ exponent ∧ exponent ≤ l.greatestPlain then plain digits place
      else scientific l.exponentWidth digits exponent
  String.ofList (if negative then '-' :: body else body)

end NodeIdGen.Decimal
