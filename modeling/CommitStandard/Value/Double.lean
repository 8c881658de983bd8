import CommitStandard.Text.Literal

/-!
# Binary floating-point numbers

A finite number of the 64-bit format is a mantissa of at most 53 bits times a power of two; the
mantissa uses all 53 bits unless the exponent is the least one, so that each number has one
form. `ofDecimal` rounds a decimal numeral to the nearest number, a tie going to the even
mantissa. `shortest` finds the fewest digits that read back as the number, and among those the
nearest; `render` writes them.
-/
namespace CommitStandard

/-- A number of the 64-bit binary format. -/
inductive Double where
  /-- The number `± mantissa * 2 ^ exponent`. -/
  | finite (negative : Bool) (mantissa : Nat) (exponent : Int)
  | infinite (negative : Bool)
  | nan
deriving DecidableEq, Repr, Inhabited

namespace Double

def leastExponent : Int := -1074

/-- The quotient rounded to the nearest whole number, a half to the even one. -/
def roundDiv (n d : Nat) : Nat :=
  if 2 * (n % d) < d then n / d
  else if d < 2 * (n % d) then n / d + 1
  else n / d + n / d % 2

/-- The fraction `n / d * 2 ^ (-e)` as numerator and denominator. -/
def scaleDown (n d : Nat) (e : Int) : Nat × Nat :=
  (n * Nat.pow 2 (-e).toNat, d * Nat.pow 2 e.toNat)

/-- The number nearest to a positive fraction, or zero for the numerator zero. -/
def ofRatio (negative : Bool) (n d : Nat) : Double :=
  if n = 0 then .finite negative 0 leastExponent
  else
    let guess : Int := (n.log2 : Int) - d.log2
    let (a, b) := scaleDown n d guess
    let magnitude := if b ≤ a then guess else guess - 1
    let e := max (magnitude - 52) leastExponent
    let (a, b) := scaleDown n d e
    let m := roundDiv a b
    let (m, e) := if m = Nat.pow 2 53 then (Nat.pow 2 52, e + 1) else (m, e)
    if 971 < e then .infinite negative else .finite negative m e

/-- The number nearest to the decimal `± digits * 10 ^ exponent`. -/
def ofDecimal (negative : Bool) (digits : Nat) (exponent : Int) : Double :=
  let top := exponent + (Nat.toDigits 10 digits).length
  if digits = 0 ∨ top < -330 then .finite negative 0 leastExponent
  else if 310 < top then .infinite negative
  else ofRatio negative (digits * Nat.pow 10 exponent.toNat) (Nat.pow 10 (-exponent).toNat)

/-- The whole number that a number is, if it is one. -/
def toInt? : Double → Option Int
  | .finite negative m e =>
    if m % Nat.pow 2 (-e).toNat = 0 then
      let n : Int := (m / Nat.pow 2 (-e).toNat * Nat.pow 2 e.toNat : Nat)
      some (if negative then -n else n)
    else none
  | _ => none

/-- Zero of either sign. -/
def isZero : Double → Bool
  | .finite _ 0 _ => true
  | _ => false

/-- The number of digits before the decimal point of `n / d`, negative for zeros after it: the
least `p` from `guess` on with `n / d < 10 ^ p`. -/
def pointFrom (n d : Nat) : Nat → Int → Int
  | 0, guess => guess
  | fuel + 1, guess =>
    if n * Nat.pow 10 (-guess).toNat < d * Nat.pow 10 guess.toNat then guess
    else pointFrom n d fuel (guess + 1)

/-- Whether a decimal point on the grid reads back: the fraction `t / w` lies between two bounds,
which belong to the interval if `closed`. -/
def within (closed : Bool) (low high t : Nat) : Bool :=
  if closed then low ≤ t && t ≤ high else low < t && t < high

/-- The nearest point of the decimal grid `10 ^ scale` that reads back as the number with the
given mantissa and exponent, if there is one. -/
def gridPoint? (m : Nat) (e : Int) (scale : Int) : Option Nat :=
  let unit := Nat.pow 10 scale.toNat * Nat.pow 2 (2 - e).toNat
  let factor := Nat.pow 10 (-scale).toNat * Nat.pow 2 (e - 2).toNat
  let value := 4 * m * factor
  let below := if m = Nat.pow 2 52 ∧ leastExponent < e then 1 else 2
  let low := (4 * m - below) * factor
  let high := (4 * m + 2) * factor
  let closed := m % 2 = 0
  let t := value / unit
  let down := within closed low high (t * unit)
  let up := within closed low high ((t + 1) * unit)
  if down && up then
    let r := value % unit
    some (if 2 * r < unit ∨ (2 * r = unit ∧ t % 2 = 0) then t else t + 1)
  else if down then some t
  else if up then some (t + 1)
  else none

/-- Tries grids of more and more digits. -/
def shortestFrom (m : Nat) (e point : Int) : Nat → Int → Nat × Int
  | 0, digits => ((gridPoint? m e (point - digits)).getD 0, point - digits)
  | fuel + 1, digits =>
    match gridPoint? m e (point - digits) with
    | some t => (t, point - digits)
    | none => shortestFrom m e point fuel (digits + 1)

/-- The decimal `t * 10 ^ scale` of fewest digits that reads back as `m * 2 ^ e`, as `t` and
`scale`. Seventeen digits always suffice. -/
def shortest (m : Nat) (e : Int) : Nat × Int :=
  let n := m * Nat.pow 2 e.toNat
  let d := Nat.pow 2 (-e).toNat
  let guess := ((n.log2 : Int) - d.log2 - 1) * 1233 / 4096 - 1
  shortestFrom m e (pointFrom n d 8 guess) 16 1

/-- An exponent with its sign and at least two digits. -/
def renderExponent (n : Int) : Text :=
  let digits := Text.ofNat n.natAbs
  (if n < 0 then ['-'] else ['+']) ++ List.replicate (2 - digits.length) '0' ++ digits

/-- Writes the digits with the point after the first `point` of them: with all places from
`1e-4` up to below `1e16`, and with an exponent beyond. -/
def place (digits : Text) (point : Int) : Text :=
  if -4 < point ∧ point ≤ 16 then
    if point ≤ 0 then '0' :: '.' :: (List.replicate (-point).toNat '0' ++ digits)
    else if digits.length ≤ point then
      digits ++ List.replicate (point.toNat - digits.length) '0' ++ ['.', '0']
    else digits.take point.toNat ++ '.' :: digits.drop point.toNat
  else
    let fraction := digits.drop 1
    digits.take 1 ++ (if fraction.isEmpty then [] else '.' :: fraction) ++
      'e' :: renderExponent (point - 1)

/-- The shortest decimal numeral that reads back as the number. It always shows that it is no
whole number: by a point, an exponent or a name. -/
def render : Double → Text
  | .nan => "nan".toList
  | .infinite negative => (if negative then ['-'] else []) ++ "inf".toList
  | .finite negative m e =>
    let sign := if negative then ['-'] else []
    if m = 0 then sign ++ "0.0".toList
    else
      let (t, scale) := shortest m e
      let all := Text.ofNat t
      sign ++ place (Text.dropEnd (· = '0') all) (scale + all.length)

end Double

end CommitStandard
