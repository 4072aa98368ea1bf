import TraceArchive.Number.Double
/-!
Decimal numbers `coefficient * 10 ^ exponent`, the double nearest to one, and the shortest decimal
to which a given double is the nearest.

`shortestOfRank` tries one, two, … seventeen digits.  On each grid it looks at the two neighbours of
the value and takes the nearer of those whose nearest double it is, on a tie the even one; the exact
expansion, to which it always is, stands behind them.  `text` writes the digits plainly between
`1e-5` and `1e16`, always with a point, and with an exponent elsewhere.
-/

namespace TraceArchive

/-- The decimal `coefficient * 10 ^ exponent`. -/
structure Decimal where
  coefficient : Nat
  exponent : Int
  deriving DecidableEq, Repr

namespace Decimal

/-- The number of decimal digits of a natural; zero has one. -/
def width (n : Nat) : Nat :=
  (Nat.toDigits 10 n).length

/-- The rank of the double magnitude nearest to a decimal.  A decimal of `10 ^ 310` or more is
beyond every rank and one below `10 ^ -400` is nearest to zero, so the powers that remain to be
computed are small. -/
def rank (d : Decimal) : Nat :=
  if d.coefficient = 0 then 0
  else if 310 < d.exponent + width d.coefficient then Double.rankCount
  else if d.exponent + width d.coefficient < -400 then 0
  else if 0 ≤ d.exponent then Double.rankOfRatio (d.coefficient * Nat.pow 10 d.exponent.toNat) 1
  else Double.rankOfRatio d.coefficient (Nat.pow 10 (-d.exponent).toNat)

/-- The magnitude `units * 2 ^ -1074` in full. -/
def ofUnits (units : Nat) : Decimal :=
  ⟨units * Nat.pow 5 1074, -1074⟩

/-- The place of the first digit of `units * 2 ^ -1074`: the `k` with `10 ^ k ≤ value`
and `value < 10 ^ (k + 1)`. -/
def leadingPlace (units : Nat) : Int :=
  (width (units * Nat.pow 10 400 / Nat.pow 2 1074) : Int) - 401

/-- The value `units * 2 ^ -1074` divided by `10 ^ exponent`, as a numerator and a denominator. -/
def scaled (units : Nat) (exponent : Int) : Nat × Nat :=
  if 0 ≤ exponent then (units, Nat.pow 2 1074 * Nat.pow 10 exponent.toNat)
  else (units * Nat.pow 10 (-exponent).toNat, Nat.pow 2 1074)

/-- The two decimals of an exponent next to `num / den` in units of it, the nearer one first; where
both are equally near the even one is first. -/
def neighbours (num den : Nat) (exponent : Int) : List Decimal :=
  let low : Decimal := ⟨num / den, exponent⟩
  let high : Decimal := ⟨num / den + 1, exponent⟩
  if low.coefficient = Double.roundDiv num den then [low, high] else [high, low]

/-- The decimal of `digits` digits whose nearest magnitude has the given rank, if the neighbours of
the value on that grid hold one. -/
def onGrid? (rank digits : Nat) : Option Decimal :=
  let units := Double.unitsOfRank rank
  let exponent := leadingPlace units - digits + 1
  let ratio := scaled units exponent
  (neighbours ratio.1 ratio.2 exponent).find? (fun c => c.rank == rank)

/-- The shortest decimal whose nearest double magnitude has the given rank. -/
def shortestOfRank (rank : Nat) : Decimal :=
  ((List.range 17).findSome? (fun n => onGrid? rank (n + 1))).getD
    (ofUnits (Double.unitsOfRank rank))

/-- The decimal without trailing zeros in its coefficient, whose digits `fuel` bounds. -/
def trimmed : Nat → Decimal → Decimal
  | 0, d => d
  | fuel + 1, d =>
    if d.coefficient ≠ 0 ∧ d.coefficient % 10 = 0 then
      trimmed fuel ⟨d.coefficient / 10, d.exponent + 1⟩
    else d

/-- The coefficient's digits and the position of the point, counted from before the first digit. -/
def text (d : Decimal) : List Char :=
  let t := trimmed (width d.coefficient) d
  let digits := Nat.toDigits 10 t.coefficient
  let point := t.exponent + digits.length
  if 0 < point ∧ point ≤ 16 then
    if 0 ≤ t.exponent then digits ++ List.replicate t.exponent.toNat '0' ++ ['.', '0']
    else digits.take point.toNat ++ '.' :: digits.drop point.toNat
  else if -5 < point ∧ point ≤ 0 then
    '0' :: '.' :: (List.replicate (-point).toNat '0' ++ digits)
  else
    let sign := if 0 < point then '+' else '-'
    let mark := 'e' :: sign :: Nat.toDigits 10 (point - 1).natAbs
    match digits with
    | [d] => d :: mark
    | d :: rest => d :: '.' :: (rest ++ mark)
    | [] => mark

end Decimal

/-- The written form of a double: the shortest digits to which it is the nearest. -/
def Double.text (d : Double) : List Char :=
  let digits := if d.rank = 0 then ['0', '.', '0'] else (Decimal.shortestOfRank d.rank).text
  if d.negative then '-' :: digits else digits

end TraceArchive
