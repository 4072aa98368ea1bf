/-!
Finite double-precision numbers, held exactly.  The magnitudes a double can have are the multiples
`mantissa * 2 ^ scale` of `2 ^ -1074` with `mantissa < 2 ^ 53`; listed in increasing order, a
magnitude is known by its rank in that list.  `rankOfRatio` finds the rank nearest to any ratio of
naturals, a tie going to the even rank; products and quotients of magnitudes are rounded by it, and
`scaledRank` goes on from there to decimals that are computed step by step.
-/

namespace TraceArchive

/-- The number of ranks that share a scale, `2 ^ 52`. -/
abbrev Double.binade : Nat := 4503599627370496

/-- The number of finite magnitudes. -/
abbrev Double.rankCount : Nat := 2047 * Double.binade

/-- A finite double: a sign, and the rank of its magnitude among all finite magnitudes. -/
structure Double where
  negative : Bool
  rank : Nat
  rank_lt : rank < Double.rankCount := by decide
  deriving DecidableEq, Repr

namespace Double

/-- The binary scale of the magnitude of a rank: the lowest two binades share scale zero, and from
there on each has the next one. -/
def scaleOfRank (rank : Nat) : Nat :=
  rank / binade - 1

/-- The magnitude of a rank, in units of `2 ^ -1074`. -/
def unitsOfRank (rank : Nat) : Nat :=
  (rank - scaleOfRank rank * binade) * Nat.pow 2 (scaleOfRank rank)

/-- The quotient rounded to the nearest natural, a half going to the even neighbour. -/
def roundDiv (num den : Nat) : Nat :=
  let q := num / den
  let r := num % den
  if 2 * r < den then q
  else if den < 2 * r then q + 1
  else q + q % 2

/-- The rank of the magnitude nearest to `num / den`; a rank of at least `rankCount` says that
every finite magnitude is too small. -/
def rankOfRatio (num den : Nat) : Nat :=
  let whole := num * Nat.pow 2 1074 / den
  let scale := if whole < 2 * binade then 0 else Nat.log2 whole - 52
  scale * binade + roundDiv (num * Nat.pow 2 1074) (den * Nat.pow 2 scale)

/-- The rank of the product of two magnitudes. -/
def mulRank (a b : Nat) : Nat :=
  rankOfRatio (unitsOfRank a * unitsOfRank b) (Nat.pow 2 2148)

/-- The rank of the quotient of two magnitudes. -/
def divRank (a b : Nat) : Nat :=
  rankOfRatio (unitsOfRank a) (unitsOfRank b)

/-- The rank of a power of ten. -/
def tenRank (exponent : Nat) : Nat :=
  rankOfRatio (Nat.pow 10 exponent) 1

/-- The rank that so many divisions by `10 ^ 308` lead to.  Zero is divided no further. -/
def lowered : Nat → Nat → Nat
  | 0, rank => rank
  | steps + 1, rank => if rank = 0 then 0 else lowered steps (divRank rank (tenRank 308))

/-- The rank of `significand * 10 ^ exponent` with every step rounded: first the significand, then
its product with the power of ten or its quotient by it.  As `10 ^ 308` is the largest of the
powers, a smaller exponent takes several quotients, and a larger one is beyond every finite
magnitude. -/
def scaledRank (significand : Nat) (exponent : Int) : Nat :=
  let rank := rankOfRatio significand 1
  if exponent < 0 then
    let places := (-exponent).toNat
    let steps := (places - 1) / 308
    divRank (lowered steps rank) (tenRank (places - 308 * steps))
  else if exponent ≤ 308 then mulRank rank (tenRank exponent.toNat)
  else if rank = 0 then 0
  else rankCount

/-- The double with the given sign and rank, if that rank is finite. -/
def ofRank? (negative : Bool) (rank : Nat) : Option Double :=
  if h : rank < rankCount then some ⟨negative, rank, h⟩ else none

/-- Zero with a sign. -/
def zero (negative : Bool) : Double :=
  ⟨negative, 0, by decide⟩

/-- Equality of the numbers denoted: the two zeros are one number. -/
def denotesSame (a b : Double) : Bool :=
  a.rank == b.rank && (a.negative == b.negative || a.rank == 0)

end Double

end TraceArchive
