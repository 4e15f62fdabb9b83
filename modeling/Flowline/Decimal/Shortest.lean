/-!
# Shortest decimals

The decimal of fewest digits that reads back as a given binary fraction.  A fraction is
`mantissa · 2 ^ exponent`; the reals that round to it form an interval whose ends lie half a step
away and belong to it when the mantissa is even.  For each power of ten, largest first, the two
neighbours of the value on that grid are tested in natural number arithmetic; the first grid with a
hit wins, and of two hits the nearer one, the even one on a tie.
-/

namespace Flowline.Decimal

/-- The fraction `mantissa · 2 ^ exponent`.  Below a `leading` mantissa, the least of its binade, the
next smaller fraction is only half a step away. -/
structure Binary where
  mantissa : Nat
  exponent : Int
  leading : Bool

/-- The least mantissa of 53 bits. -/
def leastNormal : Nat := 0x10000000000000

/-- The magnitude that the bits of a finite double stand for. -/
def Binary.ofBits (bits : Nat) : Binary :=
  let fraction : Nat := bits % leastNormal
  let biased : Nat := bits / leastNormal % 2048
  if biased = 0 then ⟨fraction, -1074, false⟩
  else ⟨leastNormal + fraction, Int.ofNat biased - 1075, fraction = 0 && biased > 1⟩

/-- `digits · 10 ^ exponent`. -/
structure Digits where
  digits : Nat
  exponent : Int

namespace Binary

variable (b : Binary)

/-- The value in quarters of a step. -/
def quarters : Nat := 4 * b.mantissa

/-- The least real that rounds to the value, in quarters of a step. -/
def low : Nat := if b.leading then b.quarters - 1 else b.quarters - 2

/-- The greatest real that rounds to the value, in quarters of a step. -/
def high : Nat := b.quarters + 2

/-- A quarter of a step is `2 ^ twos / 2 ^ halves`. -/
def twos : Nat := (b.exponent - 2).toNat

def halves : Nat := (2 - b.exponent).toNat

/-- A point of the grid of `10 ^ k`, on the common scale of `place`. -/
def gridPoint (k : Int) (d : Nat) : Nat := d * Nat.pow 10 k.toNat * Nat.pow 2 b.halves

/-- A number of quarters, on the common scale of `gridPoint`. -/
def place (k : Int) (quarters : Nat) : Nat := quarters * Nat.pow 2 b.twos * Nat.pow 10 (-k).toNat

/-- Whether a point of the grid of `10 ^ k` reads back as the value. -/
def readsBack (k : Int) (d : Nat) : Bool :=
  let x := b.gridPoint k d
  if b.mantissa % 2 = 0 then b.place k b.low ≤ x && x ≤ b.place k b.high
  else b.place k b.low < x && x < b.place k b.high

/-- The neighbour of the value on the grid of `10 ^ k` that reads back and is nearest. -/
def onGrid (k : Int) : Option Nat :=
  let v := b.place k b.quarters
  let d := v / b.gridPoint k 1
  match b.readsBack k d, b.readsBack k (d + 1) with
  | false, false => none
  | true, false => some d
  | false, true => some (d + 1)
  | true, true =>
    let below := v - b.gridPoint k d
    let above := b.gridPoint k (d + 1) - v
    if below < above || (below = above && d % 2 = 0) then some d else some (d + 1)

/-- The least `j ≤ fuel` for which `n · 10 ^ j` reaches `d`. -/
def tensToReach (d : Nat) : Nat → Nat → Nat
  | 0, _ => 0
  | fuel + 1, n => if d ≤ n then 0 else tensToReach d fuel (10 * n) + 1

/-- The power of ten of the value's first digit. -/
def magnitude : Int :=
  let n := b.quarters * Nat.pow 2 b.twos
  let d := Nat.pow 2 b.halves
  if d ≤ n then ((toString (n / d)).length : Int) - 1
  else - (tensToReach d 400 n : Int)

/-- The first hit among the grids `10 ^ k`, `10 ^ (k - 1)`, … -/
def firstHit : Nat → Int → Digits
  | 0, k => ⟨0, k⟩
  | fuel + 1, k =>
    match b.onGrid k with
    | some d => ⟨d, k⟩
    | none => firstHit fuel (k - 1)

/-- The decimal of fewest digits that reads back as the value, for a positive value. -/
def shortest : Digits := b.firstHit 20 (b.magnitude + 1)

end Binary

/-! ## Layout -/

/-- How a decimal is written.  Let the point stand after `p` digits (before zeros, if `p` is
negative): the notation is positional for `least < p ≤ most`, with at least one digit on either side
of the point, and scientific otherwise. -/
structure Layout where
  least : Int
  most : Int
  /-- Written before an exponent that is not negative. -/
  plus : String
  /-- The exponent mark. -/
  mark : String

/-- `0.00ddd`, `dd.dd`, `ddd00.0`, `d.ddeN` or `deN`. -/
def Layout.render (layout : Layout) (x : Digits) : String :=
  let ds := (toString x.digits).toList
  let point : Int := ds.length + x.exponent
  let text (cs : List Char) := String.ofList cs
  if layout.least < point && point ≤ layout.most then
    if 0 ≤ x.exponent then
      text (ds ++ List.replicate x.exponent.toNat '0') ++ ".0"
    else if 0 < point then
      text (ds.take point.toNat) ++ "." ++ text (ds.drop point.toNat)
    else "0." ++ text (List.replicate (-point).toNat '0' ++ ds)
  else
    let exponent := point - 1
    let sign := if 0 ≤ exponent then layout.plus else ""
    let body := match ds with
      | d :: rest@(_ :: _) => text [d] ++ "." ++ text rest
      | _ => text ds
    body ++ layout.mark ++ sign ++ toString exponent

end Flowline.Decimal
