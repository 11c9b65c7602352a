/-!
# Shortest decimal digits of a double

A finite double is `m · 2^q`; every real strictly between the midpoints to its two
neighbours rounds to it, and so do the midpoints themselves when `m` is even.
-/

namespace JobFlow.Shortest

/-- A finite positive double as an exact fraction: value `v / den`, rounding interval
`[lo / den, hi / den]` (ends included iff `closed`). -/
structure Exact where
  v : Nat
  lo : Nat
  hi : Nat
  den : Nat
  closed : Bool

/-- The exact value and rounding interval of a finite nonzero double given by its
exponent and mantissa fields. -/
def exactOf (expField mantField : Nat) : Exact :=
  let (m, q) : Nat × Int :=
    if expField = 0 then (mantField, -1074) else (mantField + Nat.pow 2 52, (expField : Int) - 1075)
  -- The gap below is half as wide at the bottom of a binade.
  let lowGap := if mantField = 0 ∧ expField > 1 then 1 else 2
  let closed := m % 2 = 0
  if q ≥ 0 then
    let s := Nat.pow 2 q.toNat
    ⟨4 * m * s, (4 * m - lowGap) * s, (4 * m + 2) * s, 4, closed⟩
  else
    ⟨4 * m, 4 * m - lowGap, 4 * m + 2, 4 * Nat.pow 2 (-q).toNat, closed⟩

/-- The largest `t` with `10^t ≤ v / den`, searched from an estimate within a few steps. -/
def decade (x : Exact) : Int :=
  let est : Int := ((Nat.log2 x.v : Int) - (Nat.log2 x.den : Int)) * 30103 / 100000
  -- Below `v/den`: compare `10^t * den ≤ v`, with negative `t` moved to the other side.
  let le (t : Int) : Bool :=
    if t ≥ 0 then Nat.pow 10 t.toNat * x.den ≤ x.v else x.den ≤ x.v * Nat.pow 10 (-t).toNat
  let rec up (t : Int) : Nat → Int
    | 0 => t
    | n + 1 => if le (t + 1) then up (t + 1) n else t
  let rec down (t : Int) : Nat → Int
    | 0 => t
    | n + 1 => if le t then t else down (t - 1) n
  up (down (est + 2) 10) 10

/-- Whether `c · 10^t` lies in the rounding interval. -/
def inside (x : Exact) (c : Nat) (t : Int) : Bool :=
  let (num, scale) : Nat × Nat :=
    if t ≥ 0 then (c * Nat.pow 10 t.toNat * x.den, 1) else (c * x.den, Nat.pow 10 (-t).toNat)
  if x.closed then x.lo * scale ≤ num ∧ num ≤ x.hi * scale
  else x.lo * scale < num ∧ num < x.hi * scale

/-- The candidate on the grid `10^t` nearest to the value that lies in the interval. -/
def onGrid (x : Exact) (t : Int) : Option Nat :=
  -- `c0 = floor (v / (den · 10^t))`, and `r` tells how far past `c0` the value lies.
  let (num, den) : Nat × Nat :=
    if t ≥ 0 then (x.v, x.den * Nat.pow 10 t.toNat) else (x.v * Nat.pow 10 (-t).toNat, x.den)
  let c0 := num / den
  let r := num % den
  let c1 := c0 + 1
  let in0 := inside x c0 t
  let in1 := r ≠ 0 && inside x c1 t
  if in0 && in1 then
    if 2 * r < den then some c0
    else if 2 * r > den then some c1
    else if c0 % 2 = 0 then some c0 else some c1
  else if in0 then some c0
  else if in1 then some c1
  else none

/-- Strips trailing zeros, counting them into the exponent. -/
def trim (c : Nat) (t : Int) : Nat × Int :=
  let rec go (c : Nat) (t : Int) : Nat → Nat × Int
    | 0 => (c, t)
    | n + 1 => if c ≠ 0 ∧ c % 10 = 0 then go (c / 10) (t + 1) n else (c, t)
  go c t 400

/-- The shortest digits `c` and exponent `t` with `c · 10^t` reading back as the value. -/
def digits (x : Exact) : Nat × Int :=
  let d := decade x
  let rec search : Nat → Nat → Nat × Int
    | 0, _ => (x.v / x.den, 0)
    | fuel + 1, k =>
      let t := d - (k : Int) + 1
      match onGrid x t with
      | some c => trim c t
      | none => search fuel (k + 1)
  search 17 1

end JobFlow.Shortest
