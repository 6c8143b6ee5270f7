import InterfaceDiscovery.Number.Binary

namespace InterfaceDiscovery

namespace Binary

abbrev Ratio := Nat × Nat

def Ratio.le (a b : Ratio) : Bool :=
  a.1 * b.2 ≤ b.1 * a.2

def ratioPow2 (n : Nat) (k : Int) : Ratio :=
  if 0 ≤ k then (n * Nat.pow 2 k.toNat, 1) else (n, Nat.pow 2 (-k).toNat)

def ratioPow10 (n : Nat) (k : Int) : Ratio :=
  if 0 ≤ k then (n * Nat.pow 10 k.toNat, 1) else (n, Nat.pow 10 (-k).toNat)

/-- The position of the leading decimal digit: the `k` with `10^k ≤ x < 10^(k+1)`, found from an
estimate by a few exact corrections. -/
def leadingPower (x : Ratio) : Int :=
  let estimate : Int := Int.fdiv (((Nat.log2 x.1 : Int) - Nat.log2 x.2) * 30103) 100000
  let down := fun (k : Int) => if Ratio.le (ratioPow10 1 k) x then k else k - 1
  let up := fun (k : Int) => if Ratio.le (ratioPow10 1 (k + 1)) x then k + 1 else k
  up (up (down (down estimate)))

/-- The shortest digits and the power of ten of their last digit, for a positive value
`m · 2^e`. -/
def shortest (m : Nat) (e : Int) : Nat × Int :=
  let x := ratioPow2 (4 * m) (e - 2)
  let lowGap := if m == Nat.pow 2 52 && -1074 < e then 1 else 2
  let low := ratioPow2 (4 * m - lowGap) (e - 2)
  let high := ratioPow2 (4 * m + 2) (e - 2)
  let closed := m % 2 == 0
  let inside := fun (c : Ratio) =>
    if closed then Ratio.le low c && Ratio.le c high
    else !Ratio.le c low && !Ratio.le high c
  let top := leadingPower x
  let attempt := fun (n : Nat) =>
    let p := top - n + 1
    let unit := ratioPow10 1 p
    let below := (x.1 * unit.2) / (x.2 * unit.1)
    let lo := ratioPow10 below p
    let hi := ratioPow10 (below + 1) p
    match inside lo, inside hi with
    | true, true =>
      -- distances: x - lo against hi - x, as ratios over a common denominator
      let dLo := x.1 * lo.2 - lo.1 * x.2
      let dHi := hi.1 * x.2 - x.1 * hi.2
      if dLo < dHi || (dLo == dHi && below % 2 == 0) then some (below, p) else some (below + 1, p)
    | true, false => some (below, p)
    | false, true => some (below + 1, p)
    | false, false => none
  let found := (List.range 17).findSome? fun i => attempt (i + 1)
  let (d, p) := found.getD (0, 0)
  -- a grid point one past the last digit count carries trailing zeros
  let rec strip : Nat → Nat → Int → Nat × Int
    | 0, d, p => (d, p)
    | fuel + 1, d, p => if d != 0 && d % 10 == 0 then strip fuel (d / 10) (p + 1) else (d, p)
  strip 20 d p

end Binary

end InterfaceDiscovery
