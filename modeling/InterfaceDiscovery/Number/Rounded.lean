import InterfaceDiscovery.Number.Shortest

namespace InterfaceDiscovery

namespace Binary

-- `x · 10^k` rounded to an integer, a tie going to the even one.
def roundScaled (x : Ratio) (k : Int) : Nat :=
  let y := ratioPow10 x.1 k
  let d := y.2 * x.2
  let q := y.1 / d
  let r := y.1 % d
  if 2 * r > d || (2 * r == d && q % 2 == 1) then q + 1 else q

-- The first `count` significant digits of `x`, rounded, as a number of `count` digits, and the
-- power of ten of the first of them; zero has `count` zeros at power 0.
def significant (x : Ratio) (count : Nat) : Nat × Int :=
  if x.1 = 0 then (0, 0)
  else
    let e := leadingPower x
    let n := roundScaled x ((count : Int) - 1 - e)
    -- rounding up to a power of ten moves the first digit one place
    if n = Nat.pow 10 count then (Nat.pow 10 (count - 1), e + 1) else (n, e)

-- The decimal digits of `n`, with zeros in front up to `width`.
def digitsIn (width n : Nat) : List Char :=
  let ds := (toString n).toList
  List.replicate (width - ds.length) '0' ++ ds

-- `x` with `places` decimals: rounded, and the point before the last `places` digits.
def fixedText (x : Ratio) (places : Nat) : String :=
  let ds := digitsIn (places + 1) (roundScaled x places)
  let whole := ds.take (ds.length - places)
  let fraction := ds.drop (ds.length - places)
  String.ofList (if places = 0 then whole else whole ++ '.' :: fraction)

-- The double nearest to a natural number, a tie going to the even significand, as the number it
-- equals; none when that is too large for a double.
def nearestDouble? (m : Nat) : Option Nat :=
  let unit := Nat.pow 2 (Nat.log2 m + 1 - 53)
  let q := m / unit
  let r := m % unit
  let q := if 2 * r > unit || (2 * r == unit && q % 2 == 1) then q + 1 else q
  if q * unit < Nat.pow 2 1024 then some (q * unit) else none

end Binary

end InterfaceDiscovery
