
namespace InterfaceDiscovery

structure Binary where
  negative : Bool
  significand : Nat
  exponent : Int
  deriving DecidableEq

namespace Binary

def ofFloat? (x : Float) : Option Binary :=
  let bits := x.toBits.toNat
  let negative := bits / Nat.pow 2 63 % 2 == 1
  let biased : Nat := bits / Nat.pow 2 52 % 2048
  let fraction : Nat := bits % Nat.pow 2 52
  if biased == 2047 then none
  else if biased == 0 then some ⟨negative, fraction, -1074⟩
  else some ⟨negative, fraction + Nat.pow 2 52, (biased : Int) - 1075⟩

def toInt? (b : Binary) : Option Int :=
  let magnitude : Option Nat :=
    if 0 ≤ b.exponent then some (b.significand * Nat.pow 2 b.exponent.toNat)
    else
      let d := Nat.pow 2 (-b.exponent).toNat
      if b.significand % d == 0 then some (b.significand / d) else none
  magnitude.map fun m => if b.negative then -(m : Int) else m

-- The integer part of a value, cut toward zero.
def truncated (b : Binary) : Int :=
  let magnitude : Nat :=
    if 0 ≤ b.exponent then b.significand * Nat.pow 2 b.exponent.toNat
    else b.significand / Nat.pow 2 (-b.exponent).toNat
  if b.negative then -(magnitude : Int) else magnitude

end Binary

end InterfaceDiscovery
