
namespace InterfaceDiscovery.Text

def hexDigit (capital : Bool) (n : Nat) : Char :=
  if n < 10 then Char.ofNat (48 + n)
  else Char.ofNat ((if capital then 55 else 87) + n)

def hexDigits (capital : Bool) : Nat → Nat → List Char
  | 0, _ => []
  | width + 1, n => hexDigits capital width (n / 16) ++ [hexDigit capital (n % 16)]

def hexNumeral (capital : Bool) (n : Nat) : List Char :=
  if n < 16 then [hexDigit capital n] else hexNumeral capital (n / 16) ++ [hexDigit capital (n % 16)]
decreasing_by omega

theorem length_hexDigits (capital : Bool) (width n : Nat) :
    (hexDigits capital width n).length = width := by
  induction width generalizing n with
  | zero => rfl
  | succ w ih => simp [hexDigits, ih]

end InterfaceDiscovery.Text
