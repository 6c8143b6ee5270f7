import InterfaceDiscovery.Number.Integer

namespace InterfaceDiscovery

namespace Numeral

def dropUnderscores? : Char → List Char → Option (List Char)
  | _, [] => some []
  | prev, '_' :: rest =>
    match rest with
    | c :: _ => if prev.isDigit && c.isDigit then dropUnderscores? '_' rest else none
    | [] => none
  | _, c :: rest => (dropUnderscores? c rest).map (c :: ·)

def exponentPart? : List Char → Option Int
  | [] => some 0
  | c :: rest =>
    if c == 'e' || c == 'E' then
      let (negative, ds) := splitSign rest
      if !ds.isEmpty && ds.all Char.isDigit then
        let n := digitsValue ds
        some (if negative then -(n : Int) else n)
      else none
    else none

def decimalPart? (cs : List Char) : Option (Nat × Int) :=
  let whole := cs.takeWhile Char.isDigit
  let rest := cs.dropWhile Char.isDigit
  let (fraction, afterFraction) := match rest with
    | '.' :: more => (more.takeWhile Char.isDigit, more.dropWhile Char.isDigit)
    | _ => ([], rest)
  if whole.isEmpty && fraction.isEmpty then none
  else (exponentPart? afterFraction).map fun e =>
    (digitsValue (whole ++ fraction), e - fraction.length)

/-- The double nearest to `digits · 10^exponent`, without computing powers that cannot matter:
beyond 10^310 every such value is infinite, and below 10^-330 it is zero. -/
def scaled (digits : Nat) (exponent : Int) : Float :=
  let size := (toString digits).length
  if digits == 0 then 0
  else if 310 < exponent + size then Float.ofScientific 1 false 400
  else if exponent + size < -330 then 0
  else if 0 ≤ exponent then Float.ofScientific digits false exponent.toNat
  else Float.ofScientific digits true (-exponent).toNat

def readReal? (s : String) : Option Float := do
  let cs ← dropUnderscores? ' ' (toAscii s.toList)
  let (negative, body) := splitSign (trimAscii cs)
  let word := String.ofList (body.map Char.toLower)
  let magnitude ←
    if word == "inf" || word == "infinity" then some (Float.ofScientific 1 false 400)
    else if word == "nan" then some (0 / 0)
    else (decimalPart? body).map fun (d, e) => scaled d e
  some (if negative then -magnitude else magnitude)

end Numeral

end InterfaceDiscovery
