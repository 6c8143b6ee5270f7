import InterfaceDiscovery.Value
import InterfaceDiscovery.Number.Binary
import InterfaceDiscovery.Address.Parser
import InterfaceDiscovery.Text.Blank

namespace InterfaceDiscovery

namespace Value

def asText? : Value → Option String
  | str s => some s
  | _ => none

def flagWord? (s : String) : Option Bool :=
  let w := String.ofList (s.toList.map Char.toLower)
  if s == "0" || ["f", "n", "no", "off", "false"].contains w then some false
  else if s == "1" || ["t", "y", "on", "yes", "true"].contains w then some true
  else none

def asFlag? : Value → Option Bool
  | bool b => some b
  | int 0 => some false
  | int 1 => some true
  | float x => match (Binary.ofFloat? x).bind Binary.toInt? with
    | some 0 => some false
    | some 1 => some true
    | _ => none
  | str s => flagWord? s
  | _ => none

def isWhiteSpace (c : Char) : Bool :=
  Text.isBlank c && !(0x1C ≤ c.toNat && c.toNat ≤ 0x1F)

def underscoredDigits? (cs : List Char) : Option (List Char) :=
  let groups := (String.ofList cs).splitOn "_"
  if groups.all (fun g => !g.isEmpty && g.toList.all Char.isDigit) then some (groups.foldr (·.toList ++ ·) [])
  else none

/-- Digits with single underscores between them, then possibly a point and one or more zeros;
the digits before the point. -/
def decimalBody? (cs : List Char) : Option (List Char) :=
  match cs.splitOn '.' with
  | [whole] => underscoredDigits? whole
  | [whole, zeros] => if !zeros.isEmpty && zeros.all (· == '0') then underscoredDigits? whole else none
  | _ => none

def digitsValue (ds : List Char) : Nat :=
  ds.foldl (fun acc c => acc * 10 + (c.toNat - 48)) 0

def standardWhole? (cs : List Char) : Option Int :=
  let (negative, body) := match cs with
    | '-' :: rest => (true, rest)
    | '+' :: rest => (false, rest)
    | _ => (false, cs)
  (decimalBody? body).map fun ds =>
    if negative then -(digitsValue ds : Int) else digitsValue ds

/-- The text that follows the leading zeros of a text that starts with a zero, underscores among
the zeros skipped: it starts at the first other digit or minus sign, at the last character before
a point, or is the last character when the text holds nothing else. -/
def afterLeadingZeros? : List Char → Option (List Char)
  | '0' :: rest => skip '0' rest
  | _ => none
where
  skip (prev : Char) : List Char → Option (List Char)
    | [] => some [prev]
    | c :: more =>
      if c == '0' || c == '_' then skip c more
      else if c.isDigit || c == '-' then some (c :: more)
      else if c == '.' then some (prev :: c :: more)
      else none

/-- What may follow leading zeros: an optional minus sign and an optional underscore, then a
single zero or a decimal body that starts with a digit other than zero. -/
def afterZerosValue? (cs : List Char) : Option Int :=
  let (negative, cs) := match cs with
    | '-' :: rest => (true, rest)
    | _ => (false, cs)
  let cs := match cs with
    | '_' :: rest => rest
    | _ => cs
  let whole := cs.takeWhile (· != '.')
  let leadOk := whole == ['0'] || (match whole with
    | c :: _ => c.isDigit && c != '0'
    | [] => false)
  if !leadOk then none
  else (decimalBody? cs).map fun ds =>
    if negative then -(digitsValue ds : Int) else digitsValue ds

/-- A whole number written with leading zeros after an optional sign: the zeros, and underscores
among them, are dropped and the rest is read; a minus sign may stand after the zeros unless one
stands before them. -/
def zeroPrefixedWhole? (cs : List Char) : Option Int :=
  let (negative, body) := match cs with
    | '-' :: rest => (true, rest)
    | '+' :: rest => (false, rest)
    | _ => (false, cs)
  match afterLeadingZeros? body with
  | none => none
  | some rest =>
    if negative && rest.head? == some '-' then none
    else (afterZerosValue? rest).map fun v => if negative then -v else v

/-- Whole-number text: trimmed, then read in the standard form or with leading zeros; the number
may have at most 4300 digits, a minus sign counting as one. -/
def wholeText? (s : String) : Option Int :=
  let cs := ((s.toList.dropWhile isWhiteSpace).reverse.dropWhile isWhiteSpace).reverse
  match (standardWhole? cs).orElse fun _ => zeroPrefixedWhole? cs with
  | some n => if (toString n).length ≤ 4300 then some n else none
  | none => none

def asWhole? : Value → Option Int
  | int n => some n
  | bool b => some (if b then 1 else 0)
  | float x => ((Binary.ofFloat? x).bind Binary.toInt?).bind fun n =>
      if n.natAbs < Nat.pow 2 63 then some n else none
  | str s => wholeText? s
  | _ => none

def asAddress? : Value → Option Address
  | str s => Address.parse? s
  | int n => if 0 ≤ n then Address.ofNat? n.toNat else none
  | bool b => Address.ofNat? (if b then 1 else 0)
  | _ => none

end Value

end InterfaceDiscovery
