import InterfaceDiscovery.Text.Blank
import InterfaceDiscovery.Text.Digit

namespace InterfaceDiscovery

namespace Numeral

def maxDigits : Nat := 4300

-- Whether an integer can be written in decimal: it has at most `maxDigits` digits.
def writable (n : Int) : Bool :=
  (toString n.natAbs).length ≤ maxDigits

/-- The ASCII form of a numeral text: ASCII characters stay, other blanks become spaces, decimal
digits become ASCII digits, and any other character ends the text as a `?`. -/
def toAscii : List Char → List Char
  | [] => []
  | c :: cs =>
    if c.toNat < 127 then c :: toAscii cs
    else if Text.isBlank c then ' ' :: toAscii cs
    else match Text.digitValue? c with
      | some d => Char.ofNat (48 + d) :: toAscii cs
      | none => ['?']

def isAsciiSpace (c : Char) : Bool :=
  c == ' ' || (9 ≤ c.toNat && c.toNat ≤ 13)

def trimAscii (cs : List Char) : List Char :=
  ((cs.dropWhile isAsciiSpace).reverse.dropWhile isAsciiSpace).reverse

def splitSign : List Char → Bool × List Char
  | '-' :: rest => (true, rest)
  | '+' :: rest => (false, rest)
  | cs => (false, cs)

def wellSeparated (cs : List Char) : Bool :=
  (String.ofList cs).splitOn "_" |>.all fun g => !g.isEmpty && g.toList.all Char.isDigit

def digitsValue (cs : List Char) : Nat :=
  cs.foldl (fun acc c => acc * 10 + (c.toNat - 48)) 0

def readInteger? (s : String) : Option Int :=
  let (negative, body) := splitSign (trimAscii (toAscii s.toList))
  if wellSeparated body then
    let digits := body.filter Char.isDigit
    if maxDigits < digits.length then none
    else
      let n := digitsValue digits
      some (if negative then -(n : Int) else n)
  else none

end Numeral

end InterfaceDiscovery
