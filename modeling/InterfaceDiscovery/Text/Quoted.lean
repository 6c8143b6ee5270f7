import InterfaceDiscovery.Text.Printable
import InterfaceDiscovery.Text.Hex

namespace InterfaceDiscovery.Text

def quoteFor (s : String) : Char :=
  if s.contains '\'' && !s.contains '"' then '"' else '\''

/-- The escaped form of one character inside a text enclosed by `q`; with `asciiOnly`, every
character outside ASCII is written by its code. -/
def escapeChar (asciiOnly : Bool) (q c : Char) : List Char :=
  if c = q || c = '\\' then ['\\', c]
  else if c = '\t' then ['\\', 't']
  else if c = '\n' then ['\\', 'n']
  else if c = '\r' then ['\\', 'r']
  else if c.toNat < 0x20 || c.toNat == 0x7F then '\\' :: 'x' :: hexDigits false 2 c.toNat
  else if c.toNat < 0x7F || (!asciiOnly && isPrintable c) then [c]
  else if c.toNat ≤ 0xFF then '\\' :: 'x' :: hexDigits false 2 c.toNat
  else if c.toNat ≤ 0xFFFF then '\\' :: 'u' :: hexDigits false 4 c.toNat
  else '\\' :: 'U' :: hexDigits false 8 c.toNat

def quoteWith (asciiOnly : Bool) (s : String) : String :=
  let q := quoteFor s
  String.ofList (q :: s.toList.flatMap (escapeChar asciiOnly q) ++ [q])

def quote (s : String) : String :=
  quoteWith false s

end InterfaceDiscovery.Text
