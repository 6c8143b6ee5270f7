import InterfaceDiscovery.Address.Basic
import InterfaceDiscovery.Text.Hex
import InterfaceDiscovery.Text.Quoted

namespace InterfaceDiscovery

namespace Address

def digitsValue (base : Nat) (digit : Char → Nat) (cs : List Char) : Nat :=
  cs.foldl (fun acc c => acc * base + digit c) 0

def parseOctet? (s : String) : Option Nat :=
  let cs := s.toList
  if cs.isEmpty || !cs.all Char.isDigit || 3 < cs.length || (1 < cs.length && cs.head? == some '0')
  then none
  else
    let n := digitsValue 10 (fun c => c.toNat - 48) cs
    if n ≤ 255 then some n else none

def parseV4? (s : String) : Option (Fin (Nat.pow 2 32)) :=
  match s.splitOn "." with
  | [a, b, c, d] => do
    let a ← parseOctet? a
    let b ← parseOctet? b
    let c ← parseOctet? c
    let d ← parseOctet? d
    let n := ((a * 256 + b) * 256 + c) * 256 + d
    if h : n < Nat.pow 2 32 then some ⟨n, h⟩ else none
  | _ => none

def isHexDigit (c : Char) : Bool :=
  c.isDigit || ('a' ≤ c && c ≤ 'f') || ('A' ≤ c && c ≤ 'F')

def hexValue (c : Char) : Nat :=
  if c.isDigit then c.toNat - 48
  else if 'a' ≤ c && c ≤ 'f' then c.toNat - 87
  else c.toNat - 55

def parseGroup? (s : String) : Option Nat :=
  let cs := s.toList
  if cs.isEmpty || !cs.all isHexDigit || 4 < cs.length then none
  else some (digitsValue 16 hexValue cs)

def expandDottedTail (parts : List String) : Option (List String) :=
  match parts.getLast? with
  | some last =>
    if last.contains '.' then
      (parseV4? last).map fun v =>
        parts.dropLast ++ [String.ofList (Text.hexNumeral false (v.val / 65536)),
          String.ofList (Text.hexNumeral false (v.val % 65536))]
    else some parts
  | none => some parts

def groupsValue (groups : List Nat) : Nat :=
  groups.foldl (fun acc g => acc * 65536 + g) 0

def parseFull? (parts : List String) : Option (List Nat) :=
  if parts.length == 8 then parts.mapM parseGroup? else none

/-- Reads the groups of parts whose one empty middle part, at position `k`, is a `::`. An empty
first or last part belongs to the `::` and is allowed only beside it. -/
def parseElided? (parts : List String) (k : Nat) : Option (List Nat) :=
  let n := parts.length
  let leading := parts.head? == some ""
  let trailing := parts.getLast? == some ""
  let hi := if leading then k - 1 else k
  let lo := if trailing then n - k - 2 else n - k - 1
  if (leading && k != 1) || (trailing && k + 2 != n) || 8 ≤ hi + lo then none
  else do
    let front ← (parts.take hi).mapM parseGroup?
    let back ← (parts.drop (n - lo)).mapM parseGroup?
    some (front ++ List.replicate (8 - (hi + lo)) 0 ++ back)

def innerGaps (parts : List String) : List Nat :=
  (parts.zipIdx.filter fun (p, i) => 0 < i && i + 1 < parts.length && p.isEmpty).map (·.2)

def parseGroups? (s : String) : Option (Fin (Nat.pow 2 128)) := do
  if s.isEmpty then none
  let raw := s.splitOn ":"
  if raw.length < 3 then none
  let parts ← expandDottedTail raw
  if 9 < parts.length then none
  let groups ← match innerGaps parts with
    | [] => parseFull? parts
    | [k] => parseElided? parts k
    | _ => none
  let n := groupsValue groups
  if h : n < Nat.pow 2 128 then some ⟨n, h⟩ else none

/-- Splits the zone off an IPv6 address text at the first `%`; the zone must be non-empty and
hold no second `%`. -/
def splitZone? (s : String) : Option (String × Option String) :=
  match s.splitOn "%" with
  | [a] => some (a, none)
  | [a, z] => if z.isEmpty then none else some (a, some z)
  | _ => none

def parseV6? (s : String) : Option Address := do
  if s.contains '/' then none
  let (body, zone) ← splitZone? s
  let n ← parseGroups? body
  some (v6 n zone)

def parse? (s : String) : Option Address :=
  match parseV4? s with
  | some n => some (v4 n)
  | none => parseV6? s

def ofNat? (n : Nat) : Option Address :=
  if h : n < Nat.pow 2 32 then some (v4 ⟨n, h⟩)
  else if h6 : n < Nat.pow 2 128 then some (v6 ⟨n, h6⟩ none)
  else none

end Address

structure AddressError where
  text : String
  deriving DecidableEq

def AddressError.message (e : AddressError) : String :=
  Text.quote e.text ++ " does not appear to be an IPv4 or IPv6 address"

def Address.read (s : String) : Except AddressError Address :=
  match Address.parse? s with
  | some a => .ok a
  | none => .error ⟨s⟩

end InterfaceDiscovery
