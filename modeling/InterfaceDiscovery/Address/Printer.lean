import InterfaceDiscovery.Address.Basic
import InterfaceDiscovery.Text.Hex

namespace InterfaceDiscovery

namespace Address

def octets (n : Nat) : List Nat :=
  [n / Nat.pow 2 24 % 256, n / Nat.pow 2 16 % 256, n / Nat.pow 2 8 % 256, n % 256]

def groups (n : Nat) : List Nat :=
  (List.range 8).map fun i => n / Nat.pow 2 (16 * (7 - i)) % 65536

/-- The longest run of zero groups as start and length; of equally long runs the first wins. The
state carries the best run so far and the start and length of the current run. -/
def longestZeroRun (gs : List Nat) : Nat × Nat :=
  let step := fun (st : (Nat × Nat) × Nat × Nat × Nat) (g : Nat) =>
    let ((bestStart, bestLen), start, len, i) := st
    if g == 0 then
      let start := if len == 0 then i else start
      let len := len + 1
      if bestLen < len then ((start, len), start, len, i + 1) else ((bestStart, bestLen), start, len, i + 1)
    else ((bestStart, bestLen), 0, 0, i + 1)
  (gs.foldl step ((0, 0), 0, 0, 0)).1

def joinGroups (gs : List Nat) : String :=
  ":".intercalate (gs.map fun g => String.ofList (Text.hexNumeral false g))

def groupsText (n : Nat) : String :=
  let gs := groups n
  let (start, len) := longestZeroRun gs
  if 1 < len then joinGroups (gs.take start) ++ "::" ++ joinGroups (gs.drop (start + len))
  else joinGroups gs

def toText : Address → String
  | v4 n => ".".intercalate ((octets n.val).map toString)
  | v6 n none => groupsText n.val
  | v6 n (some z) => groupsText n.val ++ "%" ++ z

instance : ToString Address := ⟨toText⟩

end Address

end InterfaceDiscovery
