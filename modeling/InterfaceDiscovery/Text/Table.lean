
namespace InterfaceDiscovery.Text

def memRanges (ranges : List (Nat × Nat)) (n : Nat) : Bool :=
  ranges.any fun r => r.1 ≤ n && n ≤ r.2

/-- A run of a case mapping: `count` code points from `first` on, `stride` apart, each moved by
`offset`. -/
structure CaseRun where
  first : Nat
  count : Nat
  stride : Nat
  offset : Int

namespace CaseRun

def contains (r : CaseRun) (n : Nat) : Bool :=
  r.first ≤ n && n < r.first + r.count * r.stride && (n - r.first) % r.stride == 0

def apply (r : CaseRun) (n : Nat) : Nat :=
  (n + r.offset).toNat

end CaseRun

/-- A character under a case mapping given by runs and expansions; characters that neither
mentions map to themselves. -/
def mapChar (runs : List CaseRun) (expansions : List (Nat × List Nat)) (c : Char) : List Char :=
  match expansions.find? (·.1 == c.toNat) with
  | some e => e.2.map Char.ofNat
  | none =>
    match runs.find? (·.contains c.toNat) with
    | some r => [Char.ofNat (r.apply c.toNat)]
    | none => [c]

theorem memRanges_nil (n : Nat) : memRanges [] n = false := rfl

theorem mapChar_nil (c : Char) : mapChar [] [] c = [c] := rfl

end InterfaceDiscovery.Text
