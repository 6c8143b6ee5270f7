
namespace InterfaceDiscovery

inductive PathStep where
  | field (name : String)
  | index (i : Nat)
  deriving DecidableEq

def PathStep.text : PathStep → String
  | .field name => name
  | .index i => toString i

abbrev FieldPath := List PathStep

abbrev Checked (α : Type) := Except (List FieldPath) α

namespace Checked

def within (step : PathStep) : Checked α → Checked α
  | .ok a => .ok a
  | .error ps => .error (ps.map (step :: ·))

def both : Checked α → Checked β → Checked (α × β)
  | .ok a, .ok b => .ok (a, b)
  | .error e, .ok _ => .error e
  | .ok _, .error e => .error e
  | .error e, .error e' => .error (e ++ e')

def all : List (Checked α) → Checked (List α)
  | [] => .ok []
  | c :: cs => (both c (all cs)).map fun (a, as) => a :: as

def fail : Checked α := .error [[]]

def ofOption : Option α → Checked α
  | some a => .ok a
  | none => fail

end Checked

def validationMessage (paths : List FieldPath) : String :=
  ", ".intercalate (paths.eraseDups.map fun p => ".".intercalate (p.map PathStep.text))

end InterfaceDiscovery
