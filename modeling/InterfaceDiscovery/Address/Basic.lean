
namespace InterfaceDiscovery

inductive Address where
  | v4 (value : Fin (Nat.pow 2 32))
  | v6 (value : Fin (Nat.pow 2 128)) (zone : Option String)
  deriving DecidableEq

namespace Address

def isLoopback : Address → Bool
  | v4 n => n.val / Nat.pow 2 24 == 127
  | v6 n _ => n.val == 1

def isRelevant : Address → Bool
  | v4 n => n.val / Nat.pow 2 24 != 127
  | v6 .. => false

@[simp] theorem isRelevant_v6 (n : Fin (Nat.pow 2 128)) (z : Option String) :
    (v6 n z).isRelevant = false := rfl

theorem isRelevant_v4 (n : Fin (Nat.pow 2 32)) : (v4 n).isRelevant = !(v4 n).isLoopback := rfl

end Address

end InterfaceDiscovery
