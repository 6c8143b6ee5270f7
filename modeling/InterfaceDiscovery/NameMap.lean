
namespace InterfaceDiscovery

structure NameMap (α : Type) where
  entries : List (String × α) := []

namespace NameMap

variable {α : Type}

def contains (m : NameMap α) (k : String) : Bool :=
  m.entries.any (·.1 == k)

def insert (m : NameMap α) (k : String) (v : α) : NameMap α :=
  if m.contains k then ⟨m.entries.map fun e => if e.1 == k then (k, v) else e⟩
  else ⟨m.entries ++ [(k, v)]⟩

def get? (m : NameMap α) (k : String) : Option α :=
  (m.entries.find? (·.1 == k)).map (·.2)

def keys (m : NameMap α) : List String :=
  m.entries.map (·.1)

@[simp] theorem keys_empty : (({} : NameMap α)).keys = [] := rfl

end NameMap

end InterfaceDiscovery
