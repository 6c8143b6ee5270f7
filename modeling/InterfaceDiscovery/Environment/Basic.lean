import InterfaceDiscovery.Text.Blank

namespace InterfaceDiscovery

structure Environment where
  vars : List (String × String) := []

namespace Environment

def get? (env : Environment) (name : String) : Option String :=
  (env.vars.find? (·.1 == name)).map (·.2)

def set (env : Environment) (name : String) (value : Option String) : Environment :=
  let rest := env.vars.filter (·.1 != name)
  match value with
  | some v => ⟨rest ++ [(name, v)]⟩
  | none => ⟨rest⟩

def isSet (env : Environment) (name : String) : Bool :=
  match env.get? name with
  | some v => !Text.isBlankText v
  | none => false

theorem get?_set_self (env : Environment) (name : String) (value : Option String) :
    (env.set name value).get? name = value := by
  cases value with
  | none =>
    simp only [set, get?, Option.map_eq_none_iff, List.find?_eq_none, List.mem_filter]
    intro x hx
    simpa using hx.2
  | some v =>
    simp only [set, get?, List.find?_append]
    rw [List.find?_eq_none.2 (fun x hx => by simpa using (List.mem_filter.1 hx).2)]
    simp

end Environment

end InterfaceDiscovery
