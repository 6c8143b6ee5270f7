
namespace InterfaceDiscovery

inductive Value where
  | null
  | bool (b : Bool)
  | int (n : Int)
  | float (x : Float)
  | str (s : String)
  | array (items : List Value)
  | object (fields : List (String × Value))
  deriving Inhabited

namespace Value

def field? : Value → String → Option Value
  | object fields, k => (fields.find? (·.1 == k)).map (·.2)
  | _, _ => none

theorem sizeOf_lt_of_field? {fields : List (String × Value)} {k : String} {x : Value}
    (h : (object fields).field? k = some x) : sizeOf x < sizeOf (object fields) := by
  simp only [field?, Option.map_eq_some_iff] at h
  obtain ⟨e, he, rfl⟩ := h
  have hm := List.sizeOf_lt_of_mem (List.mem_of_find?_eq_some he)
  obtain ⟨a, b⟩ := e
  simp only [object.sizeOf_spec, Prod.mk.sizeOf_spec] at hm ⊢
  omega

end Value

end InterfaceDiscovery
