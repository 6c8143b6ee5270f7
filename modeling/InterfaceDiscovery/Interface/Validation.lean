import InterfaceDiscovery.Interface.Association
import InterfaceDiscovery.Validation.Basic
import InterfaceDiscovery.Validation.Lax

namespace InterfaceDiscovery

def Value.optional (v : Value) (k : String) (read : Value → Option α) : Checked (Option α) :=
  Checked.within (.field k) <|
    match v.field? k with
    | none => .ok none
    | some .null => .ok none
    | some x => (Checked.ofOption (read x)).map some

def Value.members (v : Value) (k : String) (read : Value → Option α) : Checked (List α) :=
  Checked.within (.field k) <|
    match v.field? k with
    | none => .ok []
    | some (.array items) =>
      Checked.all (items.zipIdx.map fun (x, i) => Checked.within (.index i) (Checked.ofOption (read x)))
    | some _ => Checked.fail

def Interface.ofFields : String × Option String × List Address × List Interface × Option Bool ×
    Option String × Option Int → Interface
  | (n, d, a, s, u, m, t) => ⟨n, d, a, s, u, m, t⟩

def Interface.ofValue (v : Value) : Checked Interface :=
  match v with
  | .object fields =>
    let name := Checked.within (.field "name") <|
      Checked.ofOption (((Value.object fields).field? "name").bind Value.asText?)
    let subs : Checked (List Interface) := Checked.within (.field "sub_interfaces") <|
      match _ : (Value.object fields).field? "sub_interfaces" with
      | none => .ok []
      | some (.array items) =>
        Checked.all (items.attach.zipIdx.map fun (⟨x, _⟩, i) =>
          Checked.within (.index i) (Interface.ofValue x))
      | some _ => Checked.fail
    (Checked.both name <| Checked.both ((Value.object fields).optional "display_name" Value.asText?) <|
      Checked.both ((Value.object fields).members "addresses" Value.asAddress?) <| Checked.both subs <|
      Checked.both ((Value.object fields).optional "is_up" Value.asFlag?) <|
      Checked.both ((Value.object fields).optional "mac_address" Value.asText?)
        ((Value.object fields).optional "mtu" Value.asWhole?)).map Interface.ofFields
  | _ => Checked.fail
termination_by sizeOf v
decreasing_by
  have hx := List.sizeOf_lt_of_mem ‹_ ∈ items›
  have hs := Value.sizeOf_lt_of_field? ‹(Value.object fields).field? _ = some (.array items)›
  simp only [Value.array.sizeOf_spec] at hs
  omega

def Association.ofValue (v : Value) : Checked Association :=
  let interface : Checked Interface := Checked.within (.field "interface") <|
    match v.field? "interface" with
    | some x => Interface.ofValue x
    | none => Checked.fail
  (Checked.both (v.optional "address" Value.asAddress?) <|
    Checked.both interface (v.optional "parent_name" Value.asText?)).map
    fun (a, i, p) => ⟨a, i, p⟩

end InterfaceDiscovery
