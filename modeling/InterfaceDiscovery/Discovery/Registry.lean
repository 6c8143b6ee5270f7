import InterfaceDiscovery.Interface.Association
import InterfaceDiscovery.NameMap

namespace InterfaceDiscovery

structure Registry where
  associations : List Association := []
  addressesByName : NameMap (List Address) := {}
  primaryByName : NameMap Association := {}

namespace Registry

def size (r : Registry) : Nat :=
  r.associations.length

def interfaces (r : Registry) : List Interface :=
  (r.associations.map (·.interface)).eraseDups

def relevantInterfaces (r : Registry) : List Interface :=
  ((r.associations.filter (·.hasAddress)).map (·.interface)).eraseDups

def interfacesFor (r : Registry) (a : Address) : List Interface :=
  (r.associations.filter (·.address == some a)).map (·.interface)

def addressesOf? (r : Registry) (i : Interface) : Option (List Address) :=
  match r.associations.filterMap fun x => if x.interface == i then x.address else none with
  | [] => none
  | as => some as

def allAddresses? (r : Registry) : Option (List Address) :=
  match r.associations.filterMap (·.address) with
  | [] => none
  | as => some as

def primaryFor? (r : Registry) (name : String) : Option Association :=
  r.primaryByName.get? name

def firstAddressed? (r : Registry) : Option Association :=
  r.associations.find? (·.hasAddress)

/-- The default association: the first addressed one when it belongs to a top-level interface,
else the last addressed association of its parent, which may be none. -/
def defaultAssociation? (r : Registry) : Option Association :=
  match r.firstAddressed? with
  | none => none
  | some a =>
    match a.parent with
    | some p => r.primaryFor? p
    | none => some a

end Registry

end InterfaceDiscovery
