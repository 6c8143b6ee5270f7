import InterfaceDiscovery.Interface.Basic
import InterfaceDiscovery.Address.Printer
import InterfaceDiscovery.Text.Blank

namespace InterfaceDiscovery

structure Association where
  address : Option Address := none
  interface : Interface
  parent : Option String := none
  deriving DecidableEq

namespace Association

def shortName (a : Association) : String :=
  a.interface.name

def hasAddress (a : Association) : Bool :=
  a.address.isSome

/-- The display name: the interface's trimmed display name, or its name when that is blank,
followed by the address in parentheses when there is one. -/
def displayName (a : Association) : String :=
  let trimmed := Text.trim (a.interface.displayName.getD "")
  let base := if trimmed.isEmpty then a.interface.name else trimmed
  match a.address with
  | some x => base ++ " (" ++ x.toText ++ ")"
  | none => base

def text (a : Association) : String :=
  let addr := match a.address with
    | some x => x.toText
    | none => "None"
  "InterfaceAssociation(addr=" ++ addr ++ ", iface=" ++ a.interface.name ++ ", parent=" ++
    a.parent.getD "None" ++ ")"

end Association

end InterfaceDiscovery
