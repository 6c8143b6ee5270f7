import InterfaceDiscovery.Discovery.Registry
import InterfaceDiscovery.Discovery.Skip

namespace InterfaceDiscovery

namespace Interface

/-- The relevant addresses of an interface: IPv4 and not loopback, repeats removed, in host
order. -/
def relevant (i : Interface) : List Address :=
  (i.addresses.filter (·.isRelevant)).eraseDups

mutual

def subtreeAssociations (ps : List String) (parent : Option String) :
    Interface → List Association
  | i@⟨name, _, _, subs, _, _, _⟩ =>
    let below := forestAssociations ps (some name) subs
    let own := i.relevant.filter fun a => !below.any (·.address == some a)
    below ++
      if own.isEmpty then [{ interface := i, parent }]
      else own.map fun a => { address := some a, interface := i, parent }

def forestAssociations (ps : List String) (parent : Option String) :
    List Interface → List Association
  | [] => []
  | i :: is =>
    (if i.skippedBy ps then [] else subtreeAssociations ps parent i) ++
      forestAssociations ps parent is

end

mutual

def visited (ps : List String) : Interface → List Interface
  | i@⟨_, _, _, subs, _, _, _⟩ => i :: visitedForest ps subs

def visitedForest (ps : List String) : List Interface → List Interface
  | [] => []
  | i :: is => (if i.skippedBy ps then [] else visited ps i) ++ visitedForest ps is

end

end Interface

/-- Walks a forest with the given skip prefixes. The relevant addresses by name are written in
visiting order and the last addressed association by name in association order, so later
interfaces of the same name win. -/
def Registry.discover (ps : List String) (forest : List Interface) : Registry :=
  let associations := Interface.forestAssociations ps none forest
  { associations
    addressesByName :=
      (Interface.visitedForest ps forest).foldl (fun m i => m.insert i.name i.relevant) {}
    primaryByName :=
      (associations.filter (·.hasAddress)).foldl (fun m a => m.insert a.interface.name a) {} }

end InterfaceDiscovery
