import InterfaceDiscovery.Host.Snapshot
import InterfaceDiscovery.Address.Printer

namespace InterfaceDiscovery

namespace HostSnapshot

def resolve (h : HostSnapshot) (hostname : String) : Except String (List String) :=
  match h.resolver.find? (·.1 == hostname) with
  | some (_, answer) => answer
  | none => .error "[Errno -2] Name or service not known"

def firstHolding? (forest : List Interface) (targets : List Address) : Option Interface :=
  (Interface.preorderForest forest).find? fun i => i.addresses.any (targets.contains ·)

def interfaceFor (h : HostSnapshot) (hostname : String) : Except NetworkError Interface :=
  match h.resolve hostname with
  | .error reason => .error (.resolution hostname reason)
  | .ok raw =>
    let targets := (raw.filterMap readHostAddress?).eraseDups
    if targets.isEmpty then .error (.resolution hostname "no IP addresses returned")
    else
      match h.interfaces with
      | .error e => .error e
      | .ok forest =>
        match firstHolding? forest targets with
        | some i => .ok i
        | none =>
          let texts := (targets.map Address.toText).mergeSort fun a b => decide (a ≤ b)
          .error (.resolution hostname (", ".intercalate texts ++ " not bound to any local interface"))

end HostSnapshot

/-- The host name to use, given what the host reports (none when it cannot say): an empty or
missing name falls back to `localhost`. -/
def defaultHostName : Option String → String
  | some s => if s.isEmpty then "localhost" else s
  | none => "localhost"

end InterfaceDiscovery
