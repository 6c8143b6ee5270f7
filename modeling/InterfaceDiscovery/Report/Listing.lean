import InterfaceDiscovery.Discovery.Registry
import InterfaceDiscovery.Address.Printer
import InterfaceDiscovery.Report.Json
import InterfaceDiscovery.Report.Yaml.Writer

namespace InterfaceDiscovery

def sortTexts (xs : List String) : List String :=
  xs.mergeSort fun a b => decide (a ≤ b)

def Association.document (a : Association) : Value :=
  .object [("name", .str a.shortName), ("display_name", .str a.displayName),
    ("parent", match a.parent with
      | some p => .str p
      | none => .null),
    ("address", match a.address with
      | some x => .str x.toText
      | none => .null)]

def padRight (width : Nat) (s : String) : String :=
  s ++ String.ofList (List.replicate (width - s.length) ' ')

namespace Registry

def document (r : Registry) : Value :=
  .object [("associations", .array (r.associations.map Association.document)),
    ("addresses_by_interface", .object
      ((r.addressesByName.entries.mergeSort fun a b => decide (a.1 ≤ b.1)).map fun (n, as) =>
        (n, .array ((sortTexts (as.map Address.toText)).map Value.str)))),
    ("default", match r.defaultAssociation? with
      | some a => a.document
      | none => .null)]

def row (a : Association) : String :=
  let address := match a.address with
    | some x => x.toText
    | none => "-"
  let parent := match a.parent with
    | some p => if p.isEmpty then "" else "  (parent: " ++ p ++ ")"
    | none => ""
  "  " ++ padRight 16 a.shortName ++ " " ++ padRight 16 address ++ parent

def listing (r : Registry) : String :=
  let rows := if r.associations.isEmpty then ["  No network interfaces detected"]
    else r.associations.map row
  let default := match r.defaultAssociation? with
    | some a => "  " ++ a.displayName
    | none => "  None"
  String.join ((["Network Interfaces:"] ++ rows ++ ["", "Default Interface:", default]).map (· ++ "\n"))

end Registry

inductive ReportFormat where
  | text
  | json
  | yaml
  deriving DecidableEq

def Registry.report (r : Registry) : ReportFormat → String
  | .text => r.listing
  | .json => Json.render 0 r.document ++ "\n"
  | .yaml => Yaml.document r.document ++ "\n"

end InterfaceDiscovery
