import InterfaceDiscovery.Lifecycle
import InterfaceDiscovery.Host.Resolve
import InterfaceDiscovery.Environment.Basic

namespace InterfaceDiscovery

inductive Backend where
  | fixed (forest : List Interface) (failure : Option String) (hostnames : List (String × List Int))
  | host (snapshot : HostSnapshot)

structure Service where
  backend : Backend
  env : Environment := {}
  config : Configuration := {}
  enumerations : Nat := 0

abbrev Step (α : Type) := Service × α × List Record

namespace Service

def outcome (s : Service) : Outcome :=
  s.config.outcome

def enumerate (s : Service) : Service × Except NetworkError (List Interface) :=
  match s.backend with
  | .fixed forest failure _ =>
    ({ s with enumerations := s.enumerations + 1 }, match failure with
      | some e => .error (.enumeration e)
      | none => .ok forest)
  | .host h => ({ s with enumerations := s.enumerations + 1 }, h.interfaces)

def resolve (s : Service) (hostname : String) : Except NetworkError Interface :=
  match s.backend with
  | .fixed forest _ table =>
    match (table.find? (·.1 == hostname)).bind fun (_, p) => Interface.atPath? forest p with
    | some i => .ok i
    | none => .error (.resolution hostname "unknown host")
  | .host h => h.interfaceFor hostname

def settings (s : Service) (extraSkips : List String := []) : Settings :=
  let base := Settings.ofEnvironment s.env
  { base with skipPrefixes := base.skipPrefixes ++ extraSkips }

/-- Runs one pass with extra skip prefixes in a separate, fresh configuration, which draws its
stamp from the service's, and gives its outcome without publishing it. -/
def runPass (s : Service) (extraSkips : List String) : Step Outcome :=
  let settings := s.settings extraSkips
  let (s, listing) := s.enumerate
  let (c, _) := ({ stamps := s.config.stamps } : Configuration).publish settings
    (listing.mapError (·.message))
  ({ s with config := { s.config with stamps := c.stamps } }, c.outcome, passRecords c.outcome)

def reinitialize (s : Service) : Step (Option (Registry × Nat)) :=
  let settings := s.settings
  let (s, listing) := s.enumerate
  let (config, r) := s.config.publish settings (listing.mapError (·.message))
  ({ s with config }, r, passRecords config.outcome)

def get (s : Service) : Step (Option (Registry × Nat)) :=
  match s.config.outcome with
  | .ready r k => (s, some (r, k), [])
  | _ => s.reinitialize

def defaultAssociation (s : Service) : Step (Option Association) :=
  let (s, r, records) := s.get
  (s, r.bind (·.1.defaultAssociation?), records)

def serverInterface (s : Service) : Except NetworkError (Option Interface) :=
  match (s.settings).serverHostname with
  | some h => if h.isEmpty then .ok none else (s.resolve h).map some
  | none => .ok none

end Service

end InterfaceDiscovery
