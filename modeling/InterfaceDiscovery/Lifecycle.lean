import InterfaceDiscovery.Discovery.Walk
import InterfaceDiscovery.Logging.Format
import InterfaceDiscovery.Settings

namespace InterfaceDiscovery

inductive Outcome where
  | uninitialized
  | ready (registry : Registry) (stamp : Nat)
  | failed (error : String)

namespace Outcome

def registry? : Outcome → Option (Registry × Nat)
  | ready r k => some (r, k)
  | _ => none

def error? : Outcome → Option String
  | failed e => some e
  | _ => none

def stateName : Outcome → String
  | uninitialized => "uninitialized"
  | ready .. => "ready"
  | failed _ => "failed"

def isReady : Outcome → Bool
  | ready .. => true
  | _ => false

end Outcome

def lifecycleLogger : String := "netbind.discovery.lifecycle"

-- Where a pass logs from: the discovery pass of the lifecycle's source, at one of its lines.
def passSite (lineno : Nat) : Site :=
  { pathname := "netbind/discovery/lifecycle.py", funcName := "_discover", lineno }

def passRecords : Outcome → List Record
  | .ready r _ =>
    [{ loggerName := lifecycleLogger
       levelno := Level.info.severity
       message := "Discovered " ++ toString r.relevantInterfaces.length ++
         " network interfaces with a usable address"
       site := passSite 161 }]
  | .failed e =>
    [{ loggerName := lifecycleLogger
       levelno := Level.error.severity
       message := "Fatal error when trying to detect network configuration: " ++ e
       site := passSite 153 },
     { loggerName := lifecycleLogger
       levelno := Level.error.severity
       message := "No network services will be available"
       site := passSite 156 }]
  | .uninitialized => []

def passOutcome (settings : Settings) (listing : Except String (List Interface)) (stamp : Nat) :
    Outcome :=
  match listing with
  | .ok forest => .ready (Registry.discover settings.skipPrefixes forest) stamp
  | .error e => .failed e

theorem passOutcome_ok (settings : Settings) (forest : List Interface) (stamp : Nat) :
    passOutcome settings (.ok forest) stamp =
      .ready (Registry.discover settings.skipPrefixes forest) stamp := rfl

theorem passOutcome_error (settings : Settings) (e : String) (stamp : Nat) :
    passOutcome settings (.error e) stamp = .failed e := rfl

inductive Raised where
  | enumeration (message : String)
  | other (message : String)

/-- A discovery configuration: its published outcome, and how many registries it has built, which
stamps the next one. -/
structure Configuration where
  outcome : Outcome := .uninitialized
  stamps : Nat := 0

namespace Configuration

/-- Publishes what a pass with these settings found: the registry of the listed forest under a new
stamp, or the enumeration error, which drops any earlier registry. Gives what the pass returns: the
published registry, or none. -/
def publish (c : Configuration) (settings : Settings) (listing : Except String (List Interface)) :
    Configuration × Option (Registry × Nat) :=
  let stamps := match listing with
    | .ok _ => c.stamps + 1
    | .error _ => c.stamps
  let outcome := passOutcome settings listing stamps
  ({ outcome, stamps }, outcome.registry?)

/-- One pass over what the settings provider and the backend answered, either of which may have
raised. An enumeration error is published; any other exception escapes. -/
def discover (c : Configuration) (settings : Except Raised Settings)
    (listing : Except Raised (List Interface)) : Except Raised (Configuration × Option (Registry × Nat)) :=
  match settings, listing with
  | .error x, _ => .error x
  | .ok s, .ok forest => .ok (c.publish s (.ok forest))
  | .ok s, .error (.enumeration e) => .ok (c.publish s (.error e))
  | .ok _, .error (.other m) => .error (.other m)

def get (c : Configuration) (settings : Except Raised Settings)
    (listing : Except Raised (List Interface)) : Except Raised (Configuration × Option (Registry × Nat)) :=
  match c.outcome with
  | .ready r k => .ok (c, some (r, k))
  | _ => c.discover settings listing

def defaultAssociation (c : Configuration) (settings : Except Raised Settings)
    (listing : Except Raised (List Interface)) : Except Raised (Configuration × Option Association) :=
  (c.get settings listing).map fun (c, r) => (c, r.bind (·.1.defaultAssociation?))

end Configuration

end InterfaceDiscovery
