import InterfaceDiscovery.Environment.Typed

namespace InterfaceDiscovery

structure Settings where
  skipPrefixes : List String
  serverHostname : Option String := none
  deriving DecidableEq

namespace Settings

def skipVariable : String := "NETBIND_SKIP_INTERFACES"

def hostnameVariable : String := "NETBIND_SERVER_HOSTNAME"

def levelVariable : String := "NETBIND_LOG_LEVEL"

def defaultSkipPrefixes : List String := ["tap", "vmnet", "vnic", "virtualbox"]

def ofEnvironment (env : Environment) : Settings :=
  { skipPrefixes := match env.get? skipVariable with
      | some v => splitItems v
      | none => defaultSkipPrefixes
    serverHostname := if env.isSet hostnameVariable then (env.get? hostnameVariable).map Text.trim
      else none }

end Settings

end InterfaceDiscovery
