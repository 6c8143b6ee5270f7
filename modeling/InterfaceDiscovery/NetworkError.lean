
namespace InterfaceDiscovery

inductive NetworkError where
  | enumeration (message : String)
  | resolution (hostname reason : String)
  deriving DecidableEq

def NetworkError.message : NetworkError → String
  | .enumeration m => m
  | .resolution h r => "Cannot resolve '" ++ h ++ "' to a local interface: " ++ r

end InterfaceDiscovery
