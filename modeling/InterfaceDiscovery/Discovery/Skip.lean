import InterfaceDiscovery.Interface.Basic
import InterfaceDiscovery.Text.Case

namespace InterfaceDiscovery

def skipsNames (prefixes : List String) (names : List (Option String)) : Bool :=
  let lowered := (names.filterMap id).filter (!·.isEmpty) |>.map Text.lower
  prefixes.any fun p => !p.isEmpty && lowered.any (·.startsWith (Text.lower p))

def Interface.skippedBy (prefixes : List String) (i : Interface) : Bool :=
  skipsNames prefixes [some i.name, i.displayName]

theorem skipsNames_nil (names : List (Option String)) : skipsNames [] names = false := rfl

end InterfaceDiscovery
