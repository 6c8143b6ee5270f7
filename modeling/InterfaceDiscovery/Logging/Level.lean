import InterfaceDiscovery.Text.Case
import InterfaceDiscovery.Number.Integer

namespace InterfaceDiscovery

inductive Level where
  | debug
  | info
  | warning
  | error
  | critical
  deriving DecidableEq

namespace Level

def severity : Level → Nat
  | debug => 10
  | info => 20
  | warning => 30
  | error => 40
  | critical => 50

def name : Level → String
  | debug => "DEBUG"
  | info => "INFO"
  | warning => "WARNING"
  | error => "ERROR"
  | critical => "CRITICAL"

def all : List Level := [debug, info, warning, error, critical]

def ofName? (s : String) : Option Level :=
  all.find? (·.name == s)

def read? (s : String) : Option Level :=
  ofName? (Text.upper s)

theorem ofName?_name (l : Level) : ofName? l.name = some l := by
  cases l <;> rfl

-- The name of a numeric level, as records show it: that of the named level of this severity,
-- `NOTSET` for 0, and `Level n` for any other number that can be written in decimal.
def nameOf? (n : Int) : Option String :=
  match all.find? (·.severity == n) with
  | some l => some l.name
  | none => if n = 0 then some "NOTSET" else if Numeral.writable n then some ("Level " ++ toString n) else none

theorem nameOf?_severity (l : Level) : nameOf? l.severity = some l.name := by
  cases l <;> rfl

end Level

end InterfaceDiscovery
