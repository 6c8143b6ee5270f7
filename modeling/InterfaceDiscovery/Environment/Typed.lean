import InterfaceDiscovery.Environment.Basic
import InterfaceDiscovery.Number.Integer
import InterfaceDiscovery.Number.Real
import InterfaceDiscovery.Value
import InterfaceDiscovery.Logging.Logger

namespace InterfaceDiscovery

inductive Target where
  | flag
  | integer
  | real
  | text
  | list
  | tuple
  | mapping
  | bytes
  deriving DecidableEq

def Target.typeName : Target → String
  | .flag => "bool"
  | .integer => "int"
  | .real => "float"
  | .text => "str"
  | .list => "list"
  | .tuple => "tuple"
  | .mapping => "dict"
  | .bytes => "bytes"

inductive Setting where
  | text (s : String)
  | flag (b : Bool)
  | integer (n : Int)
  | real (x : Float)
  | list (items : List String)
  | tuple (items : List String)
  | emptyMapping

inductive Reading where
  | unset (default : Value)
  | read (s : Setting)

structure ConversionError where
  name : String
  value : String
  target : Target

def ConversionError.message (e : ConversionError) : String :=
  "Cannot convert " ++ e.name ++ "='" ++ e.value ++ "' to " ++ e.target.typeName

def commaFields (value : String) : List String :=
  (value.toList.splitOn ',').map String.ofList

def splitItems (value : String) : List String :=
  ((commaFields value).map Text.trim).filter (!·.isEmpty)

def falseWords : List String := ["false", "0", "", "no", "off"]

def Target.convert? (t : Target) (value : String) : Option Setting :=
  match t with
  | .flag => some (.flag (!falseWords.contains (Text.lower value)))
  | .integer => (Numeral.readInteger? value).map .integer
  | .real => (Numeral.readReal? value).map .real
  | .text => some (.text value)
  | .list => some (.list (splitItems value))
  | .tuple => some (.tuple (splitItems value))
  | .mapping => if value.isEmpty then some .emptyMapping else none
  | .bytes => none

structure EnvRequest where
  name : String
  default : Value := .null
  target : Option Target := none
  log : Bool := false
  masked : Bool := false

namespace Environment

def read (env : Environment) (req : EnvRequest) : Except ConversionError Reading :=
  match env.get? req.name with
  | none => .ok (.unset req.default)
  | some v =>
    match req.target with
    | none => .ok (.read (.text v))
    | some t =>
      match t.convert? v with
      | some s => .ok (.read s)
      | none => .error ⟨req.name, v, t⟩

def accessRecord? (env : Environment) (req : EnvRequest) : Option Record :=
  if req.log then
    let shown := if req.masked then "***" else (env.get? req.name).getD "None"
    some {
      loggerName := Logger.childName (some "env")
      levelno := Level.debug.severity
      message := "ENV GET " ++ req.name ++ "=" ++ shown
      site := { pathname := "netbind/utils/env.py", funcName := "_log_access", lineno := 81 } }
  else none

def accessWrites (env : Environment) (lg : Logger) (req : EnvRequest) : List Write :=
  match env.accessRecord? req with
  | some r => if lg.configured then lg.emit r else []
  | none => []

end Environment

end InterfaceDiscovery
