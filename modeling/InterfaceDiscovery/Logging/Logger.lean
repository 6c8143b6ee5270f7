import InterfaceDiscovery.Logging.Format

namespace InterfaceDiscovery

inductive LoggerError where
  | unknownLevel (name : String)
  | invalidOutput (description : String)
  | invalidFormat (format : String)
  | notConfigured
  deriving DecidableEq

def LoggerError.message : LoggerError → String
  | .unknownLevel n => Text.quote n ++ " is not a valid LogLevel"
  | .invalidOutput d => "Invalid output: " ++ d
  | .invalidFormat f => "Invalid format '" ++ f ++ "' for '%' style"
  | .notConfigured => "Logger not configured. Call Logger.configure() at application startup."

def Level.read (s : String) : Except LoggerError Level :=
  match Level.read? s with
  | some l => .ok l
  | none => .error (.unknownLevel (Text.upper s))

inductive Output where
  | stream (sink : Nat)
  | unusable (description : String)

structure Handler where
  sink : Nat
  level : Level
  format : String

structure Logger where
  configured : Bool := false
  level : Option Level := none
  handler : Option Handler := none

structure Write where
  sink : Nat
  text : String
  deriving DecidableEq

namespace Logger

def rootName : String := "netbind"

-- The format configure builds when none is given: the time when asked for, the level name, the
-- logger's name in brackets, the file and line in brackets when asked for, and the message.
def defaultFormat (timestamps includeLocation : Bool) : String :=
  " ".intercalate ((if timestamps then ["%(asctime)s"] else []) ++ ["%(levelname)s", "[%(name)s]"] ++
    (if includeLocation then ["[%(filename)s:%(lineno)d]"] else []) ++ ["%(message)s"])

def childName : Option String → String
  | some n => if n.isEmpty then rootName else rootName ++ "." ++ n
  | none => rootName

def configure (lg : Logger) (levelName : String) (output : Output) (timestamps includeLocation : Bool)
    (format : Option String) : Logger × Option LoggerError :=
  match Level.read levelName with
  | .error e => (lg, some e)
  | .ok l =>
    let cleared := { lg with level := some l, handler := none }
    match output with
    | .unusable d => (cleared, some (.invalidOutput d))
    | .stream sink =>
      let f := format.getD (defaultFormat timestamps includeLocation)
      let f := if f.isEmpty then RecordFormat.messageOnly else f
      if RecordFormat.isValid f then
        ({ cleared with handler := some ⟨sink, l, f⟩, configured := true }, none)
      else (cleared, some (.invalidFormat f))

def setLevel (lg : Logger) (levelName : String) : Logger × Option LoggerError :=
  if !lg.configured then (lg, some .notConfigured)
  else match Level.read levelName with
    | .error e => (lg, some e)
    | .ok l => ({ lg with level := some l, handler := lg.handler.map ({ · with level := l }) }, none)

def get (lg : Logger) (name : Option String) : Except LoggerError String :=
  if lg.configured then .ok (childName name) else .error .notConfigured

def reset (lg : Logger) : Logger :=
  { lg with configured := false, handler := none }

def emit (lg : Logger) (r : Record) : List Write :=
  -- a record whose level has no name it can be written under is never made
  if ((lg.level.getD .warning).severity : Int) ≤ r.levelno && (Level.nameOf? r.levelno).isSome then
    match lg.handler with
    | none => []
    | some h =>
      if (h.level.severity : Int) ≤ r.levelno then
        match RecordFormat.render r h.format with
        | some line => [⟨h.sink, line ++ "\n"⟩]
        | none => []
      else []
  else []

end Logger

end InterfaceDiscovery
