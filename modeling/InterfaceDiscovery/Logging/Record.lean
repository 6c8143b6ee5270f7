import InterfaceDiscovery.Logging.Level
import InterfaceDiscovery.Calendar.Format
import InterfaceDiscovery.Number.Rounded

namespace InterfaceDiscovery

-- Where a record was made: the source file, function and line of the call. A call whose caller
-- cannot be found is in the unknown file and function, at line 0.
structure Site where
  pathname : String := "(unknown file)"
  funcName : String := "(unknown function)"
  lineno : Nat := 0

namespace Site

def filename (s : Site) : String :=
  String.ofList (s.pathname.toList.reverse.takeWhile (· != '/')).reverse

-- The file name without its last extension; dots that only lead the name start none.
def module (s : Site) : String :=
  match s.filename.toList.reverse.dropWhile (· != '.') with
  | [] => s.filename
  | _ :: stem => if stem.any (· != '.') then String.ofList stem.reverse else s.filename

end Site

-- When and in what a record was made: the clock in seconds since the epoch and as local date and
-- time, its milliseconds, the milliseconds since logging started, and the thread and process.
structure Stamp where
  created : Float := 0
  date : Date := ⟨1970, 1, 1⟩
  hour : Nat := 0
  minute : Nat := 0
  second : Nat := 0
  msecs : Float := 0
  relativeCreated : Float := 0
  thread : Nat := 0
  process : Nat := 0

structure Record where
  loggerName : String
  levelno : Int
  message : String
  site : Site := {}
  stamp : Stamp := {}

-- A record attribute as a format sees it; `other` is a value known only by its text, such as
-- `None` or the empty tuple of arguments.
inductive Attribute where
  | text (s : String)
  | integer (n : Int)
  | real (x : Float)
  | other (shown : String)

-- The integer a value gives the integer conversions: a double is cut toward zero, and an infinity
-- or NaN gives none.
def Attribute.integerPart? : Attribute → Option Int
  | .integer n => some n
  | .real x => (Binary.ofFloat? x).map Binary.truncated
  | _ => none

namespace Record

-- The local time to the second and the whole milliseconds, as `2026-01-31 09:05:00,042`.
def asctime? (r : Record) : Option String := do
  let b ← Binary.ofFloat? r.stamp.msecs
  let ms := b.truncated
  let two (n : Nat) := String.ofList (Binary.digitsIn 2 n)
  some (r.stamp.date.format "%Y-%m-%d" ++ " " ++ two r.stamp.hour ++ ":" ++ two r.stamp.minute ++
    ":" ++ two r.stamp.second ++ "," ++ (if ms < 0 then "-" ++ String.ofList (Binary.digitsIn 2 ms.natAbs)
      else String.ofList (Binary.digitsIn 3 ms.natAbs)))

-- The attributes of a record by key: those every record has, the message, and the time text.
def attribute? (r : Record) (key : String) : Option Attribute :=
  match key with
  | "name" => some (.text r.loggerName)
  | "msg" => some (.text r.message)
  | "args" => some (.other "()")
  | "levelname" => (Level.nameOf? r.levelno).map .text
  | "levelno" => some (.integer r.levelno)
  | "pathname" => some (.text r.site.pathname)
  | "filename" => some (.text r.site.filename)
  | "module" => some (.text r.site.module)
  | "exc_info" => some (.other "None")
  | "exc_text" => some (.other "None")
  | "stack_info" => some (.other "None")
  | "lineno" => some (.integer r.site.lineno)
  | "funcName" => some (.text r.site.funcName)
  | "created" => some (.real r.stamp.created)
  | "msecs" => some (.real r.stamp.msecs)
  | "relativeCreated" => some (.real r.stamp.relativeCreated)
  | "thread" => some (.integer r.stamp.thread)
  | "threadName" => some (.text "MainThread")
  | "processName" => some (.text "MainProcess")
  | "process" => some (.integer r.stamp.process)
  | "message" => some (.text r.message)
  | "asctime" => r.asctime?.map .text
  | _ => none

end Record

end InterfaceDiscovery
