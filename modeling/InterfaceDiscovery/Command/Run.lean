import InterfaceDiscovery.Service
import InterfaceDiscovery.Command.Line
import InterfaceDiscovery.Command.Help
import InterfaceDiscovery.Version.Basic

namespace InterfaceDiscovery

structure Transcript where
  exitCode : Nat := 0
  stdout : String := ""
  stderr : String := ""
  deriving DecidableEq

def Transcript.failure (message : String) : Transcript :=
  { exitCode := 1, stderr := message ++ "\n" }

namespace Service

def discoveryFailure (e : String) : String :=
  "Error: Network discovery failed: " ++ e

def runInterfaces (s : Service) (skip : List String) (format : ReportFormat) : Step Transcript :=
  if skip.isEmpty then
    let (s, r, records) := s.get
    match r with
    | some (reg, _) => (s, { stdout := reg.report format }, records)
    | none => (s, .failure (discoveryFailure (s.outcome.error?.getD "None")), records)
  else
    let (s, o, records) := s.runPass skip
    match o with
    | .ready reg _ => (s, { stdout := reg.report format }, records)
    | .failed e => (s, .failure (discoveryFailure e), records)
    | .uninitialized => (s, .failure (discoveryFailure "None"), records)

def runDefault (s : Service) : Step Transcript :=
  let (s, a, records) := s.defaultAssociation
  match a with
  | some a =>
    let address := match a.address with
      | some x => x.toText
      | none => "None"
    (s, { stdout := a.shortName ++ " " ++ address ++ "\n" }, records)
  | none =>
    match s.outcome.error? with
    | some e => (s, .failure (discoveryFailure e), records)
    | none => (s, .failure "Error: No default network interface found", records)

def runLookup (s : Service) (hostname : Option String) : Transcript :=
  let found := match hostname with
    | some h => if h.isEmpty then s.serverInterface else (s.resolve h).map some
    | none => s.serverInterface
  match found with
  | .error e@(.resolution _ _) => .failure ("Error: " ++ e.message)
  | .error e@(.enumeration _) => .failure (discoveryFailure e.message)
  | .ok none => .failure "Error: No server hostname configured"
  | .ok (some i) =>
    let addresses := ", ".intercalate (i.addresses.map Address.toText)
    { stdout := i.name ++ ": " ++ (if addresses.isEmpty then "-" else addresses) ++ "\n" }

def runVersion (verbose : Bool) : Transcript :=
  let v := Version.current
  if verbose then
    { stdout := "netbind version " ++ v.fullText ++ "\n\nDetailed version information:\n" ++
        "  Semantic Version: " ++ v.text ++ "\n  Build Date:       " ++ v.dateText ++
        "\n  Package Hash:     " ++ v.hash ++ "\n  Host Name:        " ++ defaultHostName none ++ "\n" }
  else { stdout := "netbind " ++ v.text ++ "\n" }

def runCommand (s : Service) : Command → Step Transcript
  | .interfaces skip format _ => s.runInterfaces skip format
  | .showDefault => s.runDefault
  | .lookup h => (s, s.runLookup h, [])
  | .version verbose => (s, runVersion verbose, [])
  | .help topic => (s, { stdout := Command.helpText topic }, [])

def runLine (s : Service) (args : List String) : Step Transcript :=
  match Command.parse args with
  | .ok c => s.runCommand c
  | .error _ => (s, { exitCode := 2 }, [])

end Service

end InterfaceDiscovery
