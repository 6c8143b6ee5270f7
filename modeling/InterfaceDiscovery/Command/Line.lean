import InterfaceDiscovery.Report.Listing
import InterfaceDiscovery.Text.Fold

namespace InterfaceDiscovery

inductive Command where
  | interfaces (skip : List String) (format : ReportFormat) (debug : Bool)
  | showDefault
  | lookup (hostname : Option String)
  | version (verbose : Bool)
  | help (command : Option String)
  deriving DecidableEq

structure UsageError where
  deriving DecidableEq

namespace Command

def names : List String := ["default", "interfaces", "lookup", "version"]

/-- An option of a command: its spellings, whether it takes a value, the placeholder shown for
the value and the line of help about it. -/
structure OptionSpec where
  key : String
  spellings : List String
  takesValue : Bool
  placeholder : String
  help : String

def helpOption : OptionSpec :=
  ⟨"help", ["--help"], false, "", "Show this message and exit."⟩

def optionsOf : String → List OptionSpec
  | "interfaces" => [
      ⟨"skip", ["--skip"], true, "TEXT",
        "Interface name prefix to skip, in addition to NETBIND_SKIP_INTERFACES (repeatable)"⟩,
      ⟨"format", ["--format"], true, "[text|json|yaml]", "Output format  [default: text]"⟩,
      ⟨"debug", ["--debug"], false, "", "Trace every discovery step"⟩, helpOption]
  | "version" => [⟨"verbose", ["--verbose", "-v"], false, "", "Show detailed version information"⟩,
      helpOption]
  | _ => [helpOption]

structure Parsed where
  values : List (String × String) := []
  positional : List String := []

def readWords (specs : List OptionSpec) : Nat → List String → Parsed → Except UsageError Parsed
  | 0, _, p => .ok p
  | _, [], p => .ok p
  | fuel + 1, w :: rest, p =>
    if w == "--" then .ok { p with positional := p.positional ++ rest }
    else if w.startsWith "--" then
      let (name, given) := match w.splitOn "=" with
        | [n] => (n, none)
        | n :: more => (n, some ("=".intercalate more))
        | [] => (w, none)
      match specs.find? (·.spellings.contains name) with
      | none => .error {}
      | some spec =>
        if spec.takesValue then
          match given, rest with
          | some v, _ => readWords specs fuel rest { p with values := p.values ++ [(spec.key, v)] }
          | none, v :: more => readWords specs fuel more { p with values := p.values ++ [(spec.key, v)] }
          | none, [] => .error {}
        else match given with
          | some _ => .error {}
          | none => readWords specs fuel rest { p with values := p.values ++ [(spec.key, "")] }
    else if w.startsWith "-" && 1 < w.length then
      -- short options: each letter must be a flag
      let letters := w.toList.drop 1
      if letters.all fun c => specs.any fun s => !s.takesValue && s.spellings.contains ("-" ++ c.toString) then
        let keys := letters.filterMap fun c =>
          (specs.find? fun s => s.spellings.contains ("-" ++ c.toString)).map (·.key)
        readWords specs fuel rest { p with values := p.values ++ keys.map (·, "") }
      else .error {}
    else readWords specs fuel rest { p with positional := p.positional ++ [w] }

def Parsed.all (p : Parsed) (key : String) : List String :=
  (p.values.filter (·.1 == key)).map (·.2)

def Parsed.flag (p : Parsed) (key : String) : Bool :=
  p.values.any (·.1 == key)

def formatOf? (s : String) : Option ReportFormat :=
  match Text.fold s with
  | "text" => some .text
  | "json" => some .json
  | "yaml" => some .yaml
  | _ => none

def ofParsed (name : String) (p : Parsed) : Except UsageError Command :=
  if p.flag "help" then .ok (.help (some name))
  else match name with
    | "interfaces" =>
      if !p.positional.isEmpty then .error {}
      else
        let format := match (p.all "format").getLast? with
          | some f => formatOf? f
          | none => some .text
        match format with
        | some f => .ok (.interfaces (p.all "skip") f (p.flag "debug"))
        | none => .error {}
    | "default" => if p.positional.isEmpty then .ok .showDefault else .error {}
    | "lookup" =>
      match p.positional with
      | [] => .ok (.lookup none)
      | [h] => .ok (.lookup (some h))
      | _ => .error {}
    | _ => if p.positional.isEmpty then .ok (.version (p.flag "verbose")) else .error {}

def parse (args : List String) : Except UsageError Command :=
  match args with
  | [] => .error {}
  | "--help" :: _ => .ok (.help none)
  | "--" :: w :: rest => if names.contains w then
      (readWords (optionsOf w) (rest.length + 1) rest {}).bind (ofParsed w) else .error {}
  | w :: rest =>
    if w.startsWith "-" then .error {}
    else if names.contains w then
      (readWords (optionsOf w) (rest.length + 1) rest {}).bind (ofParsed w)
    else .error {}

end Command

end InterfaceDiscovery
