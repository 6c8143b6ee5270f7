import InterfaceDiscovery.Command.Line

namespace InterfaceDiscovery

namespace Command

def helpWidth : Nat := 78

def spaces (n : Nat) : String :=
  String.ofList (List.replicate n ' ')

def chunksOf (cs : List Char) : List String :=
  (cs.splitBy fun a b => (a == ' ') == (b == ' ')).map String.ofList

def isSpaceChunk (chunk : String) : Bool :=
  chunk.all (· == ' ')

/-- Takes chunks while they fit in `room` columns; `used` columns are already taken. Returns the
chunks taken and the rest. -/
def takeFitting (room : Nat) : Nat → List String → List String × List String
  | _, [] => ([], [])
  | used, c :: rest =>
    if used + c.length ≤ room then
      let (taken, left) := takeFitting room (used + c.length) rest
      (c :: taken, left)
    else ([], c :: rest)

/-- Fills lines from chunks: each line starts with its indentation (`first` for the first line,
`next` after it) and holds as many chunks as fit in `width`; a chunk too long for any line is cut
to fill the line it starts; runs of spaces at the ends of lines are dropped. `fuel` bounds the
number of lines. -/
def fillChunks (width : Nat) (first next : String) : Nat → List String → List String → List String
  | 0, _, _ => []
  | _, _, [] => []
  | fuel + 1, done, chunks =>
    let indent := if done.isEmpty then first else next
    let room := width - indent.length
    let chunks := match chunks with
      | c :: rest => if !done.isEmpty && isSpaceChunk c then rest else chunks
      | [] => []
    let (taken, left) := takeFitting room 0 chunks
    let (taken, left) := match left with
      | c :: rest =>
        if room < c.length then
          let used := (taken.map String.length).sum
          let cut := max (room - used) 1
          (taken ++ [String.ofList (c.toList.take cut)],
            let tail := String.ofList (c.toList.drop cut)
            if tail.isEmpty then rest else tail :: rest)
        else (taken, left)
      | [] => (taken, left)
    let taken := match taken.getLast? with
      | some c => if isSpaceChunk c then taken.dropLast else taken
      | none => taken
    let line := indent ++ String.join taken
    let done := if taken.isEmpty then done else done ++ [line]
    if left.isEmpty then done else fillChunks width first next fuel done left

def fill (width : Nat) (first next text : String) : List String :=
  let chunks := chunksOf text.toList
  fillChunks width first next (text.length + 1) [] chunks

/-- A paragraph of running text: its indentation, whether it is kept line by line, and its
text. -/
structure Paragraph where
  indent : Nat
  verbatim : Bool
  text : String

def closeParagraph (indent : Nat) (gathered : List String) : List Paragraph :=
  match gathered.reverse with
  | [] => []
  | l :: ls =>
    if l.trimAscii.toString == "\x08" then [⟨indent, true, "\n".intercalate ls⟩]
    else [⟨indent, false, " ".intercalate (l :: ls)⟩]

def paragraphsFrom : List String → Option Nat → List String → List Paragraph
  | [], indent, gathered => closeParagraph (indent.getD 0) gathered
  | line :: rest, indent, gathered =>
    if line.isEmpty then closeParagraph (indent.getD 0) gathered ++ paragraphsFrom rest none []
    else match indent with
      | some n => paragraphsFrom rest (some n) (line :: gathered)
      | none =>
        let stripped := String.ofList (line.toList.dropWhile Char.isWhitespace)
        paragraphsFrom rest (some (line.length - stripped.length)) (stripped :: gathered)

/-- A text laid out paragraph by paragraph, each indented by `indent` and its own indentation,
with a blank line between paragraphs. -/
def layoutText (width : Nat) (indent : String) (text : String) : String :=
  let ps := paragraphsFrom (text.splitOn "\n") none []
  "\n\n".intercalate (ps.map fun p =>
    let pad := indent ++ spaces p.indent
    if p.verbatim then "\n".intercalate ((p.text.splitOn "\n").map (pad ++ ·))
    else "\n".intercalate (fill width pad pad p.text))

def definitionList (indent : Nat) (rows : List (String × String)) : String :=
  let firstColumn := min ((rows.map (·.1.length)).max?.getD 0) 30 + 2
  let textWidth := max (helpWidth - firstColumn - 2) 10
  String.join (rows.map fun (term, about) =>
    let head := spaces indent ++ term
    if about.isEmpty then head ++ "\n"
    else
      let gap := if term.length ≤ firstColumn - 2 then spaces (firstColumn - term.length)
        else "\n" ++ spaces (firstColumn + indent)
      match (layoutText textWidth "" about).splitOn "\n" with
      | [] => head ++ gap ++ "\n"
      | l :: ls => head ++ gap ++ l ++ "\n" ++
          String.join (ls.map fun line => spaces (firstColumn + indent) ++ line ++ "\n"))

/-- Where the words of a short help end: all of them fit, a sentence ends after `count` words,
or the words run past the limit at word `index` with `total` columns used so far. -/
inductive HelpCut where
  | whole
  | sentence (count : Nat)
  | over (index total : Nat)

/-- Scans words for the end of a short help of at most `limit` columns; `index` words before
them took `total` columns. -/
def scanWords (limit : Nat) : List String → Nat → Nat → HelpCut
  | [], _, _ => .whole
  | w :: rest, index, total =>
    let total := total + w.length + (if index = 0 then 0 else 1)
    if limit < total then .over index total
    else if w.back == '.' then .sentence (index + 1)
    else if total == limit && !rest.isEmpty then .over index total
    else scanWords limit rest (index + 1) total

/-- Drops words from word `index` back until the words before it and `...` fit in `limit`
columns; `total` counts the columns of the words up to `index` and of the dots. -/
def keptWords (limit : Nat) (words : List String) : Nat → Nat → Nat
  | 0, _ => 0
  | index + 1, total =>
    let total := total - ((words.getD (index + 1) "").length + 1)
    if total ≤ limit then index + 1 else keptWords limit words index total

/-- The short help of a description: the words of its first paragraph up to the end of the first
sentence if that fits in `limit` columns, else as many words as fit with `...` after them. -/
def shortHelp (limit : Nat) (description : String) : String :=
  let firstParagraph := (description.splitOn "\n\n").headD ""
  let words := ((firstParagraph.split Char.isWhitespace).toList.map (·.toString)).filter
    (!·.isEmpty)
  let words := if words.head? == some "\x08" then words.drop 1 else words
  match scanWords limit words 0 0 with
  | .whole => " ".intercalate words
  | .sentence count => " ".intercalate (words.take count)
  | .over index total => " ".intercalate (words.take (keptWords limit words index (total + 3))) ++ "..."

def programDescription : String :=
  "Discover network interfaces and the default server address."

/-- The description of a command, as written in its documentation, lines after the first
indented by four spaces. -/
def descriptionOf : String → String
  | "interfaces" =>
    "List interfaces, their addresses and the default interface.\n\n    \\b\n    Examples:\n" ++
    "      netbind interfaces                       # Text table\n" ++
    "      netbind interfaces --skip docker         # Also skip docker*\n" ++
    "      netbind interfaces --format json         # Machine-readable output\n    "
  | "default" => "Print the interface and address a server binds to by default."
  | "lookup" => "Find the local interface for HOSTNAME (default: NETBIND_SERVER_HOSTNAME)."
  | _ => "Display netbind version information."

/-- A description with the common indentation of its later lines taken off, the first line
unindented, and empty lines at both ends removed. -/
def cleanDescription (text : String) : String :=
  match text.splitOn "\n" with
  | [] => ""
  | first :: rest =>
    let indentOf (l : String) : Option Nat :=
      let body := l.toList.dropWhile Char.isWhitespace
      if body.isEmpty then none else some (l.length - body.length)
    let common := (rest.filterMap indentOf).min?.getD 0
    let lines := String.ofList (first.toList.dropWhile Char.isWhitespace) :: rest.map fun l =>
      String.ofList (l.toList.drop common)
    "\n".intercalate ((lines.dropWhile String.isEmpty).reverse.dropWhile String.isEmpty).reverse

def usageOf : String → String
  | "lookup" => "[OPTIONS] [HOSTNAME]"
  | _ => "[OPTIONS]"

def OptionSpec.term (o : OptionSpec) : String :=
  let dashes (s : String) : Nat := (s.toList.takeWhile (· == '-')).length
  let short := o.spellings.filter (dashes · == 1)
  let long := o.spellings.filter (dashes · != 1)
  ", ".intercalate (short ++ long) ++ (if o.takesValue then " " ++ o.placeholder else "")

def page (program : String) (usage description : String) (options : List OptionSpec)
    (commands : List (String × String)) : String :=
  let usageLine := "\n".intercalate (fill helpWidth ("Usage: " ++ program ++ " ")
    (spaces ("Usage: " ++ program ++ " ").length) usage) ++ "\n"
  let text := cleanDescription description
  let about := if text.isEmpty then "" else "\n" ++ layoutText helpWidth (spaces 2) text ++ "\n"
  let optionPart := "\nOptions:\n" ++ definitionList 2 (options.map fun o => (o.term, o.help))
  let commandPart := if commands.isEmpty then ""
    else "\nCommands:\n" ++ definitionList 2 commands
  usageLine ++ about ++ optionPart ++ commandPart

def helpText : Option String → String
  | none =>
    let limit := helpWidth - 6 - ((names.map String.length).max?.getD 0)
    page "netbind" "[OPTIONS] COMMAND [ARGS]..." programDescription [helpOption]
      (names.map fun n => (n, shortHelp limit (descriptionOf n)))
  | some command =>
    page ("netbind " ++ command) (usageOf command) (descriptionOf command) (optionsOf command) []

end Command

end InterfaceDiscovery
