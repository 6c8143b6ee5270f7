import InterfaceDiscovery.Report.Yaml.Plain
import InterfaceDiscovery.Value
import InterfaceDiscovery.Text.Hex
import InterfaceDiscovery.Number.Decimal

namespace InterfaceDiscovery

namespace Yaml

def bestWidth : Nat := 80

def bestIndent : Nat := 2

structure Writer where
  chunks : List String := []
  column : Nat := 0
  whitespace : Bool := true
  indention : Bool := true
  indent : Option Nat := none

namespace Writer

def text (w : Writer) : String :=
  String.join w.chunks.reverse

def put (w : Writer) (s : String) : Writer :=
  { w with chunks := s :: w.chunks, column := w.column + s.length }

def indicator (w : Writer) (s : String) (needSpace : Bool) (space : Bool) (indention : Bool) :
    Writer :=
  let w := w.put (if w.whitespace || !needSpace then s else " " ++ s)
  { w with whitespace := space, indention := w.indention && indention }

def lineBreak (w : Writer) (br : String := "\n") : Writer :=
  { w with chunks := br :: w.chunks, column := 0, whitespace := true, indention := true }

def newIndentLine (w : Writer) : Writer :=
  let indent := w.indent.getD 0
  let w := if !w.indention || indent < w.column || (w.column == indent && !w.whitespace)
    then w.lineBreak else w
  if w.column < indent then
    { w.put (String.ofList (List.replicate (indent - w.column) ' ')) with whitespace := true }
  else w

/-- Enters a nesting level: the first block level is column zero, a flow level or a scalar
starts two columns in, and an indentless sequence stays where it is. -/
def deeper (w : Writer) (flow indentless : Bool) : Writer :=
  match w.indent with
  | none => { w with indent := some (if flow then bestIndent else 0) }
  | some i => if indentless then w else { w with indent := some (i + bestIndent) }

end Writer

def isBreak (c : Char) : Bool :=
  c == '\n' || c == '\x85' || c == '\u2028' || c == '\u2029'

def isSpaceOrBreak (c : Char) : Bool :=
  c == '\x00' || c == ' ' || c == '\t' || c == '\r' || isBreak c

def isSpecial (c : Char) : Bool :=
  !(c == '\n' || (0x20 ≤ c.toNat && c.toNat ≤ 0x7E))

structure Analysis where
  empty : Bool
  multiline : Bool
  allowPlain : Bool
  allowSingle : Bool

def indicatorsAt (cs : Array Char) (i : Nat) (c : Char) : Bool :=
  let followedBySpace := i + 1 ≥ cs.size || isSpaceOrBreak (cs.getD (i + 1) ' ')
  let precededBySpace := i == 0 || isSpaceOrBreak (cs.getD (i - 1) ' ')
  if i == 0 then
    "#,[]\x7b\x7d&*!|>\x27\"%@\x60".toList.contains c || (c == '?' && followedBySpace) ||
      (c == ':' && followedBySpace) || (c == '-' && followedBySpace)
  else (c == ':' && followedBySpace) || (c == '#' && precededBySpace)

def analyze (s : String) : Analysis :=
  let cs := s.toList
  if cs.isEmpty then ⟨true, false, true, true⟩
  else
    let arr := cs.toArray
    let n := cs.length
    let documentMark := s.startsWith "---" || s.startsWith "..."
    let blockIndicators := documentMark || (cs.zipIdx.any fun (c, i) => indicatorsAt arr i c)
    let lineBreaks := cs.any isBreak
    let special := cs.any isSpecial
    let leadingSpace := cs.head? == some ' '
    let trailingSpace := cs.getLast? == some ' '
    let leadingBreak := (cs.head?.map isBreak).getD false
    let trailingBreak := (cs.getLast?.map isBreak).getD false
    let pairs := cs.zip cs.tail
    let breakSpace := pairs.any fun (a, b) => isBreak a && b == ' '
    let spaceBreak := pairs.any fun (a, b) => a == ' ' && isBreak b
    let plain := !(leadingSpace || leadingBreak || trailingSpace || trailingBreak || breakSpace ||
      spaceBreak || special || lineBreaks || blockIndicators)
    let single := !(breakSpace || spaceBreak || special)
    let _ := n
    ⟨false, lineBreaks, plain, single⟩

inductive Style where
  | plain
  | single
  | double

/-- The style of a text scalar: plain when allowed and unambiguous, else single quotes when
allowed, else double quotes. Keys are never written over several lines in single quotes, and
an empty or multi-line key is never plain. -/
def chooseStyle (s : String) (key : Bool) : Style :=
  let a := analyze s
  if !readsAsOther s && !(key && (a.empty || a.multiline)) && a.allowPlain then .plain
  else if a.allowSingle && !(key && a.multiline) then .single
  else .double

inductive Run where
  | spaces (n : Nat)
  | breaks (cs : List Char)
  | word (cs : List Char)

def runs (cs : List Char) : List Run :=
  let kind := fun (c : Char) => if c == ' ' then 0 else if isBreak c then 1 else 2
  (cs.splitBy fun a b => kind a == kind b).map fun g =>
    match g with
    | c :: _ => if c == ' ' then .spaces g.length else if isBreak c then .breaks g else .word g
    | [] => .word []

def writePlain (w : Writer) (s : String) (split : Bool) : Writer :=
  if s.isEmpty then w
  else
    let w := if w.whitespace then w else w.put " "
    let w := { w with whitespace := false, indention := false }
    (runs s.toList).foldl (fun w r => match r with
      | .word cs => w.put (String.ofList cs)
      | .spaces n =>
        if n == 1 && bestWidth < w.column && split then
          { w.newIndentLine with whitespace := false, indention := false }
        else w.put (String.ofList (List.replicate n ' '))
      | .breaks cs => w.put (String.ofList cs)) w

/-- Writes the breaks of a single-quoted scalar: an extra break before a run that starts with a
newline, then each break, then the indentation. -/
def writeBreaks (w : Writer) (cs : List Char) : Writer :=
  let w := if cs.head? == some '\n' then w.lineBreak else w
  let w := cs.foldl (fun w c => if c == '\n' then w.lineBreak else w.lineBreak c.toString) w
  w.newIndentLine

def writeSingle (w : Writer) (s : String) (split : Bool) : Writer :=
  let w := w.indicator "'" true false false
  let rs := runs s.toList
  let count := rs.length
  let w := (rs.zipIdx.foldl (fun w (r, i) => match r with
    | .word cs =>
      let parts := cs.splitOn '\''
      (parts.zipIdx.foldl (fun w (p, j) =>
        let w := if p.isEmpty then w else w.put (String.ofList p)
        if j + 1 < parts.length then w.put "''" else w) w)
    | .spaces n =>
      if n == 1 && bestWidth < w.column && split && i != 0 && i + 1 != count then w.newIndentLine
      else w.put (String.ofList (List.replicate n ' '))
    | .breaks cs => writeBreaks w cs) w)
  w.indicator "'" false false false

def escape (c : Char) : String :=
  match c with
  | '\x00' => "\\0"
  | '\x07' => "\\a"
  | '\x08' => "\\b"
  | '\t' => "\\t"
  | '\n' => "\\n"
  | '\x0b' => "\\v"
  | '\x0c' => "\\f"
  | '\r' => "\\r"
  | '\x1b' => "\\e"
  | '"' => "\\\""
  | '\\' => "\\\\"
  | '\x85' => "\\N"
  | '\xa0' => "\\_"
  | '\u2028' => "\\L"
  | '\u2029' => "\\P"
  | _ =>
    if c.toNat ≤ 0xFF then "\\x" ++ String.ofList (Text.hexDigits true 2 c.toNat)
    else if c.toNat ≤ 0xFFFF then "\\u" ++ String.ofList (Text.hexDigits true 4 c.toNat)
    else "\\U" ++ String.ofList (Text.hexDigits true 8 c.toNat)

def needsEscape (c : Char) : Bool :=
  c == '"' || c == '\\' || c == '\x85' || c == '\u2028' || c == '\u2029' || c == '\ufeff' ||
    !(0x20 ≤ c.toNat && c.toNat ≤ 0x7E)

/-- The body of a double-quoted scalar from position `stop`, with the pending plain text
starting at `start`. -/
def writeDoubleFrom (cs : Array Char) (split : Bool) (start stop : Nat) (w : Writer) : Writer :=
  if h : stop ≤ cs.size then
    let ch := cs[stop]?
    let escaped := match ch with
      | none => true
      | some c => needsEscape c
    let (w, start) :=
      if escaped then
        let (w, start) := if start < stop
          then (w.put (String.ofList ((cs.extract start stop).toList)), stop) else (w, start)
        match ch with
        | some c => (w.put (escape c), stop + 1)
        | none => (w, start)
      else (w, start)
    let fold := 0 < stop && stop + 1 < cs.size && (ch == some ' ' || stop ≤ start) &&
      bestWidth + start < w.column + stop && split
    let (w, start) :=
      if fold then
        let w := w.put (String.ofList ((cs.extract start stop).toList) ++ "\\")
        let start := if start < stop then stop else start
        let w := { w.newIndentLine with whitespace := false, indention := false }
        let w := if cs[start]? == some ' ' then w.put "\\" else w
        (w, start)
      else (w, start)
    writeDoubleFrom cs split start (stop + 1) w
  else w
termination_by cs.size + 1 - stop

def writeDouble (w : Writer) (s : String) (split : Bool) : Writer :=
  let w := w.indicator "\"" true false false
  let w := writeDoubleFrom s.toList.toArray split 0 0 w
  w.indicator "\"" false false false

def writeText (w : Writer) (s : String) (key : Bool) : Writer :=
  let outer := w.indent
  let w := w.deeper true false
  let w := match chooseStyle s key with
    | .plain => writePlain w s (!key)
    | .single => writeSingle w s (!key)
    | .double => writeDouble w s (!key)
  { w with indent := outer }

def writeWord (w : Writer) (s : String) (key : Bool) : Writer :=
  let outer := w.indent
  let w := writePlain (w.deeper true false) s (!key)
  { w with indent := outer }

/-- The YAML word of a double: `.nan`, `.inf` and `-.inf` for the special values, otherwise the
shortest decimal in lowercase, with `.0` put before an exponent that follows a point-less
mantissa. -/
def floatWord (x : Float) : String :=
  if x.isNaN then ".nan"
  else if x.isInf then (if x < 0 then "-.inf" else ".inf")
  else
    let t := DecimalStyle.standard.text x
    if !t.contains '.' && t.contains 'e' then
      match t.splitOn "e" with
      | [m, e] => m ++ ".0e" ++ e
      | _ => t
    else t

def isSimpleKey (s : String) : Bool :=
  let a := analyze s
  s.length + 5 < 128 && !a.empty && !a.multiline

def writeEmpty (w : Writer) (opening closing : String) : Writer :=
  (w.indicator opening true true false).indicator closing false false false

def sortEntries (fields : List (String × Value)) : List (String × Value) :=
  fields.mergeSort fun a b => decide (a.1 ≤ b.1)

def writeNode (w : Writer) (v : Value) (inMapping : Bool) : Writer :=
  match v with
  | .null => writeWord w "null" false
  | .bool b => writeWord w (if b then "true" else "false") false
  | .int n => writeWord w (toString n) false
  | .float x => writeWord w (floatWord x) false
  | .str s => writeText w s false
  | .array [] => writeEmpty w "[" "]"
  | .array items =>
    let outer := w.indent
    let w := w.deeper false (inMapping && !w.indention)
    let w := items.attach.foldl (fun w ⟨item, _⟩ =>
      let w := (w.newIndentLine).indicator "-" true false true
      writeNode w item false) w
    { w with indent := outer }
  | .object [] => writeEmpty w "\x7b" "\x7d"
  | .object fields =>
    let outer := w.indent
    let w := w.deeper false false
    let w := (sortEntries fields).attach.foldl (fun w ⟨(k, value), _⟩ =>
      let w := w.newIndentLine
      if isSimpleKey k then
        let w := writeText w k true
        let w := w.indicator ":" false false false
        writeNode w value true
      else
        let w := w.indicator "?" true false true
        let w := writeText w k false
        let w := w.newIndentLine.indicator ":" true false true
        writeNode w value true) w
    { w with indent := outer }
termination_by sizeOf v
decreasing_by
  · have := List.sizeOf_lt_of_mem ‹_ ∈ items›
    simp only [Value.array.sizeOf_spec]
    omega
  · have := List.sizeOf_lt_of_mem (List.mem_mergeSort.1 ‹_ ∈ sortEntries fields›)
    simp only [Prod.mk.sizeOf_spec] at this
    simp only [Value.object.sizeOf_spec]
    omega
  · have := List.sizeOf_lt_of_mem (List.mem_mergeSort.1 ‹_ ∈ sortEntries fields›)
    simp only [Prod.mk.sizeOf_spec] at this
    simp only [Value.object.sizeOf_spec]
    omega

def document (v : Value) : String :=
  let w := writeNode {} v false
  (w.newIndentLine).text

end Yaml

end InterfaceDiscovery
