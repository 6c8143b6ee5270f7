import InterfaceDiscovery.Calendar.Date
import InterfaceDiscovery.Text.Case

namespace InterfaceDiscovery

namespace Date

inductive PadFlag where
  | unset
  | zeros
  | spaces
  | noPad
  deriving DecidableEq

structure Conversion where
  pad : PadFlag := .unset
  upper : Bool := false
  otherCase : Bool := false
  width : Nat := 0
  modifier : Option Char := none
  letter : Option Char := none
  written : String := ""

inductive Piece where
  | literal (c : Char)
  | conversion (c : Conversion)

def widthLimit : Nat := 2147483647

def isFlag (c : Char) : Bool :=
  c == '0' || c == '_' || c == '-' || c == '^' || c == '#'

def readConversion (rest : List Char) : Conversion × Nat :=
  let flags := rest.takeWhile isFlag
  let afterFlags := rest.dropWhile isFlag
  let widthDigits := afterFlags.takeWhile Char.isDigit
  let afterWidth := afterFlags.dropWhile Char.isDigit
  let (modifier, afterModifier) := match afterWidth with
    | 'E' :: r => (some 'E', r)
    | 'O' :: r => (some 'O', r)
    | r => (none, r)
  let base : Conversion := flags.foldl (fun c f => match f with
      | '0' => { c with pad := .zeros }
      | '_' => { c with pad := .spaces }
      | '-' => { c with pad := .noPad }
      | '^' => { c with upper := true }
      | _ => { c with otherCase := true }) {}
  let width := widthDigits.foldl (fun w d => min widthLimit (w * 10 + (d.toNat - 48))) 0
  let letter := afterModifier.head?
  let used := flags.length + widthDigits.length + (if modifier.isSome then 1 else 0) +
    (if letter.isSome then 1 else 0)
  ({ base with width, modifier, letter, written := String.ofList ('%' :: rest.take used) }, used)

def piecesOf : List Char → List Piece
  | [] => []
  | '%' :: rest =>
    .conversion (readConversion rest).1 :: piecesOf (rest.drop (readConversion rest).2)
  | c :: rest => .literal c :: piecesOf rest
termination_by cs => cs.length
decreasing_by
  all_goals simp only [List.length_cons, List.length_drop]
  all_goals omega

def padTo (width : Nat) (fill : Char) (s : String) : String :=
  String.ofList (List.replicate (width - s.length) fill) ++ s

theorem length_padTo (width : Nat) (fill : Char) (s : String) :
    (padTo width fill s).length = max width s.length := by
  simp [padTo, String.length_append, String.length_ofList]
  omega

/-- A field placed in the width of a specification, padded with zeros under the flag `0` and
with spaces otherwise. -/
def place (pad : PadFlag) (width : Nat) (s : String) : String :=
  padTo width (if pad = .zeros then '0' else ' ') s

def lowerAscii (s : String) : String :=
  String.ofList (s.toList.map Char.toLower)

inductive Case where
  | asIs
  | upper
  | lower

def Case.apply : Case → String → String
  | .asIs, s => s
  | .upper, s => Text.upperEach s
  | .lower, s => lowerAscii s

def textField (c : Conversion) (case : Case) (s : String) : String :=
  place c.pad c.width (case.apply s)

def nameCase (c : Conversion) : Case :=
  if c.upper || c.otherCase then .upper else .asIs

def lowerableCase (c : Conversion) : Case :=
  if c.otherCase then .lower else if c.upper then .upper else .asIs

def numberField (c : Conversion) (least : Nat) (value : Int) : String :=
  let digits := max least c.width
  let sign := if value < 0 then "-" else ""
  let magnitude := toString value.natAbs
  let text := sign ++ magnitude
  if c.pad = .noPad || digits ≤ text.length then place c.pad c.width text
  else
    let padding := digits - text.length
    let rest := c.width - padding
    if c.pad = .spaces then padTo padding ' ' "" ++ place c.pad rest text
    else sign ++ padTo padding '0' "" ++ place c.pad rest magnitude

def spacedNumberField (c : Conversion) (least : Nat) (value : Int) : String :=
  numberField { c with pad := if c.pad = .zeros || c.pad = .noPad then c.pad else .spaces }
    least value

def asWritten (c : Conversion) : String :=
  textField c (if c.upper then .upper else .asIs) c.written

def isoYear (d : Date) : Int := d.isoWeek.1

def weekOfYear (d : Date) (sunday : Bool) : Nat :=
  let wd := d.weekdayFromSunday
  let offset := if sunday then wd else (wd + 6) % 7
  (d.dayOfYear - 1 + 7 - offset) / 7

def simpleField (d : Date) (c : Conversion) : String :=
  let wd := d.weekdayFromSunday
  let dayName := (weekdayNames[wd]?).getD ""
  let monthName := (monthNames[d.month - 1]?).getD ""
  let short (s : String) : String := String.ofList (s.toList.take 3)
  let noE (f : Unit → String) : String := if c.modifier = some 'E' then asWritten c else f ()
  let noO (f : Unit → String) : String := if c.modifier = some 'O' then asWritten c else f ()
  let plain (f : Unit → String) : String := if c.modifier.isSome then asWritten c else f ()
  match c.letter with
  | some '%' => textField c .asIs "%"
  | some 'a' => plain fun _ => textField c (nameCase c) (short dayName)
  | some 'A' => plain fun _ => textField c (nameCase c) dayName
  | some 'b' | some 'h' =>
    -- the case flag takes effect before the modifier is refused
    textField c (nameCase c) (if c.modifier = some 'E' then c.written else short monthName)
  | some 'B' => noE fun _ => textField c (nameCase c) monthName
  | some 'C' => numberField c 1 (Int.fdiv d.year 100)
  | some 'd' => noE fun _ => numberField c 2 d.day
  | some 'e' => noE fun _ => spacedNumberField c 2 d.day
  | some 'g' => noE fun _ => numberField c 2 (Int.emod d.isoYear 100)
  | some 'G' => noE fun _ => numberField c 1 d.isoYear
  | some 'H' => noE fun _ => numberField c 2 0
  | some 'I' => noE fun _ => numberField c 2 12
  | some 'j' => noE fun _ => numberField c 3 d.dayOfYear
  | some 'k' => noE fun _ => spacedNumberField c 2 0
  | some 'l' => noE fun _ => spacedNumberField c 2 12
  | some 'm' => noE fun _ => numberField c 2 d.month
  | some 'M' => noE fun _ => numberField c 2 0
  | some 'n' => textField c .asIs "\n"
  | some 'p' => textField c (lowerableCase c) "AM"
  | some 'P' => textField c .lower "AM"
  | some 's' => place c.pad c.width (toString (d.epochDay * 86400))
  | some 'S' => noE fun _ => numberField c 2 0
  | some 't' => textField c .asIs "\t"
  | some 'u' => numberField c 1 (if wd == 0 then 7 else wd)
  | some 'U' => noE fun _ => numberField c 2 (d.weekOfYear true)
  | some 'V' => noE fun _ => numberField c 2 d.isoWeek.2
  | some 'w' => noE fun _ => numberField c 1 wd
  | some 'W' => noE fun _ => numberField c 2 (d.weekOfYear false)
  | some 'y' => numberField c 2 (Int.emod d.year 100)
  | some 'Y' => noO fun _ => numberField c 1 d.year
  | some 'z' => ""
  | some 'Z' => if c.pad = .noPad then "" else textField c .asIs ""
  | _ => asWritten c

def fixedFormat? (c : Conversion) : Option String :=
  match c.letter, c.modifier with
  | some 'c', m => if m = some 'O' then none else some "%a %b %e %H:%M:%S %Y"
  | some 'x', m => if m = some 'O' then none else some "%m/%d/%y"
  | some 'X', m => if m = some 'O' then none else some "%H:%M:%S"
  | some 'D', none => some "%m/%d/%y"
  | some 'F', none => some "%Y-%m-%d"
  | some 'r', _ => some "%I:%M:%S %p"
  | some 'R', _ => some "%H:%M"
  | some 'T', _ => some "%H:%M:%S"
  | _, _ => none

def isFixedLetter : Option Char → Bool
  | some 'c' | some 'x' | some 'X' | some 'D' | some 'F' | some 'r' | some 'R' | some 'T' => true
  | _ => false

def renderSimple (d : Date) (ps : List Piece) : String :=
  String.join (ps.map fun
    | .literal ch => ch.toString
    | .conversion c => d.simpleField c)

def render (d : Date) (ps : List Piece) : String :=
  String.join (ps.map fun
    | .literal ch => ch.toString
    | .conversion c =>
      if isFixedLetter c.letter then
        match fixedFormat? c with
        | some fmt =>
          let inner := d.renderSimple (piecesOf fmt.toList)
          let placed := place c.pad c.width inner
          if c.upper then Text.upperEach placed else placed
        | none => asWritten c
      else d.simpleField c)

/-- The format after the microsecond and time zone specifications are replaced: `%f` by six
zeros, `%z` and `%Z` by nothing; any other `%` takes the character after it along unchanged. -/
def fillNaive : List Char → List Char
  | [] => []
  | '%' :: 'f' :: rest => "000000".toList ++ fillNaive rest
  | '%' :: 'z' :: rest => fillNaive rest
  | '%' :: 'Z' :: rest => fillNaive rest
  | '%' :: c :: rest => '%' :: c :: fillNaive rest
  | c :: rest => c :: fillNaive rest

/-- The largest buffer tried for a format of `size` characters: 1024 characters, doubled until
it holds 256 for each character of the format. -/
def bufferFor (size : Nat) : Nat :=
  go size 1024
where
  /-- Doubles `buffer` until it holds 256 characters per character of the format; `fuel`
  bounds the doublings. -/
  go : Nat → Nat → Nat
    | 0, buffer => buffer
    | fuel + 1, buffer => if 256 * size ≤ buffer then buffer else go fuel (2 * buffer)

def format (d : Date) (fmt : String) : String :=
  let filled := String.ofList (fillNaive fmt.toList)
  let out := d.render (piecesOf filled.toList)
  if out.length < bufferFor filled.length then out else ""

end Date

end InterfaceDiscovery
