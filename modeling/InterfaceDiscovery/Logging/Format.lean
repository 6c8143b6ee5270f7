import InterfaceDiscovery.Logging.Record
import InterfaceDiscovery.Number.Decimal
import InterfaceDiscovery.Text.Quoted
import InterfaceDiscovery.Text.Hex
import InterfaceDiscovery.Text.Blank
import InterfaceDiscovery.Text.Word
import InterfaceDiscovery.Text.Digit

namespace InterfaceDiscovery

namespace RecordFormat

def messageOnly : String := "%(message)s"

def isFlag (c : Char) : Bool :=
  c == '#' || c == '0' || c == '+' || c == ' ' || c == '-'

def isAnyDigit (c : Char) : Bool :=
  (Text.digitValue? c).isSome

/-- Whether a character is a conversion letter when case is ignored: the ASCII letters of
`diouxefgcrsa` in either case, `%`, and the three letters that fold onto them (dotted capital I,
dotless small i and long s). -/
def isConversion (c : Char) : Bool :=
  "diouxefgcrsa%".toList.contains c.toLower || c.toNat == 0x130 || c.toNat == 0x131 ||
    c.toNat == 0x17F

/-- Skips a width or precision as accepted: `*` or decimal digits; none when neither stands
there and `required`. -/
def skipCount (required : Bool) : List Char → Option (List Char)
  | '*' :: r => some r
  | cs =>
    let digits := cs.takeWhile isAnyDigit
    if required && digits.isEmpty then none else some (cs.dropWhile isAnyDigit)

def fieldAt : List Char → Bool
  | '(' :: rest =>
    let key := rest.takeWhile Text.isWordChar
    match rest.dropWhile Text.isWordChar with
    | ')' :: more =>
      if key.isEmpty then false
      else
        let afterFlags := more.dropWhile isFlag
        match skipCount false afterFlags with
        | none => false
        | some afterWidth =>
          let afterPrecision := match afterWidth with
            | '.' :: r => skipCount true r
            | r => some r
          match afterPrecision with
          | some (c :: _) => isConversion c
          | _ => false
    | _ => false
  | _ => false

def hasField : List Char → Bool
  | [] => false
  | '%' :: rest => fieldAt rest || hasField rest
  | _ :: rest => hasField rest

def isValid (format : String) : Bool :=
  hasField format.toList

structure Spec where
  key : String
  flags : List Char
  width : Nat
  precision : Option Nat
  conversion : Char

def keyPart : Nat → List Char → List Char → Option (List Char × List Char)
  | _, _, [] => none
  | depth, acc, c :: rest =>
    if c == ')' then
      if depth == 0 then some (acc.reverse, rest) else keyPart (depth - 1) (c :: acc) rest
    else if c == '(' then keyPart (depth + 1) (c :: acc) rest
    else keyPart depth (c :: acc) rest

def countValue (ds : List Char) : Nat :=
  ds.foldl (fun a c => a * 10 + (c.toNat - 48)) 0

/-- Reads a field specification after `%(`: flags, ASCII width and precision, at most one
length letter, and the conversion letter. A width or precision given as `*` cannot be read. -/
def spec? (cs : List Char) : Option (Spec × List Char) := do
  let (key, rest) ← keyPart 0 [] cs
  let flags := rest.takeWhile isFlag
  let rest := rest.dropWhile isFlag
  let widthDigits := rest.takeWhile Char.isDigit
  let rest := rest.dropWhile Char.isDigit
  let (precision, rest) := match rest with
    | '.' :: r => (some (countValue (r.takeWhile Char.isDigit)), r.dropWhile Char.isDigit)
    | r => (none, r)
  let rest := match rest with
    | c :: r => if c == 'h' || c == 'l' || c == 'L' then r else c :: r
    | [] => []
  match rest with
  | c :: more => some (⟨String.ofList key, flags, countValue widthDigits, precision, c⟩, more)
  | [] => none

def pad (sp : Spec) (s : String) : String :=
  let fill := String.ofList (List.replicate (sp.width - s.length) ' ')
  if sp.flags.contains '-' then s ++ fill else fill ++ s

/-- A number laid out in the width: sign, base prefix and digits; under `0` (and not `-`) the
zeros go between the prefix and the digits. -/
def padNumber (sp : Spec) (sign pre body : String) : String :=
  let used := sign.length + pre.length + body.length
  if sp.flags.contains '0' && !sp.flags.contains '-' then
    sign ++ pre ++ String.ofList (List.replicate (sp.width - used) '0') ++ body
  else pad sp (sign ++ pre ++ body)

def signOf (sp : Spec) (negative : Bool) : String :=
  if negative then "-" else if sp.flags.contains '+' then "+"
  else if sp.flags.contains ' ' then " " else ""

def integerText (sp : Spec) (n : Int) (digits : Nat → List Char) (pre : String) : String :=
  let body := digits n.natAbs
  let body := List.replicate ((sp.precision.getD 0) - body.length) '0' ++ body
  padNumber sp (signOf sp (n < 0)) (if sp.flags.contains '#' then pre else "")
    (String.ofList body)

/-- The exponent part of a number in exponent notation: the letter, a sign and at least two
digits. -/
def exponentText (letter : Char) (e : Int) : String :=
  let digits := toString e.natAbs
  letter.toString ++ (if e < 0 then "-" else "+") ++
    (if digits.length < 2 then "0" ++ digits else digits)

/-- The digits of a mantissa with a point after the first; `alt` keeps a point with nothing
after it; `trim` drops trailing zeros after the point (and the point when none remain). -/
def mantissaText (ds : List Char) (alt trim : Bool) : String :=
  match ds with
  | [] => ""
  | d :: rest =>
    let rest := if trim then (rest.reverse.dropWhile (· == '0')).reverse else rest
    if rest.isEmpty then String.ofList (if alt then [d, '.'] else [d])
    else String.ofList (d :: '.' :: rest)

-- A magnitude in fixed (`f`), exponent (`e`) or general (`g`) notation, `upper` for the capital
-- letter of the exponent.
def realBody (sp : Spec) (conv : Char) (upper : Bool) (x : Binary.Ratio) : String :=
  let alt := sp.flags.contains '#'
  let letter := if upper then 'E' else 'e'
  match conv with
  | 'f' =>
    let body := Binary.fixedText x (sp.precision.getD 6)
    if alt && sp.precision == some 0 then body ++ "." else body
  | 'e' =>
    let p := sp.precision.getD 6
    let (n, e) := Binary.significant x (p + 1)
    mantissaText (Binary.digitsIn (p + 1) n) alt false ++ exponentText letter e
  | _ =>
    let p := match sp.precision with
      | some 0 => 1
      | some p => p
      | none => 6
    let (n, e) := Binary.significant x p
    if -4 ≤ e && e < p then
      -- fixed notation with p - 1 - e digits after the point
      let body := Binary.fixedText x (p - 1 - e).toNat
      if alt then (if body.contains '.' then body else body ++ ".")
      else if !body.contains '.' then body
      else String.ofList ((body.toList.reverse.dropWhile (· == '0')).dropWhile (· == '.')).reverse
    else mantissaText (Binary.digitsIn p n) alt (!alt) ++ exponentText letter e

-- A number in one of the notations `e`, `f`, `g` (or their capitals): an integer by its exact
-- value, a double by the exact value of its bits; infinities and NaN by name, NaN without sign.
def realText (sp : Spec) (c : Char) : Attribute → Option String
  | .integer n => (Binary.nearestDouble? n.natAbs).map fun v =>
    padNumber sp (signOf sp (n < 0)) "" (realBody sp c.toLower c.isUpper (v, 1))
  | .real x =>
    match Binary.ofFloat? x with
    | some b => some (padNumber sp (signOf sp b.negative) ""
        (realBody sp c.toLower c.isUpper (Binary.ratioPow2 b.significand b.exponent)))
    | none =>
      let word := if x.isNaN then "nan" else "inf"
      some (padNumber sp (signOf sp (!x.isNaN && x < 0)) "" (if c.isUpper then word.toUpper else word))
  | _ => none

def fieldText (sp : Spec) (a : Attribute) : Option String :=
  let cut (s : String) : String := match sp.precision with
    | some p => String.ofList (s.toList.take p)
    | none => s
  let shown : String := match a with
    | .text s => s
    | .integer n => toString n
    | .real x => DecimalStyle.standard.text x
    | .other s => s
  let quoted (asciiOnly : Bool) : String := match a with
    | .text s => Text.quoteWith asciiOnly s
    | _ => shown
  let decimal := fun (k : Nat) => (toString k).toList
  match sp.conversion, a with
  | 's', .integer n => if Numeral.writable n then some (pad sp (cut shown)) else none
  | 'r', .integer n => if Numeral.writable n then some (pad sp (cut shown)) else none
  | 'a', .integer n => if Numeral.writable n then some (pad sp (cut shown)) else none
  | 's', _ => some (pad sp (cut shown))
  | 'r', _ => some (pad sp (cut (quoted false)))
  | 'a', _ => some (pad sp (cut (quoted true)))
  | 'c', .text s => if s.length == 1 then some (pad sp s) else none
  | 'c', .integer n =>
    if 0 ≤ n && n < 0x110000 then some (pad sp (Char.ofNat n.toNat).toString) else none
  | 'd', a => (a.integerPart?.filter Numeral.writable).map fun n => integerText sp n decimal ""
  | 'i', a => (a.integerPart?.filter Numeral.writable).map fun n => integerText sp n decimal ""
  | 'u', a => (a.integerPart?.filter Numeral.writable).map fun n => integerText sp n decimal ""
  | 'x', .integer n => some (integerText sp n (Text.hexNumeral false) "0x")
  | 'X', .integer n => some (integerText sp n (Text.hexNumeral true) "0X")
  | 'o', .integer n => some (integerText sp n (fun k => Nat.toDigits 8 k) "0o")
  | c, a =>
    if c == 'e' || c == 'f' || c == 'g' || c == 'E' || c == 'F' || c == 'G' then realText sp c a
    else none

inductive Piece where
  | literal (c : Char)
  | field (sp : Spec)

def pieces? : Nat → List Char → Option (List Piece)
  | 0, _ => none
  | _, [] => some []
  | fuel + 1, '%' :: '%' :: rest => (pieces? fuel rest).map (.literal '%' :: ·)
  | fuel + 1, '%' :: '(' :: rest => do
    let (sp, more) ← spec? rest
    let ps ← pieces? fuel more
    some (.field sp :: ps)
  | _ + 1, '%' :: _ => none
  | fuel + 1, c :: rest => (pieces? fuel rest).map (.literal c :: ·)

def render (r : Record) (format : String) : Option String := do
  let ps ← pieces? (format.length + 1) format.toList
  let texts ← ps.mapM fun p => match p with
    | .literal c => some c.toString
    | .field sp => (r.attribute? sp.key).bind (fieldText sp)
  some (String.join texts)

end RecordFormat

end InterfaceDiscovery
