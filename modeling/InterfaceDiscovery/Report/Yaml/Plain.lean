
namespace InterfaceDiscovery

namespace Yaml

abbrev Pattern := List Char → List (List Char)

namespace Pattern

def empty : Pattern := fun cs => [cs]

def char (p : Char → Bool) : Pattern
  | c :: rest => if p c then [rest] else []
  | [] => []

def text (s : String) : Pattern := fun cs =>
  if s.toList.isPrefixOf cs then [cs.drop s.length] else []

def andThen (a b : Pattern) : Pattern := fun cs => (a cs).flatMap b

def orElse (a b : Pattern) : Pattern := fun cs => a cs ++ b cs

def optional (a : Pattern) : Pattern := orElse a empty

def repeatUpTo (a : Pattern) : Nat → Pattern
  | 0 => empty
  | n + 1 => fun cs => cs :: ((a cs).filter (·.length < cs.length)).flatMap (repeatUpTo a n)

def many (a : Pattern) : Pattern := fun cs => repeatUpTo a cs.length cs

def many1 (a : Pattern) : Pattern := andThen a (many a)

def matchesWhole (p : Pattern) (cs : List Char) : Bool :=
  (p cs).any fun rest => rest.isEmpty || rest == ['\n']

def anyOf : List Pattern → Pattern
  | [] => fun _ => []
  | p :: ps => orElse p (anyOf ps)

def all : List Pattern → Pattern
  | [] => empty
  | p :: ps => andThen p (all ps)

end Pattern

open Pattern

def digit : Pattern := char Char.isDigit

def oneOf (s : String) : Pattern := char (s.toList.contains ·)

def sign : Pattern := optional (oneOf "-+")

def booleanWord : Pattern :=
  anyOf (["yes", "Yes", "YES", "no", "No", "NO", "true", "True", "TRUE", "false", "False", "FALSE",
    "on", "On", "ON", "off", "Off", "OFF"].map text)

def sexagesimal : Pattern :=
  many1 (all [text ":", optional (oneOf "012345"), digit])

def floatNumeral : Pattern :=
  let exponent := optional (all [oneOf "eE", oneOf "-+", many1 digit])
  anyOf [
    all [sign, digit, many (oneOf "0123456789_"), text ".", many (oneOf "0123456789_"), exponent],
    all [text ".", digit, many (oneOf "0123456789_"), exponent],
    all [sign, digit, many (oneOf "0123456789_"), sexagesimal, text ".", many (oneOf "0123456789_")],
    all [sign, text ".", anyOf [text "inf", text "Inf", text "INF"]],
    all [text ".", anyOf [text "nan", text "NaN", text "NAN"]]]

def integerNumeral : Pattern :=
  anyOf [
    all [sign, text "0b", many1 (oneOf "01_")],
    all [sign, text "0", many1 (oneOf "01234567_")],
    all [sign, anyOf [text "0", all [oneOf "123456789", many (oneOf "0123456789_")]]],
    all [sign, text "0x", many1 (oneOf "0123456789abcdefABCDEF_")],
    all [sign, oneOf "123456789", many (oneOf "0123456789_"), sexagesimal]]

def nullWord : Pattern :=
  anyOf [text "~", text "null", text "Null", text "NULL", empty]

def timestamp : Pattern :=
  let oneOrTwo := all [digit, optional digit]
  let blanks := many1 (oneOf " \t")
  anyOf [
    all [digit, digit, digit, digit, text "-", digit, digit, text "-", digit, digit],
    all [digit, digit, digit, digit, text "-", oneOrTwo, text "-", oneOrTwo,
      anyOf [oneOf "Tt", blanks], oneOrTwo, text ":", digit, digit, text ":", digit, digit,
      optional (all [text ".", many digit]),
      optional (all [many (oneOf " \t"),
        anyOf [text "Z", all [oneOf "-+", oneOrTwo, optional (all [text ":", digit, digit])]]])]]

def indicatorWord : Pattern :=
  anyOf [text "<<", text "=", text "!", text "&", text "*"]

def readsAsOther (s : String) : Bool :=
  [booleanWord, floatNumeral, integerNumeral, nullWord, timestamp, indicatorWord].any
    (matchesWhole · s.toList)

end Yaml

end InterfaceDiscovery
