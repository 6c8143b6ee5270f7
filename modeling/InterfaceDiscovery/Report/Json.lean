import InterfaceDiscovery.Value
import InterfaceDiscovery.Text.Hex
import InterfaceDiscovery.Number.Decimal

namespace InterfaceDiscovery

namespace Json

def unitEscape (u : Nat) : List Char :=
  '\\' :: 'u' :: Text.hexDigits false 4 u

def escapeChar (c : Char) : List Char :=
  match c with
  | '"' => ['\\', '"']
  | '\\' => ['\\', '\\']
  | '\n' => ['\\', 'n']
  | '\r' => ['\\', 'r']
  | '\t' => ['\\', 't']
  | '\x08' => ['\\', 'b']
  | '\x0c' => ['\\', 'f']
  | _ =>
    if c.toNat < 0x20 then unitEscape c.toNat
    else if c.toNat < 0x80 then [c]
    else if c.toNat < 0x10000 then unitEscape c.toNat
    else
      let v := c.toNat - 0x10000
      unitEscape (0xD800 + v / 0x400) ++ unitEscape (0xDC00 + v % 0x400)

def quote (s : String) : String :=
  String.ofList ('"' :: s.toList.flatMap escapeChar ++ ['"'])

def indentation (level : Nat) : String :=
  String.ofList (List.replicate (2 * level) ' ')

def render (level : Nat) : Value → String
  | .null => "null"
  | .bool b => if b then "true" else "false"
  | .int n => toString n
  | .float x => DecimalStyle.standard.text x
  | .str s => quote s
  | .array [] => "[]"
  | .array items =>
    "[\n" ++ ",\n".intercalate (items.attach.map fun ⟨v, _⟩ =>
      indentation (level + 1) ++ render (level + 1) v) ++ "\n" ++ indentation level ++ "]"
  | .object [] => "\x7b\x7d"
  | .object fields =>
    "\x7b\n" ++ ",\n".intercalate (fields.attach.map fun ⟨(k, v), _⟩ =>
      indentation (level + 1) ++ quote k ++ ": " ++ render (level + 1) v) ++ "\n" ++
      indentation level ++ "\x7d"
termination_by v => sizeOf v
decreasing_by
  · have := List.sizeOf_lt_of_mem ‹_ ∈ _›
    simp only [Value.array.sizeOf_spec]
    omega
  · have := List.sizeOf_lt_of_mem ‹_ ∈ _›
    simp only [Prod.mk.sizeOf_spec] at this
    simp only [Value.object.sizeOf_spec]
    omega

end Json

end InterfaceDiscovery
