
namespace InterfaceDiscovery.Text

def isLineBoundary (c : Char) : Bool :=
  (0x0A ≤ c.toNat && c.toNat ≤ 0x0D) || (0x1C ≤ c.toNat && c.toNat ≤ 0x1E) || c.toNat == 0x85 ||
    c.toNat == 0x2028 || c.toNat == 0x2029

def linesFrom : List Char → List Char → List String
  | current, [] => if current.isEmpty then [] else [String.ofList current.reverse]
  | current, '\r' :: '\n' :: rest => String.ofList current.reverse :: linesFrom [] rest
  | current, c :: rest =>
    if isLineBoundary c then String.ofList current.reverse :: linesFrom [] rest
    else linesFrom (c :: current) rest

def lines (s : String) : List String :=
  linesFrom [] s.toList

theorem lines_empty : lines "" = [] := rfl

end InterfaceDiscovery.Text
