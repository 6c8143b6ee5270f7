import InterfaceDiscovery.Calendar.Format

namespace InterfaceDiscovery

structure Version where
  major : Int
  minor : Int
  patch : Int
  hash : String
  date : Date

namespace Version

def current : Version :=
  ⟨0, 1, 0, "", ⟨2026, 10, 18⟩⟩

def text (v : Version) : String :=
  toString v.major ++ "." ++ toString v.minor ++ "." ++ toString v.patch

def hashPrefix (v : Version) (n : Int) : String :=
  let cs := v.hash.toList
  String.ofList (if 0 ≤ n then cs.take n.toNat else cs.take (cs.length - n.natAbs))

def dateText (v : Version) (fmt : String := "%Y-%m-%d") : String :=
  v.date.format fmt

def fullText (v : Version) : String :=
  v.text ++ " (hash: " ++ v.hashPrefix 8 ++ ", date: " ++ v.dateText ++ ")"

end Version

end InterfaceDiscovery
