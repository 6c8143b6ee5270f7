import InterfaceDiscovery.Interface.Basic
import InterfaceDiscovery.Address.Parser
import InterfaceDiscovery.NetworkError

namespace InterfaceDiscovery

inductive Family where
  | inet
  | inet6
  | link
  | other
  deriving DecidableEq

structure AddressEntry where
  family : Family
  address : String

structure LinkStats where
  isUp : Option Bool := none
  mtu : Option Int := none

structure HostSnapshot where
  entries : List (String × List AddressEntry) := []
  stats : List (String × LinkStats) := []
  entriesFailure : Option String := none
  statsFailure : Option String := none
  resolver : List (String × Except String (List String)) := []

namespace HostSnapshot

def readHostAddress? (raw : String) : Option Address :=
  Address.parse? (String.ofList (raw.toList.takeWhile (· != '%')))

def interfaceOf (h : HostSnapshot) (name : String) (entries : List AddressEntry) : Interface :=
  let addresses := (entries.filterMap fun e =>
    if e.family == .inet || e.family == .inet6 then readHostAddress? e.address else none).eraseDups
  let mac := (entries.filter (·.family == .link)).getLast?.map (·.address)
  let stats := (h.stats.find? (·.1 == name)).map (·.2)
  { name, displayName := some name, addresses, macAddress := mac,
    isUp := stats.bind (·.isUp), mtu := stats.bind (·.mtu) }

def aliasBase? (name : String) : Option String :=
  if ':' ∈ name.toList then some (String.ofList (name.toList.takeWhile (· != ':'))) else none

theorem aliasBase?_eq_some_iff {n b : String} :
    aliasBase? n = some b ↔ ':' ∈ n.toList ∧ b = String.ofList (n.toList.takeWhile (· != ':')) := by
  unfold aliasBase?
  split <;> simp_all [eq_comm]

theorem aliasBase?_eq_none_iff {n : String} : aliasBase? n = none ↔ ':' ∉ n.toList := by
  unfold aliasBase?
  split <;> simp_all

-- A base has no colon: it stops before the first one.
theorem colon_not_mem_of_aliasBase? {n b : String} (h : aliasBase? n = some b) : ':' ∉ b.toList := by
  obtain ⟨-, rfl⟩ := aliasBase?_eq_some_iff.mp h
  rw [String.toList_ofList]
  intro hc
  have hall : (n.toList.takeWhile (· != ':')).all (· != ':') = true := List.all_takeWhile
  have hcolon := List.all_eq_true.mp hall ':' hc
  simp at hcolon

def isNestedAlias (names : List String) (name : String) : Bool :=
  match aliasBase? name with
  | some base => names.contains base
  | none => false

def names (h : HostSnapshot) : List String :=
  (h.entries.map (·.1)).mergeSort fun a b => decide (a ≤ b)

/-- The interface reported under a name, without sub-interfaces: that of the first entry of the
name. -/
def flatInterface (h : HostSnapshot) (name : String) : Interface :=
  ((h.entries.map fun (n, es) => h.interfaceOf n es).find? (·.name == name)).getD { name }

end HostSnapshot

/-- The aliases recorded under each base. A base never has a colon and an alias always has one,
which is what bounds the build of an interface below. -/
structure AliasTable where
  aliasesOf : String → List String
  base_plain : ∀ b c, c ∈ aliasesOf b → ':' ∉ b.toList
  alias_colon : ∀ b c, c ∈ aliasesOf b → ':' ∈ c.toList

namespace AliasTable

def empty : AliasTable where
  aliasesOf _ := []
  base_plain _ _ h := nomatch h
  alias_colon _ _ h := nomatch h

def add (t : AliasTable) (base name : String) (hb : ':' ∉ base.toList) (hn : ':' ∈ name.toList) :
    AliasTable where
  aliasesOf b := if b = base then t.aliasesOf b ++ [name] else t.aliasesOf b
  base_plain b c hc := by
    by_cases hbase : b = base
    case pos => exact hbase ▸ hb
    case neg => exact t.base_plain b c (by simpa [hbase] using hc)
  alias_colon b c hc := by
    by_cases hbase : b = base
    case pos =>
      have hc' : c ∈ t.aliasesOf base ∨ c = name := by simpa [hbase] using hc
      rcases hc' with hc' | rfl
      case inl => exact t.alias_colon base c hc'
      case inr => exact hn
    case neg => exact t.alias_colon b c (by simpa [hbase] using hc)

-- How deep a name may sit: an alias, with its colon, lies below every base.
def colonRank (name : String) : Nat :=
  if ':' ∈ name.toList then 0 else 1

theorem colonRank_lt (t : AliasTable) {b c : String} (hc : c ∈ t.aliasesOf b) :
    colonRank c < colonRank b := by
  simp [colonRank, t.alias_colon b c hc, t.base_plain b c hc]

end AliasTable

namespace HostSnapshot

/-- Places one name: an alias of a reported name goes under its base, any other name is
top-level. -/
def place (names : List String) (acc : AliasTable × List String) (name : String) :
    AliasTable × List String :=
  match hb : aliasBase? name with
  | some base =>
    if names.contains base then
      (acc.1.add base name (colon_not_mem_of_aliasBase? hb) (aliasBase?_eq_some_iff.mp hb).1, acc.2)
    else (acc.1, acc.2 ++ [name])
  | none => (acc.1, acc.2 ++ [name])

def partition (names : List String) : AliasTable × List String :=
  names.foldl (place names) (.empty, [])

/-- An interface with its aliases below it, built from their flat records. The recursion ends
because an alias has no aliases of its own: it has a colon, and no base has one. -/
def build (flat : String → Interface) (t : AliasTable) (name : String) : Interface :=
  { flat name with subInterfaces := (t.aliasesOf name).attach.map fun c => build flat t c.1 }
termination_by AliasTable.colonRank name
decreasing_by exact t.colonRank_lt c.2

def interfaces (h : HostSnapshot) : Except NetworkError (List Interface) :=
  match h.entriesFailure, h.statsFailure with
  | some r, _ => .error (.enumeration ("Failed to list network interfaces: " ++ r))
  | none, some r => .error (.enumeration ("Failed to list network interfaces: " ++ r))
  | none, none =>
    let placed := partition h.names
    .ok (placed.2.map (build h.flatInterface placed.1))

end HostSnapshot

end InterfaceDiscovery
