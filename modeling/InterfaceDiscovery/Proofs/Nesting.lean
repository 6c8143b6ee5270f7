import Mathlib
import InterfaceDiscovery.Host.Snapshot

namespace InterfaceDiscovery

namespace AliasTable

@[simp] theorem aliasesOf_empty (b : String) : empty.aliasesOf b = [] := rfl

@[simp] theorem aliasesOf_add (t : AliasTable) {base name : String} (hb : ':' ∉ base.toList)
    (hn : ':' ∈ name.toList) (b : String) :
    (t.add base name hb hn).aliasesOf b = if b = base then t.aliasesOf b ++ [name] else t.aliasesOf b :=
  rfl

-- A name with a colon is no base, so nothing is recorded under it.
theorem aliasesOf_eq_nil (t : AliasTable) {c : String} (hc : ':' ∈ c.toList) : t.aliasesOf c = [] :=
  List.eq_nil_iff_forall_not_mem.mpr fun x hx => t.base_plain c x hx hc

end AliasTable

namespace HostSnapshot

/-! Placing the names. -/

theorem place_top (names : List String) (acc : AliasTable × List String) (name : String) :
    (place names acc name).2 =
      if isNestedAlias names name then acc.2 else acc.2 ++ [name] := by
  unfold place
  split
  case h_1 base hb =>
    simp only [isNestedAlias, hb]
    cases names.contains base <;> rfl
  case h_2 hb => simp [isNestedAlias, hb]

theorem place_aliasesOf (names : List String) (acc : AliasTable × List String) (name b : String) :
    (place names acc name).1.aliasesOf b =
      if aliasBase? name == some b && names.contains b then acc.1.aliasesOf b ++ [name]
      else acc.1.aliasesOf b := by
  unfold place
  split
  case h_1 base hb =>
    by_cases hbase : base = b
    case pos =>
      subst hbase
      cases names.contains base <;> simp [hb]
    case neg =>
      cases names.contains base <;> simp [hb, hbase, Ne.symm hbase]
  case h_2 hb => simp [hb]

-- The run of the placing over the names: the top-level names are kept in order, and each base
-- collects, in order, the names whose base it is.
theorem foldl_place_top (names l : List String) (acc : AliasTable × List String) :
    (l.foldl (place names) acc).2 = acc.2 ++ l.filter (!isNestedAlias names ·) := by
  induction l generalizing acc with
  | nil => simp
  | cons name l ih =>
    rw [List.foldl_cons, ih, place_top, List.filter_cons]
    cases isNestedAlias names name <;> simp

theorem foldl_place_aliasesOf (names l : List String) (acc : AliasTable × List String) (b : String) :
    (l.foldl (place names) acc).1.aliasesOf b =
      acc.1.aliasesOf b ++ l.filter fun c => aliasBase? c == some b && names.contains b := by
  induction l generalizing acc with
  | nil => simp
  | cons name l ih =>
    rw [List.foldl_cons, ih, place_aliasesOf, List.filter_cons]
    cases aliasBase? name == some b && names.contains b <;> simp

theorem partition_top (names : List String) :
    (partition names).2 = names.filter (!isNestedAlias names ·) := by
  simp [partition, foldl_place_top]

theorem partition_aliasesOf {names : List String} {b : String} (hb : b ∈ names) :
    (partition names).1.aliasesOf b = names.filter (aliasBase? · == some b) := by
  simp [partition, foldl_place_aliasesOf, hb]

/-! Building the interfaces. -/

theorem build_eq (flat : String → Interface) (t : AliasTable) (name : String) :
    build flat t name = { flat name with subInterfaces := (t.aliasesOf name).map (build flat t) } := by
  rw [build]
  simp

-- An alias is built as its flat record: it has a colon, so nothing is recorded under it. This is
-- why aliases nest one level deep.
theorem build_of_colon {flat : String → Interface} (t : AliasTable) {c : String}
    (hc : ':' ∈ c.toList) (hflat : (flat c).subInterfaces = []) : build flat t c = flat c := by
  rw [build_eq, t.aliasesOf_eq_nil hc, List.map_nil]
  -- Interface is recursive, so there is no structure eta: take the record apart.
  cases hfc : flat c
  simp_all

variable (h : HostSnapshot)

theorem name_flatInterface (n : String) : (h.flatInterface n).name = n := by
  unfold flatInterface Option.getD
  split
  case h_1 i hf => simpa using List.find?_some hf
  case h_2 => rfl

theorem subInterfaces_flatInterface (n : String) : (h.flatInterface n).subInterfaces = [] := by
  unfold flatInterface Option.getD
  split
  case h_1 i hf =>
    obtain ⟨⟨m, es⟩, -, rfl⟩ := List.mem_map.mp (List.mem_of_find?_eq_some hf)
    rfl
  case h_2 => rfl

-- The interface built for a reported name, in closed form: its flat record with the flat records
-- of the names whose base it is below it.
def topInterface (name : String) : Interface :=
  { h.flatInterface name with
    subInterfaces := (h.names.filter (aliasBase? · == some name)).map h.flatInterface }

theorem build_eq_topInterface {n : String} (hn : n ∈ h.names) :
    build h.flatInterface (partition h.names).1 n = h.topInterface n := by
  have hsub : (h.names.filter (aliasBase? · == some n)).map (build h.flatInterface (partition h.names).1) =
      (h.names.filter (aliasBase? · == some n)).map h.flatInterface := by
    refine List.map_congr_left fun c hc => ?_
    have hbase : aliasBase? c = some n := by simpa using (List.mem_filter.mp hc).2
    exact build_of_colon _ (aliasBase?_eq_some_iff.mp hbase).1 (h.subInterfaces_flatInterface c)
  rw [build_eq, partition_aliasesOf hn, hsub]
  rfl

theorem interfaces_of_listed (hentries : h.entriesFailure = none) (hstats : h.statsFailure = none) :
    h.interfaces = .ok ((h.names.filter (!isNestedAlias h.names ·)).map h.topInterface) := by
  simp only [interfaces, hentries, hstats, partition_top, Except.ok.injEq]
  exact List.map_congr_left fun n hn => h.build_eq_topInterface (List.mem_filter.mp hn).1

theorem interfaces_eq_ok_iff {forest : List Interface} :
    h.interfaces = .ok forest ↔ h.entriesFailure = none ∧ h.statsFailure = none ∧
      forest = (h.names.filter (!isNestedAlias h.names ·)).map h.topInterface := by
  cases he : h.entriesFailure
  case some r => simp [interfaces, he]
  case none =>
    cases hs : h.statsFailure
    case some r => simp [interfaces, he, hs]
    case none => simp [h.interfaces_of_listed he hs, eq_comm]

end HostSnapshot

end InterfaceDiscovery
