import InterfaceDiscovery.Proofs.Attribution
import InterfaceDiscovery.Proofs.Registry

/-!
The name maps of a registry. The walk writes the relevant addresses of each visited interface
under its name, in visiting order, and each addressed association under its interface's name, in
association order; a later write under a name replaces an earlier one. When the visited interfaces
have distinct names, as those of a host have, both maps agree with the associations: the address
map has a key for each visited interface and holds its relevant addresses, before any went to its
sub-interfaces; the primary map has a key for each interface with an addressed association and
holds its last one, whose address is the last of those the registry attributes to it.
-/

namespace InterfaceDiscovery

namespace NameMap

variable {α β : Type}

theorem mem_keys_iff_contains (m : NameMap α) (k : String) : k ∈ m.keys ↔ m.contains k = true := by
  simp [keys, contains]

theorem keys_insert_of_mem {m : NameMap α} {k : String} (v : α) (h : k ∈ m.keys) :
    (m.insert k v).keys = m.keys := by
  have hc : m.contains k = true := (mem_keys_iff_contains m k).mp h
  simp only [insert, hc, if_true, keys, List.map_map]
  apply List.map_congr_left
  intro e _
  by_cases he : e.1 = k <;> simp [he]

theorem keys_insert_of_not_mem {m : NameMap α} {k : String} (v : α) (h : k ∉ m.keys) :
    (m.insert k v).keys = m.keys ++ [k] := by
  have hc : m.contains k = false := by simpa [mem_keys_iff_contains] using h
  simp [insert, hc, keys]

theorem mem_keys_insert (m : NameMap α) (k n : String) (v : α) :
    n ∈ (m.insert k v).keys ↔ n ∈ m.keys ∨ n = k := by
  by_cases h : k ∈ m.keys
  case pos =>
    rw [keys_insert_of_mem v h]
    constructor
    case mp => exact .inl
    case mpr =>
      rintro (hn | rfl)
      case inl => exact hn
      case inr => exact h
  case neg => simp [keys_insert_of_not_mem v h]

variable (key : β → String) (val : β → α)

theorem mem_keys_foldl_insert (n : String) : ∀ (xs : List β) (m : NameMap α),
    n ∈ (xs.foldl (fun m b => m.insert (key b) (val b)) m).keys ↔ n ∈ m.keys ∨ ∃ b ∈ xs, key b = n
  | [], m => by simp
  | b :: xs, m => by
    rw [List.foldl_cons, mem_keys_foldl_insert n xs, mem_keys_insert]
    simp only [List.mem_cons, exists_eq_or_imp, or_assoc]
    constructor
    case mp =>
      rintro (h | rfl | h)
      case inl => exact .inl h
      case inr.inl => exact .inr (.inl rfl)
      case inr.inr => exact .inr (.inr h)
    case mpr =>
      rintro (h | h | h)
      case inl => exact .inl h
      case inr.inl => exact .inr (.inl h.symm)
      case inr.inr => exact .inr (.inr h)

theorem keys_foldl_insert_of_nodup : ∀ (xs : List β) (m : NameMap α),
    (m.keys ++ xs.map key).Nodup →
      (xs.foldl (fun m b => m.insert (key b) (val b)) m).keys = m.keys ++ xs.map key
  | [], m, _ => by simp
  | b :: xs, m, h => by
    have hb : key b ∉ m.keys := fun hk =>
      (List.nodup_append.mp h).2.2 _ hk _ List.mem_cons_self rfl
    have h' : ((m.insert (key b) (val b)).keys ++ xs.map key).Nodup := by
      rw [keys_insert_of_not_mem _ hb, List.append_assoc, List.singleton_append]
      exact h
    rw [List.foldl_cons, keys_foldl_insert_of_nodup xs _ h', keys_insert_of_not_mem _ hb]
    simp

end NameMap

section Distinct

variable {γ : Type} (name : γ → String)

theorem filter_name_eq_of_nodup {l : List γ} (hl : (l.map name).Nodup) {a : γ} (ha : a ∈ l) :
    l.filter (fun x => name x == name a) = [a] := by
  obtain ⟨l₁, l₂, rfl⟩ := List.append_of_mem ha
  rw [List.map_append, List.map_cons] at hl
  have hl' := List.nodup_append.mp hl
  have hother : ∀ x ∈ l₁ ++ l₂, (name x == name a) = false := by
    intro x hx
    have hne : name x ≠ name a := by
      rcases List.mem_append.mp hx with hx | hx
      case inl => exact hl'.2.2 _ (List.mem_map_of_mem hx) _ List.mem_cons_self
      case inr => exact fun he => (List.nodup_cons.mp hl'.2.1).1 (he ▸ List.mem_map_of_mem hx)
    simpa using hne
  have h₁ : l₁.filter (fun x => name x == name a) = [] :=
    List.filter_eq_nil_iff.mpr fun x hx => by simp [hother x (List.mem_append_left l₂ hx)]
  have h₂ : l₂.filter (fun x => name x == name a) = [] :=
    List.filter_eq_nil_iff.mpr fun x hx => by simp [hother x (List.mem_append_right l₁ hx)]
  simp [List.filter_append, h₁, h₂]

end Distinct

namespace Interface

variable (ps : List String)

-- Post-order lists the same visited interfaces as pre-order: each subtree's interfaces are moved
-- after those below them, so one step of the permutation per visited interface.
mutual

theorem perm_visitedPostorder (parent : Option String) :
    ∀ i : Interface, ((visitedPostorder ps parent i).map Prod.snd).Perm (visited ps i)
  | ⟨name, _, _, subs, _, _, _⟩ => by
    have ih := perm_visitedPostorderForest (some name) subs
    rw [visitedPostorder_eq, visited_eq, List.map_append, List.map_singleton]
    exact (List.perm_append_singleton _ _).trans (ih.cons _)

theorem perm_visitedPostorderForest (parent : Option String) :
    ∀ is : List Interface,
      ((visitedPostorderForest ps parent is).map Prod.snd).Perm (visitedForest ps is)
  | [] => by simp
  | i :: is => by
    have ih := perm_visitedPostorderForest parent is
    have hi := perm_visitedPostorder parent i
    rw [visitedPostorderForest_cons, visitedForest_cons, List.map_append]
    cases i.skippedBy ps
    case false => exact hi.append ih
    case true => exact ih

end

theorem mem_visitedForest_of_mem_visitedPostorderForest {parent : Option String} {is : List Interface}
    {e : Option String × Interface} (he : e ∈ visitedPostorderForest ps parent is) :
    e.2 ∈ visitedForest ps is :=
  (perm_visitedPostorderForest ps parent is).subset (List.mem_map_of_mem he)

theorem exists_mem_visitedPostorderForest {parent : Option String} {is : List Interface}
    {v : Interface} (hv : v ∈ visitedForest ps is) :
    ∃ p, (p, v) ∈ visitedPostorderForest ps parent is := by
  obtain ⟨e, he, rfl⟩ := List.mem_map.mp ((perm_visitedPostorderForest ps parent is).symm.subset hv)
  exact ⟨e.1, he⟩

theorem nodup_postorder_names {parent : Option String} {is : List Interface}
    (hnames : ((visitedForest ps is).map (·.name)).Nodup) :
    ((visitedPostorderForest ps parent is).map (·.2.name)).Nodup := by
  have hperm := (perm_visitedPostorderForest ps parent is).map Interface.name
  rw [List.map_map] at hperm
  exact hperm.nodup_iff.mpr hnames

theorem filter_hasAddress_ownAssociations (parent : Option String) (i : Interface) :
    (i.ownAssociations ps parent).filter (·.hasAddress) =
      (i.attributed ps).map fun a => { address := some a, interface := i, parent } := by
  unfold ownAssociations
  split
  case h_1 h => simp [h, Association.hasAddress]
  case h_2 =>
    have hall : (i.attributed ps).filter (fun _ => true) = i.attributed ps :=
      List.filter_eq_self.mpr fun _ _ => rfl
    simp [List.filter_map, Function.comp_def, Association.hasAddress, hall]

theorem filter_name_flatMap (entries : List (Option String × Interface)) (n : String)
    (P : Association → Bool) :
    (entries.flatMap fun e => e.2.ownAssociations ps e.1).filter
        (fun x => x.interface.name == n && P x) =
      (entries.filter (·.2.name == n)).flatMap fun e => (e.2.ownAssociations ps e.1).filter P := by
  induction entries with
  | nil => rfl
  | cons e entries ih =>
    have hblock : (e.2.ownAssociations ps e.1).filter (fun x => x.interface.name == n && P x) =
        if e.2.name == n then (e.2.ownAssociations ps e.1).filter P else [] := by
      split
      case isTrue h =>
        apply List.filter_congr
        intro x hx
        simp [(mem_ownAssociations ps hx).1, h]
      case isFalse h =>
        apply List.filter_eq_nil_iff.mpr
        intro x hx
        simp [(mem_ownAssociations ps hx).1, h]
    rw [List.flatMap_cons, List.filter_append, hblock, ih, List.filter_cons]
    split <;> simp

end Interface

namespace Registry

variable (ps : List String) {forest : List Interface}

section Distinct

variable (hnames : ((Interface.visitedForest ps forest).map (·.name)).Nodup)
include hnames

theorem filter_name_associations {p : Option String} {v : Interface}
    (hv : (p, v) ∈ Interface.visitedPostorderForest ps none forest) (P : Association → Bool) :
    (discover ps forest).associations.filter (fun x => x.interface.name == v.name && P x) =
      (v.ownAssociations ps p).filter P := by
  have hentries := filter_name_eq_of_nodup (·.2.name) (Interface.nodup_postorder_names ps hnames) hv
  rw [discover_associations, Interface.forestAssociations_eq_flatMap, Interface.filter_name_flatMap,
    hentries, List.flatMap_singleton]

theorem filter_interface_associations {p : Option String} {v : Interface}
    (hv : (p, v) ∈ Interface.visitedPostorderForest ps none forest) (P : Association → Bool) :
    (discover ps forest).associations.filter (fun x => x.interface == v && P x) =
      (v.ownAssociations ps p).filter P := by
  have hname := filter_name_associations ps hnames hv fun x => x.interface == v && P x
  have hl : (discover ps forest).associations.filter (fun x => x.interface == v && P x) =
      (discover ps forest).associations.filter
        (fun x => x.interface.name == v.name && (x.interface == v && P x)) := by
    apply List.filter_congr
    intro x _
    by_cases hx : x.interface = v <;> simp [hx]
  have hr : (v.ownAssociations ps p).filter (fun x => x.interface == v && P x) =
      (v.ownAssociations ps p).filter P := by
    apply List.filter_congr
    intro x hx
    simp [(Interface.mem_ownAssociations ps hx).1]
  rw [hl, hname, hr]

theorem primaryFor?_visited {p : Option String} {v : Interface}
    (hv : (p, v) ∈ Interface.visitedPostorderForest ps none forest) :
    (discover ps forest).primaryFor? v.name =
      ((v.attributed ps).map fun a => { address := some a, interface := v, parent := p }).getLast? := by
  rw [primaryFor?_discover, filter_name_associations ps hnames hv,
    Interface.filter_hasAddress_ownAssociations]

theorem primaryFor?_eq_getLast? {p : Option String} {v : Interface}
    (hv : (p, v) ∈ Interface.visitedPostorderForest ps none forest) :
    (discover ps forest).primaryFor? v.name =
      ((discover ps forest).associations.filter
        fun x => x.interface == v && x.hasAddress).getLast? := by
  rw [primaryFor?_visited ps hnames hv, filter_interface_associations ps hnames hv,
    Interface.filter_hasAddress_ownAssociations]

theorem primaryFor?_eq_none_iff {p : Option String} {v : Interface}
    (hv : (p, v) ∈ Interface.visitedPostorderForest ps none forest) :
    (discover ps forest).primaryFor? v.name = none ↔ v.attributed ps = [] := by
  rw [primaryFor?_visited ps hnames hv, List.getLast?_map, Option.map_eq_none_iff,
    List.getLast?_eq_none_iff]

theorem addressesOf?_visited {p : Option String} {v : Interface}
    (hv : (p, v) ∈ Interface.visitedPostorderForest ps none forest) :
    (discover ps forest).addressesOf? v =
      if v.attributed ps = [] then none else some (v.attributed ps) := by
  have hsel : (discover ps forest).associations.filter (·.interface == v) =
      v.ownAssociations ps p := by
    have h := filter_interface_associations ps hnames hv fun _ => true
    have hall : (v.ownAssociations ps p).filter (fun _ => true) = v.ownAssociations ps p :=
      List.filter_eq_self.mpr fun _ _ => rfl
    simp only [Bool.and_true, hall] at h
    exact h
  have hcarried : (discover ps forest).associations.filterMap
      (fun x => if x.interface == v then x.address else none) = v.attributed ps := by
    rw [← List.filterMap_filter, hsel]
    exact Interface.carried_ownAssociations ps p v
  unfold addressesOf?
  rw [hcarried]
  cases v.attributed ps <;> simp

end Distinct

theorem mem_of_primaryFor? {n : String} {y : Association}
    (h : (discover ps forest).primaryFor? n = some y) :
    y ∈ (discover ps forest).associations ∧ y.interface.name = n ∧ y.hasAddress := by
  rw [primaryFor?_discover] at h
  have hmem := List.mem_of_getLast? h
  simp only [List.mem_filter, Bool.and_eq_true, beq_iff_eq] at hmem
  exact ⟨hmem.1, hmem.2.1, hmem.2.2⟩

theorem interface_mem_visitedForest {x : Association} (hx : x ∈ (discover ps forest).associations) :
    x.interface ∈ Interface.visitedForest ps forest := by
  obtain ⟨e, he, hxe⟩ := (mem_discover_associations ps forest).mp hx
  rw [(Interface.mem_ownAssociations ps hxe).1]
  exact Interface.mem_visitedForest_of_mem_visitedPostorderForest ps he

theorem addressesByName_discover :
    (discover ps forest).addressesByName =
      (Interface.visitedForest ps forest).foldl (fun m i => m.insert i.name i.relevant) {} :=
  rfl

theorem primaryByName_discover :
    (discover ps forest).primaryByName =
      ((discover ps forest).associations.filter (·.hasAddress)).foldl
        (fun m a => m.insert a.interface.name a) {} :=
  rfl

theorem mem_primaryByName_keys (n : String) :
    n ∈ (discover ps forest).primaryByName.keys ↔
      ∃ v ∈ Interface.visitedForest ps forest, v.name = n ∧
        ∃ x ∈ (discover ps forest).associations, x.interface = v ∧ x.hasAddress := by
  rw [primaryByName_discover, NameMap.mem_keys_foldl_insert, NameMap.keys_empty]
  simp only [List.not_mem_nil, false_or, List.mem_filter]
  constructor
  case mp =>
    rintro ⟨x, ⟨hx, hxa⟩, rfl⟩
    exact ⟨x.interface, interface_mem_visitedForest ps hx, rfl, x, hx, rfl, hxa⟩
  case mpr =>
    rintro ⟨v, -, rfl, x, hx, rfl, hxa⟩
    exact ⟨x, ⟨hx, hxa⟩, rfl⟩

-- The name maps agree with the associations. With distinct names among the visited interfaces,
-- the address map has the names of the visited interfaces as keys, in visiting order, each with
-- its relevant addresses; the primary map has the names of the interfaces with an addressed
-- association as keys, each with the last of them, an association of the registry whose address
-- is relevant to the interface. Asking for the primary association of a name and for the
-- addresses of its interface then agree: both are absent together, and otherwise the primary
-- association belongs to the interface and carries the last of its addresses, which are its
-- attributed ones.
theorem name_maps_agree (hnames : ((Interface.visitedForest ps forest).map (·.name)).Nodup) :
    (discover ps forest).addressesByName.keys = (Interface.visitedForest ps forest).map (·.name) ∧
    (∀ v ∈ Interface.visitedForest ps forest,
      (discover ps forest).addressesByName.get? v.name = some v.relevant) ∧
    (∀ n, n ∈ (discover ps forest).primaryByName.keys ↔
      ∃ v ∈ Interface.visitedForest ps forest, v.name = n ∧
        ∃ x ∈ (discover ps forest).associations, x.interface = v ∧ x.hasAddress) ∧
    ∀ v ∈ Interface.visitedForest ps forest,
      (discover ps forest).primaryFor? v.name =
          ((discover ps forest).associations.filter
            fun x => x.interface == v && x.hasAddress).getLast? ∧
      (∀ y, (discover ps forest).primaryFor? v.name = some y →
        y ∈ (discover ps forest).associations ∧ ∃ a, y.address = some a ∧ a ∈ v.relevant) ∧
      (discover ps forest).addressesOf? v =
          (if v.attributed ps = [] then none else some (v.attributed ps)) ∧
      ((discover ps forest).primaryFor? v.name = none ↔ (discover ps forest).addressesOf? v = none) ∧
      ∀ y, (discover ps forest).primaryFor? v.name = some y →
        y.interface = v ∧ ∃ as, (discover ps forest).addressesOf? v = some as ∧
          y.address = as.getLast? := by
  refine ⟨?keys, ?relevant, mem_primaryByName_keys ps, fun v hv => ?primary⟩
  case keys =>
    rw [addressesByName_discover, NameMap.keys_foldl_insert_of_nodup _ _ _ _ (by simpa using hnames)]
    simp
  case relevant =>
    intro v hv
    rw [addressesByName_discover, NameMap.get?_foldl_insert_map,
      filter_name_eq_of_nodup Interface.name hnames hv]
    rfl
  case primary =>
    obtain ⟨p, hp⟩ : ∃ p, (p, v) ∈ Interface.visitedPostorderForest ps none forest :=
      Interface.exists_mem_visitedPostorderForest ps hv
    have hprimary := primaryFor?_visited ps hnames hp
    have haddresses := addressesOf?_visited ps hnames hp
    -- the primary association is the image of the last attributed address
    have hlast : ∀ y, (discover ps forest).primaryFor? v.name = some y →
        ∃ a, (v.attributed ps).getLast? = some a ∧
          y = { address := some a, interface := v, parent := p } := by
      intro y hy
      rw [hprimary, List.getLast?_map] at hy
      obtain ⟨a, ha, rfl⟩ := Option.map_eq_some_iff.mp hy
      exact ⟨a, ha, rfl⟩
    refine ⟨?_, fun y hy => ?_, haddresses, ?_, fun y hy => ?_⟩
    case refine_1 => exact primaryFor?_eq_getLast? ps hnames hp
    case refine_2 =>
      obtain ⟨hmem, -, -⟩ := mem_of_primaryFor? ps hy
      obtain ⟨a, ha, rfl⟩ := hlast y hy
      have hattr : a ∈ v.attributed ps := List.mem_of_getLast? ha
      exact ⟨hmem, a, rfl, ((v.mem_attributed ps).mp hattr).1⟩
    case refine_3 =>
      rw [primaryFor?_eq_none_iff ps hnames hp, haddresses]
      split <;> simp_all
    case refine_4 =>
      obtain ⟨a, ha, rfl⟩ := hlast y hy
      have hne : v.attributed ps ≠ [] := by
        intro hnil
        simp [hnil] at ha
      exact ⟨rfl, v.attributed ps, by simp [haddresses, hne], ha.symm⟩

-- An interface with an alias that shares one of its two addresses.
def sharedAliasForest : List Interface :=
  [{ name := "eth0", addresses := [.v4 167772165, .v4 167772166],
     subInterfaces := [{ name := "eth0:1", addresses := [.v4 167772166] }] }]

theorem name_maps_agree_sharedAlias :
    ((Interface.visitedForest [] sharedAliasForest).map (·.name)).Nodup ∧
    (discover [] sharedAliasForest).addressesByName.keys =
      (Interface.visitedForest [] sharedAliasForest).map (·.name) ∧
    (∀ v ∈ Interface.visitedForest [] sharedAliasForest,
      (discover [] sharedAliasForest).addressesByName.get? v.name = some v.relevant) ∧
    (∀ n, n ∈ (discover [] sharedAliasForest).primaryByName.keys ↔
      ∃ v ∈ Interface.visitedForest [] sharedAliasForest, v.name = n ∧
        ∃ x ∈ (discover [] sharedAliasForest).associations, x.interface = v ∧ x.hasAddress) ∧
    ∀ v ∈ Interface.visitedForest [] sharedAliasForest,
      (discover [] sharedAliasForest).primaryFor? v.name =
          ((discover [] sharedAliasForest).associations.filter
            fun x => x.interface == v && x.hasAddress).getLast? ∧
      (∀ y, (discover [] sharedAliasForest).primaryFor? v.name = some y →
        y ∈ (discover [] sharedAliasForest).associations ∧ ∃ a, y.address = some a ∧ a ∈ v.relevant) ∧
      (discover [] sharedAliasForest).addressesOf? v =
          (if v.attributed [] = [] then none else some (v.attributed [])) ∧
      ((discover [] sharedAliasForest).primaryFor? v.name = none ↔
        (discover [] sharedAliasForest).addressesOf? v = none) ∧
      ∀ y, (discover [] sharedAliasForest).primaryFor? v.name = some y →
        y.interface = v ∧ ∃ as, (discover [] sharedAliasForest).addressesOf? v = some as ∧
          y.address = as.getLast? :=
  have hnames : ((Interface.visitedForest [] sharedAliasForest).map (·.name)).Nodup := by decide
  ⟨hnames, name_maps_agree [] hnames⟩

end Registry

end InterfaceDiscovery
