import InterfaceDiscovery.Proofs.NameMaps

/-!
The interface views of a walked registry. The registry lists its interfaces twice, each time
without repeats and in order of first appearance: all interfaces of its associations, and those
of its addressed associations. The two lists are built independently, yet for a walked forest
they agree, whatever the names and however often an interface occurs: the walk gives every
occurrence of an interface a block of the same kind, all addressed or one placeholder, since what
is attributed to an interface depends on the interface alone. So the relevant interfaces are the
interfaces whose addresses the registry can list, in the same order, and the first addressed
association belongs to the first of them.
-/

namespace InterfaceDiscovery

section EraseDups

variable {α β : Type} [BEq α] [LawfulBEq α]

-- Selecting elements commutes with removing repeats: a filter neither creates nor moves the
-- first occurrence of an element it keeps.
theorem eraseDups_filter (p : α → Bool) : (l : List α) → (l.filter p).eraseDups = l.eraseDups.filter p
  | [] => rfl
  | a :: as => by
    have : (as.filter fun b => !b == a).length < as.length + 1 :=
      Nat.lt_add_one_of_le (List.length_filter_le _ as)
    have ih := eraseDups_filter p (as.filter fun b => !b == a)
    have hcomm : (as.filter p).filter (fun b => !b == a) = (as.filter fun b => !b == a).filter p := by
      simp only [List.filter_filter, Bool.and_comm]
    rw [List.eraseDups_cons]
    by_cases hp : p a = true
    case pos =>
      rw [List.filter_cons_of_pos hp, List.eraseDups_cons, List.filter_cons_of_pos hp, hcomm, ih]
    case neg =>
      -- the element left out is not among the kept ones, so removing it again changes nothing
      have hkept : (as.filter p).filter (fun b => !b == a) = as.filter p := by
        apply List.filter_eq_self.mpr
        intro b hb
        have hb' : b ≠ a := fun hba => hp (hba ▸ (List.mem_filter.mp hb).2)
        simpa using hb'
      rw [List.filter_cons_of_neg hp, List.filter_cons_of_neg hp, ← hkept, hcomm, ih]
termination_by l => l.length

omit [LawfulBEq α] in
theorem head?_eraseDups (l : List α) : l.eraseDups.head? = l.head? := by
  cases l <;> simp [List.eraseDups_cons]

-- A list of blocks, each made of copies of one element, has the repeats of the list of those
-- elements, once the empty blocks are left out.
theorem eraseDups_flatMap {f : β → List α} {g : β → α} :
    ∀ l : List β, (∀ b ∈ l, ∀ x ∈ f b, x = g b) →
      (l.flatMap f).eraseDups = ((l.filter fun b => !(f b).isEmpty).map g).eraseDups
  | [], _ => rfl
  | b :: l, h => by
    have ih := eraseDups_flatMap l fun b' hb' => h b' (List.mem_cons_of_mem b hb')
    rw [List.flatMap_cons, List.filter_cons]
    cases hfb : f b with
    | nil => simpa using ih
    | cons x xs =>
      have hall : ∀ y ∈ x :: xs, y = g b := hfb ▸ h b List.mem_cons_self
      have hxs : xs.filter (fun y => !y == g b) = [] :=
        List.filter_eq_nil_iff.mpr fun y hy => by simp [hall y (List.mem_cons_of_mem x hy)]
      rw [hall x List.mem_cons_self, List.cons_append, List.eraseDups_cons, List.filter_append, hxs,
        List.nil_append, eraseDups_filter, ih, ← eraseDups_filter]
      simp [List.eraseDups_cons]

end EraseDups

namespace Interface

variable (ps : List String)

theorem ownAssociations_ne_nil (parent : Option String) (i : Interface) :
    i.ownAssociations ps parent ≠ [] := by
  unfold ownAssociations
  split
  case h_1 => simp
  case h_2 h => simpa using h

theorem interface_of_mem_map_ownAssociations {parent : Option String} {i v : Interface}
    (hv : v ∈ (i.ownAssociations ps parent).map (·.interface)) : v = i := by
  obtain ⟨x, hx, rfl⟩ := List.mem_map.mp hv
  exact (mem_ownAssociations ps hx).1

end Interface

namespace Registry

theorem firstAddressed?_map_interface (r : Registry) :
    r.firstAddressed?.map (·.interface) = r.relevantInterfaces.head? := by
  rw [firstAddressed?, relevantInterfaces, head?_eraseDups, List.head?_map, List.head?_filter]

theorem addressesOf?_isSome_iff (r : Registry) (v : Interface) :
    (r.addressesOf? v).isSome ↔ ∃ x ∈ r.associations, x.interface = v ∧ x.address.isSome := by
  have hlist : (r.associations.filterMap fun x => if x.interface == v then x.address else none) ≠ [] ↔
      ∃ x ∈ r.associations, x.interface = v ∧ x.address.isSome := by
    constructor
    case mp =>
      intro hne
      obtain ⟨a, ha⟩ := List.exists_mem_of_ne_nil _ hne
      obtain ⟨x, hx, hxa⟩ := List.mem_filterMap.mp ha
      by_cases hi : x.interface = v
      case pos => exact ⟨x, hx, hi, by simp_all⟩
      case neg => simp [hi] at hxa
    case mpr =>
      rintro ⟨x, hx, hi, ha⟩
      obtain ⟨a, hxa⟩ := Option.isSome_iff_exists.mp ha
      have hmem : a ∈ r.associations.filterMap fun x => if x.interface == v then x.address else none :=
        List.mem_filterMap.mpr ⟨x, hx, by simp [hi, hxa]⟩
      exact List.ne_nil_of_mem hmem
  rw [← hlist]
  unfold addressesOf?
  split <;> simp_all

variable (ps : List String) (forest : List Interface)

-- The interfaces of a walked registry: the visited interfaces in post-order, each kept at its
-- first occurrence, since every block is non-empty and belongs to one interface.
theorem interfaces_discover :
    (discover ps forest).interfaces =
      ((Interface.visitedPostorderForest ps none forest).map (·.2)).eraseDups := by
  have hkeep : ((Interface.visitedPostorderForest ps none forest).filter
      fun e => !((e.2.ownAssociations ps e.1).map (·.interface)).isEmpty) =
        Interface.visitedPostorderForest ps none forest := by
    apply List.filter_eq_self.mpr
    intro e _
    simpa using Interface.ownAssociations_ne_nil ps e.1 e.2
  rw [interfaces, discover_associations, Interface.forestAssociations_eq_flatMap, List.map_flatMap,
    eraseDups_flatMap, hkeep]
  intro e _ x hx
  exact Interface.interface_of_mem_map_ownAssociations ps hx

theorem mem_interfaces_discover (v : Interface) :
    v ∈ (discover ps forest).interfaces ↔ v ∈ Interface.visitedForest ps forest := by
  rw [interfaces_discover, List.mem_eraseDups, List.mem_map]
  constructor
  case mp =>
    rintro ⟨e, he, rfl⟩
    exact Interface.mem_visitedForest_of_mem_visitedPostorderForest ps he
  case mpr =>
    intro hv
    obtain ⟨p, hp⟩ : ∃ p, (p, v) ∈ Interface.visitedPostorderForest ps none forest :=
      Interface.exists_mem_visitedPostorderForest ps hv
    exact ⟨(p, v), hp, rfl⟩

theorem relevantInterfaces_discover :
    (discover ps forest).relevantInterfaces =
      (((Interface.visitedPostorderForest ps none forest).map (·.2)).filter
        fun v => !(v.attributed ps).isEmpty).eraseDups := by
  have hblocks : ((Interface.visitedPostorderForest ps none forest).flatMap
      fun e => e.2.ownAssociations ps e.1).filter (·.hasAddress) =
        (Interface.visitedPostorderForest ps none forest).flatMap
          fun e => (e.2.attributed ps).map
            fun a => { address := some a, interface := e.2, parent := e.1 } := by
    rw [List.filter_flatMap]
    simp only [Interface.filter_hasAddress_ownAssociations]
  have hsame : ∀ e ∈ Interface.visitedPostorderForest ps none forest,
      ∀ x ∈ ((e.2.attributed ps).map fun a =>
        ({ address := some a, interface := e.2, parent := e.1 } : Association)).map (·.interface),
      x = e.2 := by
    intro e _ x hx
    simp only [List.map_map, Function.comp_def, List.mem_map] at hx
    obtain ⟨a, -, rfl⟩ := hx
    rfl
  rw [relevantInterfaces, discover_associations, Interface.forestAssociations_eq_flatMap, hblocks,
    List.map_flatMap, eraseDups_flatMap _ hsame, List.filter_map]
  simp only [List.isEmpty_map, Function.comp_def]

theorem mem_addressed_discover (a : Address) (v : Interface) :
    (∃ x ∈ (discover ps forest).associations, x.address = some a ∧ x.interface = v) ↔
      v ∈ Interface.visitedForest ps forest ∧ a ∈ v.attributed ps := by
  constructor
  case mp =>
    rintro ⟨x, hx, hxa, rfl⟩
    obtain ⟨e, he, hxe⟩ := (mem_discover_associations ps forest).mp hx
    have hcarried : a ∈ carried (e.2.ownAssociations ps e.1) := mem_carried.mpr ⟨x, hxe, hxa⟩
    rw [(Interface.mem_ownAssociations ps hxe).1]
    exact ⟨Interface.mem_visitedForest_of_mem_visitedPostorderForest ps he,
      Interface.carried_ownAssociations ps e.1 e.2 ▸ hcarried⟩
  case mpr =>
    rintro ⟨hv, ha⟩
    obtain ⟨p, hp⟩ : ∃ p, (p, v) ∈ Interface.visitedPostorderForest ps none forest :=
      Interface.exists_mem_visitedPostorderForest ps hv
    rw [← Interface.carried_ownAssociations ps p v, mem_carried] at ha
    obtain ⟨y, hy, hya⟩ := ha
    exact ⟨y, (mem_discover_associations ps forest).mpr ⟨(p, v), hp, hy⟩, hya,
      (Interface.mem_ownAssociations ps hy).1⟩

theorem addressesOf?_discover_isSome {v : Interface} (hv : v ∈ Interface.visitedForest ps forest) :
    ((discover ps forest).addressesOf? v).isSome = !(v.attributed ps).isEmpty := by
  have hiff : ((discover ps forest).addressesOf? v).isSome ↔ ∃ a, a ∈ v.attributed ps := by
    rw [addressesOf?_isSome_iff]
    constructor
    case mp =>
      rintro ⟨x, hx, rfl, ha⟩
      obtain ⟨a, hxa⟩ := Option.isSome_iff_exists.mp ha
      exact ⟨a, ((mem_addressed_discover ps forest a x.interface).mp ⟨x, hx, hxa, rfl⟩).2⟩
    case mpr =>
      rintro ⟨a, ha⟩
      obtain ⟨x, hx, hxa, hxv⟩ := (mem_addressed_discover ps forest a v).mpr ⟨hv, ha⟩
      exact ⟨x, hx, hxv, by simp [hxa]⟩
  cases hattr : v.attributed ps with
  | nil =>
    rw [hattr] at hiff
    simpa using hiff
  | cons a as =>
    rw [hattr] at hiff
    simpa using hiff.mpr ⟨a, List.mem_cons_self⟩

-- The two views agree: the relevant interfaces are the interfaces whose addresses the registry
-- lists, because on the visited interfaces both select those with an attributed address.
theorem relevantInterfaces_eq_filter :
    (discover ps forest).relevantInterfaces =
      (discover ps forest).interfaces.filter fun h => ((discover ps forest).addressesOf? h).isSome := by
  rw [relevantInterfaces_discover, eraseDups_filter, ← interfaces_discover]
  apply List.filter_congr
  intro v hv
  rw [addressesOf?_discover_isSome ps forest ((mem_interfaces_discover ps forest v).mp hv)]

-- The interface views of a walked registry, for any forest and any skip prefixes. The interfaces
-- are the visited interfaces in post-order, each once, at its first occurrence; the relevant
-- interfaces are those of them whose addresses the registry lists; and the first addressed
-- association, absent exactly when there is no relevant interface, belongs to the first one.
theorem discover_interface_views :
    (discover ps forest).interfaces =
        ((Interface.visitedPostorderForest ps none forest).map (·.2)).eraseDups ∧
      (discover ps forest).interfaces.Nodup ∧
      (∀ v, v ∈ (discover ps forest).interfaces ↔ v ∈ Interface.visitedForest ps forest) ∧
      (discover ps forest).relevantInterfaces =
        (discover ps forest).interfaces.filter
          (fun h => ((discover ps forest).addressesOf? h).isSome) ∧
      (∀ f, (discover ps forest).firstAddressed? = some f →
        (discover ps forest).relevantInterfaces.head? = some f.interface) ∧
      ((discover ps forest).firstAddressed? = none ↔ (discover ps forest).relevantInterfaces = []) := by
  have hfirst := firstAddressed?_map_interface (discover ps forest)
  refine ⟨interfaces_discover ps forest, ?nodup, mem_interfaces_discover ps forest,
    relevantInterfaces_eq_filter ps forest, fun f hf => ?head, ?none⟩
  case nodup => exact nodup_eraseDups _
  case head => rw [← hfirst, hf, Option.map_some]
  case none =>
    rw [← List.head?_eq_none_iff, ← hfirst, Option.map_eq_none_iff]

end Registry

end InterfaceDiscovery
