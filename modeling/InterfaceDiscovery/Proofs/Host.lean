import InterfaceDiscovery.Proofs.Nesting
import InterfaceDiscovery.Proofs.Attribution
import InterfaceDiscovery.Proofs.Registry

/-!
From a host to its default association. Enumeration nests an alias one level deep, under the
interface named by the text before its first colon when the host reports one; so every interface
of the forest is either top-level or an alias without aliases of its own, and the name of an
interface decides which one it is. Walking such a forest gives each association the base of its
interface's name as parent, or none, and the default association, which climbs one level from the
first addressed association, always lands on a top-level interface or on nothing.
-/

namespace InterfaceDiscovery

namespace HostSnapshot

variable (h : HostSnapshot)

-- The parent that an interface of the host has by its name: the base of the name, when the name
-- has a colon and the host reports an interface named by its base.
def parentName (name : String) : Option String :=
  (aliasBase? name).filter fun b => (h.entries.map (·.1)).contains b

theorem mem_names {n : String} : n ∈ h.names ↔ n ∈ h.entries.map (·.1) := by
  simp [names]

theorem parentName_eq_none_iff (n : String) :
    h.parentName n = none ↔ isNestedAlias h.names n = false := by
  unfold parentName isNestedAlias
  cases aliasBase? n
  case none => simp
  case some b => simp [Option.filter, h.mem_names]

theorem parentName_of_aliasBase {c n : String} (hc : aliasBase? c = some n) (hn : n ∈ h.names) :
    h.parentName c = some n := by
  have hn' := (h.mem_names).mp hn
  simp [parentName, hc, Option.filter, hn']

theorem isNestedAlias_of_aliasBase {c n : String} (hc : aliasBase? c = some n) (hn : n ∈ h.names) :
    isNestedAlias h.names c = true := by
  simp [isNestedAlias, hc, hn]

theorem name_topInterface (n : String) : (h.topInterface n).name = n :=
  h.name_flatInterface n

theorem subInterfaces_topInterface (n : String) :
    (h.topInterface n).subInterfaces =
      (h.names.filter (aliasBase? · == some n)).map h.flatInterface :=
  rfl

theorem preorderForest_flat (cs : List String) :
    Interface.preorderForest (cs.map h.flatInterface) = cs.map h.flatInterface := by
  induction cs with
  | nil => simp
  | cons c cs ih => simp [Interface.preorder_eq, h.subInterfaces_flatInterface, ih]

theorem mem_preorderForest_tops {u : Interface} (ns : List String) :
    u ∈ Interface.preorderForest (ns.map h.topInterface) ↔
      ∃ n ∈ ns, u = h.topInterface n ∨
        ∃ c, (c ∈ h.names ∧ aliasBase? c = some n) ∧ h.flatInterface c = u := by
  induction ns with
  | nil => simp
  | cons n ns ih =>
    simp only [List.map_cons, Interface.preorderForest_cons, List.mem_append,
      Interface.preorder_eq, List.mem_cons, subInterfaces_topInterface, preorderForest_flat, ih,
      List.mem_map, List.mem_filter, beq_iff_eq, or_and_right, exists_or, exists_eq_left]

/-! The enumerated forest. -/

section Enumerated

variable {h} {forest : List Interface} (hok : h.interfaces = .ok forest)
include hok

theorem forest_eq : forest = (h.names.filter (!isNestedAlias h.names ·)).map h.topInterface :=
  (h.interfaces_eq_ok_iff.mp hok).2.2

theorem mem_forest {u : Interface} :
    u ∈ forest ↔ ∃ n ∈ h.names, isNestedAlias h.names n = false ∧ u = h.topInterface n := by
  rw [forest_eq hok]
  simp only [List.mem_map, List.mem_filter, Bool.not_eq_eq_eq_not, Bool.not_true]
  constructor
  case mp =>
    rintro ⟨n, ⟨hn, hnest⟩, rfl⟩
    exact ⟨n, hn, hnest, rfl⟩
  case mpr =>
    rintro ⟨n, hn, hnest, rfl⟩
    exact ⟨n, ⟨hn, hnest⟩, rfl⟩

theorem mem_preorderForest {u : Interface} (hu : u ∈ Interface.preorderForest forest) :
    (∃ n ∈ h.names, isNestedAlias h.names n = false ∧ u = h.topInterface n) ∨
      ∃ n ∈ h.names, isNestedAlias h.names n = false ∧
        ∃ c ∈ h.names, aliasBase? c = some n ∧ u = h.flatInterface c := by
  rw [forest_eq hok, mem_preorderForest_tops] at hu
  obtain ⟨n, hn, hu⟩ := hu
  rw [List.mem_filter, Bool.not_eq_eq_eq_not, Bool.not_true] at hn
  rcases hu with rfl | ⟨c, ⟨hc, hbase⟩, rfl⟩
  case inl => exact .inl ⟨n, hn.1, hn.2, rfl⟩
  case inr => exact .inr ⟨n, hn.1, hn.2, c, hc, hbase, rfl⟩

variable {ps : List String}

-- Every entry of the walk is a top-level interface without parent, or an alias whose parent is its
-- base, the top-level interface of which is visited too.
theorem entry_cases {e : Option String × Interface}
    (he : e ∈ Interface.visitedPostorderForest ps none forest) :
    (e.1 = none ∧ ∃ n ∈ h.names, isNestedAlias h.names n = false ∧ e.2 = h.topInterface n) ∨
      ∃ n ∈ h.names, isNestedAlias h.names n = false ∧
        (none, h.topInterface n) ∈ Interface.visitedPostorderForest ps none forest ∧
        ∃ c ∈ h.names, aliasBase? c = some n ∧ e.1 = some n ∧ e.2 = h.flatInterface c := by
  rcases Interface.mem_visitedPostorderForest ps none forest he with
    ⟨h1, h2, -⟩ | ⟨q, u, hu, h1, h2⟩
  case inl =>
    obtain ⟨n, hn, hnest, h2⟩ := (mem_forest hok).mp h2
    exact .inl ⟨h1, n, hn, hnest, h2⟩
  case inr =>
    have hpre := Interface.mem_preorderForest_of_visitedPostorderForest ps none forest hu
    have hskip := Interface.skippedBy_of_mem_visitedPostorderForest ps none forest hu
    rcases mem_preorderForest hok hpre with ⟨n, hn, hnest, rfl⟩ | ⟨n, -, -, c, -, -, rfl⟩
    case inl =>
      have htop : h.topInterface n ∈ forest := (mem_forest hok).mpr ⟨n, hn, hnest, rfl⟩
      rw [subInterfaces_topInterface, List.mem_map] at h2
      obtain ⟨c, hc, h2⟩ := h2
      rw [List.mem_filter, beq_iff_eq] at hc
      refine .inr ⟨n, hn, hnest, Interface.mem_visitedPostorderForest_of_mem ps htop hskip, c, hc.1,
        hc.2, ?_, h2.symm⟩
      rw [h1, name_topInterface]
    case inr => simp [subInterfaces_flatInterface] at h2

theorem parent_eq_parentName {x : Association}
    (hx : x ∈ (Registry.discover ps forest).associations) :
    x.parent = h.parentName x.interface.name := by
  obtain ⟨e, he, hxe⟩ := (Registry.mem_discover_associations ps forest).mp hx
  obtain ⟨hi, hp⟩ := Interface.mem_ownAssociations ps hxe
  rw [hi, hp]
  rcases entry_cases hok he with ⟨h1, n, -, hnest, h2⟩ | ⟨n, hn, -, -, c, -, hbase, h1, h2⟩
  case inl =>
    rw [h1, h2, name_topInterface]
    exact ((h.parentName_eq_none_iff n).mpr hnest).symm
  case inr =>
    rw [h1, h2, name_flatInterface]
    exact (h.parentName_of_aliasBase hbase hn).symm

theorem mem_block_topInterface {x : Association}
    (hx : x ∈ (Registry.discover ps forest).associations)
    (hnest : isNestedAlias h.names x.interface.name = false) :
    ∃ e ∈ Interface.visitedPostorderForest ps none forest,
      e.2 = h.topInterface x.interface.name ∧ x ∈ e.2.ownAssociations ps e.1 := by
  obtain ⟨e, he, hxe⟩ := (Registry.mem_discover_associations ps forest).mp hx
  have hi := (Interface.mem_ownAssociations ps hxe).1
  refine ⟨e, he, ?_, hxe⟩
  rcases entry_cases hok he with ⟨-, n, -, -, h2⟩ | ⟨n, hn, -, -, c, -, hbase, -, h2⟩
  case inl => rw [hi, h2, name_topInterface]
  case inr =>
    rw [hi, h2, name_flatInterface] at hnest
    simp [h.isNestedAlias_of_aliasBase hbase hn] at hnest

theorem exists_addressed_topInterface_iff {b : String} (hb : isNestedAlias h.names b = false)
    (hv : (none, h.topInterface b) ∈ Interface.visitedPostorderForest ps none forest) :
    (∃ x ∈ (Registry.discover ps forest).associations, x.interface.name = b ∧ x.address.isSome) ↔
      (h.topInterface b).attributed ps ≠ [] := by
  constructor
  case mp =>
    rintro ⟨x, hx, hname, haddr⟩ hnil
    obtain ⟨e, -, he2, hxe⟩ := mem_block_topInterface hok hx (hname ▸ hb)
    have hcarried := Interface.carried_ownAssociations ps e.1 e.2
    rw [he2, hname, hnil] at hcarried
    obtain ⟨a, ha⟩ := Option.isSome_iff_exists.mp haddr
    have hmem : a ∈ carried (e.2.ownAssociations ps e.1) := mem_carried.mpr ⟨x, hxe, ha⟩
    rw [he2, hname, hcarried] at hmem
    simp at hmem
  case mpr =>
    intro hne
    obtain ⟨x, hx, hsome⟩ :=
      (Interface.exists_address_ownAssociations ps none (h.topInterface b)).mpr hne
    refine ⟨x, (Registry.mem_discover_associations ps forest).mpr ⟨_, hv, hx⟩, ?_, hsome⟩
    rw [(Interface.mem_ownAssociations ps hx).1, name_topInterface]

theorem primaryFor?_topInterface {b : String} (hb : isNestedAlias h.names b = false)
    (hv : (none, h.topInterface b) ∈ Interface.visitedPostorderForest ps none forest) :
    ((Registry.discover ps forest).primaryFor? b = none ↔ (h.topInterface b).attributed ps = []) ∧
      ∀ y, (Registry.discover ps forest).primaryFor? b = some y → y.parent = none := by
  rw [Registry.primaryFor?_discover]
  refine ⟨?_, fun y hy => ?_⟩
  case refine_1 =>
    have hiff := exists_addressed_topInterface_iff hok hb hv
    rw [List.getLast?_eq_none_iff, List.filter_eq_nil_iff]
    constructor
    case mp =>
      intro hnone
      apply Classical.byContradiction
      intro hne
      obtain ⟨x, hx, hname, haddr⟩ := hiff.mpr hne
      exact hnone x hx (by simp [hname, Association.hasAddress, haddr])
    case mpr =>
      intro hnil x hx hsel
      simp only [Bool.and_eq_true, beq_iff_eq] at hsel
      exact hiff.mp ⟨x, hx, hsel⟩ hnil
  case refine_2 =>
    have hmem := List.mem_of_getLast? hy
    rw [List.mem_filter, Bool.and_eq_true, beq_iff_eq] at hmem
    rw [parent_eq_parentName hok hmem.1, hmem.2.1]
    exact (h.parentName_eq_none_iff b).mpr hb

theorem defaultAssociation?_of_alias {f : Association} {b : String}
    (hf : (Registry.discover ps forest).firstAddressed? = some f)
    (hb : h.parentName f.interface.name = some b) :
    b ∈ h.names ∧ isNestedAlias h.names b = false ∧
      (none, h.topInterface b) ∈ Interface.visitedPostorderForest ps none forest ∧
      (Registry.discover ps forest).defaultAssociation? =
        (Registry.discover ps forest).primaryFor? b := by
  have hfr := (Registry.mem_of_firstAddressed? hf).1
  have hpar : f.parent = some b := (parent_eq_parentName hok hfr).trans hb
  obtain ⟨e, he, hfe⟩ := (Registry.mem_discover_associations ps forest).mp hfr
  have he1 : e.1 = some b := (Interface.mem_ownAssociations ps hfe).2 ▸ hpar
  rcases entry_cases hok he with ⟨h1, -⟩ | ⟨n, hn, hnest, hv, -, -, -, h1, -⟩
  case inl => simp [h1] at he1
  case inr =>
    obtain rfl : n = b := Option.some.inj (h1.symm.trans he1)
    refine ⟨hn, hnest, hv, ?_⟩
    simp [Registry.defaultAssociation?, hf, hpar]

theorem topInterface_of_mem_forest {u : Interface} (hu : u ∈ forest) :
    u = h.topInterface u.name := by
  obtain ⟨n, -, -, rfl⟩ := (mem_forest hok).mp hu
  rw [name_topInterface]

-- The default association, when there is one, is top-level: either the first addressed association
-- itself, or the primary association of its base.
theorem parent_of_defaultAssociation? {a : Association}
    (ha : (Registry.discover ps forest).defaultAssociation? = some a) : a.parent = none := by
  cases hf : (Registry.discover ps forest).firstAddressed?
  case none => simp [Registry.defaultAssociation?, hf] at ha
  case some f =>
    have hpar := parent_eq_parentName hok (Registry.mem_of_firstAddressed? hf).1
    cases hp : f.parent
    case none =>
      simp only [Registry.defaultAssociation?, hf, hp, Option.some.injEq] at ha
      rw [← ha, hp]
    case some b =>
      obtain ⟨-, hb, hv, hdef⟩ := defaultAssociation?_of_alias hok hf (hpar ▸ hp)
      exact (primaryFor?_topInterface hok hb hv).2 a (hdef ▸ ha)

theorem defaultAssociation?_eq_none_iff :
    (Registry.discover ps forest).defaultAssociation? = none ↔
      (∀ x ∈ (Registry.discover ps forest).associations, x.address = none) ∨
        ∃ f b, (Registry.discover ps forest).firstAddressed? = some f ∧
          h.parentName f.interface.name = some b ∧
          ∃ u ∈ forest, u.name = b ∧
            ∀ a ∈ u.relevant, ∃ w ∈ Interface.visitedForest ps u.subInterfaces, a ∈ w.relevant := by
  cases hf : (Registry.discover ps forest).firstAddressed?
  case none =>
    have hnone := (Registry.firstAddressed?_eq_none_iff _).mp hf
    simp only [Registry.defaultAssociation?, hf, true_iff]
    exact .inl hnone
  case some f =>
    obtain ⟨hfr, hfs⟩ := Registry.mem_of_firstAddressed? hf
    have hpar := parent_eq_parentName hok hfr
    have hnotall : ¬∀ x ∈ (Registry.discover ps forest).associations, x.address = none :=
      fun hall => by simp [hall f hfr] at hfs
    rw [or_iff_right hnotall]
    cases hp : f.parent
    -- a top-level first association is itself the default
    case none =>
      have hdef : (Registry.discover ps forest).defaultAssociation? = some f := by
        simp [Registry.defaultAssociation?, hf, hp]
      rw [hdef]
      constructor
      case mp => exact fun hsome => nomatch hsome
      case mpr =>
        rintro ⟨f', b, hf', hb', -⟩
        obtain rfl := Option.some.inj hf'
        rw [← hpar, hp] at hb'
        exact nomatch hb'
    -- an alias hands over to its base, whose primary association is absent exactly when its
    -- aliases hold all its relevant addresses
    case some b =>
      obtain ⟨hbn, hb, hv, hdef⟩ := defaultAssociation?_of_alias hok hf (hpar ▸ hp)
      rw [hdef, (primaryFor?_topInterface hok hb hv).1, Interface.attributed_eq_nil_iff]
      constructor
      case mp =>
        intro hrel
        exact ⟨f, b, rfl, hpar ▸ hp, h.topInterface b, (mem_forest hok).mpr ⟨b, hbn, hb, rfl⟩,
          h.name_topInterface b, hrel⟩
      case mpr =>
        rintro ⟨f', b', hf', hb', u, hu, hub, hrel⟩
        obtain rfl := Option.some.inj hf'
        obtain rfl : b' = b := Option.some.inj (hb'.symm.trans (hpar ▸ hp))
        have hu' : u = h.topInterface b' := hub ▸ topInterface_of_mem_forest hok hu
        subst hu'
        exact hrel

end Enumerated

-- From a host to its default association. Every association has as parent the base of its
-- interface's name when the host reports an interface of that name, and none otherwise. The
-- default association is top-level whenever there is one, and it is absent exactly when no
-- association carries an address, or when the first addressed association is an alias whose base
-- holds no relevant address that none of its visited aliases holds.
theorem host_default_association {h : HostSnapshot} {forest : List Interface}
    (hok : h.interfaces = .ok forest) (ps : List String) :
    (∀ x ∈ (Registry.discover ps forest).associations, x.parent = h.parentName x.interface.name) ∧
      (∀ a, (Registry.discover ps forest).defaultAssociation? = some a → a.parent = none) ∧
      ((Registry.discover ps forest).defaultAssociation? = none ↔
        (∀ x ∈ (Registry.discover ps forest).associations, x.address = none) ∨
          ∃ f b, (Registry.discover ps forest).firstAddressed? = some f ∧
            h.parentName f.interface.name = some b ∧
            ∃ u ∈ forest, u.name = b ∧
              ∀ a ∈ u.relevant, ∃ w ∈ Interface.visitedForest ps u.subInterfaces, a ∈ w.relevant) :=
  ⟨fun _ hx => parent_eq_parentName hok hx, fun _ ha => parent_of_defaultAssociation? hok ha,
    defaultAssociation?_eq_none_iff hok⟩

-- A base with an alias sharing its address, and an alias whose base is not reported, walked with
-- a skip list that prunes the alias and keeps its base.
def aliasedHost : HostSnapshot :=
  { entries := [("eth0:1", [⟨.inet, "10.0.0.6"⟩, ⟨.inet, "10.0.0.5"⟩]),
      ("wlan0:1", [⟨.inet, "192.168.1.2"⟩]), ("eth0", [⟨.inet, "10.0.0.5"⟩])] }

theorem host_default_association_aliasedHost :
    ∃ forest, aliasedHost.interfaces = .ok forest ∧
      (∀ x ∈ (Registry.discover ["eth0:"] forest).associations,
        x.parent = aliasedHost.parentName x.interface.name) ∧
      (∀ a, (Registry.discover ["eth0:"] forest).defaultAssociation? = some a → a.parent = none) ∧
      ((Registry.discover ["eth0:"] forest).defaultAssociation? = none ↔
        (∀ x ∈ (Registry.discover ["eth0:"] forest).associations, x.address = none) ∨
          ∃ f b, (Registry.discover ["eth0:"] forest).firstAddressed? = some f ∧
            aliasedHost.parentName f.interface.name = some b ∧
            ∃ u ∈ forest, u.name = b ∧
              ∀ a ∈ u.relevant, ∃ w ∈ Interface.visitedForest ["eth0:"] u.subInterfaces, a ∈ w.relevant) :=
  have hok := aliasedHost.interfaces_of_listed rfl rfl
  ⟨_, hok, host_default_association hok ["eth0:"]⟩

end HostSnapshot

end InterfaceDiscovery
