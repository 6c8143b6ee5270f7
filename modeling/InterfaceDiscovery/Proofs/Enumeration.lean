import InterfaceDiscovery.Proofs.Host

/-!
The shape of the enumerated forest. When the host lists its interfaces, each reported name is in
the forest exactly once. A name is top-level unless it has a colon and the text before its first
colon, its base, is a reported name; the top-level names, and under each the names whose base it
is, come in ascending code-point order, and nothing is nested deeper, because a base has no colon.
Every interface carries what the host reports under its name, and the forest does not depend on
the order in which the host reports its names.
-/

namespace InterfaceDiscovery

section Lookup

/-! Values under keys, in lists of pairs keyed by name. -/

theorem find?_map_eq_lookup {β : Type} (l : List (String × β)) (k : String) :
    (l.find? (·.1 == k)).map (·.2) = l.lookup k := by
  induction l with
  | nil => rfl
  | cons e l ih =>
    obtain ⟨m, b⟩ := e
    by_cases hm : m = k
    case pos => simp [hm]
    case neg =>
      have hmk : (m == k) = false := by simpa using hm
      have hkm : (k == m) = false := by simpa using Ne.symm hm
      simp only [List.find?_cons, hmk, List.lookup_cons, hkm, ih]

theorem eq_of_mem_of_nodup_keys {β : Type} :
    ∀ {l : List (String × β)}, (l.map (·.1)).Nodup → ∀ {k : String} {v v' : β},
      (k, v) ∈ l → (k, v') ∈ l → v = v'
  | [], _, _, _, _, hv, _ => by simp at hv
  | (m, w) :: l, hN, k, v, v', hv, hv' => by
    rw [List.map_cons, List.nodup_cons] at hN
    have hkey : ∀ {u}, (k, u) ∈ l → k ≠ m := fun hu hkm =>
      hN.1 (List.mem_map.mpr ⟨(k, _), hu, hkm⟩)
    rcases List.mem_cons.mp hv with hv | hv <;> rcases List.mem_cons.mp hv' with hv' | hv'
    case inl.inl => exact (Prod.mk.inj hv).2.trans (Prod.mk.inj hv').2.symm
    case inl.inr => exact absurd (Prod.mk.inj hv).1 (hkey hv')
    case inr.inl => exact absurd (Prod.mk.inj hv').1 (hkey hv)
    case inr.inr => exact eq_of_mem_of_nodup_keys hN.2 hv hv'

theorem lookup_eq_some_iff_mem {β : Type} {l : List (String × β)} (hN : (l.map (·.1)).Nodup)
    {k : String} {v : β} : l.lookup k = some v ↔ (k, v) ∈ l := by
  constructor
  case mp =>
    intro hl
    obtain ⟨l₁, l₂, rfl, -⟩ := List.lookup_eq_some_iff.mp hl
    simp
  case mpr =>
    intro hv
    obtain ⟨v', hv'⟩ : ∃ v', l.lookup k = some v' := by
      apply Option.isSome_iff_exists.mp
      rw [List.lookup_isSome_iff]
      exact ⟨(k, v), hv, by simp⟩
    obtain ⟨l₁, l₂, rfl, -⟩ := List.lookup_eq_some_iff.mp hv'
    have hmem : (k, v') ∈ l₁ ++ (k, v') :: l₂ := List.mem_append_right l₁ List.mem_cons_self
    rw [hv', eq_of_mem_of_nodup_keys hN hv hmem]

theorem lookup_eq_of_perm {β : Type} {l l' : List (String × β)} (hN : (l.map (·.1)).Nodup)
    (hp : l'.Perm l) (k : String) : l'.lookup k = l.lookup k := by
  have hN' : (l'.map (·.1)).Nodup := (hp.map _).nodup_iff.mpr hN
  apply Option.ext
  intro v
  rw [lookup_eq_some_iff_mem hN', lookup_eq_some_iff_mem hN, hp.mem_iff]

end Lookup

namespace HostSnapshot

/-! Bases of aliases. -/

-- So a base is no alias, and no name is its own base.
theorem aliasBase?_of_aliasBase? {n b : String} (h : aliasBase? n = some b) : aliasBase? b = none :=
  aliasBase?_eq_none_iff.mpr (colon_not_mem_of_aliasBase? h)

theorem ne_of_aliasBase? {n b : String} (h : aliasBase? n = some b) : b ≠ n := by
  rintro rfl
  exact colon_not_mem_of_aliasBase? h (aliasBase?_eq_some_iff.mp h).1

/-! The names in code-point order. -/

theorem decide_le_trans (a b c : String) :
    decide (a ≤ b) = true → decide (b ≤ c) = true → decide (a ≤ c) = true := by
  simp only [decide_eq_true_eq]
  exact String.le_trans

theorem decide_le_total (a b : String) : (decide (a ≤ b) || decide (b ≤ a)) = true := by
  simp only [Bool.or_eq_true, decide_eq_true_eq]
  exact String.le_total a b

variable (h : HostSnapshot)

theorem names_perm : h.names.Perm (h.entries.map (·.1)) :=
  List.mergeSort_perm _ _

theorem pairwise_le_names : h.names.Pairwise (fun a b => decide (a ≤ b) = true) :=
  List.pairwise_mergeSort decide_le_trans decide_le_total _

theorem nodup_names (hN : (h.entries.map (·.1)).Nodup) : h.names.Nodup :=
  h.names_perm.nodup_iff.mpr hN

theorem pairwise_lt_names (hN : (h.entries.map (·.1)).Nodup) : h.names.Pairwise (· < ·) := by
  refine (h.pairwise_le_names.and (h.nodup_names hN)).imp ?_
  rintro a b ⟨hab, hne⟩
  rw [decide_eq_true_eq] at hab
  exact String.not_le.mp fun hba => hne (String.le_antisymm hab hba)

theorem names_eq_of_perm {h' : HostSnapshot} (hp : h'.entries.Perm h.entries) : h'.names = h.names := by
  have hperm : h'.names.Perm h.names :=
    (h'.names_perm.trans (hp.map _)).trans h.names_perm.symm
  refine hperm.eq_of_pairwise ?_ h'.pairwise_le_names h.pairwise_le_names
  intro a b _ _ hab hba
  rw [decide_eq_true_eq] at hab hba
  exact String.le_antisymm hab hba

theorem isNestedAlias_eq_false_iff (n : String) :
    isNestedAlias h.names n = false ↔
      ':' ∉ n.toList ∨ String.ofList (n.toList.takeWhile (· != ':')) ∉ h.entries.map (·.1) := by
  unfold isNestedAlias
  cases hb : aliasBase? n
  case none => simp [aliasBase?_eq_none_iff.mp hb]
  case some b =>
    obtain ⟨hc, rfl⟩ := aliasBase?_eq_some_iff.mp hb
    simp [hc, h.mem_names]

theorem isNestedAlias_eq_true_iff (c : String) :
    isNestedAlias h.names c = true ↔ ∃ b, aliasBase? c = some b ∧ b ∈ h.names := by
  unfold isNestedAlias
  cases aliasBase? c <;> simp

/-! What an interface carries. -/

theorem find?_interfaceOf (l : List (String × List AddressEntry)) (n : String) :
    (l.map fun (m, es) => h.interfaceOf m es).find? (·.name == n) =
      (l.lookup n).map (h.interfaceOf n) := by
  have hpred : ((·.name == n) ∘ fun (e : String × List AddressEntry) => h.interfaceOf e.1 e.2) =
      (·.1 == n) := rfl
  rw [List.find?_map, hpred, ← find?_map_eq_lookup, Option.map_map]
  cases hf : l.find? (·.1 == n)
  case none => rfl
  case some e =>
    have he : e.1 = n := by simpa using List.find?_some hf
    simp [he]

theorem flatInterface_of_lookup {n : String} {es : List AddressEntry}
    (hl : h.entries.lookup n = some es) : h.flatInterface n = h.interfaceOf n es := by
  unfold flatInterface
  rw [find?_interfaceOf, hl]
  rfl

-- An interface carries what the host reports under its name: its display name is its name, its
-- addresses are the IPv4 and IPv6 entries that read as addresses once cut at their zone, without
-- repeats and in host order, its hardware address is that of its last link entry, and its link
-- state and MTU are those of the statistics of its name.
def Carries (u : Interface) : Prop :=
  ∃ es, h.entries.lookup u.name = some es ∧ u.displayName = some u.name ∧
    u.addresses = (es.filterMap fun e =>
      if e.family == .inet || e.family == .inet6 then readHostAddress? e.address else none).eraseDups ∧
    u.macAddress = ((es.filter (·.family == .link)).getLast?).map (·.address) ∧
    u.isUp = (h.stats.lookup u.name).bind (·.isUp) ∧ u.mtu = (h.stats.lookup u.name).bind (·.mtu)

theorem carries_interfaceOf {n : String} {es : List AddressEntry} (hl : h.entries.lookup n = some es) :
    h.Carries (h.interfaceOf n es) := by
  refine ⟨es, hl, rfl, rfl, rfl, ?_, ?_⟩ <;> simp [interfaceOf, find?_map_eq_lookup]

theorem carries_flatInterface {n : String} (hn : n ∈ h.names) : h.Carries (h.flatInterface n) := by
  obtain ⟨es, hl⟩ : ∃ es, h.entries.lookup n = some es := by
    apply Option.isSome_iff_exists.mp
    rw [List.lookup_isSome_iff]
    obtain ⟨⟨m, es⟩, hm, rfl⟩ := List.mem_map.mp ((h.mem_names).mp hn)
    exact ⟨(m, es), hm, by simp⟩
  rw [flatInterface_of_lookup h hl]
  exact h.carries_interfaceOf hl

theorem carries_topInterface {n : String} (hn : n ∈ h.names) : h.Carries (h.topInterface n) :=
  h.carries_flatInterface hn

theorem names_map_flatInterface (cs : List String) : (cs.map h.flatInterface).map (·.name) = cs := by
  rw [List.map_map]
  exact List.map_id'' (fun c => h.name_flatInterface c) cs

theorem names_map_topInterface (ns : List String) : (ns.map h.topInterface).map (·.name) = ns := by
  rw [List.map_map]
  exact List.map_id'' (fun n => h.name_topInterface n) ns

/-! Every name once. -/

theorem names_preorderForest_tops (ns : List String) :
    (Interface.preorderForest (ns.map h.topInterface)).map (·.name) =
      ns.flatMap fun n => n :: h.names.filter (aliasBase? · == some n) := by
  induction ns with
  | nil => rfl
  | cons n ns ih =>
    rw [List.map_cons, Interface.preorderForest_cons, Interface.preorder_eq, subInterfaces_topInterface,
      preorderForest_flat, List.map_append, List.map_cons, names_map_flatInterface, ih,
      name_topInterface, List.flatMap_cons, List.cons_append]

theorem nodup_preorder_blocks (hN : (h.entries.map (·.1)).Nodup) :
    ((h.names.filter (!isNestedAlias h.names ·)).flatMap
      fun n => n :: h.names.filter (aliasBase? · == some n)).Nodup := by
  have hnames := h.nodup_names hN
  unfold List.Nodup
  rw [List.pairwise_flatMap]
  constructor
  case left =>
    intro n _
    rw [List.pairwise_cons]
    refine ⟨fun c hc hnc => ?_, hnames.sublist List.filter_sublist⟩
    rw [List.mem_filter, beq_iff_eq] at hc
    exact ne_of_aliasBase? hc.2 hnc
  case right =>
    refine (hnames.sublist List.filter_sublist).imp_of_mem ?_
    intro a b ha hb hab x hx y hy hxy
    subst hxy
    rw [List.mem_filter, Bool.not_eq_eq_eq_not, Bool.not_true] at ha hb
    simp only [List.mem_cons, List.mem_filter, beq_iff_eq] at hx hy
    rcases hx with rfl | ⟨-, hxa⟩ <;> rcases hy with rfl | ⟨-, hxb⟩
    case inl.inl => exact hab rfl
    case inl.inr => simp [h.isNestedAlias_of_aliasBase hxb hb.1] at ha
    case inr.inl => simp [h.isNestedAlias_of_aliasBase hxa ha.1] at hb
    case inr.inr => exact hab (Option.some.inj (hxa.symm.trans hxb))

theorem mem_preorder_blocks (c : String) :
    c ∈ (h.names.filter (!isNestedAlias h.names ·)).flatMap
      (fun n => n :: h.names.filter (aliasBase? · == some n)) ↔ c ∈ h.names := by
  simp only [List.mem_flatMap, List.mem_cons, List.mem_filter, beq_iff_eq, Bool.not_eq_eq_eq_not,
    Bool.not_true]
  constructor
  case mp =>
    rintro ⟨n, ⟨hn, -⟩, rfl | ⟨hc, -⟩⟩
    case inl => exact hn
    case inr => exact hc
  case mpr =>
    intro hc
    -- a nested name sits under its base, which is top-level since it has no colon
    cases hnest : isNestedAlias h.names c
    case false => exact ⟨c, ⟨hc, hnest⟩, .inl rfl⟩
    case true =>
      obtain ⟨b, hb, hbn⟩ := (h.isNestedAlias_eq_true_iff c).mp hnest
      have hbtop : isNestedAlias h.names b = false := by
        simp [isNestedAlias, aliasBase?_of_aliasBase? hb]
      exact ⟨b, ⟨hbn, hbtop⟩, .inr ⟨hc, hb⟩⟩

/-! Order independence. -/

theorem interfaces_eq_of_perm (hN : (h.entries.map (·.1)).Nodup)
    {es' : List (String × List AddressEntry)} (hp : es'.Perm h.entries) :
    ({ h with entries := es' } : HostSnapshot).interfaces = h.interfaces := by
  have hnames : ({ h with entries := es' } : HostSnapshot).names = h.names := h.names_eq_of_perm hp
  have hflat : ({ h with entries := es' } : HostSnapshot).flatInterface = h.flatInterface := by
    funext n
    unfold flatInterface
    rw [find?_interfaceOf, find?_interfaceOf, lookup_eq_of_perm hN hp]
    rfl
  unfold interfaces
  rw [hnames, hflat]

/-! The enumerated forest. -/

section Enumerated

variable {h} {forest : List Interface} (hok : h.interfaces = .ok forest)
include hok

theorem names_forest : forest.map (·.name) = h.names.filter (!isNestedAlias h.names ·) := by
  rw [forest_eq hok, names_map_topInterface]

theorem mem_names_forest (n : String) :
    n ∈ forest.map (·.name) ↔ n ∈ h.entries.map (·.1) ∧
      (':' ∉ n.toList ∨ String.ofList (n.toList.takeWhile (· != ':')) ∉ h.entries.map (·.1)) := by
  rw [names_forest hok, List.mem_filter, Bool.not_eq_eq_eq_not, Bool.not_true,
    h.isNestedAlias_eq_false_iff, h.mem_names]

theorem pairwise_lt_names_forest (hN : (h.entries.map (·.1)).Nodup) :
    (forest.map (·.name)).Pairwise (· < ·) := by
  rw [names_forest hok]
  exact (h.pairwise_lt_names hN).sublist List.filter_sublist

theorem names_subInterfaces {u : Interface} (hu : u ∈ forest) :
    u.subInterfaces.map (·.name) = h.names.filter (aliasBase? · == some u.name) := by
  obtain ⟨n, -, -, rfl⟩ := (mem_forest hok).mp hu
  rw [subInterfaces_topInterface, name_topInterface, names_map_flatInterface]

theorem mem_names_subInterfaces {u : Interface} (hu : u ∈ forest) (c : String) :
    c ∈ u.subInterfaces.map (·.name) ↔ c ∈ h.entries.map (·.1) ∧ ':' ∈ c.toList ∧
      String.ofList (c.toList.takeWhile (· != ':')) = u.name := by
  rw [names_subInterfaces hok hu, List.mem_filter, h.mem_names, beq_iff_eq, aliasBase?_eq_some_iff]
  exact and_congr_right fun _ => and_congr_right fun _ => eq_comm

theorem pairwise_lt_names_subInterfaces (hN : (h.entries.map (·.1)).Nodup) {u : Interface}
    (hu : u ∈ forest) : (u.subInterfaces.map (·.name)).Pairwise (· < ·) := by
  rw [names_subInterfaces hok hu]
  exact (h.pairwise_lt_names hN).sublist List.filter_sublist

theorem subInterfaces_of_subInterface {u c : Interface} (hu : u ∈ forest) (hc : c ∈ u.subInterfaces) :
    c.subInterfaces = [] := by
  obtain ⟨n, -, -, rfl⟩ := (mem_forest hok).mp hu
  rw [subInterfaces_topInterface, List.mem_map] at hc
  obtain ⟨c', -, rfl⟩ := hc
  exact h.subInterfaces_flatInterface c'

theorem perm_names_preorderForest (hN : (h.entries.map (·.1)).Nodup) :
    ((Interface.preorderForest forest).map (·.name)).Perm (h.entries.map (·.1)) := by
  rw [forest_eq hok, names_preorderForest_tops]
  have hperm := (List.perm_ext_iff_of_nodup (h.nodup_preorder_blocks hN) (h.nodup_names hN)).mpr
    h.mem_preorder_blocks
  exact hperm.trans h.names_perm

theorem carries_of_mem_preorderForest {u : Interface} (hu : u ∈ Interface.preorderForest forest) :
    h.Carries u := by
  rcases mem_preorderForest hok hu with ⟨n, hn, -, rfl⟩ | ⟨-, -, -, c, hc, -, rfl⟩
  case inl => exact h.carries_topInterface hn
  case inr => exact h.carries_flatInterface hc

end Enumerated

-- The shape of the enumerated forest. When both listings of the host succeed, enumeration gives a
-- forest that holds every reported name exactly once and no other. Its top-level names are those
-- without a colon or whose base is not reported, in ascending code-point order; under each, in
-- the same order, are the names with a colon whose base it is, and these have nothing under
-- them. Every interface carries what the host reports under its name, and reporting the names in
-- another order gives the same forest.
theorem enumerated_forest_shape {h : HostSnapshot} (hN : (h.entries.map (·.1)).Nodup)
    (hentries : h.entriesFailure = none) (hstats : h.statsFailure = none) :
    ∃ forest, h.interfaces = .ok forest ∧
      ((Interface.preorderForest forest).map (·.name)).Perm (h.entries.map (·.1)) ∧
      (forest.map (·.name)).Pairwise (· < ·) ∧
      (∀ n, n ∈ forest.map (·.name) ↔ n ∈ h.entries.map (·.1) ∧
        (':' ∉ n.toList ∨ String.ofList (n.toList.takeWhile (· != ':')) ∉ h.entries.map (·.1))) ∧
      (∀ u ∈ forest, (u.subInterfaces.map (·.name)).Pairwise (· < ·) ∧
        (∀ c, c ∈ u.subInterfaces.map (·.name) ↔ c ∈ h.entries.map (·.1) ∧ ':' ∈ c.toList ∧
          String.ofList (c.toList.takeWhile (· != ':')) = u.name) ∧
        ∀ c ∈ u.subInterfaces, c.subInterfaces = []) ∧
      (∀ u ∈ Interface.preorderForest forest, h.Carries u) ∧
      ∀ es', es'.Perm h.entries → ({ h with entries := es' } : HostSnapshot).interfaces = .ok forest := by
  have hok := h.interfaces_of_listed hentries hstats
  refine ⟨_, hok, perm_names_preorderForest hok hN, pairwise_lt_names_forest hok hN,
    mem_names_forest hok, fun u hu => ?_, fun u hu => carries_of_mem_preorderForest hok hu,
    fun es' hp => (h.interfaces_eq_of_perm hN hp).trans hok⟩
  exact ⟨pairwise_lt_names_subInterfaces hok hN hu, mem_names_subInterfaces hok hu,
    fun c hc => subInterfaces_of_subInterface hok hu hc⟩

-- A host with an interface and its alias, and an alias whose base it does not report.
def aliasHost : HostSnapshot :=
  { entries := [("eth0:1", [⟨.inet, "10.0.0.6"⟩]), ("wlan0:1", [⟨.inet6, "fe80::1%wlan0"⟩]),
      ("eth0", [⟨.inet, "10.0.0.5"⟩, ⟨.link, "02:00:00:00:00:01"⟩])] }

theorem enumerated_forest_shape_aliasHost :
    (aliasHost.entries.map (·.1)).Nodup ∧ aliasHost.entriesFailure = none ∧
      aliasHost.statsFailure = none ∧
    ∃ forest, aliasHost.interfaces = .ok forest ∧
      ((Interface.preorderForest forest).map (·.name)).Perm (aliasHost.entries.map (·.1)) ∧
      (forest.map (·.name)).Pairwise (· < ·) ∧
      (∀ n, n ∈ forest.map (·.name) ↔ n ∈ aliasHost.entries.map (·.1) ∧
        (':' ∉ n.toList ∨
          String.ofList (n.toList.takeWhile (· != ':')) ∉ aliasHost.entries.map (·.1))) ∧
      (∀ u ∈ forest, (u.subInterfaces.map (·.name)).Pairwise (· < ·) ∧
        (∀ c, c ∈ u.subInterfaces.map (·.name) ↔ c ∈ aliasHost.entries.map (·.1) ∧
          ':' ∈ c.toList ∧ String.ofList (c.toList.takeWhile (· != ':')) = u.name) ∧
        ∀ c ∈ u.subInterfaces, c.subInterfaces = []) ∧
      (∀ u ∈ Interface.preorderForest forest, aliasHost.Carries u) ∧
      ∀ es', es'.Perm aliasHost.entries →
        ({ aliasHost with entries := es' } : HostSnapshot).interfaces = .ok forest :=
  have hN : (aliasHost.entries.map (·.1)).Nodup := by decide
  ⟨hN, rfl, rfl, enumerated_forest_shape hN rfl rfl⟩

end HostSnapshot

end InterfaceDiscovery
