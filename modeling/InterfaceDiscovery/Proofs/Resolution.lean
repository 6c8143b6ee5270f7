import InterfaceDiscovery.Proofs.NameMaps

/-!
Default resolution over a walked forest. The default association is the first addressed
association of the registry when it belongs to a top-level interface; when it belongs to a
sub-interface, resolution climbs one level and takes the primary association of the parent, by
name. With distinct names among the visited interfaces that is the parent's last addressed
association, and it is absent exactly when the visited interfaces below the parent hold every
relevant address of the parent, even though an addressed alias exists.
-/

namespace InterfaceDiscovery

namespace Registry

/-! The three branches of resolution. -/

section Branches

variable (r : Registry) {f : Association}

theorem defaultAssociation?_of_firstAddressed?_none (hf : r.firstAddressed? = none) :
    r.defaultAssociation? = none := by
  simp [defaultAssociation?, hf]

theorem defaultAssociation?_of_top (hf : r.firstAddressed? = some f) (hp : f.parent = none) :
    r.defaultAssociation? = some f := by
  simp [defaultAssociation?, hf, hp]

theorem defaultAssociation?_of_parent {n : String} (hf : r.firstAddressed? = some f)
    (hp : f.parent = some n) : r.defaultAssociation? = r.primaryFor? n := by
  simp [defaultAssociation?, hf, hp]

end Branches

variable (ps : List String) {forest : List Interface}

theorem mem_of_defaultAssociation? {a : Association}
    (ha : (discover ps forest).defaultAssociation? = some a) :
    a ∈ (discover ps forest).associations ∧ a.address.isSome := by
  cases hf : (discover ps forest).firstAddressed?
  case none => simp [defaultAssociation?_of_firstAddressed?_none _ hf] at ha
  case some f =>
    cases hp : f.parent
    case none =>
      rw [defaultAssociation?_of_top _ hf hp, Option.some.injEq] at ha
      exact ha ▸ mem_of_firstAddressed? hf
    case some n =>
      rw [defaultAssociation?_of_parent _ hf hp] at ha
      obtain ⟨hmem, -, haddr⟩ := mem_of_primaryFor? ps ha
      exact ⟨hmem, haddr⟩

-- Default resolution over a walked forest whose visited interfaces have distinct names. Without an
-- addressed association there is no default. Otherwise the first addressed association belongs to
-- the block of a visited interface; when that interface is top-level the first association is the
-- default, and when it lies under a visited parent the default is the parent's last addressed
-- association, absent exactly when the visited interfaces below the parent hold all its relevant
-- addresses. A default, when there is one, is an addressed association of the registry.
theorem default_resolution (hnames : ((Interface.visitedForest ps forest).map (·.name)).Nodup) :
    ((∀ x ∈ (discover ps forest).associations, x.address = none) →
      (discover ps forest).defaultAssociation? = none) ∧
    (∀ f, (discover ps forest).firstAddressed? = some f →
      ∃ p v, (p, v) ∈ Interface.visitedPostorderForest ps none forest ∧ f.interface = v ∧
        f.parent = p ∧
        ((p = none ∧ v ∈ forest ∧ (discover ps forest).defaultAssociation? = some f) ∨
          ∃ q u, (q, u) ∈ Interface.visitedPostorderForest ps none forest ∧ v ∈ u.subInterfaces ∧
            p = some u.name ∧
            (discover ps forest).defaultAssociation? =
              ((discover ps forest).associations.filter
                fun x => x.interface == u && x.hasAddress).getLast? ∧
            ((discover ps forest).defaultAssociation? = none ↔
              ∀ a ∈ u.relevant, ∃ w ∈ Interface.visitedForest ps u.subInterfaces, a ∈ w.relevant))) ∧
    ∀ a, (discover ps forest).defaultAssociation? = some a →
      a ∈ (discover ps forest).associations ∧ a.address.isSome := by
  refine ⟨fun hall => ?none, fun f hf => ?first, fun a ha => mem_of_defaultAssociation? ps ha⟩
  case none =>
    exact defaultAssociation?_of_firstAddressed?_none _ ((firstAddressed?_eq_none_iff _).mpr hall)
  case first =>
    obtain ⟨e, he, hfe⟩ := (mem_discover_associations ps forest).mp (mem_of_firstAddressed? hf).1
    obtain ⟨hi, hp⟩ := Interface.mem_ownAssociations ps hfe
    refine ⟨e.1, e.2, he, hi, hp, ?_⟩
    -- the entry of the first association is a root of the forest, or lies under a visited parent
    rcases Interface.mem_visitedPostorderForest ps none forest he with
      ⟨h1, h2, -⟩ | ⟨q, u, hu, h1, h2⟩
    case inl => exact .inl ⟨h1, h2, defaultAssociation?_of_top _ hf (hp.trans h1)⟩
    case inr =>
      have hdef := defaultAssociation?_of_parent _ hf (hp.trans h1)
      refine .inr ⟨q, u, hu, h2, h1, ?_, ?_⟩
      case refine_1 => rw [hdef, primaryFor?_eq_getLast? ps hnames hu]
      case refine_2 => rw [hdef, primaryFor?_eq_none_iff ps hnames hu, Interface.attributed_eq_nil_iff]

theorem default_resolution_sharedAlias :
    ((Interface.visitedForest [] sharedAliasForest).map (·.name)).Nodup ∧
    ((∀ x ∈ (discover [] sharedAliasForest).associations, x.address = none) →
      (discover [] sharedAliasForest).defaultAssociation? = none) ∧
    (∀ f, (discover [] sharedAliasForest).firstAddressed? = some f →
      ∃ p v, (p, v) ∈ Interface.visitedPostorderForest [] none sharedAliasForest ∧
        f.interface = v ∧ f.parent = p ∧
        ((p = none ∧ v ∈ sharedAliasForest ∧
            (discover [] sharedAliasForest).defaultAssociation? = some f) ∨
          ∃ q u, (q, u) ∈ Interface.visitedPostorderForest [] none sharedAliasForest ∧
            v ∈ u.subInterfaces ∧ p = some u.name ∧
            (discover [] sharedAliasForest).defaultAssociation? =
              ((discover [] sharedAliasForest).associations.filter
                fun x => x.interface == u && x.hasAddress).getLast? ∧
            ((discover [] sharedAliasForest).defaultAssociation? = none ↔
              ∀ a ∈ u.relevant, ∃ w ∈ Interface.visitedForest [] u.subInterfaces, a ∈ w.relevant))) ∧
    ∀ a, (discover [] sharedAliasForest).defaultAssociation? = some a →
      a ∈ (discover [] sharedAliasForest).associations ∧ a.address.isSome :=
  have hnames : ((Interface.visitedForest [] sharedAliasForest).map (·.name)).Nodup := by decide
  ⟨hnames, default_resolution [] hnames⟩

end Registry

end InterfaceDiscovery
