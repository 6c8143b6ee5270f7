import InterfaceDiscovery.Proofs.Views

/-!
Skipping more. A skip list extended by further prefixes skips every interface the shorter list
skips, so the walk with it visits a sublist of what the walk with the shorter list visits. Fewer
visited interfaces below an interface hold fewer of its addresses, so each interface is
attributed at least the addresses it had: the name map, the interfaces and the addresses of the
registry shrink, but no address is taken from an interface that is still visited. A parent may
gain an address, namely one that a sub-interface skipped now held before.
-/

namespace InterfaceDiscovery

theorem skipsNames_append (ps qs : List String) (names : List (Option String)) :
    skipsNames (ps ++ qs) names = (skipsNames ps names || skipsNames qs names) := by
  simp [skipsNames, List.any_append]

namespace Interface

variable (ps qs : List String)

theorem skippedBy_append (i : Interface) :
    i.skippedBy (ps ++ qs) = (i.skippedBy ps || i.skippedBy qs) :=
  skipsNames_append ps qs _

-- The walk with more prefixes leaves out more subtrees and keeps the others in order: induction
-- along the walk, one case for an interface the longer list skips and one for an interface it
-- keeps, which the shorter list keeps too.
mutual

theorem visited_append_sublist : ∀ i : Interface, (visited (ps ++ qs) i).Sublist (visited ps i)
  | ⟨name, d, as, subs, up, mac, mtu⟩ => by
    rw [visited_eq, visited_eq]
    exact (visitedForest_append_sublist subs).cons_cons _

theorem visitedForest_append_sublist :
    ∀ is : List Interface, (visitedForest (ps ++ qs) is).Sublist (visitedForest ps is)
  | [] => by simp
  | i :: is => by
    have ih := visitedForest_append_sublist is
    rw [visitedForest_cons, visitedForest_cons, skippedBy_append]
    cases hp : i.skippedBy ps
    case true => simpa using ih
    case false =>
      cases hq : i.skippedBy qs
      case true => simpa using ih.trans (List.sublist_append_right _ _)
      case false => simpa using (visited_append_sublist i).append ih

end

-- Fewer visited interfaces below an interface hold fewer of its relevant addresses, so it is
-- attributed every address it had, in the same order.
theorem attributed_sublist_append (i : Interface) :
    (i.attributed ps).Sublist (i.attributed (ps ++ qs)) := by
  have hbelow := (visitedForest_append_sublist ps qs i.subInterfaces).subset
  have hkept : i.attributed ps = (i.attributed (ps ++ qs)).filter
      fun a => decide (∀ w ∈ visitedForest ps i.subInterfaces, a ∉ w.relevant) := by
    rw [attributed, attributed, List.filter_filter]
    apply List.filter_congr
    intro a _
    by_cases ha : ∀ w ∈ visitedForest ps i.subInterfaces, a ∉ w.relevant
    case pos =>
      have ha' : ∀ w ∈ visitedForest (ps ++ qs) i.subInterfaces, a ∉ w.relevant :=
        fun w hw => ha w (hbelow hw)
      simp only [decide_eq_true ha, decide_eq_true ha', Bool.and_self]
    case neg => simp only [decide_eq_false ha, Bool.false_and]
  rw [hkept]
  exact List.filter_sublist

end Interface

namespace Registry

variable (ps qs : List String) (forest : List Interface)

theorem mem_keys_addressesByName_discover (n : String) :
    n ∈ (discover ps forest).addressesByName.keys ↔
      ∃ v ∈ Interface.visitedForest ps forest, v.name = n := by
  rw [addressesByName_discover, NameMap.mem_keys_foldl_insert, NameMap.keys_empty]
  simp

theorem allAddresses?_eq_some_iff (r : Registry) (as : List Address) :
    r.allAddresses? = some as ↔ as ≠ [] ∧ carried r.associations = as := by
  unfold allAddresses?
  have hcarried : r.associations.filterMap (·.address) = carried r.associations := rfl
  rw [hcarried]
  cases carried r.associations
  case nil => simp
  case cons b bs =>
    constructor
    case mp =>
      rintro ⟨⟩
      exact ⟨List.cons_ne_nil b bs, rfl⟩
    case mpr =>
      rintro ⟨-, rfl⟩
      rfl

-- Skipping more. With further skip prefixes the walk visits a sublist of the interfaces it
-- visited, so the names of the address map, the interfaces and the addresses of the registry
-- shrink; every interface is attributed at least the addresses it was, so an address the registry
-- placed beside an interface that is still visited stays beside it. The associations themselves
-- are not monotone: a parent may gain an address that a sub-interface now skipped held.
theorem skipping_more_keeps_attribution :
    (Interface.visitedForest (ps ++ qs) forest).Sublist (Interface.visitedForest ps forest) ∧
    (∀ n ∈ (discover (ps ++ qs) forest).addressesByName.keys,
      n ∈ (discover ps forest).addressesByName.keys) ∧
    (∀ v ∈ (discover (ps ++ qs) forest).interfaces, v ∈ (discover ps forest).interfaces) ∧
    (∀ as', (discover (ps ++ qs) forest).allAddresses? = some as' →
      ∃ as, (discover ps forest).allAddresses? = some as ∧ ∀ a ∈ as', a ∈ as) ∧
    (∀ i : Interface, (i.attributed ps).Sublist (i.attributed (ps ++ qs))) ∧
    (∀ a v, (∃ x ∈ (discover ps forest).associations, x.address = some a ∧ x.interface = v) →
      v ∈ Interface.visitedForest (ps ++ qs) forest →
      ∃ x ∈ (discover (ps ++ qs) forest).associations, x.address = some a ∧ x.interface = v) ∧
    ∃ (ps₀ qs₀ : List String) (forest₀ : List Interface) (a : Address) (v : Interface),
      (∃ x ∈ (discover (ps₀ ++ qs₀) forest₀).associations, x.address = some a ∧ x.interface = v) ∧
      ¬ ∃ x ∈ (discover ps₀ forest₀).associations, x.address = some a ∧ x.interface = v := by
  have hvisited := Interface.visitedForest_append_sublist ps qs forest
  refine ⟨hvisited, fun n hn => ?keys, fun v hv => ?interfaces, fun as' has' => ?addresses,
    Interface.attributed_sublist_append ps qs, fun a v hx hv => ?kept, ?gain⟩
  case keys =>
    obtain ⟨v, hv, rfl⟩ := (mem_keys_addressesByName_discover (ps ++ qs) forest n).mp hn
    exact (mem_keys_addressesByName_discover ps forest _).mpr ⟨v, hvisited.subset hv, rfl⟩
  case interfaces =>
    rw [mem_interfaces_discover] at hv ⊢
    exact hvisited.subset hv
  case addresses =>
    obtain ⟨hne, hcarried⟩ := (allAddresses?_eq_some_iff _ as').mp has'
    -- every address carried with more prefixes is carried by a visited interface, hence before
    have hsub : ∀ a ∈ as', a ∈ carried (discover ps forest).associations := by
      intro a ha
      rw [← hcarried, mem_carried_discover] at ha
      obtain ⟨w, hw, haw⟩ := ha
      exact (mem_carried_discover ps forest a).mpr ⟨w, hvisited.subset hw, haw⟩
    obtain ⟨a, ha⟩ := List.exists_mem_of_ne_nil _ hne
    refine ⟨carried (discover ps forest).associations,
      (allAddresses?_eq_some_iff _ _).mpr ⟨List.ne_nil_of_mem (hsub a ha), rfl⟩, hsub⟩
  case kept =>
    obtain ⟨-, ha⟩ := (mem_addressed_discover ps forest a v).mp hx
    exact (mem_addressed_discover (ps ++ qs) forest a v).mpr
      ⟨hv, (Interface.attributed_sublist_append ps qs v).subset ha⟩
  case gain =>
    -- skipping the alias of an interface that shares its address hands the address to the parent
    refine ⟨[], ["eth0:"], sharedAliasForest, .v4 167772166,
      sharedAliasForest.head (List.cons_ne_nil _ _), ?_, ?_⟩
    · exact (mem_addressed_discover _ _ _ _).mpr ⟨by decide, by decide +kernel⟩
    · rw [mem_addressed_discover]
      decide +kernel

end Registry

end InterfaceDiscovery
