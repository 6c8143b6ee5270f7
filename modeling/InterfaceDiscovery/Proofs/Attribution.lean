import InterfaceDiscovery.Proofs.Walk

/-!
Attribution of addresses. Each visited interface is given, in host order and once each, those of
its relevant addresses that no visited interface below it holds; so an address shared with a
visited alias goes to the alias, and one held only by a skipped interface goes nowhere. Over a
whole forest nothing is lost and nothing is made up: the addresses of the registry are the
relevant addresses of the visited interfaces.
-/

namespace InterfaceDiscovery

section EraseDups

variable {α : Type} [BEq α]

theorem eraseDups_sublist : (l : List α) → l.eraseDups.Sublist l
  | [] => by simp
  | a :: as => by
    have : (as.filter fun b => !b == a).length < as.length + 1 :=
      Nat.lt_add_one_of_le (List.length_filter_le _ as)
    rw [List.eraseDups_cons]
    exact ((eraseDups_sublist _).trans List.filter_sublist).cons_cons a
termination_by l => l.length

theorem nodup_eraseDups [LawfulBEq α] : (l : List α) → l.eraseDups.Nodup
  | [] => by simp
  | a :: as => by
    have : (as.filter fun b => !b == a).length < as.length + 1 :=
      Nat.lt_add_one_of_le (List.length_filter_le _ as)
    rw [List.eraseDups_cons, List.nodup_cons]
    refine ⟨?_, nodup_eraseDups _⟩
    simp [List.mem_eraseDups, List.mem_filter]
termination_by l => l.length

end EraseDups

namespace Interface

variable (ps : List String) (i : Interface)

theorem nodup_relevant : i.relevant.Nodup :=
  nodup_eraseDups _

theorem relevant_sublist : i.relevant.Sublist i.addresses :=
  (eraseDups_sublist _).trans List.filter_sublist

theorem nodup_attributed : (i.attributed ps).Nodup :=
  (i.nodup_relevant).sublist List.filter_sublist

theorem attributed_sublist : (i.attributed ps).Sublist i.addresses :=
  List.filter_sublist.trans i.relevant_sublist

theorem mem_attributed {a : Address} :
    a ∈ i.attributed ps ↔ a ∈ i.relevant ∧ ∀ w ∈ visitedForest ps i.subInterfaces, a ∉ w.relevant := by
  simp [attributed]

theorem attributed_eq_nil_iff :
    i.attributed ps = [] ↔
      ∀ a ∈ i.relevant, ∃ w ∈ visitedForest ps i.subInterfaces, a ∈ w.relevant := by
  simp [attributed, List.filter_eq_nil_iff]

theorem addressed_ownAssociations (parent : Option String) :
    (i.ownAssociations ps parent).filterMap (fun x => x.address.map (·, x.interface)) =
      (i.attributed ps).map (·, i) := by
  unfold ownAssociations
  split
  case h_1 h => simp [h]
  case h_2 => simp [List.filterMap_map]

end Interface

namespace Registry

variable (ps : List String) (forest : List Interface)

theorem discover_addressed :
    (discover ps forest).associations.filterMap (fun x => x.address.map (·, x.interface)) =
      (Interface.visitedPostorderForest ps none forest).flatMap
        (fun e => (e.2.attributed ps).map (·, e.2)) := by
  rw [discover_associations, Interface.forestAssociations_eq_flatMap, List.filterMap_flatMap]
  simp only [Interface.addressed_ownAssociations]

theorem mem_carried_discover (a : Address) :
    a ∈ carried (discover ps forest).associations ↔
      ∃ w ∈ Interface.visitedForest ps forest, a ∈ w.relevant :=
  Interface.mem_carried_forestAssociations ps a none forest

-- The attribution law. Read in post-order over the visited interfaces, the addressed associations
-- of the registry give each interface exactly its attributed addresses: its relevant ones that no
-- visited interface below it holds, without repeats and in host order. The addresses of the
-- associations of any subtree are the relevant addresses of its visited interfaces.
theorem discover_attribution :
    (discover ps forest).associations.filterMap (fun x => x.address.map (·, x.interface)) =
        (Interface.visitedPostorderForest ps none forest).flatMap
          (fun e => (e.2.attributed ps).map (·, e.2)) ∧
      (∀ i : Interface, (i.attributed ps).Nodup ∧ (i.attributed ps).Sublist i.addresses) ∧
      (∀ a, a ∈ carried (discover ps forest).associations ↔
        ∃ w ∈ Interface.visitedForest ps forest, a ∈ w.relevant) ∧
      ∀ parent i a, a ∈ carried (Interface.subtreeAssociations ps parent i) ↔
        ∃ w ∈ Interface.visited ps i, a ∈ w.relevant :=
  ⟨discover_addressed ps forest,
    fun i => ⟨i.nodup_attributed ps, i.attributed_sublist ps⟩,
    mem_carried_discover ps forest,
    fun parent i a => Interface.mem_carried_subtreeAssociations ps a parent i⟩

end Registry

end InterfaceDiscovery
