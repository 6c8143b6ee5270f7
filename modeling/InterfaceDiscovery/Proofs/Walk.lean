import Mathlib
import InterfaceDiscovery.Discovery.Walk

/-!
The shape of the discovery walk. The walker decides which of an interface's relevant addresses
it keeps by looking at the addresses its sub-interfaces already emitted. The first result here is
that this set is the union of the relevant addresses of the visited interfaces below, at any
depth. With it, the walk is a concatenation of one block per visited interface, taken in
post-order, each block made of the addresses attributed to that interface or of one placeholder.
-/

namespace InterfaceDiscovery

-- The addresses that a list of associations carries, in order; placeholders carry none.
def carried (xs : List Association) : List Address :=
  xs.filterMap (·.address)

@[simp] theorem carried_nil : carried [] = [] := rfl

@[simp] theorem carried_append (xs ys : List Association) :
    carried (xs ++ ys) = carried xs ++ carried ys :=
  List.filterMap_append

theorem mem_carried {a : Address} {xs : List Association} :
    a ∈ carried xs ↔ ∃ x ∈ xs, x.address = some a :=
  List.mem_filterMap

theorem any_address_eq (a : Address) (xs : List Association) :
    xs.any (·.address == some a) = decide (a ∈ carried xs) := by
  simp only [mem_carried, List.any_eq, beq_iff_eq]

namespace Interface

variable (ps : List String)

/-! The equations of the walk, for an interface given by name rather than by its fields. -/

theorem subtreeAssociations_eq (parent : Option String) (i : Interface) :
    subtreeAssociations ps parent i =
      let below := forestAssociations ps (some i.name) i.subInterfaces
      let own := i.relevant.filter fun a => !below.any (·.address == some a)
      below ++ if own.isEmpty then [{ interface := i, parent }]
        else own.map fun a => { address := some a, interface := i, parent } := by
  cases i; rfl

@[simp] theorem forestAssociations_nil (parent : Option String) :
    forestAssociations ps parent [] = [] := by
  simp [forestAssociations]

@[simp] theorem forestAssociations_cons (parent : Option String) (i : Interface)
    (is : List Interface) :
    forestAssociations ps parent (i :: is) =
      (if i.skippedBy ps then [] else subtreeAssociations ps parent i) ++
        forestAssociations ps parent is := by
  simp [forestAssociations]

theorem visited_eq (i : Interface) : visited ps i = i :: visitedForest ps i.subInterfaces := by
  cases i; simp [visited]

@[simp] theorem visitedForest_nil : visitedForest ps [] = [] := by
  simp [visitedForest]

@[simp] theorem visitedForest_cons (i : Interface) (is : List Interface) :
    visitedForest ps (i :: is) = (if i.skippedBy ps then [] else visited ps i) ++ visitedForest ps is := by
  simp [visitedForest]

/-! What the sub-interfaces of a visited interface claim. -/

theorem carried_own (own : List Address) (i : Interface) (parent : Option String) :
    carried (if own.isEmpty then [{ interface := i, parent }]
      else own.map fun a => { address := some a, interface := i, parent }) = own := by
  cases own <;> simp [carried, List.filterMap_map]

-- The addresses a subtree emits are the relevant addresses of its visited interfaces: the
-- walker adds to what the sub-interfaces emitted exactly the relevant addresses of the root that
-- are not among them, so the union grows by the root's relevant addresses and nothing else.
mutual

theorem mem_carried_subtreeAssociations (a : Address) (parent : Option String) :
    ∀ i : Interface,
      a ∈ carried (subtreeAssociations ps parent i) ↔ ∃ w ∈ visited ps i, a ∈ w.relevant
  | i@⟨name, _, _, subs, _, _, _⟩ => by
    have ih := mem_carried_forestAssociations a (some name) subs
    rw [subtreeAssociations_eq, visited_eq]
    simp only [any_address_eq, carried_append, List.mem_append, carried_own, List.mem_filter,
      Bool.not_eq_eq_eq_not, Bool.not_true, decide_eq_false_iff_not, List.mem_cons,
      exists_eq_or_imp]
    rw [ih]
    by_cases hbelow : ∃ w ∈ visitedForest ps subs, a ∈ w.relevant
    case pos => simp [hbelow]
    case neg => simp [hbelow, or_comm]

theorem mem_carried_forestAssociations (a : Address) (parent : Option String) :
    ∀ is : List Interface,
      a ∈ carried (forestAssociations ps parent is) ↔ ∃ w ∈ visitedForest ps is, a ∈ w.relevant
  | [] => by simp
  | i :: is => by
    have ih := mem_carried_forestAssociations a parent is
    have hi := mem_carried_subtreeAssociations a parent i
    cases h : i.skippedBy ps
    case false =>
      simp only [forestAssociations_cons, visitedForest_cons, h, carried_append, List.mem_append,
        ih, hi, Bool.false_eq_true, if_false]
      simp [or_and_right, exists_or]
    case true => simp [h, ih]

end

/-! The block of each visited interface. -/

-- The addresses attributed to an interface: its relevant addresses that no visited interface
-- below it holds as relevant.
def attributed (i : Interface) : List Address :=
  i.relevant.filter fun a => decide (∀ w ∈ visitedForest ps i.subInterfaces, a ∉ w.relevant)

-- The associations of a visited interface itself, below the associations of its sub-interfaces:
-- one for each attributed address, or a single placeholder when no address is attributed to it.
def ownAssociations (parent : Option String) (i : Interface) : List Association :=
  match i.attributed ps with
  | [] => [{ interface := i, parent }]
  | as => as.map fun a => { address := some a, interface := i, parent }

mutual

-- The visited interfaces of a subtree whose root is visited, in post-order, each with the name of
-- its parent.
def visitedPostorder (parent : Option String) : Interface → List (Option String × Interface)
  | i@⟨name, _, _, subs, _, _, _⟩ => visitedPostorderForest (some name) subs ++ [(parent, i)]

def visitedPostorderForest (parent : Option String) :
    List Interface → List (Option String × Interface)
  | [] => []
  | i :: is =>
    (if i.skippedBy ps then [] else visitedPostorder parent i) ++ visitedPostorderForest parent is

end

theorem visitedPostorder_eq (parent : Option String) (i : Interface) :
    visitedPostorder ps parent i =
      visitedPostorderForest ps (some i.name) i.subInterfaces ++ [(parent, i)] := by
  cases i; simp [visitedPostorder]

@[simp] theorem visitedPostorderForest_nil (parent : Option String) :
    visitedPostorderForest ps parent [] = [] := by
  simp [visitedPostorderForest]

@[simp] theorem visitedPostorderForest_cons (parent : Option String) (i : Interface)
    (is : List Interface) :
    visitedPostorderForest ps parent (i :: is) =
      (if i.skippedBy ps then [] else visitedPostorder ps parent i) ++
        visitedPostorderForest ps parent is := by
  simp [visitedPostorderForest]

theorem mem_visitedPostorder_iff {e : Option String × Interface} (parent : Option String)
    (i : Interface) :
    e ∈ visitedPostorder ps parent i ↔
      e ∈ visitedPostorderForest ps (some i.name) i.subInterfaces ∨ e = (parent, i) := by
  rw [visitedPostorder_eq, List.mem_append, List.mem_singleton]

theorem mem_visitedPostorderForest_cons_iff {e : Option String × Interface}
    (parent : Option String) (t : Interface) (ts : List Interface) :
    e ∈ visitedPostorderForest ps parent (t :: ts) ↔
      (t.skippedBy ps = false ∧ e ∈ visitedPostorder ps parent t) ∨
        e ∈ visitedPostorderForest ps parent ts := by
  rw [visitedPostorderForest_cons, List.mem_append]
  cases t.skippedBy ps <;> simp

theorem carried_ownAssociations (parent : Option String) (i : Interface) :
    carried (i.ownAssociations ps parent) = i.attributed ps := by
  unfold ownAssociations
  split <;> simp_all [carried, List.filterMap_map]

-- What the walker keeps of the root's addresses is the attributed set, because what the
-- sub-interfaces emitted is, by the union law, what the visited interfaces below hold.
theorem subtreeAssociations_eq_append (parent : Option String) (i : Interface) :
    subtreeAssociations ps parent i =
      forestAssociations ps (some i.name) i.subInterfaces ++ i.ownAssociations ps parent := by
  have hown : (i.relevant.filter fun a =>
      !(forestAssociations ps (some i.name) i.subInterfaces).any (·.address == some a)) =
      i.attributed ps := by
    apply List.filter_congr
    intro a _
    rw [any_address_eq, ← decide_not]
    simp only [mem_carried_forestAssociations, not_exists, not_and]
  rw [subtreeAssociations_eq]
  simp only [hown, ownAssociations]
  split <;> simp_all

-- The walk, block by block: induction along the walker's own recursion, one block appended after
-- the blocks of each visited subtree.
mutual

theorem subtreeAssociations_eq_flatMap (parent : Option String) :
    ∀ i : Interface,
      subtreeAssociations ps parent i =
        (visitedPostorder ps parent i).flatMap fun e => e.2.ownAssociations ps e.1
  | i@⟨name, _, _, subs, _, _, _⟩ => by
    have ih := forestAssociations_eq_flatMap (some name) subs
    rw [subtreeAssociations_eq_append, visitedPostorder_eq]
    simp [ih]

theorem forestAssociations_eq_flatMap (parent : Option String) :
    ∀ is : List Interface,
      forestAssociations ps parent is =
        (visitedPostorderForest ps parent is).flatMap fun e => e.2.ownAssociations ps e.1
  | [] => by simp
  | i :: is => by
    have ih := forestAssociations_eq_flatMap parent is
    have hi := subtreeAssociations_eq_flatMap parent i
    cases h : i.skippedBy ps
    case false => simp [h, ih, hi]
    case true => simp [h, ih]

end

theorem length_ownAssociations (parent : Option String) (i : Interface) :
    (i.ownAssociations ps parent).length = max 1 (i.attributed ps).length := by
  unfold ownAssociations
  split
  case h_1 h => simp [h]
  case h_2 h =>
    have hpos : 0 < (i.attributed ps).length := List.length_pos_iff.mpr h
    simp only [List.length_map]
    omega

/-! Where each block stands in the forest. -/

theorem mem_ownAssociations {parent : Option String} {i : Interface} {x : Association}
    (hx : x ∈ i.ownAssociations ps parent) : x.interface = i ∧ x.parent = parent := by
  unfold ownAssociations at hx
  split at hx
  case h_1 => simp_all
  case h_2 =>
    obtain ⟨a, -, rfl⟩ := List.mem_map.mp hx
    exact ⟨rfl, rfl⟩

theorem exists_address_ownAssociations (parent : Option String) (i : Interface) :
    (∃ x ∈ i.ownAssociations ps parent, x.address.isSome) ↔ i.attributed ps ≠ [] := by
  unfold ownAssociations
  split
  case h_1 h => simp [h]
  case h_2 h =>
    constructor
    case mp => exact fun _ hnil => h hnil
    case mpr =>
      intro hne
      obtain ⟨a, ha⟩ := List.exists_mem_of_ne_nil _ hne
      exact ⟨_, List.mem_map_of_mem ha, rfl⟩

theorem mem_visitedPostorderForest_of_mem {parent : Option String} {t : Interface}
    {is : List Interface} (ht : t ∈ is) (hs : t.skippedBy ps = false) :
    (parent, t) ∈ visitedPostorderForest ps parent is := by
  induction is with
  | nil => simp at ht
  | cons u is ih =>
    rw [mem_visitedPostorderForest_cons_iff]
    rcases List.mem_cons.mp ht with rfl | ht
    case inl => exact .inl ⟨hs, (mem_visitedPostorder_iff ps parent t).mpr (.inr rfl)⟩
    case inr => exact .inr (ih ht)

-- The parent of every visited interface that is not a root of the forest is itself visited, and
-- the entry names it: induction along the post-order.
mutual

theorem mem_visitedPostorder {e : Option String × Interface} (parent : Option String) :
    ∀ i : Interface, e ∈ visitedPostorder ps parent i →
      e = (parent, i) ∨ ∃ q u, (q, u) ∈ visitedPostorder ps parent i ∧ e.1 = some u.name ∧
        e.2 ∈ u.subInterfaces
  | ⟨name, d, as, subs, up, mac, mtu⟩, he => by
    rcases (mem_visitedPostorder_iff ps parent _).mp he with he | rfl
    case inr => exact .inl rfl
    case inl =>
      refine .inr ?_
      rcases mem_visitedPostorderForest (some name) subs he with ⟨h1, h2, -⟩ | ⟨q, u, hu, h1, h2⟩
      case inl =>
        exact ⟨parent, ⟨name, d, as, subs, up, mac, mtu⟩,
          (mem_visitedPostorder_iff ps parent _).mpr (.inr rfl), h1, h2⟩
      case inr => exact ⟨q, u, (mem_visitedPostorder_iff ps parent _).mpr (.inl hu), h1, h2⟩

theorem mem_visitedPostorderForest {e : Option String × Interface} (parent : Option String) :
    ∀ is : List Interface, e ∈ visitedPostorderForest ps parent is →
      (e.1 = parent ∧ e.2 ∈ is ∧ e.2.skippedBy ps = false) ∨
        ∃ q u, (q, u) ∈ visitedPostorderForest ps parent is ∧ e.1 = some u.name ∧
          e.2 ∈ u.subInterfaces
  | [], he => by simp at he
  | t :: ts, he => by
    rcases (mem_visitedPostorderForest_cons_iff ps parent t ts).mp he with ⟨hs, he⟩ | he
    case inl =>
      rcases mem_visitedPostorder parent t he with rfl | ⟨q, u, hu, h1, h2⟩
      case inl => exact .inl ⟨rfl, List.mem_cons_self, hs⟩
      case inr =>
        exact .inr ⟨q, u, (mem_visitedPostorderForest_cons_iff ps parent t ts).mpr (.inl ⟨hs, hu⟩),
          h1, h2⟩
    case inr =>
      rcases mem_visitedPostorderForest parent ts he with ⟨h1, h2, h3⟩ | ⟨q, u, hu, h1, h2⟩
      case inl => exact .inl ⟨h1, List.mem_cons_of_mem t h2, h3⟩
      case inr =>
        exact .inr ⟨q, u, (mem_visitedPostorderForest_cons_iff ps parent t ts).mpr (.inr hu), h1, h2⟩

end

-- No visited interface is skipped.
mutual

theorem skippedBy_of_mem_visitedPostorder {e : Option String × Interface} (parent : Option String) :
    ∀ i : Interface, i.skippedBy ps = false → e ∈ visitedPostorder ps parent i →
      e.2.skippedBy ps = false
  | ⟨name, d, as, subs, up, mac, mtu⟩, hs, he => by
    rcases (mem_visitedPostorder_iff ps parent _).mp he with he | rfl
    case inl => exact skippedBy_of_mem_visitedPostorderForest (some name) subs he
    case inr => exact hs

theorem skippedBy_of_mem_visitedPostorderForest {e : Option String × Interface}
    (parent : Option String) :
    ∀ is : List Interface, e ∈ visitedPostorderForest ps parent is → e.2.skippedBy ps = false
  | [], he => by simp at he
  | t :: ts, he => by
    rcases (mem_visitedPostorderForest_cons_iff ps parent t ts).mp he with ⟨hs, he⟩ | he
    case inl => exact skippedBy_of_mem_visitedPostorder parent t hs he
    case inr => exact skippedBy_of_mem_visitedPostorderForest parent ts he

end

-- Every visited interface is an interface of the forest.
mutual

theorem mem_preorder_of_visitedPostorder {e : Option String × Interface} (parent : Option String) :
    ∀ i : Interface, e ∈ visitedPostorder ps parent i → e.2 ∈ preorder i
  | ⟨name, d, as, subs, up, mac, mtu⟩, he => by
    rw [preorder_eq, List.mem_cons]
    rcases (mem_visitedPostorder_iff ps parent _).mp he with he | rfl
    case inl => exact .inr (mem_preorderForest_of_visitedPostorderForest (some name) subs he)
    case inr => exact .inl rfl

theorem mem_preorderForest_of_visitedPostorderForest {e : Option String × Interface}
    (parent : Option String) :
    ∀ is : List Interface, e ∈ visitedPostorderForest ps parent is → e.2 ∈ preorderForest is
  | [], he => by simp at he
  | t :: ts, he => by
    rw [preorderForest_cons, List.mem_append]
    rcases (mem_visitedPostorderForest_cons_iff ps parent t ts).mp he with ⟨-, he⟩ | he
    case inl => exact .inl (mem_preorder_of_visitedPostorder parent t he)
    case inr => exact .inr (mem_preorderForest_of_visitedPostorderForest parent ts he)

end

end Interface

namespace Registry

variable (ps : List String) (forest : List Interface)

theorem discover_associations :
    (discover ps forest).associations = Interface.forestAssociations ps none forest :=
  rfl

theorem mem_discover_associations {x : Association} :
    x ∈ (discover ps forest).associations ↔
      ∃ e ∈ Interface.visitedPostorderForest ps none forest, x ∈ e.2.ownAssociations ps e.1 := by
  rw [discover_associations, Interface.forestAssociations_eq_flatMap, List.mem_flatMap]

-- The registry lists, for each visited interface in post-order, the associations of that
-- interface alone, so its size counts one association per attributed address and one
-- placeholder for each visited interface that has none.
theorem discover_postorder_blocks :
    (discover ps forest).associations =
        (Interface.visitedPostorderForest ps none forest).flatMap
          (fun e => e.2.ownAssociations ps e.1) ∧
      (discover ps forest).size =
        ((Interface.visitedPostorderForest ps none forest).map
          fun e => max 1 (e.2.attributed ps).length).sum := by
  have hblocks := Interface.forestAssociations_eq_flatMap ps none forest
  refine ⟨hblocks, ?_⟩
  rw [size, discover_associations, hblocks, List.length_flatMap]
  simp only [Interface.length_ownAssociations]

end Registry

end InterfaceDiscovery
