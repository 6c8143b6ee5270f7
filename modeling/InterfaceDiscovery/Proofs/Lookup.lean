import InterfaceDiscovery.Host.Resolve
import InterfaceDiscovery.Proofs.Enumeration

/-!
Looking a hostname up among the local interfaces. The lookup is a first-match search in
pre-order, each top-level interface followed by the interfaces nested under it, for an interface
that holds one of the addresses the resolver's answers read as. Its failures come in a fixed
order: the resolver fails, before anything is enumerated; the resolver's answers hold no
readable address, again before anything is enumerated; enumeration fails; no interface holds any
of the addresses, which the failure then lists as their texts in ascending order.
-/

namespace InterfaceDiscovery

namespace HostSnapshot

def HoldsAnswer (raw : List String) (i : Interface) : Prop :=
  ∃ a ∈ i.addresses, ∃ r ∈ raw, readHostAddress? r = some a

/-! The addresses looked for. -/

section Targets

variable (raw : List String)

theorem mem_targets (a : Address) :
    a ∈ (raw.filterMap readHostAddress?).eraseDups ↔ ∃ r ∈ raw, readHostAddress? r = some a := by
  rw [List.mem_eraseDups, List.mem_filterMap]

theorem targets_isEmpty_iff :
    (raw.filterMap readHostAddress?).eraseDups.isEmpty = true ↔
      ∀ r ∈ raw, readHostAddress? r = none := by
  rw [List.isEmpty_iff, List.eq_nil_iff_forall_not_mem]
  constructor
  case mp =>
    intro hnone r hr
    cases ha : readHostAddress? r with
    | none => rfl
    | some a => exact absurd ((mem_targets raw a).mpr ⟨r, hr, ha⟩) (hnone a)
  case mpr =>
    intro hall a ha
    obtain ⟨r, hr, hra⟩ := (mem_targets raw a).mp ha
    simp [hall r hr] at hra

theorem holdsAnswer_iff (i : Interface) :
    (i.addresses.any fun a => ((raw.filterMap readHostAddress?).eraseDups).contains a) = true ↔
      HoldsAnswer raw i := by
  simp only [List.any_eq_true, List.contains_iff_mem, mem_targets, HoldsAnswer]

instance (i : Interface) : Decidable (HoldsAnswer raw i) :=
  decidable_of_iff _ (holdsAnswer_iff raw i)

theorem firstHolding?_eq_some_iff (forest : List Interface) (i : Interface) :
    firstHolding? forest (raw.filterMap readHostAddress?).eraseDups = some i ↔
      ∃ before after, Interface.preorderForest forest = before ++ i :: after ∧ HoldsAnswer raw i ∧
        ∀ j ∈ before, ¬ HoldsAnswer raw j := by
  rw [firstHolding?, List.find?_eq_some_iff_append, holdsAnswer_iff]
  constructor
  case mp =>
    rintro ⟨hi, before, after, hpre, hbefore⟩
    refine ⟨before, after, hpre, hi, fun j hj hholds => ?_⟩
    have hj := hbefore j hj
    rw [Bool.not_eq_true', ← Bool.not_eq_true, holdsAnswer_iff] at hj
    exact hj hholds
  case mpr =>
    rintro ⟨before, after, hpre, hi, hbefore⟩
    refine ⟨hi, before, after, hpre, fun j hj => ?_⟩
    have hj := hbefore j hj
    rw [← holdsAnswer_iff] at hj
    simpa using hj

theorem firstHolding?_eq_none_iff (forest : List Interface) :
    firstHolding? forest (raw.filterMap readHostAddress?).eraseDups = none ↔
      ∀ j ∈ Interface.preorderForest forest, ¬ HoldsAnswer raw j := by
  rw [firstHolding?, List.find?_eq_none]
  refine forall_congr' fun j => imp_congr_right fun _ => ?_
  rw [← holdsAnswer_iff, Bool.not_eq_true]

end Targets

/-! The outcomes of a lookup, in the order in which they are decided. -/

section Outcomes

variable (h : HostSnapshot) (hostname : String)

-- The resolver is asked before anything else, so the answer up to the first readable address does
-- not depend on the interfaces the host reports.
theorem resolve_eq_of_resolver {h' : HostSnapshot} (he : h'.resolver = h.resolver) :
    h'.resolve hostname = h.resolve hostname := by
  simp only [resolve, he]

theorem interfaceFor_of_resolve_error {reason : String} (hr : h.resolve hostname = .error reason) :
    h.interfaceFor hostname = .error (.resolution hostname reason) := by
  simp only [interfaceFor, hr]

theorem interfaceFor_of_no_address {raw : List String} (hr : h.resolve hostname = .ok raw)
    (hnone : ∀ r ∈ raw, readHostAddress? r = none) :
    h.interfaceFor hostname = .error (.resolution hostname "no IP addresses returned") := by
  simp only [interfaceFor, hr, (targets_isEmpty_iff raw).mpr hnone, if_true]

theorem targets_isEmpty_eq_false {raw : List String}
    (hsome : ∃ r ∈ raw, (readHostAddress? r).isSome) :
    (raw.filterMap readHostAddress?).eraseDups.isEmpty = false := by
  obtain ⟨r, hr, hread⟩ := hsome
  cases hempty : (raw.filterMap readHostAddress?).eraseDups.isEmpty
  case false => rfl
  case true => simp [(targets_isEmpty_iff raw).mp hempty r hr] at hread

variable {raw : List String} (hr : h.resolve hostname = .ok raw)
  (hsome : ∃ r ∈ raw, (readHostAddress? r).isSome)
include hr hsome

theorem interfaceFor_of_enumeration_error {e : NetworkError} (he : h.interfaces = .error e) :
    h.interfaceFor hostname = .error e := by
  simp only [interfaceFor, hr, targets_isEmpty_eq_false hsome, he, Bool.false_eq_true, if_false]

theorem interfaceFor_of_found {forest : List Interface} (hf : h.interfaces = .ok forest)
    {i : Interface} (hi : firstHolding? forest (raw.filterMap readHostAddress?).eraseDups = some i) :
    h.interfaceFor hostname = .ok i := by
  simp only [interfaceFor, hr, targets_isEmpty_eq_false hsome, hf, hi, Bool.false_eq_true, if_false]

theorem interfaceFor_of_unbound {forest : List Interface} (hf : h.interfaces = .ok forest)
    (hi : firstHolding? forest (raw.filterMap readHostAddress?).eraseDups = none) :
    ∃ texts : List String, texts.Perm ((raw.filterMap readHostAddress?).eraseDups.map Address.toText) ∧
      texts.Pairwise (· ≤ ·) ∧
      h.interfaceFor hostname = .error (.resolution hostname
        (", ".intercalate texts ++ " not bound to any local interface")) := by
  simp only [interfaceFor, hr, targets_isEmpty_eq_false hsome, hf, hi, Bool.false_eq_true, if_false]
  exact ⟨_, List.mergeSort_perm _ _,
    (List.pairwise_mergeSort decide_le_trans decide_le_total _).imp of_decide_eq_true, rfl⟩

theorem interfaceFor_eq_ok_iff {forest : List Interface} (hf : h.interfaces = .ok forest)
    (i : Interface) :
    h.interfaceFor hostname = .ok i ↔
      firstHolding? forest (raw.filterMap readHostAddress?).eraseDups = some i := by
  constructor
  case mp =>
    intro hok
    cases hfirst : firstHolding? forest (raw.filterMap readHostAddress?).eraseDups
    case none =>
      obtain ⟨texts, -, -, herr⟩ := interfaceFor_of_unbound h hostname hr hsome hf hfirst
      rw [hok] at herr
      cases herr
    case some j =>
      rw [interfaceFor_of_found h hostname hr hsome hf hfirst, Except.ok.injEq] at hok
      rw [hok]
  case mpr => exact interfaceFor_of_found h hostname hr hsome hf

end Outcomes

-- Hostname lookup. A failing resolver, or answers without a readable address, give a resolution
-- failure whatever the host's interfaces are, so nothing is enumerated first; then a failed
-- enumeration is passed on; then the answer is the first interface in pre-order that holds an
-- answered address; and when none holds one, the failure lists the answered addresses, each once,
-- as their texts in ascending order.
theorem hostname_lookup (h : HostSnapshot) (hostname : String) :
    (∀ reason, h.resolve hostname = .error reason →
      ∀ h' : HostSnapshot, h'.resolver = h.resolver →
        h'.interfaceFor hostname = .error (.resolution hostname reason)) ∧
    (∀ raw, h.resolve hostname = .ok raw → (∀ r ∈ raw, readHostAddress? r = none) →
      ∀ h' : HostSnapshot, h'.resolver = h.resolver →
        h'.interfaceFor hostname = .error (.resolution hostname "no IP addresses returned")) ∧
    (∀ raw e, h.resolve hostname = .ok raw → (∃ r ∈ raw, (readHostAddress? r).isSome) →
      h.interfaces = .error e → h.interfaceFor hostname = .error e) ∧
    (∀ raw forest i, h.resolve hostname = .ok raw → (∃ r ∈ raw, (readHostAddress? r).isSome) →
      h.interfaces = .ok forest →
      (h.interfaceFor hostname = .ok i ↔
        ∃ before after, Interface.preorderForest forest = before ++ i :: after ∧
          HoldsAnswer raw i ∧ ∀ j ∈ before, ¬ HoldsAnswer raw j)) ∧
    (∀ raw forest, h.resolve hostname = .ok raw → (∃ r ∈ raw, (readHostAddress? r).isSome) →
      h.interfaces = .ok forest → (∀ j ∈ Interface.preorderForest forest, ¬ HoldsAnswer raw j) →
      ∃ (targets : List Address) (texts : List String), targets.Nodup ∧
        (∀ a, a ∈ targets ↔ ∃ r ∈ raw, readHostAddress? r = some a) ∧
        texts.Perm (targets.map Address.toText) ∧ texts.Pairwise (· ≤ ·) ∧
        h.interfaceFor hostname = .error (.resolution hostname
          (", ".intercalate texts ++ " not bound to any local interface"))) := by
  refine ⟨fun reason hr h' he => ?resolver, fun raw hr hnone h' he => ?empty,
    fun raw e hr hsome he => interfaceFor_of_enumeration_error h hostname hr hsome he,
    fun raw forest i hr hsome hf => ?found, fun raw forest hr hsome hf hnone => ?unbound⟩
  case resolver =>
    exact interfaceFor_of_resolve_error h' hostname ((resolve_eq_of_resolver h hostname he).trans hr)
  case empty =>
    exact interfaceFor_of_no_address h' hostname ((resolve_eq_of_resolver h hostname he).trans hr) hnone
  case found =>
    rw [interfaceFor_eq_ok_iff h hostname hr hsome hf, firstHolding?_eq_some_iff]
  case unbound =>
    have hfirst := (firstHolding?_eq_none_iff raw forest).mpr hnone
    obtain ⟨texts, hperm, hsorted, herr⟩ := interfaceFor_of_unbound h hostname hr hsome hf hfirst
    exact ⟨_, texts, nodup_eraseDups _, mem_targets raw, hperm, hsorted, herr⟩

end HostSnapshot

end InterfaceDiscovery
