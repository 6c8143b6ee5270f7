import InterfaceDiscovery.Proofs.Walk

/-!
Reading a registry. A name map answers with the last value written under a name, so the primary
association of a name is the last addressed association of an interface with that name, in
post-order. The first addressed association is absent exactly when no association carries an
address.
-/

namespace InterfaceDiscovery

namespace NameMap

variable {α : Type}

theorem find?_replace_self {es : List (String × α)} {k : String} (h : es.any (·.1 == k) = true)
    (v : α) : (es.map fun e => if e.1 == k then (k, v) else e).find? (·.1 == k) = some (k, v) := by
  induction es with
  | nil => simp at h
  | cons e es ih =>
    rw [List.map_cons, List.find?_cons]
    by_cases he : e.1 = k
    case pos => simp [he]
    case neg =>
      have hb : (e.1 == k) = false := by simpa using he
      have h' : es.any (·.1 == k) = true := by simpa [he] using h
      simp only [hb, Bool.false_eq_true, if_false]
      exact ih h'

theorem find?_replace_other (es : List (String × α)) {k n : String} (hkn : k ≠ n) (v : α) :
    (es.map fun e => if e.1 == k then (k, v) else e).find? (·.1 == n) = es.find? (·.1 == n) := by
  induction es with
  | nil => rfl
  | cons e es ih =>
    rw [List.map_cons, List.find?_cons, List.find?_cons]
    by_cases he : e.1 = k
    case pos =>
      have hb : (e.1 == k) = true := by simpa using he
      have hkn' : (k == n) = false := by simpa using hkn
      have hen : (e.1 == n) = false := by simpa [he] using hkn
      simp only [hb, if_true, hkn', hen]
      exact ih
    case neg =>
      have hb : (e.1 == k) = false := by simpa using he
      simp only [hb, Bool.false_eq_true, if_false, ih]

theorem get?_insert (m : NameMap α) (k n : String) (v : α) :
    (m.insert k v).get? n = if k = n then some v else m.get? n := by
  unfold insert get?
  by_cases hkn : k = n
  case pos =>
    subst hkn
    rw [if_pos rfl]
    split
    case isTrue hk => simp only [find?_replace_self hk, Option.map_some]
    case isFalse hk =>
      have hnone : m.entries.find? (·.1 == k) = none :=
        List.find?_eq_none.mpr fun e he hek => hk (List.any_eq_true.mpr ⟨e, he, hek⟩)
      simp [List.find?_append, hnone]
  case neg =>
    rw [if_neg hkn]
    split
    case isTrue => simp only [find?_replace_other _ hkn]
    case isFalse => simp [List.find?_append, hkn]

theorem get?_foldl_insert_map {β : Type} (key : β → String) (val : β → α) (n : String) :
    ∀ (xs : List β) (m : NameMap α),
      (xs.foldl (fun m b => m.insert (key b) (val b)) m).get? n =
        (((xs.filter (key · == n)).getLast?).map val).or (m.get? n)
  | [], m => by simp
  | b :: xs, m => by
    rw [List.foldl_cons, get?_foldl_insert_map key val n xs, get?_insert]
    by_cases hb : key b = n
    case pos =>
      simp only [hb, if_true, List.filter_cons, beq_self_eq_true, List.getLast?_cons]
      cases (xs.filter (key · == n)).getLast? <;> rfl
    case neg => simp [hb]

theorem get?_foldl_insert {β : Type} (key : β → String) (n : String) (xs : List β)
    (m : NameMap β) :
    (xs.foldl (fun m b => m.insert (key b) b) m).get? n =
      ((xs.filter (key · == n)).getLast?).or (m.get? n) := by
  simpa using get?_foldl_insert_map key id n xs m

end NameMap

namespace Registry

variable (ps : List String) (forest : List Interface)

theorem primaryFor?_discover (n : String) :
    (discover ps forest).primaryFor? n =
      ((discover ps forest).associations.filter
        fun x => x.interface.name == n && x.hasAddress).getLast? := by
  have hempty : ({} : NameMap Association).get? n = none := rfl
  simp only [primaryFor?, discover, NameMap.get?_foldl_insert, List.filter_filter, hempty,
    Option.or_none]

theorem firstAddressed?_eq_none_iff (r : Registry) :
    r.firstAddressed? = none ↔ ∀ x ∈ r.associations, x.address = none := by
  simp [firstAddressed?, Association.hasAddress]

theorem mem_of_firstAddressed? {r : Registry} {f : Association} (h : r.firstAddressed? = some f) :
    f ∈ r.associations ∧ f.address.isSome := by
  unfold firstAddressed? at h
  have hf : f.hasAddress = true := List.find?_some h
  exact ⟨List.mem_of_find?_eq_some h, hf⟩

end Registry

end InterfaceDiscovery
