import InterfaceDiscovery.Address.Basic

namespace InterfaceDiscovery

structure Interface where
  name : String
  displayName : Option String := none
  addresses : List Address := []
  subInterfaces : List Interface := []
  isUp : Option Bool := none
  macAddress : Option String := none
  mtu : Option Int := none

namespace Interface

mutual

def decEq : (a b : Interface) → Decidable (a = b)
  | ⟨n, d, as, s, u, m, t⟩, ⟨n', d', as', s', u', m', t'⟩ =>
    match decEqForest s s' with
    | isTrue hs =>
      if h : n = n' ∧ d = d' ∧ as = as' ∧ u = u' ∧ m = m' ∧ t = t' then
        isTrue (by obtain ⟨rfl, rfl, rfl, rfl, rfl, rfl⟩ := h; rw [hs])
      else isFalse (by intro e; cases e; exact h ⟨rfl, rfl, rfl, rfl, rfl, rfl⟩)
    | isFalse hs => isFalse (by intro e; cases e; exact hs rfl)

def decEqForest : (a b : List Interface) → Decidable (a = b)
  | [], [] => isTrue rfl
  | [], _ :: _ => isFalse (by simp)
  | _ :: _, [] => isFalse (by simp)
  | x :: xs, y :: ys =>
    match decEq x y, decEqForest xs ys with
    | isTrue h, isTrue hs => isTrue (by rw [h, hs])
    | isFalse h, _ => isFalse (by intro e; cases e; exact h rfl)
    | _, isFalse hs => isFalse (by intro e; cases e; exact hs rfl)

end

instance : DecidableEq Interface := decEq

def label (i : Interface) : String :=
  match i.displayName with
  | some d => if d.isEmpty then i.name else d
  | none => i.name

def text (i : Interface) : String :=
  i.name ++ " (" ++ i.label ++ ")"

mutual

def preorder : Interface → List Interface
  | i@⟨_, _, _, subs, _, _, _⟩ => i :: preorderForest subs

def preorderForest : List Interface → List Interface
  | [] => []
  | i :: is => preorder i ++ preorderForest is

end

@[simp] theorem preorderForest_nil : preorderForest [] = [] := by simp [preorderForest]

@[simp] theorem preorderForest_cons (i : Interface) (is : List Interface) :
    preorderForest (i :: is) = preorder i ++ preorderForest is := by
  simp [preorderForest]

theorem preorder_eq (i : Interface) : preorder i = i :: preorderForest i.subInterfaces := by
  cases i; simp [preorder]

def atSigned? (xs : List α) (k : Int) : Option α :=
  if k < 0 then
    if (-k).toNat ≤ xs.length then xs[xs.length - (-k).toNat]? else none
  else xs[k.toNat]?

/-- The interface at a path of signed positions: the first picks a top-level interface, each next
one a sub-interface of the last. The empty path picks none. -/
def atPath? (forest : List Interface) : List Int → Option Interface
  | [] => none
  | [k] => atSigned? forest k
  | k :: rest => (atSigned? forest k).bind fun i => atPath? i.subInterfaces rest

end Interface

end InterfaceDiscovery
