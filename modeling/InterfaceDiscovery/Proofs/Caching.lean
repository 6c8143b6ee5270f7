import InterfaceDiscovery.Proofs.Lifecycle

/-!
Caching and pass accounting of the discovery service. Over any sequence of calls, interleaved with
changes of the environment that settings are read from and of the backend, the service runs a
pass on every re-initialization and on every request for the registry or the default association
made while no registry is published, and on no other call. Each pass enumerates the backend once,
so the count of enumerations is the count of such calls; resolving the server hostname is no pass.
While a registry is published, requests answer that registry, stamp included, whatever the
environment and the backend have become: their changes show only in the next pass.
-/

namespace InterfaceDiscovery

namespace Service

-- An operation on the service: a call of its configuration, or a change of the environment or of
-- the backend between calls.
inductive Op where
  | get
  | reinitialize
  | defaultAssociation
  | serverInterface
  | setEnv (env : Environment)
  | setBackend (backend : Backend)

-- Whether an operation asks for the registry, directly or through the default association.
def Op.isRequest : Op → Bool
  | .get | .defaultAssociation => true
  | _ => false

-- Whether an operation runs a pass whatever is published.
def Op.forcesPass : Op → Bool
  | Op.reinitialize => true
  | _ => false

def step (s : Service) : Op → Service
  | .get => s.get.1
  | Op.reinitialize => s.reinitialize.1
  | .defaultAssociation => s.defaultAssociation.1
  | .serverInterface => s
  | .setEnv env => { s with env }
  | .setBackend backend => { s with backend }

def run (s : Service) (ops : List Op) : Service :=
  ops.foldl step s

-- Each operation of a run, with the service it is applied to.
def trace (s : Service) : List Op → List (Service × Op)
  | [] => []
  | op :: ops => (s, op) :: (s.step op).trace ops

@[simp] theorem run_nil (s : Service) : s.run [] = s := rfl

@[simp] theorem run_cons (s : Service) (op : Op) (ops : List Op) :
    s.run (op :: ops) = (s.step op).run ops := rfl

@[simp] theorem trace_nil (s : Service) : s.trace [] = [] := rfl

@[simp] theorem trace_cons (s : Service) (op : Op) (ops : List Op) :
    s.trace (op :: ops) = (s, op) :: (s.step op).trace ops := rfl

/-! One call. -/

variable (s : Service)

theorem enumerate_enumerations : s.enumerate.1.enumerations = s.enumerations + 1 := by
  unfold enumerate
  split <;> rfl

theorem reinitialize_enumerations : s.reinitialize.1.enumerations = s.enumerations + 1 := by
  have he := s.enumerate_enumerations
  unfold reinitialize
  cases hs : s.enumerate with
  | mk s' l =>
    rw [hs] at he
    exact he

theorem get_eq : s.get = if s.outcome.isReady then (s, s.outcome.registry?, []) else s.reinitialize := by
  unfold get outcome
  cases s.config.outcome <;> rfl

theorem get_of_ready {r : Registry} {k : Nat} (h : s.outcome = .ready r k) :
    s.get = (s, some (r, k), []) := by
  rw [get_eq, h]
  rfl

theorem defaultAssociation_fst : s.defaultAssociation.1 = s.get.1 := rfl

theorem get_enumerations :
    s.get.1.enumerations = s.enumerations + if s.outcome.isReady then 0 else 1 := by
  rw [get_eq]
  cases s.outcome.isReady
  case false => exact s.reinitialize_enumerations
  case true => rfl

-- The step lemma: a call enumerates the backend once when it runs a pass, and not otherwise.
theorem step_enumerations (op : Op) :
    (s.step op).enumerations =
      s.enumerations + if op.forcesPass || op.isRequest && !s.outcome.isReady then 1 else 0 := by
  cases op
  case get =>
    rw [step, get_enumerations]
    cases s.outcome.isReady <;> rfl
  case reinitialize => exact s.reinitialize_enumerations
  case defaultAssociation =>
    rw [step, defaultAssociation_fst, get_enumerations]
    cases s.outcome.isReady <;> rfl
  case serverInterface => rfl
  case setEnv env => rfl
  case setBackend backend => rfl

theorem step_of_ready {r : Registry} {k : Nat} (h : s.outcome = .ready r k) {op : Op}
    (hop : op.forcesPass = false) :
    (s.step op).config = s.config ∧ (s.step op).enumerations = s.enumerations := by
  have hget := s.get_of_ready h
  cases op
  case get => simp [step, hget]
  case reinitialize => simp [Op.forcesPass] at hop
  case defaultAssociation => simp [step, defaultAssociation_fst, hget]
  case serverInterface => exact ⟨rfl, rfl⟩
  case setEnv env => exact ⟨rfl, rfl⟩
  case setBackend backend => exact ⟨rfl, rfl⟩

theorem reinitialize_registry {forest : List Interface} (hl : s.enumerate.2 = .ok forest) :
    s.reinitialize.2.1 =
      some (Registry.discover s.settings.skipPrefixes forest, s.config.stamps + 1) := by
  have hlisting : s.listing = .ok forest := by
    rw [listing, hl]
    rfl
  have hpass := s.reinitialize_config
  rw [hlisting, Configuration.discover_ok, onConfig] at hpass
  exact (Prod.mk.inj (Except.ok.inj hpass)).2.symm

/-! Runs. -/

-- The run lemma: by induction on the calls, each step adding what `step_enumerations` says.
theorem run_enumerations (ops : List Op) :
    (s.run ops).enumerations = s.enumerations + (ops.filter Op.forcesPass).length +
      ((s.trace ops).filter fun e => e.2.isRequest && !e.1.outcome.isReady).length := by
  induction ops generalizing s with
  | nil => rfl
  | cons op ops ih =>
    rw [run_cons, ih, step_enumerations, trace_cons, List.filter_cons, List.filter_cons]
    cases op <;> cases s.outcome.isReady <;> simp [Op.forcesPass, Op.isRequest] <;> omega

theorem run_of_ready {r : Registry} {k : Nat} (h : s.outcome = .ready r k) (ops : List Op)
    (hops : ∀ op ∈ ops, op.forcesPass = false) :
    (s.run ops).config = s.config ∧ (s.run ops).enumerations = s.enumerations := by
  induction ops generalizing s with
  | nil => exact ⟨rfl, rfl⟩
  | cons op ops ih =>
    obtain ⟨hc, hn⟩ := s.step_of_ready h (hops op List.mem_cons_self)
    have h' : (s.step op).outcome = .ready r k := by
      rw [outcome, hc]
      exact h
    obtain ⟨hc', hn'⟩ := ih (s.step op) h' fun op' hop' => hops op' (List.mem_cons_of_mem op hop')
    exact ⟨hc'.trans hc, hn'.trans hn⟩

-- Caching and pass accounting. A call runs a pass, which enumerates the backend once, exactly when
-- it re-initializes or requests the registry while none is published; so over a run the
-- enumerations count the re-initializations and the requests made while nothing was ready. From a
-- published registry, every request until the next re-initialization answers that registry with
-- its stamp and logs nothing, however the environment and the backend change meanwhile; the next
-- pass walks the backend's current forest with the current settings.
theorem pass_count_and_cache :
    (∀ (s : Service) (op : Op), (s.step op).enumerations =
      s.enumerations + if op.forcesPass || op.isRequest && !s.outcome.isReady then 1 else 0) ∧
    (∀ (s : Service) (ops : List Op),
      (s.run ops).enumerations = s.enumerations + (ops.filter Op.forcesPass).length +
        ((s.trace ops).filter fun e => e.2.isRequest && !e.1.outcome.isReady).length) ∧
    (∀ (s : Service) (r : Registry) (k : Nat) (ops : List Op), s.outcome = .ready r k →
      (∀ op ∈ ops, op.forcesPass = false) →
        (s.run ops).outcome = .ready r k ∧ (s.run ops).enumerations = s.enumerations ∧
          (s.run ops).get = (s.run ops, some (r, k), [])) ∧
    (∀ (s : Service) (forest : List Interface), s.enumerate.2 = .ok forest →
      s.reinitialize.2.1 =
        some (Registry.discover s.settings.skipPrefixes forest, s.config.stamps + 1)) := by
  refine ⟨step_enumerations, run_enumerations, ?_, fun s _ hl => s.reinitialize_registry hl⟩
  intro s r k ops h hops
  obtain ⟨hc, hn⟩ := s.run_of_ready h ops hops
  have hout : (s.run ops).outcome = .ready r k := by
    rw [outcome, hc]
    exact h
  exact ⟨hout, hn, (s.run ops).get_of_ready hout⟩

end Service

end InterfaceDiscovery
