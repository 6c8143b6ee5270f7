import InterfaceDiscovery.Service

/-!
The lifecycle of one configuration over any sequence of calls. Each call carries what the settings
provider and the backend answer during it, so that every pass may read other settings and meet
another forest, an enumeration error, or any other exception. The published outcome always has one
of three shapes; it stays uninitialized until a pass publishes, and never returns to it; a pass
publishes the walk of the listed forest or the enumeration error; any other exception leaves the
configuration as it was. The discovery service is such a configuration, with the answers of its own
environment and backend.
-/

namespace InterfaceDiscovery

namespace Outcome

-- The three shapes of a published outcome, read as its state name, its registry and its error.
def WellFormed (o : Outcome) : Prop :=
  (o.stateName = "uninitialized" ∧ o.registry? = none ∧ o.error? = none) ∨
    (o.stateName = "ready" ∧ o.registry?.isSome ∧ o.error? = none) ∨
    (o.stateName = "failed" ∧ o.registry? = none ∧ o.error?.isSome)

theorem wellFormed (o : Outcome) : o.WellFormed := by
  cases o <;> simp [WellFormed, stateName, registry?, error?]

end Outcome

namespace Configuration

-- A call on a configuration, with what the settings provider and the backend answer during it.
-- Asking for the server interface reads both but never the configuration.
inductive Call where
  | get (settings : Except Raised Settings) (listing : Except Raised (List Interface))
  | reinitialize (settings : Except Raised Settings) (listing : Except Raised (List Interface))
  | defaultAssociation (settings : Except Raised Settings) (listing : Except Raised (List Interface))
  | serverInterface

-- The configuration after a call that gave `result`; a call that raised left it as it was.
def after {α : Type} (c : Configuration) : Except Raised (Configuration × α) → Configuration
  | .ok (c', _) => c'
  | .error _ => c

def step (c : Configuration) : Call → Configuration
  | .get s l => c.after (c.get s l)
  | Call.reinitialize s l => c.after (c.discover s l)
  | .defaultAssociation s l => c.after (c.defaultAssociation s l)
  | .serverInterface => c

def run (c : Configuration) (calls : List Call) : Configuration :=
  calls.foldl step c

-- Whether a pass with these answers publishes: the settings were read, and enumeration listed a
-- forest or failed with an enumeration error.
def passPublishes : Except Raised Settings → Except Raised (List Interface) → Bool
  | .ok _, .ok _ => true
  | .ok _, .error (.enumeration _) => true
  | _, _ => false

def Call.publishes : Call → Bool
  | .get s l | Call.reinitialize s l | .defaultAssociation s l => passPublishes s l
  | .serverInterface => false

@[simp] theorem run_nil (c : Configuration) : c.run [] = c := rfl

@[simp] theorem run_cons (c : Configuration) (x : Call) (calls : List Call) :
    c.run (x :: calls) = (c.step x).run calls := rfl

/-! One pass. -/

variable (c : Configuration)

theorem publish_outcome_ne (s : Settings) (l : Except String (List Interface)) :
    (c.publish s l).1.outcome ≠ .uninitialized := by
  cases l <;> simp [publish, passOutcome]

theorem discover_ok (s : Settings) (forest : List Interface) :
    c.discover (.ok s) (.ok forest) =
      .ok ({ outcome := .ready (Registry.discover s.skipPrefixes forest) (c.stamps + 1)
             stamps := c.stamps + 1 },
        some (Registry.discover s.skipPrefixes forest, c.stamps + 1)) :=
  rfl

theorem discover_enumeration (s : Settings) (e : String) :
    c.discover (.ok s) (.error (.enumeration e)) = .ok ({ c with outcome := .failed e }, none) :=
  rfl

theorem discover_settings_raised (x : Raised) (l : Except Raised (List Interface)) :
    c.discover (.error x) l = .error x :=
  rfl

theorem discover_other (s : Settings) (m : String) :
    c.discover (.ok s) (.error (.other m)) = .error (.other m) :=
  rfl

theorem after_discover_uninitialized (s : Except Raised Settings) (l : Except Raised (List Interface)) :
    (c.after (c.discover s l)).outcome = .uninitialized ↔
      c.outcome = .uninitialized ∧ passPublishes s l = false := by
  rcases s with x | s
  case error => simp [discover, after, passPublishes]
  case ok =>
    rcases l with (e | m) | forest
    case ok => simp [discover, after, passPublishes, publish_outcome_ne]
    case error.enumeration => simp [discover, after, passPublishes, publish_outcome_ne]
    case error.other => simp [discover, after, passPublishes]

theorem get_of_not_ready {s : Except Raised Settings} {l : Except Raised (List Interface)}
    (h : c.outcome.isReady = false) : c.get s l = c.discover s l := by
  unfold get
  split
  case h_1 r k hr => simp [hr, Outcome.isReady] at h
  case h_2 => rfl

theorem after_get (s : Except Raised Settings) (l : Except Raised (List Interface)) :
    c.after (c.get s l) = if c.outcome.isReady then c else c.after (c.discover s l) := by
  unfold get
  split
  case h_1 r k hr => simp [hr, after, Outcome.isReady]
  case h_2 hr => cases ho : c.outcome <;> simp_all [Outcome.isReady]

theorem after_defaultAssociation (s : Except Raised Settings) (l : Except Raised (List Interface)) :
    c.after (c.defaultAssociation s l) = c.after (c.get s l) := by
  unfold defaultAssociation
  cases c.get s l <;> rfl

theorem after_get_uninitialized (s : Except Raised Settings) (l : Except Raised (List Interface)) :
    (c.after (c.get s l)).outcome = .uninitialized ↔
      c.outcome = .uninitialized ∧ passPublishes s l = false := by
  rw [after_get]
  split
  case isTrue hr =>
    have hne : c.outcome ≠ .uninitialized := by
      intro hu
      simp [hu, Outcome.isReady] at hr
    simp [hne]
  case isFalse => exact c.after_discover_uninitialized s l

/-! Runs. -/

-- The step lemma: a call leaves the configuration uninitialized exactly when it was so before and
-- the call published nothing. A ready configuration answers `get` without a pass.
theorem step_uninitialized (x : Call) :
    (c.step x).outcome = .uninitialized ↔ c.outcome = .uninitialized ∧ x.publishes = false := by
  cases x
  case get s l => exact c.after_get_uninitialized s l
  case reinitialize s l => exact c.after_discover_uninitialized s l
  case defaultAssociation s l =>
    rw [step, after_defaultAssociation]
    exact c.after_get_uninitialized s l
  case serverInterface => simp [step, Call.publishes]

-- The run lemma: by induction on the calls, from the step lemma.
theorem run_uninitialized (calls : List Call) :
    (c.run calls).outcome = .uninitialized ↔
      c.outcome = .uninitialized ∧ ∀ x ∈ calls, x.publishes = false := by
  induction calls generalizing c with
  | nil => simp
  | cons x calls ih =>
    rw [run_cons, ih, step_uninitialized]
    simp [and_assoc]

end Configuration

namespace Service

-- What the service's backend answers when a pass enumerates it; every failure of its backends is
-- an enumeration error.
def listing (s : Service) : Except Raised (List Interface) :=
  s.enumerate.2.mapError fun e => .enumeration e.message

-- A service call seen as a call on its configuration: the configuration it leaves and what it
-- returns.
def onConfig {α : Type} (r : Step α) : Except Raised (Configuration × α) :=
  .ok (r.1.config, r.2.1)

theorem enumerate_config (s : Service) : s.enumerate.1.config = s.config := by
  unfold enumerate
  split <;> rfl

theorem reinitialize_config (s : Service) :
    s.config.discover (.ok s.settings) s.listing = onConfig s.reinitialize := by
  have hc := s.enumerate_config
  unfold reinitialize listing
  cases he : s.enumerate with
  | mk s' l =>
    rw [he] at hc
    simp only at hc ⊢
    rw [hc]
    cases l <;> rfl

theorem get_config (s : Service) :
    s.config.get (.ok s.settings) s.listing = onConfig s.get := by
  unfold get Configuration.get
  cases s.config.outcome
  case ready r k => rfl
  case uninitialized => exact s.reinitialize_config
  case failed e => exact s.reinitialize_config

theorem defaultAssociation_config (s : Service) :
    s.config.defaultAssociation (.ok s.settings) s.listing = onConfig s.defaultAssociation := by
  simp only [Configuration.defaultAssociation, get_config, defaultAssociation, onConfig]
  rfl

end Service

namespace Configuration

-- The lifecycle of a configuration. Over any sequence of calls from a fresh configuration the
-- published outcome has one of three shapes, and it is uninitialized exactly until a pass
-- publishes. A pass whose enumeration fails publishes the error and returns nothing; a pass that
-- lists a forest publishes and returns its walk under the configured skip prefixes; any other
-- exception escapes. Asking for the registry or the default association runs such a pass when
-- nothing is ready, and the discovery service runs its calls this way.
theorem lifecycle_outcomes :
    (∀ calls : List Call,
      (({} : Configuration).run calls).outcome.WellFormed ∧
        ((({} : Configuration).run calls).outcome = .uninitialized ↔
          ∀ x ∈ calls, x.publishes = false)) ∧
    (∀ (c : Configuration) (s : Settings) (e : String),
      c.discover (.ok s) (.error (.enumeration e)) = .ok ({ c with outcome := .failed e }, none)) ∧
    (∀ (c : Configuration) (s : Settings) (forest : List Interface),
      c.discover (.ok s) (.ok forest) =
        .ok ({ outcome := .ready (Registry.discover s.skipPrefixes forest) (c.stamps + 1)
               stamps := c.stamps + 1 },
          some (Registry.discover s.skipPrefixes forest, c.stamps + 1))) ∧
    (∀ (c : Configuration) (x : Raised) (l : Except Raised (List Interface)),
      c.discover (.error x) l = .error x) ∧
    (∀ (c : Configuration) (s : Settings) (m : String),
      c.discover (.ok s) (.error (.other m)) = .error (.other m)) ∧
    (∀ (c : Configuration) (s : Except Raised Settings) (l : Except Raised (List Interface)),
      c.outcome.isReady = false →
        c.get s l = c.discover s l ∧
          c.defaultAssociation s l =
            (c.discover s l).map fun (c, r) => (c, r.bind (·.1.defaultAssociation?))) ∧
    ∀ s : Service,
      s.config.get (.ok s.settings) s.listing = Service.onConfig s.get ∧
        s.config.discover (.ok s.settings) s.listing = Service.onConfig s.reinitialize ∧
        s.config.defaultAssociation (.ok s.settings) s.listing =
          Service.onConfig s.defaultAssociation := by
  refine ⟨fun calls => ⟨Outcome.wellFormed _, ?_⟩, discover_enumeration, discover_ok,
    discover_settings_raised, discover_other, ?_, fun s => ⟨s.get_config, s.reinitialize_config,
      s.defaultAssociation_config⟩⟩
  case refine_1 => simpa using run_uninitialized {} calls
  case refine_2 =>
    intro c s l h
    have hget := c.get_of_not_ready (s := s) (l := l) h
    exact ⟨hget, by rw [defaultAssociation, hget]⟩

end Configuration

end InterfaceDiscovery
