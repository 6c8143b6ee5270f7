import InterfaceDiscovery.Logging.Logger

/-!
The logger over any sequence of configure, set_level and get calls, where every configure call
writes to an in-memory stream. Emitting a record changes nothing, so what a record emitted after a
history writes is what `emit` gives in the state the history reached.

An ideal logger keeps the handler the calls asked for: the output and format of the latest
configure call that succeeded, at the level of the latest configure or set_level call that
succeeded; a call that fails asks for nothing new. The logger realizes that handler as long as no
configure call fails on its format, since such a call sets the level and removes the handler
before the formatter refuses. Hence a record is written once, to the output of the latest
successful configure call, when it reaches the latest level, its level can be named and that
call's format renders it, and nowhere otherwise. Whether `get` and `set_level` refuse for want of a configuration depends on the
history alone, and an unknown level name changes nothing.
-/

namespace InterfaceDiscovery

namespace Handler

-- What a handler writes for a record: one line, the record rendered by its format, to its
-- output, when the record reaches its level, its level has a name (so that it is made at all)
-- and the format renders it.
def writes (h : Handler) (r : Record) : List Write :=
  if (h.level.severity : Int) ≤ r.levelno && (Level.nameOf? r.levelno).isSome then
    (RecordFormat.render r h.format).toList.map fun line => ⟨h.sink, line ++ "\n"⟩
  else []

theorem writes_length_le (h : Handler) (r : Record) : (h.writes r).length ≤ 1 := by
  unfold writes
  split
  case isTrue => cases RecordFormat.render r h.format <;> simp
  case isFalse => simp

end Handler

namespace Logger

-- A call on the logger; a configure call names the stream it writes to.
inductive Call where
  | configure (level : String) (sink : Nat) (timestamps includeLocation : Bool) (format : Option String)
  | setLevel (level : String)
  | get (name : Option String)

def step (lg : Logger) : Call → Logger
  | .configure l sink ts loc f => (lg.configure l (.stream sink) ts loc f).1
  | .setLevel l => (lg.setLevel l).1
  | .get _ => lg

def run (lg : Logger) (calls : List Call) : Logger :=
  calls.foldl step lg

@[simp] theorem run_nil (lg : Logger) : lg.run [] = lg := rfl

@[simp] theorem run_cons (lg : Logger) (c : Call) (calls : List Call) :
    lg.run (c :: calls) = (lg.step c).run calls := rfl

-- The format a configure call gives its handler: the one asked for or the default it builds, and
-- the message alone for an empty one.
def installedFormat (timestamps includeLocation : Bool) (format : Option String) : String :=
  let f := format.getD (defaultFormat timestamps includeLocation)
  if f.isEmpty then RecordFormat.messageOnly else f

-- A configure call that succeeds: its level name is known and the formatter accepts its format.
def Call.configures : Call → Bool
  | .configure l _ ts loc f => (Level.read? l).isSome && RecordFormat.isValid (installedFormat ts loc f)
  | _ => false

-- A configure call that gets past its level name and fails on its format.
def Call.failsOnFormat : Call → Bool
  | .configure l _ ts loc f =>
    (Level.read? l).isSome && !RecordFormat.isValid (installedFormat ts loc f)
  | _ => false

/-! The ideal logger. -/

-- The handler a call asks for, given the one asked for before: a configure call that succeeds
-- asks for its output and format at its level, a set_level call that succeeds moves the level,
-- and a call that fails keeps what was asked before.
def Call.request : Call → Option Handler → Option Handler
  | .configure l sink ts loc f, h =>
    match Level.read? l with
    | some lv =>
      if RecordFormat.isValid (installedFormat ts loc f) then some ⟨sink, lv, installedFormat ts loc f⟩
      else h
    | none => h
  | .setLevel l, some h =>
    match Level.read? l with
    | some lv => some { h with level := lv }
    | none => some h
  | .setLevel _, none => none
  | .get _, h => h

-- The handler a history asks for.
def requested (calls : List Call) : Option Handler :=
  calls.foldl (fun h c => c.request h) none

/-! One call. -/

-- Every format configure builds is accepted, so a configure call that gives no format never fails
-- on it and the hypothesis of the laws below holds of it.
theorem isValid_defaultFormat (ts loc : Bool) : RecordFormat.isValid (defaultFormat ts loc) = true := by
  cases ts <;> cases loc <;> decide +kernel

theorem installedFormat_none (ts loc : Bool) : installedFormat ts loc none = defaultFormat ts loc := by
  cases ts <;> cases loc <;> rfl

theorem failsOnFormat_default (l : String) (sink : Nat) (ts loc : Bool) :
    (Call.configure l sink ts loc none).failsOnFormat = false := by
  simp [Call.failsOnFormat, installedFormat_none, isValid_defaultFormat]

variable (lg : Logger)

theorem read_of_read? {s : String} {l : Level} (h : Level.read? s = some l) : Level.read s = .ok l := by
  simp [Level.read, h]

theorem read_of_read?_none {s : String} (h : Level.read? s = none) :
    Level.read s = .error (.unknownLevel (Text.upper s)) := by
  simp [Level.read, h]

theorem configure_unknown {l : String} (h : Level.read? l = none) (o : Output) (ts loc : Bool)
    (f : Option String) : lg.configure l o ts loc f = (lg, some (.unknownLevel (Text.upper l))) := by
  simp [configure, read_of_read?_none h]

-- Configuring an output stream: the level name first, then the format, which fails only after
-- the level is set and the handler removed.
theorem configure_stream (l : String) (sink : Nat) (ts loc : Bool) (f : Option String) :
    lg.configure l (.stream sink) ts loc f =
      match Level.read l with
      | .error e => (lg, some e)
      | .ok lv =>
        if RecordFormat.isValid (installedFormat ts loc f) then
          ({ lg with
              level := some lv
              handler := some ⟨sink, lv, installedFormat ts loc f⟩
              configured := true }, none)
        else ({ lg with level := some lv, handler := none },
          some (.invalidFormat (installedFormat ts loc f))) :=
  rfl

theorem configure_accepted {l : String} {lv : Level} (h : Level.read? l = some lv) (sink : Nat)
    {ts loc : Bool} {f : Option String} (hf : RecordFormat.isValid (installedFormat ts loc f) = true) :
    lg.configure l (.stream sink) ts loc f =
      ({ lg with
          level := some lv
          handler := some ⟨sink, lv, installedFormat ts loc f⟩
          configured := true }, none) := by
  simp only [configure_stream, read_of_read? h, hf, ↓reduceIte]

theorem configure_rejected {l : String} {lv : Level} (h : Level.read? l = some lv) (sink : Nat)
    {ts loc : Bool} {f : Option String} (hf : RecordFormat.isValid (installedFormat ts loc f) = false) :
    lg.configure l (.stream sink) ts loc f =
      ({ lg with level := some lv, handler := none },
        some (.invalidFormat (installedFormat ts loc f))) := by
  simp only [configure_stream, read_of_read? h, hf, Bool.false_eq_true, ↓reduceIte]

theorem configure_succeeds_iff (l : String) (sink : Nat) (ts loc : Bool) (f : Option String) :
    (lg.configure l (.stream sink) ts loc f).2 = none ↔
      (Call.configure l sink ts loc f).configures = true := by
  cases hl : Level.read? l with
  | none => simp [configure_unknown lg hl, Call.configures, hl]
  | some lv =>
    cases hf : RecordFormat.isValid (installedFormat ts loc f)
    case true => simp [configure_accepted lg hl sink hf, Call.configures, hl, hf]
    case false => simp [configure_rejected lg hl sink hf, Call.configures, hl, hf]

theorem setLevel_unconfigured (h : lg.configured = false) (l : String) :
    lg.setLevel l = (lg, some .notConfigured) := by
  simp [setLevel, h]

theorem setLevel_unknown (hc : lg.configured = true) {l : String} (h : Level.read? l = none) :
    lg.setLevel l = (lg, some (.unknownLevel (Text.upper l))) := by
  simp [setLevel, hc, read_of_read?_none h]

theorem setLevel_known (hc : lg.configured = true) {l : String} {lv : Level}
    (h : Level.read? l = some lv) :
    lg.setLevel l = ({ lg with level := some lv, handler := lg.handler.map ({ · with level := lv }) },
      none) := by
  simp [setLevel, hc, read_of_read? h]

theorem setLevel_refuses_iff (l : String) :
    (lg.setLevel l).2 = some .notConfigured ↔ lg.configured = false := by
  cases hc : lg.configured
  case false => simp [setLevel_unconfigured lg hc]
  case true =>
    cases hl : Level.read? l with
    | none => simp [setLevel_unknown lg hc hl]
    | some lv => simp [setLevel_known lg hc hl]

theorem configure_configured (l : String) (sink : Nat) (ts loc : Bool) (f : Option String) :
    (lg.configure l (.stream sink) ts loc f).1.configured =
      (lg.configured || (Call.configure l sink ts loc f).configures) := by
  cases hl : Level.read? l with
  | none => simp [configure_unknown lg hl, Call.configures, hl]
  | some lv =>
    cases hf : RecordFormat.isValid (installedFormat ts loc f)
    case true => simp [configure_accepted lg hl sink hf, Call.configures, hl, hf]
    case false => simp [configure_rejected lg hl sink hf, Call.configures, hl, hf]

theorem setLevel_configured (l : String) : (lg.setLevel l).1.configured = lg.configured := by
  cases hc : lg.configured
  case false => simp [setLevel_unconfigured lg hc, hc]
  case true =>
    cases hl : Level.read? l with
    | none => simp [setLevel_unknown lg hc hl, hc]
    | some lv => simp [setLevel_known lg hc hl, hc]

theorem step_configured (c : Call) : (lg.step c).configured = (lg.configured || c.configures) := by
  cases c with
  | configure l sink ts loc f => exact lg.configure_configured l sink ts loc f
  | setLevel l => simpa [step, Call.configures] using lg.setLevel_configured l
  | get name => simp [step, Call.configures]

theorem run_configured (calls : List Call) :
    (lg.run calls).configured = (lg.configured || calls.any Call.configures) := by
  induction calls generalizing lg with
  | nil => simp
  | cons c calls ih => simp [ih, step_configured, Bool.or_assoc]

/-! The logger realizes the ideal one. -/

-- The logger holds exactly the handler asked for, is configured exactly when there is one, and
-- its own level is the handler's, so that it never stops a record the handler would write.
structure Realizes (lg : Logger) (h : Option Handler) : Prop where
  configured : lg.configured = h.isSome
  handler : lg.handler = h
  level : ∀ hd ∈ h, lg.level = some hd.level

theorem realizes_empty : Realizes {} none :=
  ⟨rfl, rfl, by simp⟩

theorem Realizes.emit {lg : Logger} {h : Option Handler} (hr : Realizes lg h) (r : Record) :
    lg.emit r = (h.map (·.writes r)).getD [] := by
  cases h with
  | none => simp [Logger.emit, hr.handler]
  | some hd =>
    -- the logger's level is the handler's, so only the handler's level decides
    have hl : lg.level = some hd.level := hr.level hd rfl
    by_cases hle : (hd.level.severity : Int) ≤ r.levelno
    case neg => simp [Logger.emit, Handler.writes, hl, hle]
    case pos =>
      cases hn : (Level.nameOf? r.levelno).isSome
      case false => simp [Logger.emit, Handler.writes, hl, hn]
      case true =>
        cases hline : RecordFormat.render r hd.format <;>
          simp [Logger.emit, Handler.writes, hr.handler, hl, hle, hn, hline]

-- The step lemma: a call that does not fail on its format moves the logger as it moves the ideal
-- one. The cases follow the calls, and within them what the logger checks first.
theorem Realizes.step {lg : Logger} {h : Option Handler} (hr : Realizes lg h) (c : Call)
    (hc : c.failsOnFormat = false) : Realizes (lg.step c) (c.request h) := by
  cases c with
  | configure l sink ts loc f =>
    cases hl : Level.read? l with
    | none => simpa [Logger.step, configure_unknown lg hl, Call.request, hl] using hr
    | some lv =>
      have hf : RecordFormat.isValid (installedFormat ts loc f) = true := by
        simpa [Call.failsOnFormat, hl] using hc
      simp only [Logger.step, configure_accepted lg hl sink hf, Call.request, hl, hf]
      exact ⟨rfl, rfl, by simp⟩
  | setLevel l =>
    cases h with
    | none =>
      have hu : lg.configured = false := by simpa using hr.configured
      simpa [Logger.step, setLevel_unconfigured lg hu, Call.request] using hr
    | some hd =>
      have hu : lg.configured = true := by simpa using hr.configured
      cases hl : Level.read? l with
      | none => simpa [Logger.step, setLevel_unknown lg hu hl, Call.request, hl] using hr
      | some lv =>
        simp only [Logger.step, setLevel_known lg hu hl, Call.request, hl, hr.handler]
        exact ⟨hr.configured, rfl, by simp⟩
  | get name => simpa [Logger.step, Call.request] using hr

-- The run lemma: by induction on the calls, from the step lemma.
theorem Realizes.run {lg : Logger} {h : Option Handler} (hr : Realizes lg h) (calls : List Call)
    (hcalls : ∀ c ∈ calls, c.failsOnFormat = false) :
    Realizes (lg.run calls) (calls.foldl (fun h c => c.request h) h) := by
  induction calls generalizing lg h with
  | nil => simpa using hr
  | cons c calls ih =>
    rw [run_cons, List.foldl_cons]
    exact ih (hr.step c (hcalls c (by simp))) fun c' hc' => hcalls c' (by simp [hc'])

theorem realizes_requested (calls : List Call) (hcalls : ∀ c ∈ calls, c.failsOnFormat = false) :
    Realizes (({} : Logger).run calls) (requested calls) :=
  realizes_empty.run calls hcalls

/-! What a history leaves. -/

-- A history that reconfigures: a set_level call before any configuration, a configuration at
-- INFO with the timed default format, one with an unknown level name, one at WARNING whose format
-- shows the line of the call, a move to ERROR and a request for a named logger.
def reconfigured : List Call :=
  [.setLevel "debug", .configure "info" 1 true false none, .configure "verbose" 2 false false (some "%(message)s"),
   .configure "warning" 3 false false (some "%(lineno)d %(levelname)s [%(name)s] %(message)s"),
   .setLevel "ERROR", .get (some "cli")]

-- After that history a record at the unnamed level 45 reaches the latest output, and one at
-- WARNING none.
example : (({} : Logger).run reconfigured).emit
      { loggerName := "netbind.cli", levelno := 45, message := "down", site := { lineno := 7 } } =
      [⟨3, "7 Level 45 [netbind.cli] down\n"⟩] ∧
    (({} : Logger).run reconfigured).emit
      { loggerName := "netbind.cli", levelno := 30, message := "low" } = [] := by
  decide +kernel

/-! Where the law needs its hypothesis. -/

end Logger

end InterfaceDiscovery
