import PanelDriver.Proofs.Execution.Bounds
import PanelDriver.Proofs.Panel.Transitions

/-!
On what grounds a bind is refused. Each ground stands for itself, whatever else may be wrong, and
the checks and the first levels of the lines come down to one list of them: of all that apply the
first one counts (`refusal?_eq`).
-/

namespace PanelDriver

open ControlLines (initialise)

/-! ## Failures -/

def failure? {ε α : Type} : Except ε α → Option ε
  | .ok _ => none
  | .error e => some e

section

variable {ε σ α : Type}

theorem failure?_eq_some_iff {x : Except ε α} {e : ε} : failure? x = some e ↔ x = .error e := by
  cases x <;> simp [failure?]

theorem failure?_bind (x : Except ε Unit) (y : Except ε α) :
    failure? (x >>= fun _ => y) = (failure? x).or (failure? y) := by
  cases x <;> rfl

theorem failure?_ite (wrong : Bool) (e : ε) (y : Except ε α) :
    failure? (if wrong then .error e else y) =
      (if wrong then some e else none).or (failure? y) := by
  cases wrong <;> rfl

/-- Of two actions in a row the first failure counts. -/
theorem failure?_result_bind (x : Action ε σ Unit) (f : Unit → Action ε σ α) (s : σ) :
    failure? ((x >>= f) s).result =
      (failure? (x s).result).or (failure? (f () (x s).state).result) := by
  cases h : (x s).result with
  | error e =>
    rw [Action.bind_of_error h]
    rfl
  | ok _ =>
    rw [Action.bind_of_ok h]
    rfl

/-- Two grounds for one error are one ground. -/
theorem or_ite_same (p q : Bool) (e : ε) :
    ((if p then some e else none).or (if q then some e else none)) =
      if p || q then some e else none := by
  cases p <;> rfl

theorem findSome?_cons_eq_or {β : Type} (f : α → Option β) (a : α) (rest : List α) :
    (a :: rest).findSome? f = (f a).or (rest.findSome? f) := by
  rw [List.findSome?_cons]
  cases f a <;> rfl

end

/-! ## Grounds -/

/-- The line's pin lets the next call fail. -/
def Line.refuses (line : Line) : Bool :=
  line.any fun pin => pin.schedule.any fun schedule => schedule.headD false

def ControlLines.line (pins : ControlLines) : PinName → Line
  | .power => pins.power
  | .prepare => pins.prepare
  | .reset => pins.reset
  | .spare => none

/-- The order in which the programs of the phases are checked. -/
def Phase.order : List Phase := [.init, .enable, .disable]

/-- What a bind may be refused for. -/
inductive Ground
  /-- The link has no lanes, or more than four. -/
  | lanes
  /-- The I2C address has more than seven bits. -/
  | address
  /-- There is no mode to drive. -/
  | mode
  /-- A program does not decode. -/
  | program (phase : Phase) (kind : BusKind)
  | missingI2c
  | missingSpi
  | missingBacklight
  /-- There is a device, but no configuration of it. -/
  | unconfiguredI2c
  | unconfiguredSpi
  /-- The line refuses its first level. -/
  | line (name : PinName)
  deriving DecidableEq, Repr

namespace Ground

/-- The error of a ground that applies. -/
def error? (config : Config) (r : Resources) : Ground → Option PanelError
  | lanes =>
    if config.dsi.lanes.toNat = 0 ∨ 4 < config.dsi.lanes.toNat then some .invalidConfig else none
  | address => if config.i2c.any (0x7f < ·.address.toNat) then some .invalidConfig else none
  | mode =>
    if config.timing.isNone && config.desc.timings.isEmpty && config.desc.modes.isEmpty then
      some .invalidConfig
    else none
  | program phase kind => defect? ((config.programs.phase phase).on kind).items
  | missingI2c => if config.i2c.isSome && r.adapters.i2c.isNone then some .defer else none
  | missingSpi => if config.spi.isSome && r.adapters.spi.isNone then some .defer else none
  | missingBacklight => if config.requireBacklight && r.backlight.isNone then some .defer else none
  | unconfiguredI2c =>
    if r.adapters.i2c.isSome && config.i2c.isNone then some .invalidConfig else none
  | unconfiguredSpi =>
    if r.adapters.spi.isSome && config.spi.isNone then some .invalidConfig else none
  | line name => if (r.pins.line name).refuses then some .gpio else none

def programs : List Ground := Phase.order.flatMap fun phase => BusKind.order.map (program phase)

def devices : List Ground :=
  [missingI2c, missingSpi, missingBacklight, unconfiguredI2c, unconfiguredSpi]

/-- The lines in the order in which they are driven for the first time. -/
def lines : List Ground := [line .reset, line .prepare, line .power]

/-- What is checked before any line is driven. -/
def checks : List Ground := [lanes, address, mode] ++ programs ++ devices

/-- The grounds in the order in which they count. -/
def order : List Ground := checks ++ lines

def isLine : Ground → Bool
  | line _ => true
  | _ => false

theorem isLine_of_mem_checks {ground : Ground} (h : ground ∈ checks) : ground.isLine = false :=
  (by decide : ∀ ground ∈ checks, ground.isLine = false) ground h

variable (config : Config) (r : Resources)

/-- The error of the first ground that applies. -/
def first? (grounds : List Ground) : Option PanelError := grounds.findSome? (error? config r)

theorem first?_append (before later : List Ground) :
    first? config r (before ++ later) = (first? config r before).or (first? config r later) :=
  List.findSome?_append

theorem first?_cons (ground : Ground) (later : List Ground) :
    first? config r (ground :: later) = (error? config r ground).or (first? config r later) :=
  findSome?_cons_eq_or _ _ _

theorem first?_nil : first? config r [] = none := rfl

end Ground

open Ground (checks error? first? first?_append first?_cons first?_nil)

/-! ## Checks -/

theorem Program.failure?_validate (program : Program) :
    failure? program.validate = defect? program.items := by
  rw [validate, steps, collect_eq]
  cases defect? program.items <;> rfl

theorem BusPrograms.failure?_validate (programs : BusPrograms) : failure? programs.validate =
    (BusKind.order.map programs.on).findSome? fun program => defect? program.items := by
  rw [validate, failure?_bind, failure?_bind]
  simp only [Program.failure?_validate, BusKind.order, List.map_cons, List.map_nil,
    findSome?_cons_eq_or, List.findSome?_nil, Option.or_none]
  rfl

namespace PhasePrograms

/-- All programs, in the order in which they are checked. -/
def all (programs : PhasePrograms) : List Program :=
  Phase.order.flatMap fun phase => BusKind.order.map (programs.phase phase).on

theorem mem_all (programs : PhasePrograms) (phase : Phase) (kind : BusKind) :
    (programs.phase phase).on kind ∈ programs.all := by
  have hphase : phase ∈ Phase.order := by cases phase <;> decide
  have hkind : kind ∈ BusKind.order := by cases kind <;> decide
  exact List.mem_flatMap.mpr ⟨phase, hphase, List.mem_map_of_mem hkind⟩

theorem failure?_validate (programs : PhasePrograms) :
    failure? programs.validate = programs.all.findSome? fun program => defect? program.items := by
  rw [validate, failure?_bind, failure?_bind]
  simp only [BusPrograms.failure?_validate, all, Phase.order, List.flatMap_cons, List.flatMap_nil,
    List.findSome?_append, List.findSome?_nil, Option.or_none]
  rfl

end PhasePrograms

variable (config : Config) (r : Resources)

/-- The programs as grounds. -/
theorem first?_programs : first? config r Ground.programs =
    config.programs.all.findSome? fun program => defect? program.items := rfl

theorem Config.activeTiming_eq_or : config.activeTiming =
    (config.timing.or ((config.desc.timings.head?.map (·.typicalMode)).or
      config.desc.modes.head?)) := by
  rw [activeTiming, Description.defaultMode]
  cases config.desc.timings <;> rfl

/-- What is checked of a configuration are the grounds that need no devices. -/
theorem Config.failure?_validate :
    failure? config.validate = first? config r ([.lanes, .address, .mode] ++ Ground.programs) := by
  have hlanes : (if !config.dsi.lanesValid then some .invalidConfig else none) =
      error? config r .lanes := by
    simp [error?, DsiLink.lanesValid, UInt8.le_iff_toNat_le]
  have haddress : (if config.i2c.any (!·.addressValid) then some .invalidConfig else none) =
      error? config r .address := by
    rw [error?]
    cases config.i2c with
    | none => rfl
    | some link => simp [I2cLink.addressValid, UInt8.le_iff_toNat_le]
  have hmode : (if config.activeTiming.isNone then some .invalidConfig else none) =
      error? config r .mode := by
    rw [activeTiming_eq_or, error?]
    cases config.timing <;> cases config.desc.timings <;> cases config.desc.modes <;> rfl
  rw [validate, failure?_ite, failure?_ite, failure?_ite, hlanes, haddress, hmode,
    PhasePrograms.failure?_validate, ← first?_programs config r]
  simp only [first?_append, first?_cons, first?_nil, Option.or_assoc, Option.or_none]

theorem Config.exists_activeTiming {config : Config} (hvalid : config.validate = .ok ()) :
    ∃ timing, config.activeTiming = some timing := by
  cases htiming : config.activeTiming with
  | some timing => exact ⟨timing, rfl⟩
  | none => simp [validate, htiming] at hvalid

namespace Panel

/-- A valid configuration leaves the devices to be checked. -/
theorem failure?_check_of_valid (hvalid : config.validate = .ok ()) :
    failure? (check config r) = (if mustWait config r then some .defer else none).or
      (if (Buses.ofAdapters? r.adapters config.i2c config.spi).isNone then some .invalidConfig
        else none) := by
  obtain ⟨timing, htiming⟩ := Config.exists_activeTiming hvalid
  rw [check, hvalid, htiming]
  cases mustWait config r with
  | true => rfl
  | false => cases Buses.ofAdapters? r.adapters config.i2c config.spi <;> rfl

theorem first?_devices : first? config r Ground.devices =
    (if mustWait config r then some .defer else none).or
      (if (Buses.ofAdapters? r.adapters config.i2c config.spi).isNone then some .invalidConfig
        else none) := by
  have hunconfigured : (Buses.ofAdapters? r.adapters config.i2c config.spi).isNone =
      (r.adapters.i2c.isSome && config.i2c.isNone ||
        r.adapters.spi.isSome && config.spi.isNone) := by
    rw [Buses.ofAdapters?]
    split
    case isTrue h => rw [h, Option.isNone_none]
    case isFalse h => rw [eq_false_of_ne_true h, Option.isNone_some]
  rw [hunconfigured, mustWait, ← or_ite_same, ← or_ite_same, ← or_ite_same]
  simp only [Ground.devices, first?_cons, first?_nil, error?, Option.or_none, Option.or_assoc]

theorem failure?_check : failure? (check config r) = first? config r checks := by
  rw [checks, first?_append, ← Config.failure?_validate]
  cases hvalid : config.validate with
  | error e =>
    rw [check, hvalid]
    rfl
  | ok _ =>
    rw [failure?_check_of_valid config r hvalid, first?_devices]
    rfl

/-! ## Lines -/

theorem failure?_set (name : PinName) (high : Bool) (line : Line) :
    failure? (Line.set name high line).result = if line.refuses then some .gpio else none := by
  obtain _ | ⟨_ | schedule, level, refused⟩ := line
  · rfl
  · rfl
  · cases h : schedule.headD false <;>
      simp only [Line.set, Action.onSome, id, Pin.set, Line.refuses, Option.any_some, h] <;> rfl

theorem failure?_initialise :
    failure? (initialise r.pins).result = first? config r Ground.lines := by
  rw [initialise, failure?_result_bind, failure?_result_bind, ControlLines.setReset_eq,
    ControlLines.setPrepare_eq, ControlLines.setPower_eq, failure?_set, failure?_set, failure?_set]
  simp only [Ground.lines, first?_cons, first?_nil, Option.or_none]
  rfl

/-! ## Binds -/

/-- The error of a bind that is refused. -/
def refusal? (config : Config) (r : Resources) : Option PanelError :=
  (failure? (bind config r).1).map (·.error)

theorem exists_bind_of_refusal? {config : Config} {r : Resources} (h : refusal? config r = none) :
    ∃ panel events, bind config r = (.ok panel, events) := by
  rw [refusal?, Option.map_eq_none_iff] at h
  rcases hbind : bind config r with ⟨refusal | panel, events⟩
  · rw [hbind] at h
    cases h
  · exact ⟨panel, events, rfl⟩

theorem refusal?_eq : refusal? config r = first? config r Ground.order := by
  have hbind : refusal? config r =
      (failure? (check config r)).or (failure? (initialise r.pins).result) := by
    unfold refusal? bind
    rcases check config r with e | ⟨timing, buses⟩
    · rfl
    · rcases initialise r.pins with ⟨_ | _, pins, events⟩ <;> rfl
  rw [hbind, failure?_check, failure?_initialise config r, ← first?_append]
  rfl

/-- The DSI host is no ground. -/
theorem error?_dsi (host : Option DsiHost) (ground : Ground) :
    error? config { r with adapters := { r.adapters with dsi := host } } ground =
      error? config r ground := by
  cases ground <;> rfl

end Panel

end PanelDriver
