import PanelDriver.Proofs.Execution.Discretion

/-!
Runs that share one packer do not see each other. What a run leaves in the packer, finished or
broken off, is neither sent nor compared by a later one: with a packer of its own for every program
each of them would have done the same (`runs_isolated`).
-/

namespace PanelDriver

/-- A run of a program with a packer of its own. -/
def runFresh {β : Type} [SidebandBus β] (ctx : Context) (program : Program) :
    Action PanelError β Unit := fun bus =>
  let o := program.run ctx (⟨bus, {}⟩ : Channel β)
  ⟨o.result, o.state.bus, o.events⟩

namespace Buses

/-- The programs of all buses that are there, each run with a packer of its own: I2C first, then
MIPI, then SPI; the first error ends the run. -/
def runFresh (ctx : Context) (programs : BusPrograms) : Action PanelError Buses Unit := do
  (PanelDriver.runFresh ctx programs.i2c).onSome (·.i2c)
    fun bus buses => { buses with i2c := some bus }
  (PanelDriver.runFresh ctx programs.mipi).onSome (·.mipi)
    fun bus buses => { buses with mipi := some bus }
  (PanelDriver.runFresh ctx programs.spi).onSome (·.spi)
    fun bus buses => { buses with spi := some bus }

end Buses

/-- A run asked for: what it may look at, and the programs of the buses. -/
abbrev Job := Context × BusPrograms

/-- Does jobs one after another, whether or not they fail; gives what came out of each of them, and
the last state. -/
def runs {σ : Type} (run : Context → BusPrograms → Action PanelError σ Unit) :
    List Job → σ → List (Except PanelError Unit × List Event) × σ
  | [], s => ([], s)
  | (ctx, programs) :: rest, s =>
    let o := run ctx programs s
    let (later, last) := runs run rest o.state
    ((o.result, o.events) :: later, last)

namespace Sideband

/-- The window is that of a new packer, unless there is a device that fills it. -/
def Blank (buses : Buses) (window : Vector UInt8 64) : Prop :=
  ∀ bus ∈ buses.spi, bus.Suits window

theorem blank_new (buses : Buses) : Blank buses ({} : Packer).window := fun _ _ _ => rfl

/-- The buses, with a packer that suits them. -/
structure Stands (s : Sideband) (buses : Buses) : Prop where
  same : s.buses = buses
  blank : Blank s.buses s.packer.window

section RunOn

variable {β : Type} [SidebandBus β] {bus? : Buses → Option β} {put : β → Buses → Buses}
  {suits : Buses → β → Vector UInt8 64 → Prop}

theorem agree_runOn (law : ∀ buses, Discreet β (suits buses))
    (hget : ∀ buses bus window, bus? buses = some bus → Blank buses window →
      suits buses bus window)
    (hput : ∀ buses bus window, suits buses bus window → Blank (put bus buses) window)
    (ctx : Context) (program : Program) :
    Action.Agree Stands (runOn bus? put ctx program)
      ((runFresh ctx program).onSome bus? put) := by
  rintro ⟨buses, packer⟩ _ ⟨rfl, hblank⟩
  simp only [runOn, Action.onSome]
  cases hbus : bus? buses with
  | none => exact ⟨rfl, rfl, rfl, hblank⟩
  | some bus =>
    have hsame : SameBus (suits buses) ⟨bus, packer⟩ ⟨bus, {}⟩ :=
      ⟨rfl, hget buses bus _ hbus hblank, hget buses bus _ hbus (blank_new buses)⟩
    have hrun := (law buses).run ctx program hsame
    refine ⟨hrun.result, hrun.events, ?_, hput buses _ _ hrun.state.left⟩
    exact congrArg (put · buses) hrun.state.bus

end RunOn

/-- A run with the shared packer does what runs with packers of their own do. -/
theorem agree_run (ctx : Context) (programs : BusPrograms) :
    Action.Agree Stands (run ctx programs) (Buses.runFresh ctx programs) := by
  have hi2c : Action.Agree Stands
      (runOn (·.i2c) (fun bus buses => { buses with i2c := some bus }) ctx programs.i2c)
      ((runFresh ctx programs.i2c).onSome (·.i2c)
        fun bus buses => { buses with i2c := some bus }) := by
    refine agree_runOn (fun buses => I2cBus.parallel (sharesBus_samePending (Blank buses))) ?_ ?_
      ctx programs.i2c
    · exact fun _ _ _ _ h => h
    · exact fun _ _ _ h => h
  have hmipi : Action.Agree Stands
      (runOn (·.mipi) (fun bus buses => { buses with mipi := some bus }) ctx programs.mipi)
      ((runFresh ctx programs.mipi).onSome (·.mipi)
        fun bus buses => { buses with mipi := some bus }) := by
    refine agree_runOn (fun buses => MipiBus.parallel (sharesBus_samePending (Blank buses))) ?_ ?_
      ctx programs.mipi
    · exact fun _ _ _ _ h => h
    · exact fun _ _ _ h => h
  have hspi : Action.Agree Stands
      (runOn (·.spi) (fun bus buses => { buses with spi := some bus }) ctx programs.spi)
      ((runFresh ctx programs.spi).onSome (·.spi)
        fun bus buses => { buses with spi := some bus }) := by
    refine agree_runOn (fun _ => SpiBus.discreet) ?_ ?_ ctx programs.spi
    · exact fun _ bus _ hbus h => h bus hbus
    · intro buses bus window h other hother
      rw [← Option.some.inj hother]
      exact h
  exact hi2c.bind fun _ => hmipi.bind fun _ => hspi

end Sideband

theorem runs_agree {σ τ : Type} {R : σ → τ → Prop}
    {run : Context → BusPrograms → Action PanelError σ Unit}
    {run' : Context → BusPrograms → Action PanelError τ Unit}
    (h : ∀ ctx programs, Action.Agree R (run ctx programs) (run' ctx programs)) (jobs : List Job)
    {s : σ} {t : τ} (hst : R s t) :
    (runs run jobs s).1 = (runs run' jobs t).1 ∧ R (runs run jobs s).2 (runs run' jobs t).2 := by
  induction jobs generalizing s t with
  | nil => exact ⟨rfl, hst⟩
  | cons job rest ih =>
    obtain ⟨ctx, programs⟩ := job
    obtain ⟨hresult, hevents, hstate⟩ := h ctx programs hst
    obtain ⟨hlater, hlast⟩ := ih hstate
    simp only [runs, hresult, hevents, hlater]
    exact ⟨trivial, hlast⟩

/-! ## Programs of buses that are missing -/

def Buses.present (buses : Buses) : BusKind → Bool
  | .i2c => buses.i2c.isSome
  | .mipi => buses.mipi.isSome
  | .spi => buses.spi.isSome

/-- The programs of the buses that are there; those of the others are left empty. -/
def BusPrograms.only (present : BusKind → Bool) (programs : BusPrograms) : BusPrograms where
  i2c := if present .i2c then programs.i2c else ⟨[]⟩
  mipi := if present .mipi then programs.mipi else ⟨[]⟩
  spi := if present .spi then programs.spi else ⟨[]⟩

namespace Sideband

/-- The same side band, with buses of just these kinds. -/
def SameWith (present : BusKind → Bool) (s t : Sideband) : Prop :=
  s = t ∧ s.buses.present = present

/-- A program counts only where its bus is there. -/
theorem agree_runOn_of_present {β : Type} [SidebandBus β] {bus? : Buses → Option β}
    {put : β → Buses → Buses} (kind : BusKind) {present : BusKind → Bool} {p q : Program}
    (hget : ∀ buses, buses.present kind = (bus? buses).isSome)
    (hput : ∀ bus buses, buses.present kind = true → (put bus buses).present = buses.present)
    (hpq : present kind = true → p = q) (ctx : Context) :
    Action.Agree (SameWith present) (runOn bus? put ctx p) (runOn bus? put ctx q) := by
  rintro s _ ⟨rfl, rfl⟩
  have hkind := hget s.buses
  simp only [runOn, Action.onSome]
  cases hbus : bus? s.buses with
  | none => exact ⟨rfl, rfl, rfl, rfl⟩
  | some bus =>
    rw [hbus] at hkind
    rw [hpq hkind]
    exact ⟨rfl, rfl, rfl, hput _ _ hkind⟩

theorem agree_run_only (present : BusKind → Bool) (ctx : Context) (programs : BusPrograms) :
    Action.Agree (SameWith present) (run ctx (programs.only present)) (run ctx programs) := by
  have hput {buses buses' : Buses} (hi2c : buses'.i2c.isSome = buses.i2c.isSome)
      (hmipi : buses'.mipi.isSome = buses.mipi.isSome)
      (hspi : buses'.spi.isSome = buses.spi.isSome) : buses'.present = buses.present := by
    funext kind
    cases kind <;> assumption
  have hi2c : Action.Agree (SameWith present)
      (runOn (·.i2c) (fun bus buses => { buses with i2c := some bus }) ctx
        (programs.only present).i2c)
      (runOn (·.i2c) (fun bus buses => { buses with i2c := some bus }) ctx programs.i2c) := by
    refine agree_runOn_of_present .i2c ?_ ?_ ?_ ctx
    · exact fun _ => rfl
    · exact fun _ _ h => hput h.symm rfl rfl
    · exact fun h => if_pos h
  have hmipi : Action.Agree (SameWith present)
      (runOn (·.mipi) (fun bus buses => { buses with mipi := some bus }) ctx
        (programs.only present).mipi)
      (runOn (·.mipi) (fun bus buses => { buses with mipi := some bus }) ctx programs.mipi) := by
    refine agree_runOn_of_present .mipi ?_ ?_ ?_ ctx
    · exact fun _ => rfl
    · exact fun _ _ h => hput rfl h.symm rfl
    · exact fun h => if_pos h
  have hspi : Action.Agree (SameWith present)
      (runOn (·.spi) (fun bus buses => { buses with spi := some bus }) ctx
        (programs.only present).spi)
      (runOn (·.spi) (fun bus buses => { buses with spi := some bus }) ctx programs.spi) := by
    refine agree_runOn_of_present .spi ?_ ?_ ?_ ctx
    · exact fun _ => rfl
    · exact fun _ _ h => hput rfl rfl h.symm
    · exact fun h => if_pos h
  exact hi2c.bind fun _ => hmipi.bind fun _ => hspi

end Sideband

/-- However many runs share one packer, and whatever their programs are: each of them has the result
and the events, and leaves the devices in the states, of runs with a new packer for every program.
And programs of buses that are not there may as well be left out. The bytes that older streams leave
behind in the packer's memory make no difference to shared runs either: see `runs_in_memory`. -/
theorem runs_isolated (buses : Buses) (jobs : List Job) :
    let shared := runs Sideband.run jobs ⟨buses, {}⟩
    let separate := runs Buses.runFresh jobs buses
    shared.1 = separate.1 ∧ shared.2.buses = separate.2 ∧
    runs (fun ctx programs => Sideband.run ctx (programs.only buses.present)) jobs ⟨buses, {}⟩ =
      shared := by
  intro shared separate
  obtain ⟨hresults, hlast⟩ :=
    runs_agree Sideband.agree_run jobs (s := ⟨buses, {}⟩) ⟨rfl, Sideband.blank_new buses⟩
  obtain ⟨honly, hsame⟩ := runs_agree (Sideband.agree_run_only buses.present) jobs
    (s := ⟨buses, {}⟩) ⟨rfl, rfl⟩
  exact ⟨hresults, hlast.same, Prod.ext honly hsame.1⟩

end PanelDriver
