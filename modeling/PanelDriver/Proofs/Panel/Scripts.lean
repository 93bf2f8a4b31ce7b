import Mathlib.Logic.Basic
import PanelDriver.Proofs.Execution.Isolation
import PanelDriver.Proofs.Execution.Links
import PanelDriver.Proofs.Panel.Echoes

/-!
What of a device shows later. A device answers from its script, so what it was asked before counts
only for how much of the script is left: the levels of lines, the calls a supply has seen, and the
mode of a DSI host do not show. Here are devices without that past, and the actions on them that do
not tell it.
-/

namespace PanelDriver

open PanelDriver.Action (Agree Echoes)

/-- The same states, as far as a view of them shows. -/
abbrev SameIn {σ τ : Type} (view : σ → τ) (s t : σ) : Prop := view s = view t

namespace Action

variable {ε σ τ α β : Type}

/-- An action that does on every state what it does on a view of it tells no states apart that look
the same. -/
theorem agree_of_view {view : σ → σ} {x : Action ε σ α}
    (h : ∀ s, (x s).Alike (SameIn view) (x (view s))) : Agree (SameIn view) x x := by
  intro s t hst
  have hs := h s
  have ht := h t
  rw [← hst] at ht
  exact ⟨hs.result.trans ht.result.symm, hs.events.trans ht.events.symm,
    hs.state.trans ht.state.symm⟩

/-- Where everything is heard, to echo is to agree. -/
theorem echoes_iff_agree {R : σ → σ → Prop} {x : Action ε σ α} :
    Echoes R (fun _ => true) x ↔ Agree R x x := by
  have hheard : x.muted (fun _ => true) = x := by
    funext s
    simp only [muted, List.filter_eq_self.mpr fun _ _ => rfl]
  rw [Echoes, hheard]

/-- A part that may be missing is there in both states, or in neither. -/
theorem agree_onSome {view : σ → σ} {S : τ → τ → Prop} {x : Action ε σ Unit}
    {part : τ → Option σ} {put : σ → τ → τ} (h : Agree (SameIn view) x x)
    (hpart : ∀ ⦃s t⦄, S s t → (part s).map view = (part t).map view)
    (hput : ∀ ⦃s t u v⦄, S s t → view u = view v → S (put u s) (put v t)) :
    Agree S (x.onSome part put) (x.onSome part put) := by
  intro s t hst
  have hparts := hpart hst
  simp only [Action.onSome]
  generalize part s = u? at hparts
  generalize part t = v? at hparts
  cases u? with
  | none =>
    cases v? with
    | none => exact ⟨rfl, rfl, hst⟩
    | some v => cases hparts
  | some u =>
    cases v? with
    | none => cases hparts
    | some v =>
      obtain ⟨hresult, hevents, hstate⟩ := h (Option.some.inj hparts)
      exact ⟨hresult, hevents, hput hst hstate⟩

end Action

/-! ## Lines, supply and backlight -/

/-- A pin that has only its schedule left. -/
def Pin.remaining (pin : Pin) : Pin := { schedule := pin.schedule }

namespace Line

def remaining (line : Line) : Line := line.map Pin.remaining

theorem agree_set (name : PinName) (high : Bool) :
    Agree (SameIn remaining) (set name high) (set name high) := by
  refine Action.agree_of_view fun line => ?_
  rcases line with _ | ⟨_ | schedule, level, refused⟩
  · exact ⟨rfl, rfl, rfl⟩
  · exact ⟨rfl, rfl, rfl⟩
  · simp only [set, Action.onSome, remaining, Option.map_some, id, Pin.remaining, Pin.set]
    cases schedule.headD false with
    | true => exact ⟨rfl, rfl, rfl⟩
    | false => exact ⟨rfl, rfl, rfl⟩

end Line

namespace ControlLines

def remaining (pins : ControlLines) : ControlLines where
  power := Line.remaining pins.power
  prepare := Line.remaining pins.prepare
  reset := Line.remaining pins.reset

theorem setsEcho_remaining : SetsEcho (SameIn remaining) fun _ => true where
  setPower high :=
    echoes_setPower (Action.echoes_iff_agree.mpr (Line.agree_set .power high))
      (fun _ _ h => congrArg power h)
      fun _ _ _ _ h hpower => congrArg₂ (fun pins power => { pins with power }) h hpower
  setPrepare high :=
    echoes_setPrepare (Action.echoes_iff_agree.mpr (Line.agree_set .prepare high))
      (fun _ _ h => congrArg prepare h)
      fun _ _ _ _ h hprepare => congrArg₂ (fun pins prepare => { pins with prepare }) h hprepare
  setReset high :=
    echoes_setReset (Action.echoes_iff_agree.mpr (Line.agree_set .reset high))
      (fun _ _ h => congrArg reset h)
      fun _ _ _ _ h hreset => congrArg₂ (fun pins reset => { pins with reset }) h hreset

end ControlLines

namespace Supply

/-- A supply that has only its script left. -/
def remaining (supply : Supply) : Supply := { script := supply.script }

theorem agree_set (on : Bool) :
    Agree (SameIn remaining) (set on) (set on) := by
  refine Action.agree_of_view fun supply => ?_
  rcases supply with ⟨_ | script, calls⟩
  · exact ⟨rfl, rfl, rfl⟩
  · simp only [set, remaining]
    rcases script.next on with ⟨_ | _, next⟩
    · exact ⟨rfl, rfl, rfl⟩
    · exact ⟨rfl, rfl, rfl⟩

end Supply

/-- A backlight that has only its script left. -/
def Backlight.remaining : Backlight → Backlight
  | silent => silent
  | scripted script => scripted { failures := script.failures }

namespace Lamp

def remaining (lamp : Lamp) : Lamp := lamp.map Backlight.remaining

theorem agree_setBlank (blank : Bool) :
    Agree (SameIn remaining) (setBlank blank) (setBlank blank) := by
  refine Action.agree_of_view fun lamp => ?_
  rcases lamp with _ | _ | ⟨failures, blanked, refused⟩
  · exact ⟨rfl, rfl, rfl⟩
  · exact ⟨rfl, rfl, rfl⟩
  · simp only [setBlank, Action.onSome, remaining, Option.map_some, id, Backlight.remaining,
      Backlight.setBlank]
    cases failures.headD false with
    | true => exact ⟨rfl, rfl, rfl⟩
    | false => exact ⟨rfl, rfl, rfl⟩

end Lamp

/-! ## Buses -/

/-- A host without the mode it was left in: every program selects it anew. -/
def DsiHost.remaining : DsiHost → DsiHost
  | silent => silent
  | scripted script => scripted { script with lowPower := false }

def MipiBus.remaining (bus : MipiBus) : MipiBus := ⟨bus.host.remaining⟩

/-- What a program does first hides the mode the host was left in. -/
theorem MipiBus.conduct_remaining (asked : List Request) (defect : Option PanelError)
    (host : DsiHost) : conduct asked defect (⟨⟨host⟩, {}⟩ : Channel MipiBus) =
      conduct asked defect ⟨remaining ⟨host⟩, {}⟩ := by
  have hbegin : (SidebandBus.begin : Action PanelError (Channel MipiBus) Unit) ⟨⟨host⟩, {}⟩ =
      SidebandBus.begin ⟨remaining ⟨host⟩, {}⟩ := by
    cases host with
    | silent => rfl
    | scripted script => rfl
  exact Action.bind_congr_outcome hbegin _

theorem MipiBus.agree_runFresh (ctx : Context) (program : Program) :
    Agree (SameIn remaining) (PanelDriver.runFresh ctx program)
      (PanelDriver.runFresh ctx program) := by
  refine Action.agree_of_view fun ⟨host⟩ => ?_
  cases hempty : program.isEmpty with
  | true =>
    simp only [runFresh, run_eq_conduct, hempty, ↓reduceIte]
    cases host with
    | silent => exact ⟨rfl, rfl, rfl⟩
    | scripted script => exact ⟨rfl, rfl, rfl⟩
  | false =>
    simp only [runFresh, run_eq_conduct, hempty, Bool.false_eq_true, ↓reduceIte,
      conduct_remaining _ _ host]
    exact ⟨rfl, rfl, rfl⟩

namespace Buses

def remaining (buses : Buses) : Buses := { buses with mipi := buses.mipi.map MipiBus.remaining }

theorem agree_runFresh (ctx : Context) (programs : BusPrograms) :
    Agree (SameIn remaining) (runFresh ctx programs)
      (runFresh ctx programs) := by
  -- I2C and SPI devices have nothing but their scripts.
  have whole {β : Type} {x : Action PanelError β Unit} : Agree (SameIn id) x x := by
    rintro s _ rfl
    exact ⟨rfl, rfl, rfl⟩
  have hi2c : Agree (SameIn remaining)
      ((PanelDriver.runFresh ctx programs.i2c).onSome (·.i2c)
        fun bus buses => { buses with i2c := some bus })
      ((PanelDriver.runFresh ctx programs.i2c).onSome (·.i2c)
        fun bus buses => { buses with i2c := some bus }) :=
    Action.agree_onSome whole (fun _ _ h => congrArg (·.i2c.map id) h)
      fun _ _ _ _ h hbus => congrArg₂ (fun buses bus => { buses with i2c := some bus }) h hbus
  have hmipi : Agree (SameIn remaining)
      ((PanelDriver.runFresh ctx programs.mipi).onSome (·.mipi)
        fun bus buses => { buses with mipi := some bus })
      ((PanelDriver.runFresh ctx programs.mipi).onSome (·.mipi)
        fun bus buses => { buses with mipi := some bus }) :=
    Action.agree_onSome (MipiBus.agree_runFresh ctx programs.mipi)
      (fun _ _ h => congrArg (·.mipi) h)
      fun _ _ _ _ h hbus => congrArg₂ (fun buses bus => { buses with mipi := some bus }) h hbus
  have hspi : Agree (SameIn remaining)
      ((PanelDriver.runFresh ctx programs.spi).onSome (·.spi)
        fun bus buses => { buses with spi := some bus })
      ((PanelDriver.runFresh ctx programs.spi).onSome (·.spi)
        fun bus buses => { buses with spi := some bus }) :=
    Action.agree_onSome whole (fun _ _ h => congrArg (·.spi.map id) h)
      fun _ _ _ _ h hbus => congrArg₂ (fun buses bus => { buses with spi := some bus }) h hbus
  exact hi2c.bind fun _ => hmipi.bind fun _ => hspi

end Buses

/-! ## Resources -/

def Adapters.remaining (adapters : Adapters) : Adapters :=
  { adapters with dsi := adapters.dsi.map DsiHost.remaining }

theorem Buses.adapters_remaining (buses : Buses) :
    buses.remaining.adapters = buses.adapters.remaining := by
  obtain ⟨i2c, mipi, spi⟩ := buses
  cases mipi with
  | none => rfl
  | some bus => rfl

/-- Buses with the same links are the same where their devices are. -/
theorem Buses.remaining_congr {i2c : Option I2cLink} {spi : Option SpiLink} {buses buses' : Buses}
    (h : buses.Linked i2c spi) (h' : buses'.Linked i2c spi)
    (hsame : SameIn Adapters.remaining buses.adapters buses'.adapters) :
    SameIn remaining buses buses' := by
  obtain ⟨hdsi, hi2c, hspi⟩ := Adapters.mk.inj hsame
  have hmipi (b : Buses) : b.mipi.map MipiBus.remaining =
      (b.adapters.dsi.map DsiHost.remaining).map MipiBus.mk := by
    simp only [adapters, Option.map_map]
    rfl
  simp only [SameIn, remaining, hmipi, hdsi, h.eq_pair, h'.eq_pair, hi2c, hspi]

/-- Resources of which only the scripts are left. -/
def Resources.remaining (r : Resources) : Resources where
  adapters := r.adapters.remaining
  pins := r.pins.remaining
  supply := r.supply.remaining
  backlight := Lamp.remaining r.backlight

end PanelDriver
