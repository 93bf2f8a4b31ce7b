import PanelDriver.Proofs.Execution.Malformed

/-!
How a bus is configured is settled when it is made. A program changes the device on its bus and
nothing else of it, so after any run the buses have the links that they were made with
(`Sideband.linked_run`).
-/

namespace PanelDriver

open PanelDriver.Action (Keeps)

section Run

variable {β : Type} [SidebandBus β] {q : β → Prop}

/-- What holds of a bus whatever is called on it holds after every program. -/
theorem Kept.run (law : Kept β fun c => q c.bus)
    (hbegin : Keeps (fun c => q c.bus) (SidebandBus.begin : Action PanelError (Channel β) Unit))
    (ctx : Context) (program : Program) :
    Keeps (fun c => q c.bus) (program.run ctx : Action PanelError (Channel β) Unit) := by
  have hreset : Keeps (fun c => q c.bus)
      (Channel.reset : Action PanelError (Channel β) Unit) := fun _ h => h
  have hserve (asked : List Request) (defect : Option PanelError) : Keeps (fun c => q c.bus)
      (serveUntil false asked defect : Action PanelError (Channel β) Bool) := by
    rw [serveUntil, serveAll_eq_carryOutAll]
    refine ((law.carryOutAll asked).bind fun _ => Keeps.pure _).bind fun mismatch => ?_
    cases defect with
    | none => exact Keeps.pure mismatch
    | some e => exact Keeps.fail e
  rw [run_eq_conduct]
  cases program.isEmpty with
  | true => exact Keeps.pure ()
  | false =>
    refine hreset.bind fun _ => hbegin.bind fun _ => ?_
    refine ((hserve _ _).orElse fun e => hreset.bind fun _ => Keeps.fail e).bind fun mismatch => ?_
    refine law.flush.bind fun _ => ?_
    cases mismatch with
    | true => exact Keeps.fail _
    | false => exact Keeps.pure ()

end Run

/-! ## Buses with a configuration -/

namespace I2cBus

variable {link : I2cLink}

theorem keeps_retrying {σ : Type} {p : σ → Prop} {x : Action I2cFault σ Unit} (h : Keeps p x) :
    Keeps p (retrying x) :=
  h.orElse fun _ => (Keeps.record _).bind fun _ => h.orElse fun _ => Keeps.fail _

theorem keeps_write (payload : Bytes) : Keeps (·.config = link) (write payload) :=
  (Keeps.ofExcept _).bind fun _ => Keeps.state fun _ => keeps_retrying fun _ h => h

theorem keeps_read (command : Bytes) :
    Keeps (fun s : I2cBus × Bytes => s.1.config = link) (read command) := by
  refine Keeps.state fun s => ?_
  obtain ⟨bus, buffer⟩ := s
  by_cases hlong : bufferBytes < buffer.length
  · simp only [hlong, ↓reduceIte]
    exact (Keeps.fail _).bind fun _ => (Keeps.ofExcept _).bind fun _ => keeps_retrying fun _ h => h
  · simp only [hlong, ↓reduceIte]
    exact (Keeps.ofExcept _).bind fun _ => keeps_retrying fun _ h => h

theorem kept_link : Kept I2cBus (·.bus.config = link) where
  write payload _ c h := keeps_write payload c.bus h
  readBack command _ length c h := keeps_read command (c.bus, Bytes.zeros length) h
  setReturnSize _ := Keeps.pure ()
  flush := Keeps.pure ()

theorem config_run (ctx : Context) (program : Program) (channel : Channel I2cBus) :
    (program.run ctx channel).state.bus.config = channel.bus.config :=
  kept_link.run (q := (·.config = channel.bus.config)) (Keeps.pure ()) ctx program channel rfl

end I2cBus

namespace SpiBus

variable {link : SpiLink}

theorem keeps_store (f : Packer → Except PanelError Packer) :
    Keeps (·.bus.config = link) (Channel.store f : Action PanelError (Channel SpiBus) Unit) := by
  intro c h
  rcases hstore : Channel.store f c with ⟨result, d, es⟩
  exact (congrArg SpiBus.config (Channel.bus_of_store hstore)).trans h

theorem keeps_reset :
    Keeps (·.bus.config = link) (Channel.reset : Action PanelError (Channel SpiBus) Unit) :=
  fun _ h => h

theorem keeps_emptying {α : Type} {x : Action PanelError (Channel SpiBus) α}
    (h : Keeps (·.bus.config = link) x) : Keeps (·.bus.config = link) (emptying x) := h

theorem keeps_flush : Keeps (·.bus.config = link) flush := by
  intro c h
  unfold flush
  split
  · exact h
  · exact h

theorem keeps_write (payload : Bytes) : Keeps (·.bus.config = link) (write payload) := by
  refine Keeps.state fun c => ?_
  split
  · split
    · exact keeps_store _
    · refine keeps_flush.bind fun _ => ?_
      split
      · exact Keeps.fail _
      · exact keeps_store _
  · split
    · exact Keeps.fail _
    · exact keeps_reset.bind fun _ => (keeps_store _).bind fun _ => keeps_flush

theorem keeps_storeCommand (command : Bytes) :
    Keeps (·.bus.config = link) (storeCommand command) := by
  refine Keeps.state fun c => ?_
  split
  · exact keeps_flush.bind fun _ => keeps_store _
  · exact keeps_reset.bind fun _ => keeps_store _

theorem keeps_query (command : Bytes) (length : Nat) :
    Keeps (·.bus.config = link) (query command length) := by
  refine (keeps_storeCommand command).bind fun _ => Keeps.state fun c => ?_
  refine ((keeps_store _).orElse fun _ => keeps_reset.bind fun _ => Keeps.fail _).bind fun _ => ?_
  exact keeps_emptying <| Keeps.bind (fun _ h => h) fun _ => Keeps.state fun _ => Keeps.ofExcept _

theorem kept_link : Kept SpiBus (·.bus.config = link) where
  write payload _ := keeps_write payload
  readBack command generic length c h := by
    rw [readBack_eq_query]
    exact keeps_query command length c h
  setReturnSize _ := Keeps.pure ()
  flush := keeps_flush

theorem config_run (ctx : Context) (program : Program) (channel : Channel SpiBus) :
    (program.run ctx channel).state.bus.config = channel.bus.config :=
  kept_link.run (q := (·.config = channel.bus.config)) (Keeps.pure ()) ctx program channel rfl

end SpiBus

/-! ## All buses -/

/-- The buses that have a configuration have these. -/
structure Buses.Linked (i2c : Option I2cLink) (spi : Option SpiLink) (buses : Buses) : Prop where
  i2c : ∀ bus ∈ buses.i2c, i2c = some bus.config
  spi : ∀ bus ∈ buses.spi, spi = some bus.config

theorem Buses.exists_of_pair {δ κ β : Type} {make : δ → κ → β} {device? : Option δ}
    {config? : Option κ} {bus : β} (h : pair make device? config? = some bus) :
    ∃ device config, config? = some config ∧ make device config = bus := by
  cases device? with
  | none => cases h
  | some device =>
    cases config? with
    | none => cases h
    | some config => exact ⟨device, config, rfl, Option.some.inj h⟩

theorem Buses.linked_of_ofAdapters {adapters : Adapters} {i2c : Option I2cLink}
    {spi : Option SpiLink} {buses : Buses} (h : ofAdapters? adapters i2c spi = some buses) :
    buses.Linked i2c spi := by
  unfold ofAdapters? at h
  split at h
  · cases h
  · obtain rfl := Option.some.inj h
    constructor
    · intro bus hbus
      obtain ⟨master, link, hlink, rfl⟩ := exists_of_pair hbus
      exact hlink
    · intro bus hbus
      obtain ⟨device, link, hlink, rfl⟩ := exists_of_pair hbus
      exact hlink

/-- A bus is a device with a link, so the devices and the links are all there is to know. -/
theorem Buses.Linked.eq_pair {i2c : Option I2cLink} {spi : Option SpiLink} {buses : Buses}
    (h : buses.Linked i2c spi) : buses.i2c = pair I2cBus.mk buses.adapters.i2c i2c ∧
      buses.spi = pair SpiBus.mk buses.adapters.spi spi := by
  obtain ⟨hi2c, hspi⟩ := h
  obtain ⟨i2cBus, mipi, spiBus⟩ := buses
  constructor
  · cases i2cBus with
    | none => rfl
    | some bus =>
      rw [hi2c bus rfl]
      rfl
  · cases spiBus with
    | none => rfl
    | some bus =>
      rw [hspi bus rfl]
      rfl

namespace Sideband

theorem keeps_runOn {β : Type} [SidebandBus β] {bus? : Buses → Option β}
    {put : β → Buses → Buses} {ctx : Context} {program : Program} {p : Buses → Prop}
    (h : ∀ buses bus, bus? buses = some bus → p buses → ∀ packer,
      p (put (program.run ctx (⟨bus, packer⟩ : Channel β)).state.bus buses)) :
    Keeps (fun s : Sideband => p s.buses) (runOn bus? put ctx program) := by
  intro s hs
  simp only [runOn, Action.onSome]
  cases hbus : bus? s.buses with
  | none => exact hs
  | some bus => exact h s.buses bus hbus hs s.packer

theorem linked_run (ctx : Context) (programs : BusPrograms) {i2c : Option I2cLink}
    {spi : Option SpiLink} :
    Keeps (fun s => s.buses.Linked i2c spi) (run ctx programs) := by
  have hi2c : Keeps (fun s : Sideband => s.buses.Linked i2c spi)
      (runOn (·.i2c) (fun bus buses => { buses with i2c := some bus }) ctx programs.i2c) := by
    refine keeps_runOn fun buses bus hbus h packer => ⟨fun last hlast => ?_, h.spi⟩
    rw [← Option.some.inj hlast, I2cBus.config_run]
    exact h.i2c bus hbus
  have hmipi : Keeps (fun s : Sideband => s.buses.Linked i2c spi)
      (runOn (·.mipi) (fun bus buses => { buses with mipi := some bus }) ctx programs.mipi) :=
    keeps_runOn fun buses bus hbus h packer => ⟨h.i2c, h.spi⟩
  have hspi : Keeps (fun s : Sideband => s.buses.Linked i2c spi)
      (runOn (·.spi) (fun bus buses => { buses with spi := some bus }) ctx programs.spi) := by
    refine keeps_runOn fun buses bus hbus h packer => ⟨h.i2c, fun last hlast => ?_⟩
    rw [← Option.some.inj hlast, SpiBus.config_run]
    exact h.spi bus hbus
  exact hi2c.bind fun _ => hmipi.bind fun _ => hspi

end Sideband

end PanelDriver
