import PanelDriver.Proofs.Execution.Malformed
import PanelDriver.Proofs.Panel.Transitions

/-!
Where a packer stands after a run. Nine-bit framing leaves it in the middle of a byte most of the
time, but a run that has begun empties it at whichever of its exits it ends. The empty program does
not begin: it leaves even a packer as it was in which something waits (`cursor_run`). Between the
calls on a panel nothing waits (`Panel.cursor_after`).
-/

namespace PanelDriver

open PanelDriver.Action (Keeps)

section Run

variable {β : Type} [SidebandBus β] {p : Channel β → Prop}

/-- What the calls of a program keep up to the flush at its end, and why nothing waits after it. -/
structure Drained (β : Type) [SidebandBus β] (p : Channel β → Prop) : Prop extends Kept β p where
  begins : ∀ c : Channel β, c.packer.cursor = 0 →
    ∃ d es, SidebandBus.begin c = ⟨.ok (), d, es⟩ ∧ p d
  flushed : ∀ c : Channel β, p c → (SidebandBus.flush c).state.packer.cursor = 0

namespace Drained

/-- A run that has begun ends at a request, at the defect of its program, at the flush or after
it. -/
theorem cursor_conduct (law : Drained β p) (asked : List Request) (defect : Option PanelError)
    (channel : Channel β) : (conduct asked defect channel).state.packer.cursor = 0 := by
  obtain ⟨begun, first, hbegin, hp⟩ :=
    law.begins { channel with packer := channel.packer.reset } rfl
  have hserved := law.carryOutAll asked begun hp
  rcases hall : carryOutAll asked begun with ⟨e | compared, served, second⟩
  · rw [conduct_of_error hbegin (serveUntil_of_error hall defect)]
    rfl
  rw [hall] at hserved
  cases defect with
  | some e =>
    rw [conduct_of_error hbegin (serveUntil_of_ok hall (some e))]
    rfl
  | none =>
    have hflushed := law.flushed served hserved
    rcases hflush : SidebandBus.flush served with ⟨e | _, last, third⟩
    · rw [conduct_of_flush_error hbegin (serveUntil_of_ok hall none) hflush]
      rwa [hflush] at hflushed
    · rw [conduct_ok hbegin (serveAll_of_ok hall) hflush]
      rwa [hflush] at hflushed

theorem cursor_run (law : Drained β p) (ctx : Context) (program : Program) (channel : Channel β) :
    (program.run ctx channel).state.packer.cursor =
      if program.isEmpty then channel.packer.cursor else 0 := by
  rw [run_eq_conduct]
  cases program.isEmpty with
  | true => rfl
  | false => exact law.cursor_conduct _ _ channel

/-- A run leaves nothing where nothing waited before it. -/
theorem keeps_run (law : Drained β p) (ctx : Context) (program : Program) :
    Keeps (fun c => c.packer.cursor = 0)
      (program.run ctx : Action PanelError (Channel β) Unit) := by
  intro channel hcursor
  rw [law.cursor_run]
  split
  · exact hcursor
  · rfl

end Drained

end Run

/-! ## All buses -/

/-- An I2C bus does not use the packer. -/
theorem I2cBus.drained : Drained I2cBus fun c => c.packer.cursor = 0 where
  write _ _ _ h := h
  readBack _ _ _ _ h := h
  setReturnSize _ _ h := h
  flush _ h := h
  begins c h := ⟨c, [], rfl, h⟩
  flushed _ h := h

/-- Nor does a DSI host. -/
theorem MipiBus.drained : Drained MipiBus fun c => c.packer.cursor = 0 where
  write _ _ _ h := h
  readBack _ _ _ _ h := h
  setReturnSize _ _ h := h
  flush _ h := h
  begins c h := by
    have hkept : (SidebandBus.begin c).state.packer.cursor = 0 := h
    obtain ⟨d, es, hbegin⟩ := orderly.begins c
    rw [hbegin] at hkept
    exact ⟨d, es, hbegin, hkept⟩
  flushed _ h := h

/-- In nine-bit framing anything may wait before a flush. After it nothing does, even if the device
has refused what waited. -/
theorem SpiBus.cursor_flush (c : Channel SpiBus) : (flush c).state.packer.cursor = 0 := by
  unfold flush
  split
  · rename_i hempty
    exact beq_iff_eq.mp hempty
  · rfl

theorem SpiBus.drained : Drained SpiBus fun _ => True where
  write _ _ _ _ := trivial
  readBack _ _ _ _ _ := trivial
  setReturnSize _ _ _ := trivial
  flush _ _ := trivial
  begins c _ := ⟨c, [], rfl, trivial⟩
  flushed c _ := cursor_flush c

/-- The packer after a run: it stands at a byte unless the program is empty and it did not stand at
one before. -/
structure Rests {β : Type} (program : Program) (before after : Channel β) : Prop where
  cursor : after.packer.cursor = if program.isEmpty then before.packer.cursor else 0
  aligned : after.packer.cursor % 8 = 0 ↔
    program.isEmpty = false ∨ before.packer.cursor % 8 = 0

theorem Drained.rests {β : Type} [SidebandBus β] {p : Channel β → Prop} (law : Drained β p)
    (ctx : Context) (program : Program) (channel : Channel β) :
    Rests program channel (program.run ctx channel).state := by
  have hcursor := law.cursor_run ctx program channel
  refine ⟨hcursor, ?_⟩
  rw [hcursor]
  cases program.isEmpty with
  | true => simp
  | false => simp

/-- However a run of a program ends that is not empty, valid or not, on any bus with any device, and
whatever waited before it: nothing waits after it, so the packer stands at a byte. The empty program
does not touch the packer, so after it the packer stands at a byte just when it did before. -/
theorem run_rests (ctx : Context) (program : Program) :
    (∀ channel : Channel I2cBus, Rests program channel (program.run ctx channel).state) ∧
    (∀ channel : Channel MipiBus, Rests program channel (program.run ctx channel).state) ∧
    ∀ channel : Channel SpiBus, Rests program channel (program.run ctx channel).state :=
  ⟨I2cBus.drained.rests ctx program, MipiBus.drained.rests ctx program,
    SpiBus.drained.rests ctx program⟩

/-- One byte in nine-bit framing takes up nine bits, and these still wait after the empty
program. -/
theorem run_leaves_misaligned : ¬ ∀ (ctx : Context) (program : Program) (channel : Channel SpiBus),
    (program.run ctx channel).state.packer.cursor % 8 = 0 := by
  intro h
  let waiting : Channel SpiBus := ⟨⟨.scripted {}, { nineBit := true }⟩,
    { pending := Packer.nineBit [0xb0] }⟩
  have haligned := h (.ofLanes 4) ⟨[]⟩ waiting
  revert haligned
  decide

/-! ## Panels -/

namespace Sideband

theorem cursor_runOn {β : Type} [SidebandBus β] {bus? : Buses → Option β}
    {put : β → Buses → Buses} {p : Channel β → Prop} (law : Drained β p) (ctx : Context)
    (program : Program) :
    Keeps (fun s : Sideband => s.packer.cursor = 0) (runOn bus? put ctx program) := by
  intro s hs
  simp only [runOn, Action.onSome]
  cases hbus : bus? s.buses with
  | none => exact hs
  | some bus => exact law.keeps_run ctx program ⟨bus, s.packer⟩ hs

theorem cursor_run (ctx : Context) (programs : BusPrograms) :
    Keeps (·.packer.cursor = 0) (run ctx programs) :=
  (cursor_runOn I2cBus.drained ctx _).bind fun _ =>
    (cursor_runOn MipiBus.drained ctx _).bind fun _ => cursor_runOn SpiBus.drained ctx _

end Sideband

namespace Panel

theorem cursor_phaseRun (phase : Phase) {panel : Panel}
    (h : panel.sideband.packer.cursor = 0) :
    (phaseRun phase panel).state.packer.cursor = 0 := by
  unfold phaseRun
  split
  · exact h
  · exact Sideband.cursor_run _ _ _ h

/-- What a call leaves on the buses comes of the programs that it runs. -/
theorem cursor_of_ends {panel last : Panel} {call : Call} {result : Except PanelError Unit}
    {events : List Event} (ends : Ends panel call result events last)
    (h : panel.sideband.packer.cursor = 0) : last.sideband.packer.cursor = 0 := by
  induction ends with
  | notPrepared | prepared => exact cursor_phaseRun .init h
  | notEnabled | unlit | enabled => exact cursor_phaseRun .enable h
  | disabled => exact cursor_phaseRun .disable h
  | shutDown _ _ dark last => exact last (dark h)
  | _ => exact h

/-- Whatever is called on a bound panel, and whether or not it fails, nothing waits after it. -/
theorem cursor_after {config : Config} {r : Resources} {panel : Panel} {driven : List Event}
    (bound : bind config r = (.ok panel, driven)) (calls : List Call) :
    (after calls panel).sideband.packer.cursor = 0 := by
  obtain ⟨timing, buses, -, -, hpanel⟩ := bind_eq_ok bound
  have hstart : panel.sideband.packer.cursor = 0 := by
    rw [hpanel]
    rfl
  exact after_kept cursor_of_ends calls hstart

end Panel

end PanelDriver
