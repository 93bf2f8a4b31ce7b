import PanelDriver.Proofs.Execution.Requests
import PanelDriver.Proofs.Program.Assembly

/-!
Lane filters can be resolved before a program is run. For a known lane count, the program assembled
from the active steps alone runs just like the program with its filters, on every bus; and a program
without active steps does nothing but begin.
-/

namespace PanelDriver

theorem totalWidth_le_of_sublist {short long : List Step} (h : short.Sublist long) :
    Step.totalWidth short ≤ Step.totalWidth long := by
  induction h with
  | slnil => simp
  | cons step _ ih => simp only [Step.totalWidth]; omega
  | cons_cons step _ ih => simp only [Step.totalWidth]; omega

/-- Valid programs with the same active steps run alike. -/
theorem run_eq_of_active_eq {β : Type} [SidebandBus β] {ctx : Context} {p q : Program}
    {steps others : List Step} (hp : p.steps = .ok steps) (hq : q.steps = .ok others)
    (hactive : active ctx.lanes steps = active ctx.lanes others) (hempty : p.isEmpty = q.isEmpty) :
    (p.run ctx : Action PanelError (Channel β) Unit) = q.run ctx := by
  rw [run_eq_conduct, run_eq_conduct, Program.requests_of_steps hp, Program.requests_of_steps hq,
    hactive, hempty, (steps_eq_ok_iff.mp hp).1, (steps_eq_ok_iff.mp hq).1]

/-- Without requests and without an error, a run empties the packer, begins and flushes. -/
theorem conduct_nil {β : Type} [SidebandBus β] (channel : Channel β) :
    conduct [] none channel =
      (Channel.reset >>= fun _ => SidebandBus.begin >>= fun _ => SidebandBus.flush) channel := by
  simp [conduct, serveUntil, serveAll]

/-- For a known lane count the filters of a valid program can be left out. If some step is active,
the program assembled from the active steps alone, in any buffer that holds it, runs just like the
whole program: on every bus, in every state of bus and packer, with the same result, state and
events. If none is, the run succeeds, empties the packer unsent, and all it asks for is low power on
MIPI. -/
theorem run_active_steps (ctx : Context) (program : Program) (steps : List Step)
    (valid : program.steps = .ok steps) :
    (active ctx.lanes steps ≠ [] → ∃ short : Program,
      short.length ≤ program.length ∧
      (∀ capacity, short.length ≤ capacity →
        ((active ctx.lanes steps).foldl Builder.add ({} : Builder capacity)).build = .ok short) ∧
      ∀ (β : Type) [SidebandBus β] (channel : Channel β),
        program.run ctx channel = short.run ctx channel) ∧
    (active ctx.lanes steps = [] → program.isEmpty = false →
      (∀ channel : Channel I2cBus, program.run ctx channel =
        ⟨.ok (), { channel with packer := channel.packer.reset }, []⟩) ∧
      (∀ channel : Channel SpiBus, program.run ctx channel =
        ⟨.ok (), { channel with packer := channel.packer.reset }, []⟩) ∧
      (∀ packer, program.run ctx (⟨⟨.silent⟩, packer⟩ : Channel MipiBus) =
        ⟨.ok (), ⟨⟨.silent⟩, packer.reset⟩, []⟩) ∧
      ∀ script packer, program.run ctx (⟨⟨.scripted script⟩, packer⟩ : Channel MipiBus) =
        ⟨.ok (), ⟨⟨.scripted { script with lowPower := true }⟩, packer.reset⟩,
          [.lowPower true]⟩) := by
  constructor
  · intro hne
    have hsub := activeFrom_sublist ctx.lanes [] steps
    obtain ⟨hbounds, hlength⟩ := Program.encodable_of_steps valid
    have hshort : ∀ step ∈ active ctx.lanes steps, step.Encodable :=
      fun step hs => hbounds step (hsub.subset hs)
    have hsteps := Program.steps_ofSteps hshort
    refine ⟨Program.ofSteps (active ctx.lanes steps), ?_, ?_, ?_⟩
    · rw [Program.length_ofSteps hshort]
      exact Nat.le_trans (totalWidth_le_of_sublist hsub) hlength
    · intro capacity hcapacity
      exact Builder.build_of_fits hshort hcapacity
    · intro β _ channel
      have hwhole : steps ≠ [] := fun h => hne (by simp [h, active, activeFrom])
      rw [run_eq_of_active_eq valid hsteps (active_active ctx.lanes steps).symm]
      rw [Program.isEmpty_of_steps valid hwhole, Program.isEmpty_of_steps hsteps hne]
  · intro hnil hempty
    have hrun {β : Type} [SidebandBus β] (channel : Channel β) :
        program.run ctx channel = (Channel.reset >>= fun _ =>
          SidebandBus.begin >>= fun _ => SidebandBus.flush) channel := by
      rw [run_eq_conduct, hempty, Program.requests_of_steps valid, hnil,
        (steps_eq_ok_iff.mp valid).1]
      exact conduct_nil channel
    exact ⟨fun channel => hrun channel, fun channel => hrun channel,
      fun packer => hrun _, fun script packer => hrun _⟩

/-- Four lanes asked for and two active: of two writes the guarded one is dropped, and alone it
leaves nothing to do on I2C. -/
theorem run_active_steps_two_lanes :
    (∃ short : Program, short.length ≤ 5 ∧
      (∀ capacity, short.length ≤ capacity →
        ([Step.write false [0xbb]].foldl Builder.add ({} : Builder capacity)).build = .ok short) ∧
      ∀ (β : Type) [SidebandBus β] (channel : Channel β),
        Program.run (.ofLanes 2) ⟨[0x4b, 0x01, 0xaa, 0x01, 0xbb]⟩ channel =
          short.run (.ofLanes 2) channel) ∧
    ∀ channel : Channel I2cBus, Program.run (.ofLanes 2) ⟨[0x4b, 0x01, 0xaa]⟩ channel =
      ⟨.ok (), { channel with packer := channel.packer.reset }, []⟩ :=
  ⟨(run_active_steps (.ofLanes 2) ⟨[0x4b, 0x01, 0xaa, 0x01, 0xbb]⟩
      [.laneFilter 4, .write false [0xaa], .write false [0xbb]] rfl).1 (by decide),
    ((run_active_steps (.ofLanes 2) ⟨[0x4b, 0x01, 0xaa]⟩
      [.laneFilter 4, .write false [0xaa]] rfl).2 rfl rfl).1⟩

end PanelDriver
