import PanelDriver.Proofs.Wire.NineBit

/-!
Nine-bit framing loses nothing. Whatever a valid program sends arrives on the other side of an SPI
device that never fails: cut out of the frames again, its payloads are those that were sent, in
order, and none of them waits across a pause or a read. The wires of a DSI host show the same.
-/

namespace PanelDriver

/-! ## Packets -/

/-- Every call succeeds, and no read brings a report. -/
structure DsiScript.Faultless (s : DsiScript) : Prop where
  writes : ∀ fault ∈ s.writeFaults, fault = none
  sizes : ∀ fault ∈ s.sizeFaults, fault = none
  replies : ∀ reply ∈ s.replies, reply.fault = none

namespace MipiBus

/-- Nothing ever waits for a DSI host that never fails. -/
structure Holds (commands : List Bytes) (channel : Channel MipiBus) : Prop where
  nothing : commands = []
  host : ∃ script, channel.bus.host = .scripted script ∧ script.Faultless

variable {script after : DsiScript} {packer : Packer}

theorem holds_scripted (h : script.Faultless) : Holds [] ⟨⟨.scripted script⟩, packer⟩ :=
  ⟨rfl, script, rfl, h⟩

theorem onBus_of_ok {x : Action DsiFault DsiHost Unit} {events : List Event}
    (h : x (.scripted script) = ⟨.ok (), .scripted after, events⟩) :
    Channel.onBus (onHost (x.mapError transferError)) ⟨⟨.scripted script⟩, packer⟩ =
      ⟨.ok (), ⟨⟨.scripted after⟩, packer⟩, events⟩ := by
  simp only [Channel.onBus, onHost, Action.on, Action.mapError, Action.orElse_ok h]

/-- A payload is one packet. -/
theorem write_of_faultless (h : script.Faultless) (generic : Bool) (data : Bytes) :
    ∃ after : DsiScript, after.Faultless ∧
      SidebandBus.write data generic (⟨⟨.scripted script⟩, packer⟩ : Channel MipiBus) =
        ⟨.ok (), ⟨⟨.scripted after⟩, packer⟩,
          [if generic then .genericWrite data else .dcsWrite data]⟩ := by
  refine ⟨{ script with writeFaults := script.writeFaults.tail },
    ⟨fun fault hf => h.writes fault (List.mem_of_mem_tail hf), h.sizes, h.replies⟩,
    onBus_of_ok ?_⟩
  simp only [DsiHost.write, DsiHost.onScript, DsiScript.write, headD_of_forall_eq h.writes,
    reported]

theorem setReturnSize_of_faultless (h : script.Faultless) (size : UInt8) :
    ∃ after : DsiScript, after.Faultless ∧
      SidebandBus.setReturnSize size (⟨⟨.scripted script⟩, packer⟩ : Channel MipiBus) =
        ⟨.ok (), ⟨⟨.scripted after⟩, packer⟩, [.returnSize size.toUInt16]⟩ := by
  refine ⟨{ script with sizeFaults := script.sizeFaults.tail },
    ⟨h.writes, fun fault hf => h.sizes fault (List.mem_of_mem_tail hf), h.replies⟩,
    onBus_of_ok ?_⟩
  simp only [DsiHost.setReturnSize, DsiHost.onScript, DsiScript.setReturnSize,
    headD_of_forall_eq h.sizes, reported]

/-- A read without a report is not repeated. -/
theorem readBack_of_faultless (h : script.Faultless) (command : Bytes) (generic : Bool)
    (length : Nat) : ∃ (after : DsiScript) (reply : Bytes) (e : Event),
      after.Faultless ∧ e.marks = [.read] ∧
      Channel.readBack command generic length (⟨⟨.scripted script⟩, packer⟩ : Channel MipiBus) =
        ⟨.ok reply, ⟨⟨.scripted after⟩, packer⟩, [e]⟩ := by
  let next : DsiScript := { script with replies := script.replies.tail }
  have hnext : next.Faultless :=
    ⟨h.writes, h.sizes, fun reply hr => h.replies reply (List.mem_of_mem_tail hr)⟩
  have hfault : (script.replies.headD {}).fault = none := by
    cases hr : script.replies with
    | nil => rfl
    | cons reply rest =>
      have hmem : reply ∈ script.replies := hr ▸ List.mem_cons_self
      exact h.replies reply hmem
  have honce : ∃ reply e, e.marks = [.read] ∧
      readOnce command generic (.scripted script, Bytes.zeros length) =
        ⟨.ok (), (.scripted next, reply), [e]⟩ := by
    cases generic <;>
      simp only [readOnce, DsiHost.genericRead, DsiHost.dcsRead, DsiHost.readWith,
        DsiScript.genericRead, DsiScript.dcsRead, DsiScript.answer, hfault, reported,
        Bool.false_eq_true, ↓reduceIte] <;>
      exact ⟨_, _, rfl, rfl⟩
  obtain ⟨reply, e, hmarks, honce⟩ := honce
  refine ⟨next, reply, e, hnext, hmarks, ?_⟩
  simp only [Channel.readBack, SidebandBus.read, Channel.onBusAndBuffer, MipiBus.read, readHost,
    Action.on, Action.orElse_ok honce]
  rfl

/-- A DSI host sends every payload at once. -/
theorem timely : Timely MipiBus Holds fun _ => True where
  flush {held channel} h := by
    rw [h.nothing]
    exact ⟨channel, [], rfl, ⟨rfl, h.host⟩, Shows.nothing []⟩
  serve {request held channel} _ h := by
    obtain ⟨rfl, script, hd, hscript⟩ := h
    obtain ⟨⟨host⟩, packer⟩ := channel
    cases hd
    cases request with
    | send generic payload =>
      cases payload with
      | nil => exact ⟨false, [], _, [], rfl, holds_scripted hscript, Shows.nothing []⟩
      | cons b data =>
        obtain ⟨after, hafter, hwrite⟩ := write_of_faultless hscript generic (b :: data)
        have hsend : (send (b :: data) generic : Action PanelError (Channel MipiBus) Unit)
            ⟨⟨.scripted script⟩, packer⟩ = ⟨.ok (), ⟨⟨.scripted after⟩, packer⟩,
              [if generic then .genericWrite (b :: data) else .dcsWrite (b :: data)]⟩ := hwrite
        refine ⟨false, [], ⟨⟨.scripted after⟩, packer⟩,
          [if generic then .genericWrite (b :: data) else .dcsWrite (b :: data)], ?_,
          holds_scripted hafter, by simp, ?_⟩
        · rw [serve, Action.bind_ok hsend]
          rfl
        · cases generic <;> rfl
    | wait ms =>
      exact ⟨false, [], _, [.delayMs ms.toUInt32], rfl, holds_scripted hscript, by simp, rfl⟩
    | limit size =>
      obtain ⟨after, hafter, hsize⟩ := setReturnSize_of_faultless hscript size
      refine ⟨false, [], ⟨⟨.scripted after⟩, packer⟩, [.returnSize size.toUInt16], ?_,
        holds_scripted hafter, by simp, ?_⟩
      · rw [serve, Action.bind_ok hsize]
        rfl
      · rfl
    | ask query expected =>
      obtain ⟨after, reply, e, hafter, hmarks, hread⟩ :=
        readBack_of_faultless hscript query.bytes query.isGeneric expected.length
      refine ⟨Bytes.differ reply expected, [], ⟨⟨.scripted after⟩, packer⟩, [e], ?_,
        holds_scripted hafter, by simp, ?_⟩
      · rw [serve, Action.bind_ok hread]
        rfl
      · simp [timeline, hmarks, Request.marks]

end MipiBus

/-! ## Runs -/

namespace Wire

def frame? : Event → Option Bytes
  | .spiWrite frame => some frame
  | _ => none

def frames (events : List Event) : List Bytes := events.filterMap frame?

/-- How the requests of a run come out of the events on an SPI bus. Nothing but sound frames,
transfers and pauses is on the wires. The payloads are cut out of the frames, out of each by itself
as well as out of all together, so no frame ends within a payload. And at a transfer or a pause,
just those payloads have come out that were asked for before it. -/
structure Delivers (asked : List Request) (events : List Event) : Prop where
  onWire : ∀ e ∈ events, SpiBus.OnWire e
  payloads : cut ((frames events).flatMap deframe) = asked.flatMap Request.payloads
  whole : ((frames events).flatMap fun frame => cut (deframe frame)) =
    asked.flatMap Request.payloads
  prompt : ∀ before e after, events = before ++ e :: after → frame? e = none →
    ∃ done request rest, asked = done ++ request :: rest ∧ request.marks = e.marks ∧
      timeline before = done.flatMap Request.marks ∧
      cut ((frames before).flatMap deframe) = done.flatMap Request.payloads

/-- A mark on an SPI bus is a payload of a frame, a pause or a read. -/
theorem filterMap_timeline {events : List Event} (h : ∀ e ∈ events, SpiBus.OnWire e) :
    (timeline events).filterMap Mark.payload? =
      (frames events).flatMap fun frame => cut (deframe frame) := by
  induction events with
  | nil => rfl
  | cons e rest ih =>
    have hrest := ih fun e he => h e (List.mem_cons_of_mem _ he)
    have hfirst := h e List.mem_cons_self
    rw [timeline, List.flatMap_cons, List.filterMap_append, ← timeline, hrest]
    cases e with
    | spiWrite frame =>
      have hpayloads : (Event.spiWrite frame).marks.filterMap Mark.payload? =
          cut (deframe frame) := by
        simp [Event.marks, List.filterMap_map, Function.comp_def, Mark.payload?]
      rw [hpayloads]
      rfl
    | spiTransfer sent | delayMs ms => rfl
    | _ => exact hfirst.elim

theorem starts_of_onWire {events : List Event} (h : ∀ e ∈ events, SpiBus.OnWire e) :
    ∀ frame ∈ frames events, Starts (deframe frame) := by
  intro frame hframe
  obtain ⟨e, he, hsome⟩ := List.mem_filterMap.mp hframe
  cases e with
  | spiWrite data =>
    have hdata : data = frame := Option.some.inj hsome
    have hsound : SoundFrame frame := hdata ▸ h _ he
    intro g hg
    have hstarts := hsound.starts
    rw [Option.mem_def.mp hg] at hstarts
    exact Option.some.inj hstarts
  | _ => cases hsome

theorem exists_mark_of_frame?_eq_none {e : Event} (h : SpiBus.OnWire e) (he : frame? e = none) :
    ∃ m, e.marks = [m] := by
  cases e with
  | spiWrite frame => cases he
  | spiTransfer sent | delayMs ms => exact ⟨_, rfl⟩
  | _ => exact h.elim

/-- What the wires show in the order of the requests is delivered. -/
theorem delivers_of_timeline {asked : List Request} {events : List Event}
    (hwire : ∀ e ∈ events, SpiBus.OnWire e)
    (h : timeline events = asked.flatMap Request.marks) : Delivers asked events := by
  have hwhole {events : List Event} {asked : List Request} (hwire : ∀ e ∈ events, SpiBus.OnWire e)
      (h : timeline events = asked.flatMap Request.marks) :
      ((frames events).flatMap fun frame => cut (deframe frame)) =
        asked.flatMap Request.payloads := by
    rw [← filterMap_timeline hwire, h, Request.filterMap_marks]
  have hjoin {events : List Event} (hwire : ∀ e ∈ events, SpiBus.OnWire e) :
      cut ((frames events).flatMap deframe) =
        (frames events).flatMap fun frame => cut (deframe frame) :=
    cut_flatMap_deframe (starts_of_onWire hwire)
  refine ⟨hwire, (hjoin hwire).trans (hwhole hwire h), hwhole hwire h, ?_⟩
  intro before e after hevents he
  subst hevents
  have hbefore : ∀ e ∈ before, SpiBus.OnWire e := fun e hm => hwire e (List.mem_append_left _ hm)
  obtain ⟨m, hm⟩ := exists_mark_of_frame?_eq_none (hwire e (by simp)) he
  have hsplit : asked.flatMap Request.marks = timeline before ++ m :: timeline after := by
    rw [← h]
    simp [timeline, hm]
  obtain ⟨done, request, rest, hasked, hrequest, hdone⟩ := Request.exists_of_marks hsplit
  exact ⟨done, request, rest, hasked, hrequest.trans hm.symm, hdone.symm,
    (hjoin hbefore).trans (hwhole hbefore hdone.symm)⟩

end Wire

/-- A valid program with no active payload of more than 56 bytes, run in nine-bit framing on a
device that never fails: the run succeeds, up to what its reads find, and delivers what the program
asks for. A DSI host that never fails shows the same payloads, pauses and reads in the same
order. -/
theorem run_nineBit_delivers (ctx : Context) (program : Program) (steps : List Step)
    (valid : program.steps = .ok steps)
    (short : ∀ generic payload, Step.write generic payload ∈ active ctx.lanes steps →
      payload.length ≤ 56)
    (config : SpiLink) (nineBit : config.nineBit = true)
    (script : SpiScript) (faultless : script.Faultless) (packer : Packer) :
    let asked := requests ctx.timing 0 (active ctx.lanes steps)
    let run := program.run ctx (⟨⟨.scripted script, config⟩, packer⟩ : Channel SpiBus)
    (run.result = .ok () ∨ run.result = .error .mismatch) ∧
    Wire.Delivers asked run.events ∧
    ∀ (host : DsiScript) (other : Packer), host.Faultless →
      timeline (program.run ctx (⟨⟨.scripted host⟩, other⟩ : Channel MipiBus)).events =
        timeline run.events := by
  intro asked run
  have hbegun : SpiBus.Holds [] ⟨⟨.scripted script, config⟩, packer.reset⟩ :=
    ⟨nineBit, ⟨script, rfl, faultless⟩, rfl, by simp, Nat.zero_le _⟩
  obtain ⟨mismatch, channel, events, hrun, hwire, htimeline⟩ :=
    SpiBus.timely.run valid short ⟨⟨.scripted script, config⟩, packer⟩ rfl hbegun
      (Shows.nothing [])
  have hevents : run.events = events := congrArg Outcome.events hrun
  refine ⟨?_, ?_, ?_⟩
  · have hresult : run.result = if mismatch then .error .mismatch else .ok () :=
      congrArg Outcome.result hrun
    cases mismatch with
    | true => exact .inr hresult
    | false => exact .inl hresult
  · rw [hevents]
    exact Wire.delivers_of_timeline hwire htimeline
  · intro host other hhost
    let low : DsiScript := { host with lowPower := true }
    have hlow : low.Faultless := ⟨hhost.writes, hhost.sizes, hhost.replies⟩
    have hfirst : Shows (fun _ => True) [] [] [] [.lowPower true] := ⟨by simp, rfl⟩
    obtain ⟨_, _, packets, hpackets, -, hmarks⟩ :=
      MipiBus.timely.run valid short ⟨⟨.scripted host⟩, other⟩ rfl
        (MipiBus.holds_scripted hlow) hfirst
    rw [congrArg Outcome.events hpackets, hmarks, hevents, htimeline]

/-- Two commands of one and two bytes share a frame of four. -/
theorem run_nineBit_delivers_two_commands :
    let run := Program.run (.ofLanes 4) ⟨[0x01, 0xb0, 0x02, 0xb1, 0x00]⟩
      (⟨⟨.scripted {}, { nineBit := true }⟩, {}⟩ : Channel SpiBus)
    run.events = [.spiWrite [0x58, 0x2c, 0x60, 0x1f]] ∧
    Wire.Delivers [.send false [0xb0], .send false [0xb1, 0x00]] run.events ∧
    ∀ other, timeline (Program.run (.ofLanes 4) ⟨[0x01, 0xb0, 0x02, 0xb1, 0x00]⟩
      (⟨⟨.scripted {}⟩, other⟩ : Channel MipiBus)).events = timeline run.events := by
  intro run
  obtain ⟨-, hdelivers, hpackets⟩ := run_nineBit_delivers (.ofLanes 4)
    ⟨[0x01, 0xb0, 0x02, 0xb1, 0x00]⟩ [.write false [0xb0], .write false [0xb1, 0x00]] rfl
    (by
      intro generic payload h
      have hcases : generic = false ∧ payload = [0xb0] ∨
          generic = false ∧ payload = [0xb1, 0x00] := by
        simpa [active, activeFrom] using h
      rcases hcases with ⟨-, rfl⟩ | ⟨-, rfl⟩ <;> decide)
    { nineBit := true } rfl {} (by simp [SpiScript.Faultless]) {}
  refine ⟨by decide, hdelivers, fun other => hpackets {} other ⟨?_, ?_, ?_⟩⟩ <;> simp

end PanelDriver
