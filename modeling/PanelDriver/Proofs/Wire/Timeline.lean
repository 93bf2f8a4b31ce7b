import PanelDriver.Proofs.Execution.Requests
import PanelDriver.Proofs.Program.Grammar
import PanelDriver.Proofs.Wire.Framing

/-!
What the wires of a bus show of a run, whatever the bus: the payloads, the pauses and the reads, in
order. A bus may hold payloads back; it is timely if it lets them out before every pause and every
read, in the order in which they were asked for. A run on a timely bus shows on its wires just what
the program asks for (`Timely.run`).
-/

namespace PanelDriver

inductive Mark
  | payload (bytes : Bytes)
  | delay (ms : UInt32)
  | read
  deriving DecidableEq, Repr

def Mark.payload? : Mark → Option Bytes
  | .payload bytes => some bytes
  | _ => none

/-- A frame shows all the commands that it carries. -/
def Event.marks : Event → List Mark
  | .spiWrite frame => (Wire.cut (Wire.deframe frame)).map .payload
  | .dcsWrite data | .genericWrite data => [.payload data]
  | .delayMs ms => [.delay ms]
  | .spiTransfer _ | .dcsRead _ _ | .genericRead _ _ => [.read]
  | _ => []

def timeline (events : List Event) : List Mark := events.flatMap Event.marks

namespace Request

/-- An empty payload is not sent. -/
def marks : Request → List Mark
  | send _ [] => []
  | send _ payload => [.payload payload]
  | wait ms => [.delay ms.toUInt32]
  | limit _ => []
  | ask _ _ => [.read]

/-- What is sent. -/
def payloads : Request → List Bytes
  | send _ [] => []
  | send _ payload => [payload]
  | _ => []

/-- What fits into a nine-bit frame of its own. -/
def Fits : Request → Prop
  | send _ payload => payload.length ≤ 56
  | ask _ expected => expected.length ≤ 8
  | _ => True

/-- A request shows at most one thing. -/
theorem marks_cases (request : Request) : request.marks = [] ∨ ∃ m, request.marks = [m] := by
  cases request with
  | send generic payload =>
    cases payload with
    | nil => exact .inl rfl
    | cons b data => exact .inr ⟨_, rfl⟩
  | limit size => exact .inl rfl
  | wait ms | ask query expected => exact .inr ⟨_, rfl⟩

theorem filterMap_marks (asked : List Request) :
    (asked.flatMap marks).filterMap Mark.payload? = asked.flatMap payloads := by
  have one (request : Request) : request.marks.filterMap Mark.payload? = request.payloads := by
    cases request with
    | send generic payload => cases payload <;> rfl
    | _ => rfl
  induction asked with
  | nil => rfl
  | cons request rest ih =>
    rw [List.flatMap_cons, List.filterMap_append, one, ih, List.flatMap_cons]

/-- A thing that a list of requests shows is shown by one of them, after all that the requests
before it show. -/
theorem exists_of_marks {asked : List Request} {before after : List Mark} {m : Mark}
    (h : asked.flatMap marks = before ++ m :: after) : ∃ done request rest,
      asked = done ++ request :: rest ∧ request.marks = [m] ∧ done.flatMap marks = before := by
  induction asked generalizing before with
  | nil => simp at h
  | cons first others ih =>
    rw [List.flatMap_cons] at h
    rcases first.marks_cases with hnone | ⟨shown, hshown⟩
    · rw [hnone, List.nil_append] at h
      obtain ⟨done, request, rest, hasked, hmarks, hdone⟩ := ih h
      refine ⟨first :: done, request, rest, by rw [hasked]; rfl, hmarks, ?_⟩
      rw [List.flatMap_cons, hnone, hdone]
      rfl
    · rw [hshown] at h
      cases before with
      | nil =>
        have hm : shown = m := (List.cons.inj h).1
        exact ⟨[], first, others, rfl, hm ▸ hshown, rfl⟩
      | cons earlier before =>
        obtain ⟨hm, hothers⟩ := List.cons.inj h
        obtain ⟨done, request, rest, hasked, hmarks, hdone⟩ := ih hothers
        refine ⟨first :: done, request, rest, by rw [hasked]; rfl, hmarks, ?_⟩
        rw [List.flatMap_cons, hshown, hdone, hm]
        rfl

end Request

/-- `events` let out the payloads that were held back before, and then show `marks`, but for the
payloads that are held back after. -/
structure Shows (sound : Event → Prop) (before : List Bytes) (marks : List Mark)
    (after : List Bytes) (events : List Event) : Prop where
  sound : ∀ e ∈ events, sound e
  timeline : timeline events ++ after.map .payload = before.map .payload ++ marks

namespace Shows

variable {sound : Event → Prop}

theorem nothing (held : List Bytes) : Shows sound held [] held [] :=
  ⟨by simp, by simp [PanelDriver.timeline]⟩

theorem append {before between after : List Bytes} {marks others : List Mark}
    {events later : List Event} (h : Shows sound before marks between events)
    (h' : Shows sound between others after later) :
    Shows sound before (marks ++ others) after (events ++ later) := by
  refine ⟨fun e he => ?_, ?_⟩
  · rcases List.mem_append.mp he with he | he
    · exact h.sound e he
    · exact h'.sound e he
  · calc PanelDriver.timeline (events ++ later) ++ after.map .payload
        = PanelDriver.timeline events ++ (PanelDriver.timeline later ++ after.map .payload) := by
          simp [PanelDriver.timeline]
      _ = (PanelDriver.timeline events ++ between.map .payload) ++ others := by
          rw [h'.timeline, List.append_assoc]
      _ = before.map .payload ++ (marks ++ others) := by
          rw [h.timeline, List.append_assoc]

end Shows

/-- `holds` tells which payloads a bus holds back in a state; `sound` is a bound on its events. -/
structure Timely (β : Type) [SidebandBus β] (holds : List Bytes → Channel β → Prop)
    (sound : Event → Prop) : Prop where
  serve : ∀ {request : Request} {held : List Bytes} {channel : Channel β}, request.Fits →
    holds held channel → ∃ found kept channel' events,
      serve request channel = ⟨.ok found, channel', events⟩ ∧ holds kept channel' ∧
        Shows sound held request.marks kept events
  flush : ∀ {held : List Bytes} {channel : Channel β}, holds held channel →
    ∃ channel' events, SidebandBus.flush channel = ⟨.ok (), channel', events⟩ ∧
      holds [] channel' ∧ Shows sound held [] [] events

namespace Timely

variable {β : Type} [SidebandBus β] {holds : List Bytes → Channel β → Prop} {sound : Event → Prop}

theorem serveAll (law : Timely β holds sound) {asked : List Request}
    (fits : ∀ request ∈ asked, request.Fits) (mismatch : Bool) {held : List Bytes}
    {channel : Channel β} (h : holds held channel) :
    ∃ found kept channel' events,
      PanelDriver.serveAll mismatch asked channel = ⟨.ok found, channel', events⟩ ∧
        holds kept channel' ∧ Shows sound held (asked.flatMap Request.marks) kept events := by
  induction asked generalizing mismatch held channel with
  | nil => exact ⟨mismatch, held, channel, [], rfl, h, Shows.nothing held⟩
  | cons request rest ih =>
    obtain ⟨found, kept, channel', events, hserve, hholds, hshows⟩ :=
      law.serve (fits request List.mem_cons_self) h
    obtain ⟨all, last, channel'', later, hrest, hlast, hshows'⟩ :=
      ih (fun r hr => fits r (List.mem_cons_of_mem _ hr)) (mismatch || found) hholds
    refine ⟨all, last, channel'', events ++ later, ?_, hlast, hshows.append hshows'⟩
    rw [PanelDriver.serveAll, Action.bind_ok hserve, hrest]

/-- A run whose requests fit succeeds, up to what its reads found, and shows what was asked for. -/
theorem conduct (law : Timely β holds sound) {asked : List Request}
    (fits : ∀ request ∈ asked, request.Fits) {channel begun : Channel β} {first : List Event}
    (hbegin : SidebandBus.begin { channel with packer := channel.packer.reset } =
      ⟨.ok (), begun, first⟩)
    (hbegun : holds [] begun) (hfirst : Shows sound [] [] [] first) :
    ∃ (mismatch : Bool) (channel' : Channel β) (events : List Event),
      PanelDriver.conduct asked none channel =
        ⟨if mismatch then .error .mismatch else .ok (), channel', events⟩ ∧
        Shows sound [] (asked.flatMap Request.marks) [] events := by
  obtain ⟨mismatch, held, served, second, hserve, hheld, hsecond⟩ :=
    law.serveAll fits false hbegun
  obtain ⟨flushed, third, hflush, -, hthird⟩ := law.flush hheld
  refine ⟨mismatch, flushed, _, conduct_ok hbegin hserve hflush, ?_⟩
  simpa using hfirst.append (hsecond.append hthird)

end Timely

/-! ## Requests of a program -/

theorem requests_fit {t : VideoTiming} {s : Scratch} {steps : List Step}
    (bounds : ∀ step ∈ steps, step.Encodable)
    (short : ∀ generic payload, Step.write generic payload ∈ steps → payload.length ≤ 56) :
    ∀ request ∈ requests t s steps, request.Fits := by
  induction steps generalizing s with
  | nil => simp [requests]
  | cons step rest ih =>
    have hrest {s : Scratch} : ∀ request ∈ requests t s rest, request.Fits :=
      ih (fun r hr => bounds r (List.mem_cons_of_mem _ hr))
        fun g p hp => short g p (List.mem_cons_of_mem _ hp)
    have hfirst := bounds step List.mem_cons_self
    cases step with
    | write generic payload =>
      exact List.forall_mem_cons.mpr ⟨short generic payload List.mem_cons_self, hrest⟩
    | writeScratch generic length =>
      refine List.forall_mem_cons.mpr ⟨?_, hrest⟩
      have hlength := Scratch.length_toBytes s
      simp only [Request.Fits, List.length_take]
      omega
    | read query expected => exact List.forall_mem_cons.mpr ⟨hfirst.2, hrest⟩
    | delay ms | returnSize size => exact List.forall_mem_cons.mpr ⟨trivial, hrest⟩
    | laneFilter k | constant start length value | timing field start length dropped =>
      exact hrest

/-- A valid program whose payloads fit shows on a timely bus just what its active steps ask for. -/
theorem Timely.run {β : Type} [SidebandBus β] {holds : List Bytes → Channel β → Prop}
    {sound : Event → Prop} (law : Timely β holds sound) {ctx : Context} {program : Program}
    {steps : List Step} (valid : program.steps = .ok steps)
    (short : ∀ generic payload, Step.write generic payload ∈ active ctx.lanes steps →
      payload.length ≤ 56) (channel : Channel β) {begun : Channel β} {first : List Event}
    (hbegin : SidebandBus.begin { channel with packer := channel.packer.reset } =
      ⟨.ok (), begun, first⟩)
    (hbegun : holds [] begun) (hfirst : Shows sound [] [] [] first) :
    ∃ (mismatch : Bool) (channel' : Channel β) (events : List Event),
      program.run ctx channel = ⟨if mismatch then .error .mismatch else .ok (), channel', events⟩ ∧
        (∀ e ∈ events, sound e) ∧
        timeline events =
          (requests ctx.timing 0 (active ctx.lanes steps)).flatMap Request.marks := by
  have hsub : (active ctx.lanes steps).Sublist steps := activeFrom_sublist ctx.lanes [] steps
  obtain ⟨bounds, -⟩ := Program.encodable_of_steps valid
  have fits : ∀ request ∈ requests ctx.timing 0 (active ctx.lanes steps), request.Fits :=
    requests_fit (fun step hs => bounds step (hsub.subset hs)) short
  rw [run_eq_conduct, Program.requests_of_steps valid, (steps_eq_ok_iff.mp valid).1]
  cases hempty : program.isEmpty with
  | true =>
    have hsteps : steps = [] := by
      cases steps with
      | nil => rfl
      | cons step rest =>
        have hfull := Program.isEmpty_of_steps valid (List.cons_ne_nil step rest)
        exact absurd (hempty.symm.trans hfull) (by decide)
    refine ⟨false, channel, [], rfl, by simp, ?_⟩
    rw [hsteps]
    rfl
  | false =>
    obtain ⟨mismatch, channel', events, hconduct, hshows⟩ :=
      law.conduct fits hbegin hbegun hfirst
    exact ⟨mismatch, channel', events, hconduct, hshows.sound, by simpa using hshows.timeline⟩

end PanelDriver
