import PanelDriver.Execution
import PanelDriver.Proofs.Program.Tiling

/-!
What a program asks of its bus, apart from the bus. The lane filters and the scratch buffer never
see a reply, so a list of steps comes down to a list of requests, and running the program is serving
those requests one after another (`run_eq_conduct`).
-/

namespace PanelDriver

/-- So many lanes, and a mode without pixels. -/
def Context.ofLanes (lanes : UInt8) : Context :=
  ⟨.ofSpans 0 ⟨0, 0, 0, 0⟩ ⟨0, 0, 0, 0⟩ 0, lanes⟩

/-! ## Steps that are carried out -/

/-- The steps carried out when `lanes` lanes are active. A step stays if every filter in the run of
filters right before it names that many lanes; `filters` is that run, as far as it has been read. -/
def activeFrom (lanes : UInt8) : List UInt8 → List Step → List Step
  | _, [] => []
  | filters, .laneFilter k :: rest => activeFrom lanes (filters ++ [k]) rest
  | filters, step :: rest =>
    if filters.all (· == lanes) then step :: activeFrom lanes [] rest
    else activeFrom lanes [] rest

def active (lanes : UInt8) (steps : List Step) : List Step := activeFrom lanes [] steps

/-- The steps before the first error. -/
def leading : List Item → List Step
  | .ok (_, step) :: rest => step :: leading rest
  | _ => []

def defect? : List Item → Option PanelError
  | [] => none
  | .error e :: _ => some e
  | .ok _ :: rest => defect? rest

theorem activeFrom_cons {lanes : UInt8} {filters : List UInt8} {step : Step} (rest : List Step)
    (h : step.isFilter = false) :
    activeFrom lanes filters (step :: rest) =
      if filters.all (· == lanes) then step :: activeFrom lanes [] rest
      else activeFrom lanes [] rest := by
  cases step with
  | laneFilter k => simp [Step.isFilter] at h
  | _ => rfl

theorem activeFrom_sublist (lanes : UInt8) (filters : List UInt8) (steps : List Step) :
    (activeFrom lanes filters steps).Sublist steps := by
  induction steps generalizing filters with
  | nil => exact List.Sublist.slnil
  | cons first rest ih =>
    cases hf : first.isFilter with
    | true =>
      cases first <;> simp [Step.isFilter] at hf
      exact (ih _).cons _
    | false =>
      rw [activeFrom_cons rest hf]
      split
      · exact (ih _).cons_cons _
      · exact (ih _).cons _

theorem isFilter_of_mem_activeFrom {lanes : UInt8} {filters : List UInt8} {steps : List Step}
    {step : Step} (h : step ∈ activeFrom lanes filters steps) : step.isFilter = false := by
  induction steps generalizing filters with
  | nil => simp [activeFrom] at h
  | cons first rest ih =>
    cases hf : first.isFilter with
    | true =>
      cases first <;> simp [Step.isFilter] at hf
      exact ih h
    | false =>
      rw [activeFrom_cons rest hf] at h
      split at h
      · rcases List.mem_cons.mp h with rfl | h
        · exact hf
        · exact ih h
      · exact ih h

/-- Without filters every step is active. -/
theorem active_of_no_filter {lanes : UInt8} {steps : List Step}
    (h : ∀ step ∈ steps, step.isFilter = false) : active lanes steps = steps := by
  unfold active
  induction steps with
  | nil => rfl
  | cons first rest ih =>
    rw [activeFrom_cons rest (h first List.mem_cons_self)]
    have hrest := ih fun step hs => h step (List.mem_cons_of_mem _ hs)
    simp [hrest]

theorem active_active (lanes : UInt8) (steps : List Step) :
    active lanes (active lanes steps) = active lanes steps :=
  active_of_no_filter fun _ h => isFilter_of_mem_activeFrom h

/-! ## Requests -/

inductive Request
  | send (generic : Bool) (payload : Bytes)
  | wait (ms : UInt8)
  | limit (size : UInt8)
  | ask (query : Query) (expected : Bytes)
  deriving DecidableEq, Repr

/-- What steps ask for, one after another; the scratch buffer is filled on the way. -/
def requests (t : VideoTiming) : Scratch → List Step → List Request
  | _, [] => []
  | s, .write generic payload :: rest => .send generic payload :: requests t s rest
  | s, .writeScratch generic length :: rest =>
    .send generic (s.toBytes.take length.toNat) :: requests t s rest
  | s, .delay ms :: rest => .wait ms :: requests t s rest
  | s, .returnSize size :: rest => .limit size :: requests t s rest
  | s, .read query expected :: rest => .ask query expected :: requests t s rest
  | s, .laneFilter _ :: rest => requests t s rest
  | s, .constant start length value :: rest => requests t (s.place start length value) rest
  | s, .timing field start length dropped :: rest =>
    requests t (s.place start length (sourceValue t field dropped)) rest

/-- What a run of a program asks of its bus. -/
def Program.requests (ctx : Context) (program : Program) : List Request :=
  PanelDriver.requests ctx.timing 0 (active ctx.lanes (leading program.items))

section Serve

variable {β P : Type} [SidebandBus β P]

/-- Carries out a request, and tells whether a read brought other bytes than expected. -/
def serve : Request → Action PanelError (Channel β P) Bool
  | .send generic payload => do
    send payload generic
    pure false
  | .wait ms => do
    SidebandBus.flush
    Action.record (.delayMs ms.toUInt32)
    pure false
  | .limit size => do
    SidebandBus.setReturnSize size
    pure false
  | .ask query expected => do
    let reply ← Channel.readBack query.bytes query.isGeneric expected.length
    pure (Bytes.differ reply expected)

/-- Serves requests up to the first error; `mismatch` is what earlier reads have found. -/
def serveAll : Bool → List Request → Action PanelError (Channel β P) Bool
  | mismatch, [] => pure mismatch
  | mismatch, request :: rest => do
    let found ← serve request
    serveAll (mismatch || found) rest

/-- Serves requests and then meets the error that ends them, if there is one. -/
def serveUntil (mismatch : Bool) (asked : List Request) (defect : Option PanelError) :
    Action PanelError (Channel β P) Bool := do
  let mismatch ← serveAll mismatch asked
  match defect with
  | none => pure mismatch
  | some e => Action.fail e

/-- The loop over the items keeps no more of the filters than whether one of them failed. -/
theorem runItems_eq_serveUntil (ctx : Context) (run : Progress) (filters : List UInt8)
    (items : List Item) (h : run.skip = !filters.all (· == ctx.lanes)) :
    (runItems ctx run items : Action PanelError (Channel β P) Bool) =
      serveUntil run.mismatch
        (requests ctx.timing run.scratch (activeFrom ctx.lanes filters (leading items)))
        (defect? items) := by
  unfold serveUntil
  induction items generalizing run filters with
  | nil => simp [runItems, leading, activeFrom, requests, serveAll, defect?]
  | cons item rest ih =>
    rcases item with e | ⟨offset, step⟩
    · simp [runItems, leading, activeFrom, requests, serveAll, defect?]
    · simp only [runItems, leading, defect?]
      cases hf : step.isFilter with
      | true =>
        cases step <;> simp [Step.isFilter] at hf
        rename_i k
        have hk : (run.skip || k != ctx.lanes) =
            !(filters ++ [k]).all (· == ctx.lanes) := by
          simp [h, bne]
        simpa [advance, Step.isFilter, perform, activeFrom] using
          ih { run with skip := run.skip || k != ctx.lanes } (filters ++ [k]) hk
      | false =>
        rw [activeFrom_cons _ hf]
        cases hs : run.skip with
        | true =>
          have hall : filters.all (· == ctx.lanes) = false := by simpa [hs] using h
          simpa [advance, hs, hf, hall] using ih { run with skip := false } [] rfl
        | false =>
          have hall : filters.all (· == ctx.lanes) = true := by simpa [hs] using h
          have hrest (p : Progress) (hp : p.skip = run.skip) := ih p [] (hp.trans hs)
          simp only [advance, hs, hall, Bool.false_and, Bool.false_eq_true, ↓reduceIte]
          cases step with
          | laneFilter k => simp [Step.isFilter] at hf
          | _ =>
            simp only [perform, requests, serveAll, serve, bind_assoc, pure_bind, Bool.or_false,
              hrest]

variable [Resettable P]

/-- A run of a program that is not empty. -/
def conduct (asked : List Request) (defect : Option PanelError) :
    Action PanelError (Channel β P) Unit := do
  Channel.reset
  SidebandBus.begin
  let mismatch ← (serveUntil false asked defect).orElse fun e => do
    Channel.reset
    Action.fail e
  SidebandBus.flush
  if mismatch then Action.fail .mismatch

/-- A run, up to the verdict on what its reads found. -/
def attend (asked : List Request) (defect : Option PanelError) :
    Action PanelError (Channel β P) Bool := do
  Channel.reset
  SidebandBus.begin
  let mismatch ← (serveUntil false asked defect).orElse fun e => do
    Channel.reset
    Action.fail e
  SidebandBus.flush
  pure mismatch

theorem conduct_eq_attend (asked : List Request) (defect : Option PanelError) :
    (conduct asked defect : Action PanelError (Channel β P) Unit) =
      attend asked defect >>= fun mismatch =>
        if mismatch then Action.fail .mismatch else pure () := by
  simp [conduct, attend]

/-- A run asks its requests one after another and meets the error of the program, if it has one,
after them. -/
theorem run_eq_conduct (ctx : Context) (program : Program) :
    (program.run ctx : Action PanelError (Channel β P) Unit) =
      if program.isEmpty then pure () else
        conduct (program.requests ctx) (defect? program.items) := by
  unfold Program.run conduct
  rw [runItems_eq_serveUntil ctx {} [] program.items rfl]
  rfl

/-- A run in which everything succeeds, up to what the reads found. -/
theorem conduct_ok {asked : List Request} {channel begun served flushed : Channel β P}
    {mismatch : Bool} {first second third : List Event}
    (hb : SidebandBus.begin { channel with packer := Resettable.reset channel.packer } =
      ⟨.ok (), begun, first⟩)
    (hs : serveAll false asked begun = ⟨.ok mismatch, served, second⟩)
    (hf : SidebandBus.flush served = ⟨.ok (), flushed, third⟩) :
    conduct asked none channel =
      ⟨if mismatch then .error .mismatch else .ok (), flushed, first ++ (second ++ third)⟩ := by
  have hu : serveUntil false asked none begun = ⟨.ok mismatch, served, second⟩ := by
    simpa [serveUntil] using hs
  simp only [conduct, Channel.reset, Action.update_bind]
  rw [Action.bind_ok hb, Action.bind_ok (Action.orElse_ok hu), Action.bind_ok hf]
  cases mismatch <;> simp [Action.fail]

end Serve

/-! ## Valid programs -/

theorem collect_eq (items : List Item) :
    Program.collect items =
      match defect? items with
      | none => .ok (leading items)
      | some e => .error e := by
  induction items with
  | nil => rfl
  | cons item rest ih =>
    rcases item with e | ⟨offset, step⟩
    · rfl
    · simp only [Program.collect, defect?, leading, ih]
      cases defect? rest <;> rfl

/-- A program has steps when no item is an error, and they are the steps of its items. -/
theorem steps_eq_ok_iff {program : Program} {steps : List Step} :
    program.steps = .ok steps ↔ defect? program.items = none ∧ leading program.items = steps := by
  rw [Program.steps, collect_eq]
  cases h : defect? program.items <;> simp

theorem validate_eq_ok_iff {program : Program} :
    program.validate = .ok () ↔ ∃ steps, program.steps = .ok steps := by
  unfold Program.validate
  cases program.steps <;> simp [Except.map]

theorem leading_placed (offset : Nat) (sized : List (Step × Nat)) (items : List Item) :
    leading (Program.placed offset sized ++ items) = sized.map Prod.fst ++ leading items := by
  fun_induction Program.placed offset sized with
  | case1 => rfl
  | case2 offset step size rest ih => simp [leading, ih]

theorem defect?_placed (offset : Nat) (sized : List (Step × Nat)) (items : List Item) :
    defect? (Program.placed offset sized ++ items) = defect? items := by
  fun_induction Program.placed offset sized with
  | case1 => rfl
  | case2 offset step size rest ih => simp [defect?, ih]

/-- The steps before the first error are written in the program, and the error is what breaks
it. -/
theorem Program.exists_leading_eq (program : Program) :
    ∃ (tiles : List Tile) (rest : Bytes), program.bytes = Tile.join tiles ++ rest ∧
      leading program.items = tiles.map (·.step) ∧
      ((program.Written ∧ defect? program.items = none) ∨
        ∃ e, Program.Broken (Tile.join tiles).length rest e ∧
          defect? program.items = some e) := by
  obtain ⟨tiles, rest, hbytes, hrest⟩ := Program.exists_items_eq program
  have hsteps : (Tile.sizes tiles).map Prod.fst = tiles.map (·.step) := by
    simp [Tile.sizes, Function.comp_def]
  refine ⟨tiles, rest, hbytes, ?_⟩
  rcases hrest with ⟨rfl, hitems⟩ | ⟨e, hbroken, hitems⟩
  · have hleading := leading_placed 0 (Tile.sizes tiles) []
    have hdefect := defect?_placed 0 (Tile.sizes tiles) []
    rw [List.append_nil, ← hitems] at hleading hdefect
    refine ⟨by simpa [leading, hsteps] using hleading, .inl ⟨⟨tiles, ?_⟩, hdefect⟩⟩
    rw [hbytes, List.append_nil]
  · rw [hitems, leading_placed, defect?_placed]
    exact ⟨by simp [leading, hsteps], .inr ⟨e, hbroken, rfl⟩⟩

theorem Program.defect?_ne_mismatch (program : Program) :
    defect? program.items ≠ some .mismatch := by
  intro h
  obtain ⟨_, _, -, -, ⟨-, hnone⟩ | ⟨e, hbroken, hsome⟩⟩ := program.exists_leading_eq
  · rw [h] at hnone
    cases hnone
  · rw [h] at hsome
    cases hsome
    cases hbroken

/-- A program with steps is not empty. -/
theorem Program.isEmpty_of_steps {program : Program} {steps : List Step}
    (h : program.steps = .ok steps) (hne : steps ≠ []) : program.isEmpty = false := by
  obtain ⟨bytes⟩ := program
  cases bytes with
  | nil =>
    have hnil : ([] : List Step) = steps := by
      simpa [Program.steps, items, itemsFrom, collect] using h
    exact absurd hnil.symm hne
  | cons byte rest => rfl

theorem Program.requests_of_steps {ctx : Context} {program : Program} {steps : List Step}
    (h : program.steps = .ok steps) :
    program.requests ctx = PanelDriver.requests ctx.timing 0 (active ctx.lanes steps) := by
  rw [Program.requests, (steps_eq_ok_iff.mp h).2]

end PanelDriver
