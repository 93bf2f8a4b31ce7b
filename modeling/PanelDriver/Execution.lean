import PanelDriver.Bus.Set
import PanelDriver.Program.Phase
import PanelDriver.Scratch

/-!
Running programs. A step is skipped when a lane filter right before it, or before the filters right
before it, names another lane count. A read that brings other bytes than expected does not stop the
program; it is reported when everything else has succeeded and has been sent. Any other error stops
the program and drops what waits in the packer.
-/

namespace PanelDriver

/-- What a program may look at: the mode, and the number of active lanes. -/
structure Context where
  timing : VideoTiming
  lanes : UInt8
  deriving DecidableEq, Repr

/-- How far a run is: the scratch buffer, whether the next step is skipped, and whether a read has
brought other bytes than expected. -/
structure Progress where
  scratch : Scratch := 0
  skip : Bool := false
  mismatch : Bool := false
  deriving DecidableEq, Repr

section Run

variable {β P : Type} [SidebandBus β P] [Resettable P]

/-- A payload of no bytes is not sent. -/
def send (payload : Bytes) (generic : Bool) : Action PanelError (Channel β P) Unit :=
  if payload.isEmpty then pure () else SidebandBus.write payload generic

/-- The value that a timing step places: the field without its lowest bits. -/
def sourceValue (t : VideoTiming) (field : TimingField) (dropped : UInt8) : UInt32 :=
  if dropped < 32 then t.field field >>> dropped.toUInt32 else 0

/-- Carries out a step that is not skipped. -/
def perform (ctx : Context) (run : Progress) : Step → Action PanelError (Channel β P) Progress
  | .write generic payload => do
    send payload generic
    pure run
  | .writeScratch generic length => do
    send (run.scratch.toBytes.take length.toNat) generic
    pure run
  | .delay ms => do
    SidebandBus.flush
    Action.record (.delayMs ms.toUInt32)
    pure run
  | .returnSize size => do
    SidebandBus.setReturnSize size
    pure run
  | .read query expected => do
    let reply ← Channel.readBack query.bytes query.isGeneric expected.length
    pure { run with mismatch := run.mismatch || Bytes.differ reply expected }
  | .laneFilter lanes => pure { run with skip := run.skip || lanes != ctx.lanes }
  | .constant start length value =>
    pure { run with scratch := run.scratch.place start length value }
  | .timing field start length dropped =>
    pure { run with
      scratch := run.scratch.place start length (sourceValue ctx.timing field dropped) }

/-- A step is carried out unless it is to be skipped; filters are never skipped. -/
def advance (ctx : Context) (run : Progress) (step : Step) :
    Action PanelError (Channel β P) Progress :=
  if run.skip && !step.isFilter then pure { run with skip := false } else perform ctx run step

/-- Goes through the items, up to the first error, and tells whether a read mismatched. -/
def runItems (ctx : Context) : Progress → List Item → Action PanelError (Channel β P) Bool
  | run, [] => pure run.mismatch
  | _, .error e :: _ => Action.fail e
  | run, .ok (_, step) :: rest => do runItems ctx (← advance ctx run step) rest

/-- The empty program does nothing at all. -/
def Program.run (ctx : Context) (program : Program) : Action PanelError (Channel β P) Unit :=
  if program.isEmpty then pure () else do
    Channel.reset
    SidebandBus.begin
    let mismatch ← (runItems ctx {} program.items).orElse fun e => do
      Channel.reset
      Action.fail e
    SidebandBus.flush
    if mismatch then Action.fail .mismatch

end Run

/-- The buses of a panel and the packer they share. -/
structure Sideband (P : Type := Packer) where
  buses : Buses := {}
  -- A new packer; packers of other types have to be given.
  packer : P := by exact {}
  deriving DecidableEq, Repr

namespace Sideband

variable {P : Type} [Resettable P]

/-- Runs a program on a bus; nothing happens if the bus is missing. -/
def runOn {β : Type} [SidebandBus β P] (bus? : Buses → Option β) (put : β → Buses → Buses)
    (ctx : Context) (program : Program) : Action PanelError (Sideband P) Unit :=
  Action.onSome (fun s => (bus? s.buses).map fun bus => Channel.mk bus s.packer)
    (fun channel s => ⟨put channel.bus s.buses, channel.packer⟩) (program.run ctx)

/-- I2C first, then MIPI, then SPI; the first error ends the run. -/
def runInOrder [SidebandBus SpiBus P] (ctx : Context) (programs : BusPrograms) :
    Action PanelError (Sideband P) Unit := do
  runOn (·.i2c) (fun bus buses => { buses with i2c := some bus }) ctx programs.i2c
  runOn (·.mipi) (fun bus buses => { buses with mipi := some bus }) ctx programs.mipi
  runOn (·.spi) (fun bus buses => { buses with spi := some bus }) ctx programs.spi

def run (ctx : Context) (programs : BusPrograms) : Action PanelError Sideband Unit :=
  runInOrder ctx programs

end Sideband

end PanelDriver
