import PanelDriver.Program.Basic

/-!
The programs of a panel: for each phase of its life one program per bus. Checks go through phases
and buses in the order in which the programs run.
-/

namespace PanelDriver

/-- One program per bus, in the order in which they run. -/
structure BusPrograms where
  i2c : Program := ⟨[]⟩
  mipi : Program := ⟨[]⟩
  spi : Program := ⟨[]⟩
  deriving DecidableEq, Repr

namespace BusPrograms

def isEmpty (t : BusPrograms) : Bool := t.i2c.isEmpty && t.mipi.isEmpty && t.spi.isEmpty

def validate (t : BusPrograms) : Except PanelError Unit := do
  t.i2c.validate
  t.mipi.validate
  t.spi.validate

end BusPrograms

inductive Phase
  /-- After the panel is out of reset. -/
  | init
  /-- Before the backlight is lit. -/
  | enable
  /-- After the backlight is dark. -/
  | disable
  deriving DecidableEq, Repr

structure PhasePrograms where
  init : BusPrograms := {}
  enable : BusPrograms := {}
  disable : BusPrograms := {}
  deriving DecidableEq, Repr

namespace PhasePrograms

def phase (s : PhasePrograms) : Phase → BusPrograms
  | .init => s.init
  | .enable => s.enable
  | .disable => s.disable

def validate (s : PhasePrograms) : Except PanelError Unit := do
  s.init.validate
  s.enable.validate
  s.disable.validate

def usesI2c (s : PhasePrograms) : Bool :=
  !(s.init.i2c.isEmpty && s.enable.i2c.isEmpty && s.disable.i2c.isEmpty)

def usesMipi (s : PhasePrograms) : Bool :=
  !(s.init.mipi.isEmpty && s.enable.mipi.isEmpty && s.disable.mipi.isEmpty)

def usesSpi (s : PhasePrograms) : Bool :=
  !(s.init.spi.isEmpty && s.enable.spi.isEmpty && s.disable.spi.isEmpty)

end PhasePrograms

end PanelDriver
