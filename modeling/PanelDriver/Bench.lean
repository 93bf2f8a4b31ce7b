import PanelDriver.Device.Control
import PanelDriver.Device.I2c
import PanelDriver.Device.Spi
import PanelDriver.Device.Dsi

/-!
A test bench: one scripted device of each kind and one journal. On I2C and SPI a number of coming
transactions can be made to fail; asking again replaces that number.
-/

namespace PanelDriver

structure Bench where
  dsi : DsiScript := {}
  i2c : I2cScript := {}
  i2cFailures : Nat := 0
  spi : SpiScript := {}
  spiFailures : Nat := 0
  supply : Supply := { script := some {} }
  backlight : BacklightScript := {}
  journal : List Event := []

namespace Bench

variable {ε : Type}

/-- Runs an action on one of the devices and keeps its events in the journal. -/
def run {σ α : Type} (part : Bench → σ) (put : σ → Bench → Bench) (x : Action ε σ α)
    (bench : Bench) : Except ε α × Bench :=
  let o := x (part bench)
  let bench := put o.state bench
  (o.result, { bench with journal := bench.journal ++ o.events })

def onDsi {α : Type} (x : Action ε DsiScript α) (bench : Bench) : Except ε α × Bench :=
  bench.run (·.dsi) (fun dsi b => { b with dsi }) x

/-- A DSI read, with the buffer afterwards. -/
def dsiRead (x : Action DsiFault (DsiScript × Bytes) Unit) (buffer : Bytes) (bench : Bench) :
    Except DsiFault Unit × Bytes × Bench :=
  let o := x (bench.dsi, buffer)
  (o.result, o.state.2, { bench with dsi := o.state.1, journal := bench.journal ++ o.events })

/-- An I2C transaction, with its parts afterwards. -/
def i2cTransaction (address : UInt8) (parts : List I2cPart) (bench : Bench) :
    Except I2cFault Unit × List I2cPart × Bench :=
  let faults := if bench.i2cFailures = 0 then [] else [some .other]
  let o := I2cScript.transaction address ({ bench.i2c with faults }, parts)
  (o.result, o.state.2, { bench with
    i2c := o.state.1
    i2cFailures := bench.i2cFailures - 1
    journal := bench.journal ++ o.events })

/-- An SPI transaction, with its parts afterwards. -/
def spiTransaction (parts : List SpiPart) (bench : Bench) :
    Except SpiFault Unit × List SpiPart × Bench :=
  let faults := if bench.spiFailures = 0 then [] else [some .other]
  let o := SpiScript.transaction ({ bench.spi with faults }, parts)
  (o.result, o.state.2, { bench with
    spi := o.state.1
    spiFailures := bench.spiFailures - 1
    journal := bench.journal ++ o.events })

def note (event : Event) (bench : Bench) : Bench :=
  { bench with journal := bench.journal ++ [event] }

def delayMs (ms : UInt32) : Bench → Bench := note (.delayMs ms)

def delayNs (ns : UInt32) : Bench → Bench := note (.delayNs ns.toUInt64)

/-- Microseconds are recorded in nanoseconds. -/
def delayUs (us : UInt32) : Bench → Bench := note (.delayNs (us.toUInt64 * 1000))

def setPin (high : Bool) : Bench → Bench := note (.pin .spare high)

def setSupply (on : Bool) (bench : Bench) : Except PanelError Unit × Bench :=
  bench.run (·.supply) (fun supply b => { b with supply }) (Supply.set on)

/-- From now on every call to switch the supply on fails. -/
def failSupply (bench : Bench) : Bench :=
  { bench with supply := { bench.supply with script := some { neverOn := true } } }

def setBlank (blank : Bool) (bench : Bench) : Bench :=
  { bench.note (.backlight blank) with backlight := { bench.backlight with blanked := blank } }

def pushDsiReply (reply : DsiReply) (bench : Bench) : Bench :=
  { bench with dsi := { bench.dsi with replies := bench.dsi.replies ++ [reply] } }

def failDsiWrite (fault : DsiFault) (bench : Bench) : Bench :=
  { bench with dsi := { bench.dsi with writeFaults := bench.dsi.writeFaults ++ [some fault] } }

def pushI2cReply (data : Bytes) (bench : Bench) : Bench :=
  { bench with i2c := { bench.i2c with replies := bench.i2c.replies ++ [data] } }

def pushSpiReply (data : Bytes) (bench : Bench) : Bench :=
  { bench with spi := { bench.spi with replies := bench.spi.replies ++ [data] } }

end Bench

end PanelDriver
