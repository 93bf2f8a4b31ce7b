import PanelDriver.Action
import PanelDriver.Error
import PanelDriver.Packer

/-!
A side-band bus as programs see it. All buses of a panel share one packer, so an action on a bus is
an action on the bus together with the packer; a read is moreover an action on the caller's buffer,
which keeps whatever an attempt left in it even if the read fails.
-/

namespace PanelDriver

/-- A packer in which nothing waits after a reset. -/
class Resettable (P : Type) where
  reset : P → P

instance : Resettable Packer where
  reset := Packer.reset

structure Channel (β : Type) (P : Type := Packer) where
  bus : β
  packer : P

class SidebandBus (β : Type) (P : Type := Packer) where
  kind : BusKind
  /-- Comes before the first step of every program. -/
  begin : Action PanelError (Channel β P) Unit
  /-- Generic packets exist on MIPI only; other buses send all payloads alike. -/
  write (payload : Bytes) (generic : Bool) : Action PanelError (Channel β P) Unit
  read (command : Bytes) (generic : Bool) : Action PanelError (Channel β P × Bytes) Unit
  /-- Bounds the size of replies. -/
  setReturnSize (size : UInt8) : Action PanelError (Channel β P) Unit
  /-- Sends what still waits in the packer. -/
  flush : Action PanelError (Channel β P) Unit

namespace Channel

variable {ε α β P : Type}

def onBus (x : Action ε β α) : Action ε (Channel β P) α :=
  x.on (·.bus) fun bus channel => { channel with bus }

/-- An action on the bus and the caller's buffer. -/
def onBusAndBuffer (x : Action ε (β × Bytes) α) : Action ε (Channel β P × Bytes) α :=
  x.on (fun (channel, buffer) => (channel.bus, buffer)) fun (bus, buffer) (channel, _) =>
    ({ channel with bus }, buffer)

/-- Replaces the packer, or fails and leaves it as it is. -/
def store (f : Packer → Except ε Packer) : Action ε (Channel β) Unit := fun channel =>
  match f channel.packer with
  | .ok packer => ⟨.ok (), { channel with packer }, []⟩
  | .error e => ⟨.error e, channel, []⟩

def reset [Resettable P] : Action ε (Channel β P) Unit :=
  Action.update fun channel => { channel with packer := Resettable.reset channel.packer }

@[simp] theorem reset_bind (f : Unit → Action ε (Channel β) α) (channel : Channel β) :
    ((reset : Action ε (Channel β) Unit) >>= f) channel =
      f () { channel with packer := channel.packer.reset } := rfl

/-- Reads `length` bytes into a buffer of zeros. -/
def readBack [SidebandBus β P] (command : Bytes) (generic : Bool) (length : Nat) :
    Action PanelError (Channel β P) Bytes := fun channel =>
  let o := SidebandBus.read command generic (channel, Bytes.zeros length)
  ⟨o.result.map fun _ => o.state.2, o.state.1, o.events⟩

end Channel

end PanelDriver
