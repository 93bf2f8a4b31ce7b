import PanelDriver.Bus.Command
import PanelDriver.Device.Dsi

/-!
Programs over the DSI command channel, always in low-power transmission. A read that brings a
protocol report is repeated once, as the report may be an old one; whatever the second attempt
delivers then counts, unless it brings a fault of another kind.
-/

namespace PanelDriver

structure MipiBus where
  host : DsiHost
  deriving DecidableEq, Repr

namespace MipiBus

def onHost {ε α : Type} (x : Action ε DsiHost α) : Action ε MipiBus α :=
  x.on (·.host) fun host _ => ⟨host⟩

def transferError (fault : DsiFault) : PanelError := .transfer (.dsi fault)

def write (payload : Bytes) (generic : Bool) : Action PanelError MipiBus Unit :=
  onHost ((DsiHost.write generic payload).mapError transferError)

/-- A generic request has two parameters at most, a DCS read one command byte, zero if missing. -/
def readOnce (command : Bytes) (generic : Bool) : Action DsiFault (DsiHost × Bytes) Unit :=
  if generic then DsiHost.genericRead (command.take 2) else DsiHost.dcsRead (command.headD 0)

def readHost (command : Bytes) (generic : Bool) : Action PanelError (DsiHost × Bytes) Unit :=
  (readOnce command generic).orElse fun
    | .protocol => (readOnce command generic).orElse fun
      | .protocol => pure ()
      | fault => Action.fail (transferError fault)
    | fault => Action.fail (transferError fault)

def read (command : Bytes) (generic : Bool) : Action PanelError (MipiBus × Bytes) Unit :=
  (readHost command generic).on (fun (bus, buffer) => (bus.host, buffer))
    fun (host, buffer) _ => (⟨host⟩, buffer)

def setReturnSize (size : UInt8) : Action PanelError MipiBus Unit :=
  onHost ((DsiHost.setReturnSize size.toUInt16).mapError transferError)

instance {P : Type} : SidebandBus MipiBus P where
  kind := .mipi
  begin := Channel.onBus (onHost (DsiHost.setLowPower true))
  write payload generic := Channel.onBus (write payload generic)
  read command generic := Channel.onBusAndBuffer (read command generic)
  setReturnSize size := Channel.onBus (setReturnSize size)
  flush := pure ()

end MipiBus

end PanelDriver
