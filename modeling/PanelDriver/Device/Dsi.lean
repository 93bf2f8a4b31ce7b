import PanelDriver.Action
import PanelDriver.Error

/-!
DSI hosts. A silent one accepts every call, does nothing and leaves buffers as they are. A scripted
one records every call and then takes its answer from the script; where a script has ended, calls
succeed and reads give zeros.
-/

namespace PanelDriver

/-- Bytes delivered to a read, and the fault reported after them. -/
structure DsiReply where
  data : Bytes := []
  fault : Option DsiFault := none
  deriving DecidableEq, Repr

structure DsiScript where
  replies : List DsiReply := []
  writeFaults : List (Option DsiFault) := []
  sizeFaults : List (Option DsiFault) := []
  lowPower : Bool := false
  deriving DecidableEq, Repr

inductive DsiHost
  | silent
  | scripted (script : DsiScript)
  deriving DecidableEq, Repr

namespace DsiScript

def write (generic : Bool) (data : Bytes) : Action DsiFault DsiScript Unit := fun s =>
  ⟨reported (s.writeFaults.headD none), { s with writeFaults := s.writeFaults.tail },
    [if generic then .genericWrite data else .dcsWrite data]⟩

/-- Records a read and answers it from the script. -/
def answer (event : Nat → Event) : Action DsiFault (DsiScript × Bytes) Unit := fun (s, buffer) =>
  let reply := s.replies.headD {}
  ⟨reported reply.fault,
    ({ s with replies := s.replies.tail }, Bytes.fit buffer.length reply.data),
    [event buffer.length]⟩

def dcsRead (command : UInt8) : Action DsiFault (DsiScript × Bytes) Unit :=
  answer fun length => .dcsRead command length

def genericRead (params : Bytes) : Action DsiFault (DsiScript × Bytes) Unit :=
  answer fun length => .genericRead params length

def setReturnSize (size : UInt16) : Action DsiFault DsiScript Unit := fun s =>
  ⟨reported (s.sizeFaults.headD none), { s with sizeFaults := s.sizeFaults.tail },
    [.returnSize size]⟩

def setLowPower {ε : Type} (on : Bool) : Action ε DsiScript Unit := fun s =>
  ⟨.ok (), { s with lowPower := on }, [.lowPower on]⟩

end DsiScript

namespace DsiHost

def lowPower? : DsiHost → Option Bool
  | silent => none
  | scripted s => some s.lowPower

/-- Runs an action on the script of a scripted host. -/
def onScript {ε : Type} (x : Action ε DsiScript Unit) : Action ε DsiHost Unit
  | silent => ⟨.ok (), silent, []⟩
  | scripted s => ⟨(x s).result, scripted (x s).state, (x s).events⟩

/-- Sends a packet, whose first byte is the command in DCS packets. -/
def write (generic : Bool) (data : Bytes) : Action DsiFault DsiHost Unit :=
  onScript (DsiScript.write generic data)

def setReturnSize (size : UInt16) : Action DsiFault DsiHost Unit :=
  onScript (DsiScript.setReturnSize size)

/-- Selects low-power transmission of commands. -/
def setLowPower {ε : Type} (on : Bool) : Action ε DsiHost Unit :=
  onScript (DsiScript.setLowPower on)

/-- Fills a buffer with the answer to a read. -/
def readWith (x : Action DsiFault (DsiScript × Bytes) Unit) :
    Action DsiFault (DsiHost × Bytes) Unit
  | (silent, buffer) => ⟨.ok (), (silent, buffer), []⟩
  | (scripted s, buffer) =>
    let o := x (s, buffer)
    ⟨o.result, (scripted o.state.1, o.state.2), o.events⟩

def dcsRead (command : UInt8) : Action DsiFault (DsiHost × Bytes) Unit :=
  readWith (DsiScript.dcsRead command)

def genericRead (params : Bytes) : Action DsiFault (DsiHost × Bytes) Unit :=
  readWith (DsiScript.genericRead params)

end DsiHost

end PanelDriver
