import PanelDriver.Bus.Command
import PanelDriver.Device.Spi
import PanelDriver.Link

/-!
Programs over SPI. Byte frames go out at once, and what waited before is dropped. In nine-bit
framing commands gather in the packer and go out together, when the next one does not fit or when
they are flushed. A read sends its command followed by ones, and takes the reply out of the bits
that came back meanwhile. Sending empties the packer whether or not it succeeds.
-/

namespace PanelDriver

structure SpiBus where
  device : SpiDevice
  config : SpiLink
  deriving DecidableEq, Repr

namespace SpiBus

def transferError (fault : SpiFault) : PanelError := .transfer (.spi fault)

section

variable {P : Type}

def sendFrame (frame : Bytes) : Action PanelError (Channel SpiBus P) Unit :=
  Channel.onBus (((SpiDevice.write frame).mapError transferError).on (·.device)
    fun device bus => { bus with device })

/-- Runs `x` and empties the packer, however `x` ended. -/
def emptying {α : Type} [Resettable P] (x : Action PanelError (Channel SpiBus P) α) :
    Action PanelError (Channel SpiBus P) α := fun channel =>
  let o := x channel
  ⟨o.result, { o.state with packer := Resettable.reset o.state.packer }, o.events⟩

/-- Puts as many bytes as the caller's buffer has into it; a failed read leaves it as it is. -/
def intoBuffer (query : Nat → Action PanelError (Channel SpiBus P) Bytes) :
    Action PanelError (Channel SpiBus P × Bytes) Unit := fun (channel, buffer) =>
  match query buffer.length channel with
  | ⟨.ok reply, channel, events⟩ => ⟨.ok (), (channel, reply), events⟩
  | ⟨.error e, channel, events⟩ => ⟨.error e, (channel, buffer), events⟩

end

theorem emptying_apply {α : Type} (x : Action PanelError (Channel SpiBus) α)
    (channel : Channel SpiBus) : emptying x channel =
      ⟨(x channel).result, { (x channel).state with packer := (x channel).state.packer.reset },
        (x channel).events⟩ := rfl

def flush : Action PanelError (Channel SpiBus) Unit := fun channel =>
  if channel.packer.isEmpty then ⟨.ok (), channel, []⟩
  else emptying (sendFrame channel.packer.frame) channel

/-- Sends the frame and puts what comes back into the window. -/
def exchange : Action PanelError (Channel SpiBus) Unit := fun channel =>
  let o := (SpiDevice.transfer channel.packer.frame).mapError transferError
    (channel.bus.device, channel.packer.received)
  ⟨o.result, ⟨{ channel.bus with device := o.state.1 }, channel.packer.receive 0 o.state.2⟩,
    o.events⟩

/-- `length` bytes that come back from bit `start` on. -/
def transfer (start length : Nat) : Action PanelError (Channel SpiBus) Bytes := emptying do
  exchange
  Action.ofExcept ((← Action.state).packer.readWindow start length)

def write (payload : Bytes) : Action PanelError (Channel SpiBus) Unit := do
  let channel ← Action.state
  if channel.bus.config.nineBit then
    if channel.packer.fits (9 * payload.length) then
      Channel.store (·.pushNineBit payload)
    else do
      flush
      if Packer.capacity < 9 * payload.length then Action.fail .overflow
      else Channel.store (·.pushNineBit payload)
  else if Packer.windowBytes < payload.length then Action.fail .overflow
  else do
    Channel.reset
    Channel.store (·.pushBytes payload)
    flush

/-- Puts the command into an empty packer. -/
def storeCommand (command : Bytes) : Action PanelError (Channel SpiBus) Unit := do
  if (← Action.state).bus.config.nineBit then
    flush
    Channel.store (·.pushNineBit command)
  else
    Channel.reset
    Channel.store (·.pushBytes command)

/-- The bytes that answer a command. -/
def query (command : Bytes) (length : Nat) : Action PanelError (Channel SpiBus) Bytes := do
  storeCommand command
  let start := (← Action.state).packer.cursor
  (Channel.store (·.pushOnes (8 * length))).orElse fun e => do
    Channel.reset
    Action.fail e
  transfer start length

def read (command : Bytes) : Action PanelError (Channel SpiBus × Bytes) Unit :=
  intoBuffer (query command)

instance : SidebandBus SpiBus where
  kind := .spi
  begin := pure ()
  write payload _ := write payload
  read command _ := read command
  setReturnSize _ := pure ()
  flush := flush

end SpiBus

end PanelDriver
