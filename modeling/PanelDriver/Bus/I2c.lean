import PanelDriver.Bus.Command
import PanelDriver.Device.I2c
import PanelDriver.Link

/-!
Programs over I2C. Commands are written as register and value in the order in which the bus sends
them the other way round, so the first two bytes change places. A failed transaction is repeated
once after a pause; the fault of the second attempt counts.
-/

namespace PanelDriver

structure I2cBus where
  master : I2cMaster
  config : I2cLink
  deriving DecidableEq, Repr

namespace I2cBus

def retryDelayMs : UInt32 := 10

/-- Bytes of the longest payload and of the longest reply. -/
def bufferBytes : Nat := 64

def swap : Bytes → Bytes
  | first :: second :: rest => second :: first :: rest
  | short => short

/-- Bytes 0 and 1 have changed places, and no other byte has; a payload without both of them stays
as it is. -/
structure Swapped (payload bytes : Bytes) : Prop where
  first : 2 ≤ payload.length → bytes[0]? = payload[1]?
  second : 2 ≤ payload.length → bytes[1]? = payload[0]?
  rest : ∀ n, 2 ≤ n → bytes[n]? = payload[n]?
  short : payload.length < 2 → bytes = payload

theorem swapped_swap (payload : Bytes) : Swapped payload (swap payload) := by
  match payload with
  | [] | [_] => exact ⟨nofun, nofun, fun _ _ => rfl, fun _ => rfl⟩
  | first :: second :: rest =>
    refine ⟨fun _ => rfl, fun _ => rfl, fun n hn => ?_, fun hshort => ?_⟩
    · obtain ⟨k, rfl⟩ := Nat.exists_eq_add_of_le' hn
      rfl
    · simp only [List.length_cons] at hshort
      omega

/-- Every byte of it is settled. -/
theorem Swapped.unique {payload bytes others : Bytes} (h : Swapped payload bytes)
    (h' : Swapped payload others) : bytes = others := by
  rcases Nat.lt_or_ge payload.length 2 with hshort | hlong
  · rw [h.short hshort, h'.short hshort]
  · apply List.ext_getElem?
    intro n
    match n with
    | 0 => rw [h.first hlong, h'.first hlong]
    | 1 => rw [h.second hlong, h'.second hlong]
    | n + 2 => rw [h.rest _ (Nat.le_add_left 2 n), h'.rest _ (Nat.le_add_left 2 n)]

theorem swapped_iff {payload bytes : Bytes} : Swapped payload bytes ↔ bytes = swap payload := by
  constructor
  · exact fun h => h.unique (swapped_swap payload)
  · rintro rfl
    exact swapped_swap payload

/-- The bytes that go over the wire for a payload. -/
def wire (payload : Bytes) : Except PanelError Bytes :=
  if payload.length ≤ bufferBytes then .ok (swap payload) else .error .overflow

/-- A second attempt after a failed one. -/
def retrying {σ : Type} (x : Action I2cFault σ Unit) : Action PanelError σ Unit :=
  x.orElse fun _ => do
    Action.record (.delayMs retryDelayMs)
    x.mapError fun fault => .transfer (.i2c fault)

def write (payload : Bytes) : Action PanelError I2cBus Unit := do
  let bytes ← Action.ofExcept (wire payload)
  let address := (← Action.state).config.address
  retrying ((I2cMaster.write address bytes).on (·.master) fun master bus => { bus with master })

def read (command : Bytes) : Action PanelError (I2cBus × Bytes) Unit := do
  let (bus, buffer) ← Action.state
  if bufferBytes < buffer.length then Action.fail .overflow
  let bytes ← Action.ofExcept (wire command)
  retrying ((I2cMaster.writeRead bus.config.address bytes).on
    (fun (bus, buffer) => (bus.master, buffer))
    fun (master, buffer) (bus, _) => ({ bus with master }, buffer))

instance {P : Type} : SidebandBus I2cBus P where
  kind := .i2c
  begin := pure ()
  write payload _ := Channel.onBus (write payload)
  read command _ := Channel.onBusAndBuffer (read command)
  setReturnSize _ := pure ()
  flush := pure ()

end I2cBus

end PanelDriver
