import PanelDriver.Proofs.Wire.Extraction
import PanelDriver.Proofs.Wire.Transactions

/-!
A read over SPI from end to end. First nothing must wait any more; then the command and the ones
behind it go out in one transfer, and the answer is what comes back during these ones. Each of the
ways in which a read ends is told by what it puts on the wire, and by what it leaves in the buffer
of its caller (`readEnds_read`).
-/

namespace PanelDriver.SpiBus

/-! ## The parts of a read -/

/-- Bits that a byte of a command takes up. -/
def byteWidth (nineBit : Bool) : Nat := if nineBit then 9 else 8

/-- The bits of a command. -/
def commandBits (nineBit : Bool) (command : Bytes) : List Bool :=
  if nineBit then Packer.nineBit command else Bits.ofBytes command

@[simp] theorem length_commandBits (nineBit : Bool) (command : Bytes) :
    (commandBits nineBit command).length = byteWidth nineBit * command.length := by
  cases nineBit with
  | true => exact Packer.length_nineBit command
  | false => exact Bits.length_ofBytes command

/-- Puts a command behind what waits. -/
def pushCommand (nineBit : Bool) (command : Bytes) (p : Packer) : Except PanelError Packer :=
  if nineBit then p.pushNineBit command else p.pushBytes command

/-- Nothing waits after it, as what waits is sent or dropped. -/
def clear (nineBit : Bool) : Action PanelError (Channel SpiBus) Unit :=
  if nineBit then flush else Channel.reset

/-- Asks for `length` bytes when nothing waits. -/
def ask (nineBit : Bool) (command : Bytes) (length : Nat) :
    Action PanelError (Channel SpiBus) Bytes := do
  Channel.store (pushCommand nineBit command)
  let start := (← Action.state).packer.cursor
  (Channel.store (·.pushOnes (8 * length))).orElse fun e => do
    Channel.reset
    Action.fail e
  transfer start length

theorem query_eq (command : Bytes) (length : Nat) (c : Channel SpiBus) :
    query command length c =
      (clear c.bus.config.nineBit >>= fun _ => ask c.bus.config.nineBit command length) c := by
  have hstore : storeCommand command c = (clear c.bus.config.nineBit >>= fun _ =>
      Channel.store (pushCommand c.bus.config.nineBit command)) c := by
    rw [storeCommand, Action.state_bind]
    cases c.bus.config.nineBit <;> rfl
  rw [query, Action.bind_congr_outcome hstore, bind_assoc]
  rfl

/-- A command in a packer in which nothing waits. -/
theorem pushCommand_reset (nineBit : Bool) (command : Bytes) (p : Packer) :
    pushCommand nineBit command p.reset =
      if byteWidth nineBit * command.length ≤ 512 then
        .ok { p with pending := commandBits nineBit command }
      else .error .overflow := by
  have hstore : pushCommand nineBit command p.reset =
      p.reset.store (commandBits nineBit command) := by
    cases nineBit <;> rfl
  have hempty : p.reset.pending = [] := rfl
  rw [hstore, Packer.store_eq, hempty, List.length_nil, Nat.zero_add, length_commandBits,
    List.nil_append]
  rfl

/-! ## The ways in which a read ends -/

/-- The bits that wait before a read are gone. In nine-bit framing they have gone out as one frame,
which the device may have refused; in byte framing they are dropped. -/
inductive Clears (nineBit : Bool) (waiting : List Bool) (script : SpiScript) :
    Except SpiFault Unit → SpiScript → List Event → Prop
  | dropped (h : nineBit = false ∨ waiting = []) :
    Clears nineBit waiting script (.ok ()) script []
  | sent {frame : Bytes} (hnine : nineBit = true) (hwaiting : waiting ≠ [])
      (packs : Packs frame waiting) :
    Clears nineBit waiting script script.next.1 script.next.2 [.spiWrite frame]

/-- How a read ends. The device is left with the script `left` when nothing waits any more, and only
then it is asked; `first` is what is on the wire by then. -/
inductive ReadEnds (config : SpiLink) (waiting : List Bool) (script : SpiScript)
    (command buffer : Bytes) : Outcome PanelError (Channel SpiBus × Bytes) Unit → Prop
  /-- The device refuses what waits. -/
  | blocked {fault : SpiFault} {left : SpiScript} {first : List Event} {packer : Packer}
      (clears : Clears config.nineBit waiting script (.error fault) left first)
      (empty : packer.pending = []) :
    ReadEnds config waiting script command buffer
      ⟨.error (transferError fault), (⟨⟨.scripted left, config⟩, packer⟩, buffer), first⟩
  /-- The command and the ones behind it are too long for one transfer. -/
  | tooLong {left : SpiScript} {first : List Event} {packer : Packer}
      (clears : Clears config.nineBit waiting script (.ok ()) left first)
      (long : 512 < byteWidth config.nineBit * command.length + 8 * buffer.length)
      (empty : packer.pending = []) :
    ReadEnds config waiting script command buffer
      ⟨.error .overflow, (⟨⟨.scripted left, config⟩, packer⟩, buffer), first⟩
  /-- The device fails in the transfer. -/
  | failed {fault : SpiFault} {left : SpiScript} {first : List Event} {sent : Bytes}
      {packer : Packer} (clears : Clears config.nineBit waiting script (.ok ()) left first)
      (fits : byteWidth config.nineBit * command.length + 8 * buffer.length ≤ 512)
      (packs : Packs sent (commandBits config.nineBit command ++
        List.replicate (8 * buffer.length) true))
      (fails : left.next.1 = .error fault) (empty : packer.pending = []) :
    ReadEnds config waiting script command buffer
      ⟨.error (transferError fault),
        (⟨⟨.scripted ⟨left.replies.tail, left.faults.tail⟩, config⟩, packer⟩, buffer),
        first ++ [.spiTransfer sent]⟩
  /-- The answer is what comes back behind the command. -/
  | answered {left : SpiScript} {first : List Event} {sent answer : Bytes} {packer : Packer}
      (clears : Clears config.nineBit waiting script (.ok ()) left first)
      (fits : byteWidth config.nineBit * command.length + 8 * buffer.length ≤ 512)
      (packs : Packs sent (commandBits config.nineBit command ++
        List.replicate (8 * buffer.length) true))
      (succeeds : left.next.1 = .ok ())
      (reads : Bits.ofBytes answer =
        ((Bits.ofBytes (Bytes.fit sent.length (left.replies.headD []))).drop
          (byteWidth config.nineBit * command.length)).take (8 * buffer.length))
      (empty : packer.pending = []) :
    ReadEnds config waiting script command buffer
      ⟨.ok (), (⟨⟨.scripted ⟨left.replies.tail, left.faults.tail⟩, config⟩, packer⟩, answer),
        first ++ [.spiTransfer sent]⟩

theorem clear_place (config : SpiLink) (packer : Packer) (script : SpiScript) :
    ∃ result left first, Clears config.nineBit packer.pending script result left first ∧
      clear config.nineBit (place config packer script.replies script.faults) =
        ⟨result.mapError transferError, place config packer.reset left.replies left.faults,
          first⟩ := by
  cases hnine : config.nineBit with
  | false => exact ⟨.ok (), script, [], .dropped (.inl rfl), rfl⟩
  | true =>
    cases hempty : packer.isEmpty with
    | true =>
      have hpending : packer.pending = [] := List.length_eq_zero_iff.mp (beq_iff_eq.mp hempty)
      have hreset : packer.reset = packer := by rw [Packer.reset, ← hpending]
      refine ⟨.ok (), script, [], .dropped (.inr hpending), ?_⟩
      rw [hreset]
      exact flush_of_isEmpty hempty config script.replies script.faults
    | false =>
      have hpending : packer.pending ≠ [] := by
        intro h
        rw [Packer.isEmpty, Packer.cursor, h] at hempty
        cases hempty
      exact ⟨script.next.1, script.next.2, [.spiWrite packer.frame],
        .sent rfl hpending packer.packs_frame,
        flush_of_waiting hempty config script.replies script.faults⟩

section Ask

variable {config : SpiLink} {packer : Packer} {replies : List Bytes}
  {faults : List (Option SpiFault)} {command : Bytes} {length : Nat}

/-- The packer with the command. -/
def told (nineBit : Bool) (command : Bytes) (packer : Packer) : Packer :=
  { packer with pending := commandBits nineBit command }

/-- The packer that asks: the command and ones for as long as the answer is. -/
def asking (nineBit : Bool) (command : Bytes) (length : Nat) (packer : Packer) : Packer :=
  { packer with pending := commandBits nineBit command ++ List.replicate (8 * length) true }

@[simp] theorem cursor_told (nineBit : Bool) (command : Bytes) (packer : Packer) :
    (told nineBit command packer).cursor = byteWidth nineBit * command.length :=
  length_commandBits nineBit command

@[simp] theorem cursor_asking (nineBit : Bool) (command : Bytes) (length : Nat)
    (packer : Packer) : (asking nineBit command length packer).cursor =
      byteWidth nineBit * command.length + 8 * length := by
  simp [asking, Packer.cursor]

theorem store_command (h : byteWidth config.nineBit * command.length ≤ 512) :
    (Channel.store (pushCommand config.nineBit command) :
      Action PanelError (Channel SpiBus) Unit) (place config packer.reset replies faults) =
      ⟨.ok (), place config (told config.nineBit command packer) replies faults, []⟩ := by
  simp only [Channel.store, packer_place, pushCommand_reset, h, ↓reduceIte]
  rfl

theorem pushOnes_told (nineBit : Bool) (command : Bytes) (length : Nat) (packer : Packer) :
    (told nineBit command packer).pushOnes (8 * length) =
      if byteWidth nineBit * command.length + 8 * length ≤ 512 then
        .ok (asking nineBit command length packer)
      else .error .overflow := by
  have hcursor : (told nineBit command packer).pending.length =
      byteWidth nineBit * command.length := cursor_told nineBit command packer
  rw [Packer.pushOnes_eq_store, Packer.store_eq, List.length_replicate, hcursor]
  rfl

theorem ask_of_fits (h : byteWidth config.nineBit * command.length + 8 * length ≤ 512) :
    ask config.nineBit command length (place config packer.reset replies faults) =
      transfer (byteWidth config.nineBit * command.length) length
        (place config (asking config.nineBit command length packer) replies faults) := by
  have hcommand : byteWidth config.nineBit * command.length ≤ 512 := by omega
  have hones : (Channel.store (·.pushOnes (8 * length)) : Action PanelError (Channel SpiBus) Unit)
      (place config (told config.nineBit command packer) replies faults) =
      ⟨.ok (), place config (asking config.nineBit command length packer) replies faults, []⟩ := by
    simp only [Channel.store, packer_place, pushOnes_told, h, ↓reduceIte]
    rfl
  simp only [ask, Action.bind_ok (store_command hcommand), Action.state_bind,
    Action.bind_ok (Action.orElse_ok hones), packer_place, cursor_told, List.nil_append]

/-- Wherever it shows that there is no room, nothing waits and nothing is sent. -/
theorem ask_of_lt (h : 512 < byteWidth config.nineBit * command.length + 8 * length) :
    ask config.nineBit command length (place config packer.reset replies faults) =
      ⟨.error .overflow, place config packer.reset replies faults, []⟩ := by
  by_cases hcommand : byteWidth config.nineBit * command.length ≤ 512
  · have hlong : ¬byteWidth config.nineBit * command.length + 8 * length ≤ 512 := by omega
    have hones : (Channel.store (·.pushOnes (8 * length)) :
        Action PanelError (Channel SpiBus) Unit)
        (place config (told config.nineBit command packer) replies faults) =
        ⟨.error .overflow, place config (told config.nineBit command packer) replies faults,
          []⟩ := by
      simp only [Channel.store, packer_place, pushOnes_told, hlong, ↓reduceIte]
    have hreset : (Channel.reset : Action PanelError (Channel SpiBus) Unit)
        (place config (told config.nineBit command packer) replies faults) =
        ⟨.ok (), place config packer.reset replies faults, []⟩ := rfl
    simp only [ask, Action.bind_ok (store_command hcommand), Action.state_bind,
      Action.bind_error (Action.orElse_undo hones hreset), List.append_nil]
  · have hstore : (Channel.store (pushCommand config.nineBit command) :
        Action PanelError (Channel SpiBus) Unit) (place config packer.reset replies faults) =
        ⟨.error .overflow, place config packer.reset replies faults, []⟩ := by
      simp only [Channel.store, packer_place, pushCommand_reset, hcommand, ↓reduceIte]
    exact Action.bind_error hstore

end Ask

/-! ## The answer -/

/-- What comes back during the ones that were sent. -/
theorem exists_answer (nineBit : Bool) (command : Bytes) (length : Nat) (packer : Packer)
    (reply : Bytes) (h : byteWidth nineBit * command.length + 8 * length ≤ 512) :
    let asked := asking nineBit command length packer
    ∃ answer, (filled asked reply).readWindow (byteWidth nineBit * command.length) length =
        .ok answer ∧
      Bits.ofBytes answer = ((Bits.ofBytes (Bytes.fit asked.frame.length reply)).drop
        (byteWidth nineBit * command.length)).take (8 * length) := by
  intro asked
  have hcursor : asked.cursor = byteWidth nineBit * command.length + 8 * length :=
    cursor_asking nineBit command length packer
  have hframe : asked.frame.length = (asked.cursor + 7) / 8 := asked.length_frame
  have hshort : asked.frame.length ≤ 64 := by omega
  have hreceived : asked.received.length = asked.frame.length := by
    rw [Packer.length_received, ← Packer.length_frame]
    exact Nat.min_eq_left hshort
  have hcame : (Bytes.fit asked.frame.length reply).length = asked.frame.length :=
    Bytes.length_fit _ _
  have hroom : (Bytes.fit asked.frame.length reply).length ≤ 64 := by omega
  obtain ⟨answer, hread, hbits⟩ := (filled asked reply).exists_readWindow h
  refine ⟨answer, hread, ?_⟩
  -- The frame covers the answer, so nothing older in the window is read.
  rw [hbits, filled, hreceived, Packer.windowBits_receive _ hroom,
    List.drop_append_of_le_length (by simp only [Bits.length_ofBytes, hcame]; omega),
    List.take_append_of_le_length (by
      simp only [List.length_drop, Bits.length_ofBytes, hcame]
      omega)]

/-! ## Reads -/

theorem read_eq (command buffer : Bytes) (generic : Bool) (c : Channel SpiBus) :
    SidebandBus.read command generic (c, buffer) =
      (⟨(query command buffer.length c).result.map fun _ => (),
        ((query command buffer.length c).state,
          (query command buffer.length c).result.toOption.getD buffer),
        (query command buffer.length c).events⟩ :
          Outcome PanelError (Channel SpiBus × Bytes) Unit) := by
  show read command (c, buffer) = _
  rw [read, intoBuffer]
  rcases query command buffer.length c with ⟨_ | _, _, _⟩ <;> rfl

/-- However a read ends on a device that fills its whole receive window, nothing waits any more.
What has waited is sent or dropped first, and if the device refuses it, that is all. A command that
leaves no room for its answer is refused, and the device is not asked. Otherwise the command and
ones for the length of the answer go out in one transfer. The answer is then the part of the reply
that comes back during the ones, in which nothing of older transfers is left; whenever there is
none, the buffer of the caller keeps what it holds. -/
theorem readEnds_read (config : SpiLink) (packer : Packer) (script : SpiScript)
    (command buffer : Bytes) (generic : Bool) :
    ReadEnds config packer.pending script command buffer
      (SidebandBus.read command generic
        ((⟨⟨.scripted script, config⟩, packer⟩ : Channel SpiBus), buffer)) := by
  obtain ⟨result, left, first, clears, hclear⟩ := clear_place config packer script
  have hquery : query command buffer.length ⟨⟨.scripted script, config⟩, packer⟩ =
      (clear config.nineBit >>= fun _ => ask config.nineBit command buffer.length)
        (place config packer script.replies script.faults) :=
    query_eq command buffer.length _
  rw [read_eq, hquery]
  cases result with
  | error fault =>
    rw [Action.bind_error hclear]
    exact .blocked clears rfl
  | ok =>
    rw [Action.bind_ok hclear]
    rcases Nat.lt_or_ge 512 (byteWidth config.nineBit * command.length + 8 * buffer.length) with
      hlong | hfits
    · rw [ask_of_lt hlong, List.append_nil]
      exact .tooLong clears hlong rfl
    · have hpacks := (asking config.nineBit command buffer.length packer).packs_frame
      obtain ⟨answer, hread, hanswer⟩ := exists_answer config.nineBit command buffer.length packer
        (left.replies.headD []) hfits
      rw [ask_of_fits hfits, transfer_place]
      cases hfault : reported (left.faults.headD none) with
      | error fault => exact .failed clears hfits hpacks hfault rfl
      | ok =>
        simp only [hread]
        exact .answered clears hfits hpacks hfault hanswer rfl

/-- The answer lies across two bytes of the reply, behind the nine bits of the command. -/
example :
    let script : SpiScript := { replies := [[0xff, 0x2a, 0x80]] }
    let o := read [0xda] ((⟨⟨.scripted script, { nineBit := true }⟩, {}⟩ : Channel SpiBus), [0x77])
    o.state.2 = [0x55] ∧ o.events = [.spiTransfer [0x6d, 0x7f, 0xff]] := by decide

end PanelDriver.SpiBus
