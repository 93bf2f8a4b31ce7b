import PanelDriver.Bus.Spi

/-!
What calls on an SPI bus with a scripted device do. Each of them asks for one transaction at most;
its result is the next entry of the device's faults, and a transfer takes the next reply into the
window. However a transaction ends, nothing waits after it.
-/

namespace PanelDriver.SpiBus

/-- A channel to a device with these replies and faults to come. -/
def place (config : SpiLink) (packer : Packer) (replies : List Bytes)
    (faults : List (Option SpiFault)) : Channel SpiBus :=
  ⟨⟨.scripted ⟨replies, faults⟩, config⟩, packer⟩

@[simp] theorem bus_place (config : SpiLink) (packer : Packer) (replies : List Bytes)
    (faults : List (Option SpiFault)) :
    (place config packer replies faults).bus = ⟨.scripted ⟨replies, faults⟩, config⟩ := rfl

@[simp] theorem packer_place (config : SpiLink) (packer : Packer) (replies : List Bytes)
    (faults : List (Option SpiFault)) : (place config packer replies faults).packer = packer := rfl

theorem eq_place {c : Channel SpiBus} {script : SpiScript} (h : c.bus.device = .scripted script) :
    c = place c.bus.config c.packer script.replies script.faults := by
  obtain ⟨⟨device, config⟩, packer⟩ := c
  cases h
  rfl

theorem sendFrame_place (frame : Bytes) (config : SpiLink) (packer : Packer)
    (replies : List Bytes) (faults : List (Option SpiFault)) :
    sendFrame frame (place config packer replies faults) =
      ⟨(reported (faults.headD none)).mapError transferError,
        place config packer replies faults.tail, [.spiWrite frame]⟩ := by
  rcases faults with _ | ⟨_ | fault, rest⟩ <;> rfl

/-- The window after an exchange in which a device has given this reply. -/
def filled (packer : Packer) (reply : Bytes) : Packer :=
  packer.receive 0 (Bytes.fit packer.received.length reply)

theorem exchange_place (config : SpiLink) (packer : Packer) (replies : List Bytes)
    (faults : List (Option SpiFault)) :
    exchange (place config packer replies faults) =
      ⟨(reported (faults.headD none)).mapError transferError,
        place config (filled packer (replies.headD [])) replies.tail faults.tail,
        [.spiTransfer packer.frame]⟩ := by
  rcases faults with _ | ⟨_ | fault, rest⟩ <;> rfl

theorem flush_of_isEmpty {packer : Packer} (h : packer.isEmpty = true) (config : SpiLink)
    (replies : List Bytes) (faults : List (Option SpiFault)) :
    flush (place config packer replies faults) = ⟨.ok (), place config packer replies faults, []⟩ :=
  if_pos h

theorem flush_of_waiting {packer : Packer} (h : packer.isEmpty = false) (config : SpiLink)
    (replies : List Bytes) (faults : List (Option SpiFault)) :
    flush (place config packer replies faults) =
      ⟨(reported (faults.headD none)).mapError transferError,
        place config packer.reset replies faults.tail, [.spiWrite packer.frame]⟩ := by
  simp only [flush, packer_place, h, Bool.false_eq_true, ↓reduceIte, emptying_apply,
    sendFrame_place]
  rfl

theorem transfer_place (start length : Nat) (config : SpiLink) (packer : Packer)
    (replies : List Bytes) (faults : List (Option SpiFault)) :
    let back := filled packer (replies.headD [])
    transfer start length (place config packer replies faults) =
      ⟨do
        (reported (faults.headD none)).mapError transferError
        back.readWindow start length,
        place config back.reset replies.tail faults.tail, [.spiTransfer packer.frame]⟩ := by
  intro back
  have hexchange := exchange_place config packer replies faults
  simp only [transfer, emptying_apply]
  cases hreported : reported (faults.headD none) with
  | ok =>
    rw [hreported] at hexchange
    rw [Action.bind_ok hexchange]
    rfl
  | error fault =>
    rw [hreported] at hexchange
    rw [Action.bind_error hexchange]
    rfl

end PanelDriver.SpiBus
