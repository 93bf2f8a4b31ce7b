import PanelDriver.Proofs.Wire.Timeline
import PanelDriver.Proofs.Wire.Transactions

/-!
The nine-bit SPI bus, on a device that never fails, is timely. What waits in the packer is always
the commands that were accepted and not yet sent, one after another, and they never take more room
than one frame has.
-/

namespace PanelDriver

/-- Every transaction succeeds. -/
def SpiScript.Faultless (s : SpiScript) : Prop := ∀ fault ∈ s.faults, fault = none

namespace SpiScript

variable {s : SpiScript}

theorem next_of_faultless (h : s.Faultless) : s.next.1 = .ok () := by
  simp only [next, headD_of_forall_eq h, reported]

theorem faultless_next (h : s.Faultless) : s.next.2.Faultless :=
  fun fault hf => h fault (List.mem_of_mem_tail hf)

end SpiScript

namespace SpiBus

/-- What a nine-bit bus puts on the wires: sound frames, transfers and pauses between them. -/
def OnWire : Event → Prop
  | .spiWrite frame => Wire.SoundFrame frame
  | .spiTransfer _ | .delayMs _ => True
  | _ => False

/-- `commands` wait to be sent to a device that never fails. -/
structure Holds (commands : List Bytes) (channel : Channel SpiBus) : Prop where
  nineBit : channel.bus.config.nineBit = true
  device : ∃ script, channel.bus.device = .scripted script ∧ script.Faultless
  pending : channel.packer.pending = commands.flatMap Packer.nineBit
  nonempty : ∀ command ∈ commands, command ≠ []
  room : channel.packer.cursor ≤ Packer.capacity

namespace Holds

variable {held : List Bytes} {channel : Channel SpiBus}

theorem isEmpty_eq (h : Holds held channel) : channel.packer.isEmpty = held.isEmpty := by
  cases held with
  | nil => simp [Packer.isEmpty, Packer.cursor, h.pending]
  | cons command rest =>
    have hcommand := h.nonempty command List.mem_cons_self
    cases command with
    | nil => exact absurd rfl hcommand
    | cons b data => simp [Packer.isEmpty, Packer.cursor, h.pending, Packer.nineBit]

/-- A frame of what waits shows just that. -/
theorem shows_frame (h : Holds held channel) (hne : held ≠ []) :
    Shows OnWire held [] [] [.spiWrite channel.packer.frame] := by
  constructor
  · intro e he
    rw [List.mem_singleton.mp he]
    exact Wire.soundFrame_frame h.pending h.nonempty hne h.room
  · simp [timeline, Event.marks, Wire.cut_deframe h.pending h.nonempty]

theorem flush (h : Holds held channel) : ∃ channel' events,
    SpiBus.flush channel = ⟨.ok (), channel', events⟩ ∧ Holds [] channel' ∧
      Shows OnWire held [] [] events := by
  cases held with
  | nil =>
    have hempty : channel.packer.isEmpty = true := h.isEmpty_eq
    exact ⟨channel, [], by simp only [SpiBus.flush, hempty, ↓reduceIte], h, Shows.nothing []⟩
  | cons command rest =>
    have hempty : channel.packer.isEmpty = false := h.isEmpty_eq
    obtain ⟨script, hd, hscript⟩ := h.device
    have hflush := flush_of_waiting hempty channel.bus.config script.replies script.faults
    rw [← eq_place hd, headD_of_forall_eq hscript] at hflush
    refine ⟨_, _, hflush, ?_, h.shows_frame (List.cons_ne_nil _ _)⟩
    exact ⟨h.nineBit, ⟨_, rfl, SpiScript.faultless_next hscript⟩, rfl, by simp, Nat.zero_le _⟩

/-- A command that fits joins those that wait. -/
theorem push (h : Holds held channel) {command : Bytes} (hne : command ≠ [])
    (hroom : channel.packer.fits (9 * command.length) = true) :
    ∃ channel', (Channel.store (·.pushNineBit command) : Action PanelError (Channel SpiBus) Unit)
        channel = ⟨.ok (), channel', []⟩ ∧ Holds (held ++ [command]) channel' := by
  have hpush : channel.packer.pushNineBit command =
      .ok { channel.packer with pending := channel.packer.pending ++ Packer.nineBit command } := by
    simp only [Packer.pushNineBit, Packer.store, Packer.length_nineBit, hroom, ↓reduceIte]
  refine ⟨⟨channel.bus,
    { channel.packer with pending := channel.packer.pending ++ Packer.nineBit command }⟩,
    by simp only [Channel.store, hpush], h.nineBit, h.device, ?_, ?_, ?_⟩
  · simp [h.pending]
  · intro other ho
    rcases List.mem_append.mp ho with ho | ho
    · exact h.nonempty other ho
    · rw [List.mem_singleton.mp ho]
      exact hne
  · have hlength : channel.packer.cursor + 9 * command.length ≤ Packer.capacity :=
      of_decide_eq_true hroom
    simpa [Packer.cursor, Packer.length_nineBit] using hlength

/-- A command that does not fit any more lets out those that wait, and waits in their place. -/
theorem write (h : Holds held channel) {payload : Bytes} (hne : payload ≠ [])
    (hshort : payload.length ≤ 56) : ∃ kept channel' events,
      SpiBus.write payload channel = ⟨.ok (), channel', events⟩ ∧ Holds kept channel' ∧
        Shows OnWire held [.payload payload] kept events := by
  cases hroom : channel.packer.fits (9 * payload.length) with
  | true =>
    obtain ⟨channel', hpush, hholds⟩ := h.push hne hroom
    refine ⟨held ++ [payload], channel', [], ?_, hholds, by simp, by simp [timeline]⟩
    simp only [SpiBus.write, Action.state_bind, h.nineBit, hroom, ↓reduceIte, hpush]
  | false =>
    obtain ⟨flushed, events, hflush, hempty, hshows⟩ := h.flush
    have hcapacity : ¬Packer.capacity < 9 * payload.length := by
      simp only [Packer.capacity, Packer.windowBytes]; omega
    have hfits : flushed.packer.fits (9 * payload.length) = true := by
      simpa [Packer.fits, Packer.cursor, hempty.pending] using hcapacity
    obtain ⟨channel', hpush, hholds⟩ := hempty.push hne hfits
    refine ⟨[payload], channel', events, ?_, hholds, hshows.sound, ?_⟩
    · simp only [SpiBus.write, Action.state_bind, h.nineBit, hroom, ↓reduceIte,
        Bool.false_eq_true, Action.bind_ok hflush, hcapacity, hpush, List.append_nil]
    · simpa using hshows.timeline

/-- A transfer that stays within the window gives a reply and leaves nothing waiting. -/
theorem transfer (h : Holds held channel) (packer : Packer) {start length : Nat}
    (hroom : start + 8 * length ≤ Packer.capacity) : ∃ reply channel',
      SpiBus.transfer start length ⟨channel.bus, packer⟩ =
        ⟨.ok reply, channel', [.spiTransfer packer.frame]⟩ ∧ Holds [] channel' := by
  obtain ⟨script, hd, hscript⟩ := h.device
  have hchannel : (⟨channel.bus, packer⟩ : Channel SpiBus) =
      place channel.bus.config packer script.replies script.faults := eq_place hd
  have htransfer :=
    transfer_place start length channel.bus.config packer script.replies script.faults
  rw [← hchannel, headD_of_forall_eq hscript] at htransfer
  obtain ⟨reply, hread⟩ : ∃ reply,
      (filled packer (script.replies.headD [])).readWindow start length = .ok reply :=
    ⟨_, if_pos hroom⟩
  simp only [hread] at htransfer
  refine ⟨reply, _, htransfer, ?_⟩
  exact ⟨h.nineBit, ⟨_, rfl, SpiScript.faultless_next hscript⟩, rfl, by simp, Nat.zero_le _⟩

/-- A read lets out the commands that wait before its own transfer. -/
theorem query (h : Holds held channel) {command : Bytes} {length : Nat} (hne : command ≠ [])
    (hroom : 9 * command.length + 8 * length ≤ Packer.capacity) : ∃ reply channel' events,
      SpiBus.query command length channel = ⟨.ok reply, channel', events⟩ ∧ Holds [] channel' ∧
        Shows OnWire held [.read] [] events := by
  obtain ⟨flushed, events, hflush, hempty, hshows⟩ := h.flush
  have hfits : flushed.packer.fits (9 * command.length) = true := by
    have hcommand : 9 * command.length ≤ Packer.capacity := by omega
    simpa [Packer.fits, Packer.cursor, hempty.pending] using hcommand
  obtain ⟨asking, hpush, hasking⟩ := hempty.push hne hfits
  have hstore : storeCommand command channel = ⟨.ok (), asking, events⟩ := by
    simp only [storeCommand, Action.state_bind, h.nineBit, ↓reduceIte, Action.bind_ok hflush,
      hpush, List.append_nil]
  have hcursor : asking.packer.cursor = 9 * command.length := by
    rw [Packer.cursor, hasking.pending]
    simp [Packer.length_nineBit]
  let listening : Packer := { asking.packer with
    pending := asking.packer.pending ++ List.replicate (8 * length) true }
  have hones : asking.packer.pushOnes (8 * length) = .ok listening := by
    have hfit : asking.packer.fits (8 * length) = true := by
      simpa [Packer.fits, hcursor] using hroom
    simp only [Packer.pushOnes, hfit, ↓reduceIte]
    rfl
  have hlisten : (Channel.store (·.pushOnes (8 * length)) : Action PanelError (Channel SpiBus) Unit)
      asking = ⟨.ok (), ⟨asking.bus, listening⟩, []⟩ := by
    simp only [Channel.store, hones]
  have hwindow : asking.packer.cursor + 8 * length ≤ Packer.capacity := by omega
  obtain ⟨reply, channel', htransfer, hholds⟩ := hasking.transfer listening hwindow
  refine ⟨reply, channel', events ++ [.spiTransfer listening.frame], ?_, hholds, ?_⟩
  · simp only [SpiBus.query, Action.bind_ok hstore, Action.state_bind,
      Action.bind_ok (Action.orElse_ok hlisten), htransfer, List.nil_append]
  · have htransferred : Shows OnWire [] [.read] [] [.spiTransfer listening.frame] :=
      ⟨by simp [OnWire], by simp [timeline, Event.marks]⟩
    simpa using hshows.append htransferred

end Holds

/-- A nine-bit bus holds commands back, but never across a pause or a read. -/
theorem timely : Timely SpiBus Holds OnWire where
  flush h := h.flush
  serve {request held channel} hfits h := by
    cases request with
    | send generic payload =>
      cases payload with
      | nil => exact ⟨false, held, channel, [], rfl, h, Shows.nothing held⟩
      | cons b data =>
        obtain ⟨kept, channel', events, hwrite, hholds, hshows⟩ :=
          h.write (List.cons_ne_nil b data) hfits
        refine ⟨false, kept, channel', events, ?_, hholds, hshows⟩
        have hsend : (send (b :: data) generic : Action PanelError (Channel SpiBus) Unit) channel =
            ⟨.ok (), channel', events⟩ := hwrite
        simp only [serve, Action.bind_ok hsend, Action.pure_apply, List.append_nil]
    | wait ms =>
      obtain ⟨flushed, events, hflush, hholds, hshows⟩ := h.flush
      refine ⟨false, [], flushed, events ++ [.delayMs ms.toUInt32], ?_, hholds, ?_⟩
      · have hbus : (SidebandBus.flush : Action PanelError (Channel SpiBus) Unit) channel =
            ⟨.ok (), flushed, events⟩ := hflush
        simp only [serve, Action.bind_ok hbus]
        rfl
      · have hpause : Shows OnWire [] [.delay ms.toUInt32] [] [.delayMs ms.toUInt32] :=
          ⟨by simp [OnWire], by simp [timeline, Event.marks]⟩
        exact hshows.append hpause
    | limit size => exact ⟨false, held, channel, [], rfl, h, Shows.nothing held⟩
    | ask query expected =>
      have hne : query.bytes ≠ [] := by cases query <;> simp [Query.bytes]
      have hroom : 9 * query.bytes.length + 8 * expected.length ≤ Packer.capacity := by
        have hquery : query.bytes.length ≤ 2 := by cases query <;> simp [Query.bytes]
        have hexpected : expected.length ≤ 8 := hfits
        simp only [Packer.capacity, Packer.windowBytes]
        omega
      obtain ⟨reply, channel', events, hquery, hholds, hshows⟩ := h.query hne hroom
      refine ⟨Bytes.differ reply expected, [], channel', events, ?_, hholds, hshows⟩
      have hback : Channel.readBack query.bytes query.isGeneric expected.length channel =
          ⟨.ok reply, channel', events⟩ := by
        simp only [Channel.readBack, SidebandBus.read, SpiBus.read, intoBuffer, Bytes.length_zeros,
          hquery]
        rfl
      simp only [serve, Action.bind_ok hback, Action.pure_apply, List.append_nil]

end SpiBus

end PanelDriver
