import PanelDriver.Proofs.Execution.Isolation
import PanelDriver.Proofs.Wire.BitBuffer

/-!
Runs with the packer as it lies in memory. The SPI bus makes its calls on the buffers, which keep
what older streams and exchanges have left in them; none of it shows, and no call leads to an index
outside of a buffer. A program has the result and the events that it has with the packer of waiting
bits (`SpiBus.run_in_memory`), and so have all runs of a panel that share one packer
(`runs_in_memory`).
-/

namespace PanelDriver

open PanelDriver.Action (Agree)

/-! ## Packers in memory -/

/-- A buffer that holds the waiting bits and the window of some packer. -/
structure PackerMemory where
  buffer : BitBuffer
  models : ∃ p, buffer.Models p

/-- Any buffer does whose cursor is not beyond its end. -/
theorem BitBuffer.exists_models_iff (b : BitBuffer) :
    (∃ p, b.Models p) ↔ b.cursor ≤ Packer.capacity := by
  constructor
  · rintro ⟨p, h⟩
    rw [h.holds.cursor]
    exact h.holds.length_le
  · intro h
    have hlength : (b.tape.take b.cursor).length = b.cursor := by
      rw [List.length_take, length_tape]
      exact Nat.min_eq_left h
    exact ⟨⟨b.tape.take b.cursor, b.window⟩, ⟨hlength.symm, List.take_prefix _ _⟩, rfl⟩

/-- A call that gives a value on the buffer of every packer, and leaves that of a packer. -/
def BitBuffer.Answered {α : Type} (f : BitBuffer → Option (α × BitBuffer)) : Prop :=
  ∀ ⦃b p⦄, b.Models p → ∃ a b' p', f b = some (a, b') ∧ b'.Models p'

namespace PackerMemory

open BitBuffer (Answered)

variable {α : Type}

def new : PackerMemory := ⟨{}, {}, BitBuffer.models_new⟩

instance : Resettable PackerMemory where
  reset memory :=
    ⟨memory.buffer.reset, memory.models.elim fun p h => ⟨p.reset, h.reset⟩⟩

/-- The value of a call and the memory after it. -/
def answer (f : BitBuffer → Option (α × BitBuffer)) (h : Answered f) (memory : PackerMemory) :
    α × PackerMemory :=
  match hf : f memory.buffer with
  | some (a, buffer) => (a, ⟨buffer, by
      obtain ⟨p, hp⟩ := memory.models
      obtain ⟨_, _, p', hsome, hmodels⟩ := h hp
      cases hf.symm.trans hsome
      exact ⟨p', hmodels⟩⟩)
  | none => False.elim (by
      obtain ⟨p, hp⟩ := memory.models
      obtain ⟨_, _, _, hsome, -⟩ := h hp
      cases hf.symm.trans hsome)

theorem answer_eq {f : BitBuffer → Option (α × BitBuffer)} (h : Answered f)
    {memory : PackerMemory} {a : α} {b : BitBuffer} {p : Packer}
    (hf : f memory.buffer = some (a, b)) (hmodels : b.Models p) :
    answer f h memory = (a, ⟨b, p, hmodels⟩) := by
  unfold answer
  split
  · next hsome =>
    cases hf.symm.trans hsome
    rfl
  · next hnone => cases hf.symm.trans hnone

end PackerMemory

open BitBuffer (Answered)

namespace Channel

variable {α β : Type}

/-- A call on the packer. -/
def call (f : BitBuffer → Option (α × BitBuffer)) (h : Answered f) :
    Action PanelError (Channel β PackerMemory) α := fun channel =>
  let (a, packer) := channel.packer.answer f h
  ⟨.ok a, { channel with packer }, []⟩

/-- A call that stores bits, or refuses them. -/
def storeInMemory (f : BitBuffer → Option (Except PanelError Unit × BitBuffer)) (h : Answered f) :
    Action PanelError (Channel β PackerMemory) Unit := do
  Action.ofExcept (← call f h)

/-- The same bus, and in memory the packer that the other channel has. -/
structure InMemory (s : Channel β PackerMemory) (t : Channel β) : Prop where
  bus : s.bus = t.bus
  packer : s.packer.buffer.Models t.packer

theorem sharesBus_inMemory : SharesBus (InMemory (β := β)) where
  bus h := h.bus
  put _ h := ⟨rfl, h.packer⟩

namespace InMemory

variable {s : Channel β PackerMemory} {t : Channel β}

theorem reset (h : InMemory s t) :
    InMemory { s with packer := Resettable.reset s.packer } { t with packer := t.packer.reset } :=
  ⟨h.bus, h.packer.reset⟩

/-- A call that finds the packer `p` in memory. -/
theorem call (h : InMemory s t) {f : BitBuffer → Option (α × BitBuffer)} (hf : Answered f) {a : α}
    {b : BitBuffer} {p : Packer} (hcall : f s.packer.buffer = some (a, b)) (hmodels : b.Models p) :
    ∃ s', Channel.call f hf s = ⟨.ok a, s', []⟩ ∧ InMemory s' { t with packer := p } := by
  refine ⟨{ s with packer := ⟨b, p, hmodels⟩ }, ?_, h.bus, hmodels⟩
  rw [Channel.call, PackerMemory.answer_eq hf hcall hmodels]

end InMemory

end Channel

/-! ## Calls of the bus -/

namespace BitBuffer

theorem answered_of_stores {f : BitBuffer → Option (Except PanelError Unit × BitBuffer)}
    {g : Packer → Except PanelError Packer}
    (h : ∀ {b : BitBuffer} {p : Packer}, b.Models p → b.Stores (f b) (g p)) : Answered f := by
  intro b p hmodels
  obtain ⟨b', hstored, hmodels'⟩ := (h hmodels).exists_eq hmodels
  exact ⟨_, b', _, hstored, hmodels'⟩

theorem answered_storeBytes (bytes : Bytes) : Answered (·.storeBytes bytes) :=
  answered_of_stores fun h => h.storeBytes bytes

theorem answered_storeNineBit (bytes : Bytes) : Answered (·.storeNineBit bytes) :=
  answered_of_stores fun h => h.storeNineBit bytes

theorem answered_storeOnes (bits : Nat) : Answered (·.storeOnes bits) :=
  answered_of_stores fun h => h.storeOnes bits

theorem answered_frame : Answered frame := by
  intro b p h
  obtain ⟨b', hframe, hmodels⟩ := h.frame
  exact ⟨_, b', p, hframe, hmodels⟩

theorem answered_exchange (incoming : Bytes) : Answered (·.exchange incoming) := by
  intro b p h
  obtain ⟨b', hexchange, hmodels⟩ := h.exchange incoming
  exact ⟨_, b', _, hexchange, hmodels⟩

/-- Puts bytes into the window; there is nothing to tell. -/
def fill (start : Nat) (bytes : Bytes) (b : BitBuffer) : Option (Unit × BitBuffer) :=
  (b.receive start bytes).map fun b => ((), b)

theorem Models.fill {b : BitBuffer} {p : Packer} (h : b.Models p) (start : Nat) (bytes : Bytes) :
    ∃ b', b.fill start bytes = some ((), b') ∧ b'.Models (p.receive start bytes) := by
  obtain ⟨b', hreceive, hmodels⟩ := h.receive start bytes
  exact ⟨b', by rw [BitBuffer.fill, hreceive, Option.map_some], hmodels⟩

theorem answered_fill (start : Nat) (bytes : Bytes) : Answered (fill start bytes) := by
  intro b p h
  obtain ⟨b', hfill, hmodels⟩ := h.fill start bytes
  exact ⟨_, b', _, hfill, hmodels⟩

/-- Bytes out of the window, which stays as it is. -/
def take (start length : Nat) (b : BitBuffer) : Option (Except PanelError Bytes × BitBuffer) :=
  (b.extract start length).map fun bytes => (bytes, b)

theorem Models.take {b : BitBuffer} {p : Packer} (h : b.Models p) (start length : Nat) :
    b.take start length = some (p.readWindow start length, b) := by
  rw [BitBuffer.take, h.extract, Option.map_some]

theorem answered_take (start length : Nat) : Answered (take start length) :=
  fun b p h => ⟨_, b, p, h.take start length, h⟩

end BitBuffer

/-! ## The packer of waiting bits -/

namespace Packer

theorem receive_nil (p : Packer) (start : Nat) : p.receive start [] = p := by
  have hwindow : (p.receive start []).window = p.window := by
    ext i hi
    simp [receive]
  calc p.receive start [] = { p with window := (p.receive start []).window } := rfl
    _ = p := by rw [hwindow]

theorem capacity_lt_saturated (n : Nat) : capacity < Size.saturated n ↔ capacity < n := by
  have hcapacity : capacity < Size.max := by decide
  rw [Size.saturated]
  omega

/-- So many ones are refused all the same. -/
theorem pushOnes_saturated (p : Packer) (n : Nat) :
    p.pushOnes (Size.saturated n) = p.pushOnes n := by
  rw [pushOnes, pushOnes, fits_saturated]
  split
  · next hfits =>
    have hmax : 512 < Size.max := by decide
    have hroom := (fits_iff p n).mp hfits
    have hsame : Size.saturated n = n := Nat.min_eq_left (by omega)
    rw [hsame]
  · rfl

end Packer

theorem Channel.agree_storeInMemory {β : Type}
    {f : BitBuffer → Option (Except PanelError Unit × BitBuffer)}
    {g : Packer → Except PanelError Packer} (hf : Answered f)
    (h : ∀ {b : BitBuffer} {p : Packer}, b.Models p → b.Stores (f b) (g p)) :
    Agree InMemory (storeInMemory f hf : Action PanelError (Channel β PackerMemory) Unit)
      (store g) := by
  intro s t hst
  obtain ⟨b, hstored, hmodels⟩ := (h hst.packer).exists_eq hst.packer
  obtain ⟨s', hcall, hsame⟩ := hst.call hf hstored hmodels
  refine Action.alike_after hcall ?_
  rw [store]
  -- A refused store leaves the packer that was there.
  cases hg : g t.packer with
  | ok q =>
    rw [hg] at hsame
    exact ⟨rfl, rfl, hsame⟩
  | error e =>
    rw [hg] at hsame
    exact ⟨rfl, rfl, hsame⟩

/-! ## The SPI bus -/

namespace SpiBus.InMemory

open BitBuffer
open Channel (InMemory agree_storeInMemory call storeInMemory)

theorem agree_reset : Agree InMemory
    (Channel.reset : Action PanelError (Channel SpiBus PackerMemory) Unit) Channel.reset :=
  fun _ _ h => ⟨rfl, rfl, h.reset⟩

theorem alike_emptying {α : Type} {x : Action PanelError (Channel SpiBus PackerMemory) α}
    {y : Action PanelError (Channel SpiBus) α} {s : Channel SpiBus PackerMemory}
    {t : Channel SpiBus} (h : (x s).Alike InMemory (y t)) :
    (emptying x s).Alike InMemory (emptying y t) :=
  ⟨h.result, h.events, h.state.reset⟩

def flush : Action PanelError (Channel SpiBus PackerMemory) Unit := do
  if (← Action.state).packer.buffer.isEmpty then pure ()
  else emptying do sendFrame (← call frame answered_frame)

theorem agree_flush : Agree InMemory flush SpiBus.flush := by
  intro s t h
  simp only [flush, SpiBus.flush, Action.state_bind, h.packer.isEmpty]
  cases t.packer.isEmpty with
  | true => exact ⟨rfl, rfl, h⟩
  | false =>
    obtain ⟨b, hframe, hmodels⟩ := h.packer.frame
    obtain ⟨s', hcall, hsame⟩ := h.call answered_frame hframe hmodels
    exact alike_emptying
      (Action.alike_after hcall (Channel.sharesBus_inMemory.onBus _ hsame))

/-- Sends the frame, and lets the device fill as much of the window. -/
def exchange : Action PanelError (Channel SpiBus PackerMemory) Unit := do
  let (sent, window) ← call (·.exchange []) (answered_exchange [])
  let bus := (← Action.state).bus
  let o := (SpiDevice.transfer sent).mapError transferError (bus.device, window)
  call (fill 0 o.state.2) (answered_fill 0 o.state.2)
  fun channel => ⟨o.result, { channel with bus := { bus with device := o.state.1 } }, o.events⟩

theorem agree_exchange : Agree InMemory exchange SpiBus.exchange := by
  intro s t h
  obtain ⟨b, hexchange, hmodels⟩ := h.packer.exchange []
  rw [List.take_nil, Packer.receive_nil] at hexchange hmodels
  obtain ⟨⟨bus, memory⟩, hcall, hbus, hpacker⟩ := h.call (answered_exchange []) hexchange hmodels
  subst hbus
  refine Action.alike_after hcall ?_
  simp only [Action.state_bind]
  let o := (SpiDevice.transfer t.packer.frame).mapError transferError
    (t.bus.device, t.packer.received)
  have hsame : InMemory ⟨t.bus, memory⟩ t := ⟨rfl, hpacker⟩
  obtain ⟨b', hfill, hfilled⟩ := hpacker.fill 0 o.state.2
  obtain ⟨s', hreceive, hsame'⟩ := hsame.call (answered_fill 0 o.state.2) hfill hfilled
  exact Action.alike_after hreceive ⟨rfl, rfl, rfl, hsame'.packer⟩

def transfer (start length : Nat) : Action PanelError (Channel SpiBus PackerMemory) Bytes :=
  emptying do
    exchange
    Action.ofExcept (← call (take start length) (answered_take start length))

theorem agree_transfer (start length : Nat) :
    Agree InMemory (transfer start length) (SpiBus.transfer start length) := by
  intro s t h
  refine alike_emptying (agree_exchange.bind (fun _ s t h => ?_) h)
  have htake := h.packer.take start length
  obtain ⟨s', hcall, hsame⟩ := h.call (answered_take start length) htake h.packer
  exact Action.alike_after hcall ⟨rfl, rfl, hsame⟩

def write (payload : Bytes) : Action PanelError (Channel SpiBus PackerMemory) Unit := do
  let channel ← Action.state
  let bits := Size.saturated (payload.length * Packer.nineBitWidth)
  if channel.bus.config.nineBit then
    if channel.packer.buffer.fits bits then
      storeInMemory (·.storeNineBit payload) (answered_storeNineBit payload)
    else do
      flush
      if Packer.capacity < bits then Action.fail .overflow
      else storeInMemory (·.storeNineBit payload) (answered_storeNineBit payload)
  else if Packer.windowBytes < payload.length then Action.fail .overflow
  else do
    Channel.reset
    storeInMemory (·.storeBytes payload) (answered_storeBytes payload)
    flush

theorem agree_storeNineBit (bytes : Bytes) :
    Agree InMemory (storeInMemory (·.storeNineBit bytes) (answered_storeNineBit bytes))
      (Channel.store (·.pushNineBit bytes) : Action PanelError (Channel SpiBus) Unit) :=
  agree_storeInMemory _ fun h => h.storeNineBit bytes

theorem agree_storeBytes (bytes : Bytes) :
    Agree InMemory (storeInMemory (·.storeBytes bytes) (answered_storeBytes bytes))
      (Channel.store (·.pushBytes bytes) : Action PanelError (Channel SpiBus) Unit) :=
  agree_storeInMemory _ fun h => h.storeBytes bytes

theorem agree_write (payload : Bytes) : Agree InMemory (write payload) (SpiBus.write payload) := by
  intro s t h
  have hbits : payload.length * Packer.nineBitWidth = 9 * payload.length := Nat.mul_comm _ _
  simp only [write, SpiBus.write, Action.state_bind, h.bus, h.packer.fits, hbits,
    Packer.fits_saturated, Packer.capacity_lt_saturated]
  cases t.bus.config.nineBit with
  | true =>
    cases t.packer.fits (9 * payload.length) with
    | true => exact agree_storeNineBit payload h
    | false =>
      refine agree_flush.bind (fun _ => ?_) h
      by_cases hlong : Packer.capacity < 9 * payload.length
      · simp only [hlong, ↓reduceIte]
        exact Agree.fail _
      · simp only [hlong, ↓reduceIte]
        exact agree_storeNineBit payload
  | false =>
    by_cases hlong : Packer.windowBytes < payload.length
    · simp only [hlong, Bool.false_eq_true, ↓reduceIte]
      exact Agree.fail _ h
    · simp only [hlong, Bool.false_eq_true, ↓reduceIte]
      refine agree_reset.bind (fun _ => ?_) h
      exact (agree_storeBytes payload).bind fun _ => agree_flush

/-- Puts the command into an empty packer. -/
def storeCommand (command : Bytes) : Action PanelError (Channel SpiBus PackerMemory) Unit := do
  if (← Action.state).bus.config.nineBit then
    flush
    storeInMemory (·.storeNineBit command) (answered_storeNineBit command)
  else
    Channel.reset
    storeInMemory (·.storeBytes command) (answered_storeBytes command)

theorem agree_storeCommand (command : Bytes) :
    Agree InMemory (storeCommand command) (SpiBus.storeCommand command) := by
  intro s t h
  simp only [storeCommand, SpiBus.storeCommand, Action.state_bind, h.bus]
  cases t.bus.config.nineBit with
  | true => exact agree_flush.bind (fun _ => agree_storeNineBit command) h
  | false => exact agree_reset.bind (fun _ => agree_storeBytes command) h

/-- The bytes that answer a command. -/
def query (command : Bytes) (length : Nat) :
    Action PanelError (Channel SpiBus PackerMemory) Bytes := do
  storeCommand command
  let start := (← Action.state).packer.buffer.cursor
  let bits := Size.saturated (length * 8)
  (storeInMemory (·.storeOnes bits) (answered_storeOnes bits)).orElse fun e => do
    Channel.reset
    Action.fail e
  transfer start length

theorem agree_query (command : Bytes) (length : Nat) :
    Agree InMemory (query command length) (SpiBus.query command length) := by
  refine (agree_storeCommand command).bind fun _ s t h => ?_
  have hones : Agree InMemory
      (storeInMemory (·.storeOnes (Size.saturated (length * 8))) (answered_storeOnes _))
      (Channel.store (·.pushOnes (8 * length)) : Action PanelError (Channel SpiBus) Unit) := by
    refine agree_storeInMemory _ fun {b p} h => ?_
    have hstores := h.storeOnes (Size.saturated (length * 8))
    rw [Packer.pushOnes_saturated] at hstores
    rwa [Nat.mul_comm 8 length]
  simp only [Action.state_bind, h.packer.cursor]
  refine Agree.bind (hones.orElse fun e => ?_) (fun _ => agree_transfer _ length) h
  exact agree_reset.bind fun _ => Agree.fail e

instance : SidebandBus SpiBus PackerMemory where
  kind := .spi
  begin := pure ()
  write payload _ := write payload
  read command _ := intoBuffer (query command)
  setReturnSize _ := pure ()
  flush := flush

theorem parallel : Parallel (InMemory (β := SpiBus)) where
  begin := Agree.pure ()
  write payload _ := agree_write payload
  readBack command generic length := by
    intro s t h
    rw [readBack_of_read rfl, readBack_eq_query]
    exact agree_query command length h
  setReturnSize _ := Agree.pure ()
  flush := agree_flush

end SpiBus.InMemory

/-! ## Runs -/

/-- Where a buffer holds the waiting bits and the window of a packer, whatever else is in it, a
program does what it does with the packer, and leaves the bits and the window that it leaves
there. -/
theorem SpiBus.run_in_memory (bus : SpiBus) {memory : PackerMemory} {p : Packer}
    (h : memory.buffer.Models p) (ctx : Context) (program : Program) :
    let o := program.run ctx (⟨bus, memory⟩ : Channel SpiBus PackerMemory)
    let o' := program.run ctx (⟨bus, p⟩ : Channel SpiBus)
    o.result = o'.result ∧ o.events = o'.events ∧ o.state.bus = o'.state.bus ∧
      o.state.packer.buffer.Models o'.state.packer := by
  intro o o'
  have hrun : o.Alike Channel.InMemory o' := InMemory.parallel.run
    (fun _ _ h => h.reset) (fun _ _ h => h) ctx program ⟨rfl, h⟩
  exact ⟨hrun.result, hrun.events, hrun.state.bus, hrun.state.packer⟩

namespace Sideband

/-- The same buses, and in memory the packer that the other ones share. -/
structure InMemory (s : Sideband PackerMemory) (t : Sideband) : Prop where
  buses : s.buses = t.buses
  packer : s.packer.buffer.Models t.packer

theorem agree_runOn_inMemory {β : Type} [SidebandBus β PackerMemory] [SidebandBus β]
    (law : Parallel (Channel.InMemory (β := β))) (bus? : Buses → Option β)
    (put : β → Buses → Buses) (ctx : Context) (program : Program) :
    Agree InMemory (runOn bus? put ctx program) (runOn bus? put ctx program) := by
  rintro ⟨buses, memory⟩ ⟨_, p⟩ ⟨rfl, hpacker⟩
  simp only [runOn, Action.onSome]
  cases bus? buses with
  | none => exact ⟨rfl, rfl, rfl, hpacker⟩
  | some bus =>
    have hstart : Channel.InMemory ⟨bus, memory⟩ ⟨bus, p⟩ := ⟨rfl, hpacker⟩
    have hrun := law.run (fun _ _ h => h.reset) (fun _ _ h => h) ctx program hstart
    exact ⟨hrun.result, hrun.events, congrArg (put · buses) hrun.state.bus, hrun.state.packer⟩

theorem agree_run_inMemory (ctx : Context) (programs : BusPrograms) :
    Agree InMemory (runInOrder ctx programs) (run ctx programs) := by
  refine Agree.bind (agree_runOn_inMemory ?_ _ _ ctx programs.i2c) fun _ => ?_
  · exact I2cBus.parallel Channel.sharesBus_inMemory
  refine Agree.bind (agree_runOn_inMemory ?_ _ _ ctx programs.mipi) fun _ => ?_
  · exact MipiBus.parallel Channel.sharesBus_inMemory
  exact agree_runOn_inMemory SpiBus.InMemory.parallel _ _ ctx programs.spi

end Sideband

/-- However many runs share the packer in memory: each of them has the result and the events of the
run that shares a packer of waiting bits, and the buses are left in the same states. -/
theorem runs_in_memory (buses : Buses) {memory : PackerMemory} {p : Packer}
    (h : memory.buffer.Models p) (jobs : List Job) :
    let inMemory := runs Sideband.runInOrder jobs (⟨buses, memory⟩ : Sideband PackerMemory)
    let waiting := runs Sideband.run jobs ⟨buses, p⟩
    inMemory.1 = waiting.1 ∧ inMemory.2.buses = waiting.2.buses ∧
      inMemory.2.packer.buffer.Models waiting.2.packer := by
  intro inMemory waiting
  obtain ⟨hresults, hlast⟩ :=
    runs_agree Sideband.agree_run_inMemory jobs (s := ⟨buses, memory⟩) (t := ⟨buses, p⟩) ⟨rfl, h⟩
  exact ⟨hresults, hlast.buses, hlast.packer⟩

/-- The ones that fill up a frame are written over the zeros that an older one has left. -/
example :
    let buses : Buses := { spi := some ⟨.scripted {}, { nineBit := true }⟩ }
    let job (bytes : Bytes) : Job := (.ofLanes 4, { spi := ⟨bytes⟩ })
    (runs Sideband.runInOrder [job [0x02, 0x2c, 0x00], job [0x01, 0x29]]
      (⟨buses, .new⟩ : Sideband PackerMemory)).1.map Prod.snd =
        [[.spiWrite [0x16, 0x40, 0x3f]], [.spiWrite [0x14, 0xff]]] := by
  decide +kernel

end PanelDriver
