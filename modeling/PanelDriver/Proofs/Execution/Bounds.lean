import PanelDriver.Proofs.Execution.Requests

/-!
What a run may record, and how it may fail. Whatever the devices answer, a program drives no pin,
supply or backlight; it fails with the defect that the program has, with more bytes than the bus
takes, with a mismatch, or with a fault of its own bus (`Confined.run`). Whole bytes are stored in
an empty packer only, so they are never out of line. A run on several buses ends with the first
error, on the bus whose program was running (`exists_stopsAt`).
-/

namespace PanelDriver

/-- A call on a pin, the supply or the backlight. -/
def Event.isControl : Event → Bool
  | .pin _ _ | .supply _ | .backlight _ => true
  | _ => false

def Event.Quiet (e : Event) : Prop := e.isControl = false

/-- All events satisfy `p`, and so does an error `q`. -/
structure Outcome.Within {ε σ α : Type} (p : Event → Prop) (q : ε → Prop) (o : Outcome ε σ α) :
    Prop where
  events : ∀ e ∈ o.events, p e
  error : ∀ e, o.result = .error e → q e

namespace Action

variable {ε φ σ τ α β : Type} {p : Event → Prop} {q r : ε → Prop}

/-- From every state. -/
def Within (p : Event → Prop) (q : ε → Prop) (x : Action ε σ α) : Prop := ∀ s, (x s).Within p q

theorem within_bind {x : Action ε σ α} {f : α → Action ε σ β} {s : σ} (h : (x s).Within p q)
    (hf : ∀ a s', (f a s').Within p q) : ((x >>= f) s).Within p q := by
  rcases hx : x s with ⟨e | a, s', first⟩
  · rw [bind_error hx]
    rw [hx] at h
    exact ⟨h.events, fun e' he => h.error e' (congrArg Except.error (Except.error.inj he))⟩
  · rw [bind_ok hx]
    rw [hx] at h
    have hrest := hf a s'
    refine ⟨fun e he => ?_, hrest.error⟩
    rcases List.mem_append.mp he with he | he
    · exact h.events e he
    · exact hrest.events e he

namespace Within

theorem pure (a : α) : Within p q (Pure.pure a : Action ε σ α) := fun _ => ⟨by simp, by simp⟩

theorem fail {e : ε} (h : q e) : Within p q (Action.fail e : Action ε σ α) := fun _ =>
  ⟨by simp [Action.fail], fun e' he => Except.error.inj he ▸ h⟩

theorem delayMs (ms : UInt32) :
    Within Event.Quiet q (Action.record (.delayMs ms) : Action ε σ Unit) := fun _ =>
  ⟨by simp [Action.record, Event.Quiet, Event.isControl], by simp [Action.record]⟩

theorem ofExcept {a : Except ε α} (h : ∀ e, a = .error e → q e) :
    Within p q (Action.ofExcept a : Action ε σ α) := fun _ => ⟨by simp [Action.ofExcept], h⟩

theorem bind {x : Action ε σ α} {f : α → Action ε σ β} (h : Within p q x)
    (hf : ∀ a, Within p q (f a)) : Within p q (x >>= f) := fun s => within_bind (h s) hf

theorem state {f : σ → Action ε σ α} (h : ∀ s, (f s s).Within p q) :
    Within p q (Action.state >>= f) := h

theorem orElse {q : φ → Prop} {x : Action ε σ α} {f : ε → Action φ σ α} (h : Within p r x)
    (hf : ∀ e, r e → Within p q (f e)) : Within p q (x.orElse f) := by
  intro s
  have hs := h s
  rcases hx : x s with ⟨e | a, s', first⟩
  · rw [orElse_error hx]
    rw [hx] at hs
    have hrest := hf e (hs.error e rfl) s'
    refine ⟨fun e he => ?_, hrest.error⟩
    rcases List.mem_append.mp he with he | he
    · exact hs.events e he
    · exact hrest.events e he
  · rw [orElse_ok hx]
    rw [hx] at hs
    exact ⟨hs.events, by simp⟩

theorem mapError {q : φ → Prop} {x : Action ε σ α} {f : ε → φ} (h : Within p r x)
    (hf : ∀ e, r e → q (f e)) : Within p q (x.mapError f) :=
  h.orElse fun e he => Within.fail (hf e he)

theorem on {x : Action ε σ α} (h : Within p q x) (part : τ → σ) (put : σ → τ → τ) :
    Within p q (x.on part put) := fun t => ⟨(h (part t)).events, (h (part t)).error⟩

theorem onSome {x : Action ε σ Unit} (h : Within p q x) (part : τ → Option σ)
    (put : σ → τ → τ) : Within p q (x.onSome part put) := by
  intro t
  simp only [Action.onSome]
  cases part t with
  | none => exact ⟨by simp, by simp⟩
  | some s => exact ⟨(h s).events, (h s).error⟩

theorem mono {x : Action ε σ α} (h : Within p r x) (hr : ∀ e, r e → q e) : Within p q x :=
  fun s => ⟨(h s).events, fun e he => hr e ((h s).error e he)⟩

end Within

end Action

open PanelDriver.Action (Within)

/-! ## Buses -/

/-- How a call on a bus may fail. -/
def BusKind.Error (kind : BusKind) (e : PanelError) : Prop :=
  e = .overflow ∨ ∃ fault : BusFault, fault.bus = kind ∧ e = .transfer fault

theorem BusKind.Error.ne_mismatch {kind : BusKind} {e : PanelError} (h : kind.Error e) :
    e ≠ .mismatch := by
  rintro rfl
  rcases h with h | ⟨fault, -, h⟩ <;> cases h

/-- The calls on a bus record what goes over its wires, and fail with its own faults. -/
structure Confined (β : Type) [SidebandBus β] : Prop where
  begin : Within Event.Quiet (SidebandBus.kind β).Error
    (SidebandBus.begin : Action PanelError (Channel β) Unit)
  write : ∀ payload generic, Within Event.Quiet (SidebandBus.kind β).Error
    (SidebandBus.write payload generic : Action PanelError (Channel β) Unit)
  read : ∀ command generic, Within Event.Quiet (SidebandBus.kind β).Error
    (SidebandBus.read command generic : Action PanelError (Channel β × Bytes) Unit)
  setReturnSize : ∀ size, Within Event.Quiet (SidebandBus.kind β).Error
    (SidebandBus.setReturnSize size : Action PanelError (Channel β) Unit)
  flush : Within Event.Quiet (SidebandBus.kind β).Error
    (SidebandBus.flush : Action PanelError (Channel β) Unit)

namespace Channel

variable {ε β : Type} {p : Event → Prop} {q : ε → Prop}

theorem within_store {f : Packer → Except ε Packer} {channel : Channel β}
    (h : ∀ e, f channel.packer = .error e → q e) : (store f channel).Within p q := by
  simp only [store]
  cases hf : f channel.packer with
  | error e =>
    refine ⟨by simp, fun e' he => ?_⟩
    rw [← Except.error.inj he]
    exact h e hf
  | ok packer => exact ⟨by simp, by simp⟩

theorem within_onBus {α : Type} {x : Action ε β α} (h : Within p q x) :
    Within p q (onBus x : Action ε (Channel β) α) := h.on _ _

theorem within_onBusAndBuffer {α : Type} {x : Action ε (β × Bytes) α} (h : Within p q x) :
    Within p q (onBusAndBuffer x : Action ε (Channel β × Bytes) α) := h.on _ _

theorem within_reset : Within p q (reset : Action ε (Channel β) Unit) := fun _ =>
  ⟨by simp [reset, Action.update], by simp [reset, Action.update]⟩

end Channel

/-! ### I2C -/

namespace I2cBus

theorem within_send (address : UInt8) (data : Bytes) :
    Within Event.Quiet (fun _ => True) (I2cMaster.write address data) := by
  rintro (_ | script)
  · exact ⟨by simp [I2cMaster.write], by simp⟩
  · exact ⟨by simp [I2cMaster.write, I2cScript.write, Event.Quiet, Event.isControl], by simp⟩

theorem within_query (address : UInt8) (data : Bytes) :
    Within Event.Quiet (fun _ => True) (I2cMaster.writeRead address data) := by
  rintro ⟨_ | script, buffer⟩
  · exact ⟨by simp [I2cMaster.writeRead], by simp⟩
  · exact ⟨by simp [I2cMaster.writeRead, I2cScript.writeRead, Event.Quiet, Event.isControl],
      by simp⟩

theorem within_retrying {σ : Type} {x : Action I2cFault σ Unit}
    (h : Within Event.Quiet (fun _ => True) x) :
    Within Event.Quiet BusKind.i2c.Error (retrying x) := by
  have hagain : Within Event.Quiet BusKind.i2c.Error
      (x.mapError fun fault => PanelError.transfer (.i2c fault)) :=
    h.mapError fun fault _ => .inr ⟨.i2c fault, rfl, rfl⟩
  exact h.orElse fun _ _ => (Within.delayMs retryDelayMs).bind fun _ => hagain

theorem error_of_wire {payload : Bytes} {e : PanelError} (h : wire payload = .error e) :
    BusKind.i2c.Error e := by
  unfold wire at h
  split at h
  · cases h
  · exact .inl (Except.error.inj h).symm

theorem within_write (payload : Bytes) :
    Within Event.Quiet BusKind.i2c.Error (I2cBus.write payload) := by
  refine (Within.ofExcept fun _ => error_of_wire).bind fun bytes => Within.state fun bus => ?_
  exact within_retrying ((within_send _ bytes).on _ _) bus

theorem within_read (command : Bytes) :
    Within Event.Quiet BusKind.i2c.Error (I2cBus.read command) := by
  refine Within.state fun s => ?_
  obtain ⟨bus, buffer⟩ := s
  simp only
  have hrest : Within Event.Quiet BusKind.i2c.Error (Action.ofExcept (wire command) >>=
      fun bytes => retrying ((I2cMaster.writeRead bus.config.address bytes).on
        (fun (s : I2cBus × Bytes) => (s.1.master, s.2))
        fun (o : I2cMaster × Bytes) s => ({ s.1 with master := o.1 }, o.2))) :=
    (Within.ofExcept fun _ => error_of_wire).bind fun bytes =>
      within_retrying ((within_query _ bytes).on _ _)
  split
  · exact Action.within_bind (Within.fail (.inl rfl) _) fun _ => hrest
  · exact hrest _

theorem confined : Confined I2cBus where
  begin := Within.pure ()
  write payload _ := Channel.within_onBus (within_write payload)
  read command _ := Channel.within_onBusAndBuffer (within_read command)
  setReturnSize _ := Within.pure ()
  flush := Within.pure ()

end I2cBus

/-! ### MIPI -/

namespace MipiBus

theorem within_onScript {ε : Type} {q : ε → Prop} {x : Action ε DsiScript Unit}
    (h : Within Event.Quiet q x) : Within Event.Quiet q (DsiHost.onScript x) := by
  rintro (_ | script)
  · exact ⟨by simp [DsiHost.onScript], by simp [DsiHost.onScript]⟩
  · exact ⟨(h script).events, (h script).error⟩

theorem within_onHost {x : Action PanelError DsiHost Unit}
    (h : Within Event.Quiet BusKind.mipi.Error x) :
    Within Event.Quiet BusKind.mipi.Error (onHost x) := h.on _ _

theorem error_transfer (fault : DsiFault) : BusKind.mipi.Error (transferError fault) :=
  .inr ⟨.dsi fault, rfl, rfl⟩

theorem within_send (generic : Bool) (data : Bytes) :
    Within Event.Quiet (fun _ => True) (DsiHost.write generic data) := by
  refine within_onScript fun script => ⟨?_, by simp⟩
  cases generic <;> simp [DsiScript.write, Event.Quiet, Event.isControl]

theorem within_limit (size : UInt16) :
    Within Event.Quiet (fun _ => True) (DsiHost.setReturnSize size) :=
  within_onScript fun _ =>
    ⟨by simp [DsiScript.setReturnSize, Event.Quiet, Event.isControl], by simp⟩

theorem within_lowPower (on : Bool) : Within Event.Quiet BusKind.mipi.Error
    (DsiHost.setLowPower on : Action PanelError DsiHost Unit) :=
  within_onScript fun _ => ⟨by simp [DsiScript.setLowPower, Event.Quiet, Event.isControl],
    by simp [DsiScript.setLowPower]⟩

theorem within_readOnce (command : Bytes) (generic : Bool) :
    Within Event.Quiet (fun _ => True) (readOnce command generic) := by
  unfold readOnce
  rintro ⟨_ | script, buffer⟩
  · cases generic <;>
      exact ⟨by simp [DsiHost.dcsRead, DsiHost.genericRead, DsiHost.readWith], by simp⟩
  · cases generic <;>
      exact ⟨by simp [DsiHost.dcsRead, DsiHost.genericRead, DsiHost.readWith, DsiScript.dcsRead,
        DsiScript.genericRead, DsiScript.answer, Event.Quiet, Event.isControl], by simp⟩

theorem within_readHost (command : Bytes) (generic : Bool) :
    Within Event.Quiet BusKind.mipi.Error (readHost command generic) := by
  refine (within_readOnce command generic).orElse fun fault _ => ?_
  cases fault with
  | protocol =>
    refine (within_readOnce command generic).orElse fun fault _ => ?_
    cases fault with
    | protocol => exact Within.pure ()
    | timeout | other => exact Within.fail (error_transfer _)
  | timeout | other => exact Within.fail (error_transfer _)

theorem confined : Confined MipiBus where
  begin := Channel.within_onBus (within_onHost (within_lowPower true))
  write payload generic := Channel.within_onBus
    (within_onHost ((within_send generic payload).mapError fun fault _ => error_transfer fault))
  read command generic := Channel.within_onBusAndBuffer ((within_readHost command generic).on _ _)
  setReturnSize _ := Channel.within_onBus
    (within_onHost ((within_limit _).mapError fun fault _ => error_transfer fault))
  flush := Within.pure ()

end MipiBus

/-! ### SPI -/

namespace SpiBus

theorem error_transfer (fault : SpiFault) : BusKind.spi.Error (transferError fault) :=
  .inr ⟨.spi fault, rfl, rfl⟩

theorem within_sendFrame (frame : Bytes) :
    Within Event.Quiet BusKind.spi.Error
      (sendFrame frame : Action PanelError (Channel SpiBus) Unit) := by
  have hwrite : Within Event.Quiet (fun _ => True) (SpiDevice.write frame) := by
    rintro (_ | script)
    · exact ⟨by simp [SpiDevice.write], by simp⟩
    · exact ⟨by simp [SpiDevice.write, SpiScript.write, Event.Quiet, Event.isControl], by simp⟩
  exact Channel.within_onBus ((hwrite.mapError fun fault _ => error_transfer fault).on _ _)

theorem within_emptying {α : Type} {x : Action PanelError (Channel SpiBus) α}
    (h : Within Event.Quiet BusKind.spi.Error x) :
    Within Event.Quiet BusKind.spi.Error (emptying x) := fun s => ⟨(h s).events, (h s).error⟩

theorem within_flush : Within Event.Quiet BusKind.spi.Error flush := by
  intro channel
  simp only [flush]
  split
  · exact ⟨by simp, by simp⟩
  · exact within_emptying (within_sendFrame _) channel

theorem within_exchange : Within Event.Quiet BusKind.spi.Error exchange := by
  have htransfer (sent : Bytes) : Within Event.Quiet (fun _ => True) (SpiDevice.transfer sent) := by
    rintro ⟨_ | script, window⟩
    · exact ⟨by simp [SpiDevice.transfer], by simp⟩
    · exact ⟨by simp [SpiDevice.transfer, SpiScript.transfer, Event.Quiet, Event.isControl],
        by simp⟩
  intro channel
  have h := (htransfer channel.packer.frame).mapError
    (fun fault _ => error_transfer fault) (channel.bus.device, channel.packer.received)
  exact ⟨h.events, h.error⟩

theorem error_of_store {p : Packer} {bits : List Bool} {e : PanelError}
    (h : p.store bits = .error e) : BusKind.spi.Error e := by
  unfold Packer.store at h
  split at h
  · cases h
  · exact .inl (Except.error.inj h).symm

theorem within_pushNineBit (bytes : Bytes) : Within Event.Quiet BusKind.spi.Error
    (Channel.store (·.pushNineBit bytes) : Action PanelError (Channel SpiBus) Unit) := fun _ =>
  Channel.within_store fun _ => error_of_store

/-- In an empty packer whole bytes are in line. -/
theorem within_reset_pushBytes (bytes : Bytes) (channel : Channel SpiBus) :
    ((Channel.store (·.pushBytes bytes) : Action PanelError (Channel SpiBus) Unit)
      { channel with packer := channel.packer.reset }).Within Event.Quiet BusKind.spi.Error := by
  refine Channel.within_store fun e he => ?_
  simp only [Packer.pushBytes, Packer.cursor_reset, Nat.zero_mod, ↓reduceIte] at he
  exact error_of_store he

theorem within_write (payload : Bytes) : Within Event.Quiet BusKind.spi.Error (write payload) := by
  refine Within.state fun channel => ?_
  split
  · split
    · exact within_pushNineBit payload channel
    · refine within_flush.bind (fun _ => ?_) channel
      split
      · exact Within.fail (.inl rfl)
      · exact within_pushNineBit payload
  · split
    · exact Within.fail (.inl rfl) channel
    · have hstore := within_reset_pushBytes payload channel
      simp only [Channel.reset_bind]
      exact Action.within_bind hstore fun _ => within_flush

theorem within_storeCommand (command : Bytes) :
    Within Event.Quiet BusKind.spi.Error (storeCommand command) := by
  refine Within.state fun channel => ?_
  split
  · exact within_flush.bind (fun _ => within_pushNineBit command) channel
  · exact within_reset_pushBytes command channel

theorem within_transfer (start length : Nat) :
    Within Event.Quiet BusKind.spi.Error (transfer start length) := by
  refine within_emptying (within_exchange.bind fun _ => Within.state fun channel => ?_)
  refine Within.ofExcept (fun e he => ?_) channel
  unfold Packer.readWindow at he
  split at he
  · cases he
  · exact .inl (Except.error.inj he).symm

theorem within_query (command : Bytes) (length : Nat) :
    Within Event.Quiet BusKind.spi.Error (query command length) := by
  have hones : Within Event.Quiet BusKind.spi.Error
      (Channel.store (·.pushOnes (8 * length)) : Action PanelError (Channel SpiBus) Unit) := by
    refine fun channel => Channel.within_store fun e he => ?_
    unfold Packer.pushOnes at he
    split at he
    · cases he
    · exact .inl (Except.error.inj he).symm
  refine (within_storeCommand command).bind fun _ => Within.state fun channel => ?_
  refine (hones.orElse fun e he => ?_).bind (fun _ => within_transfer _ length) channel
  exact Channel.within_reset.bind fun _ => Within.fail he

theorem within_read (command : Bytes) :
    Within Event.Quiet BusKind.spi.Error (read command) := by
  rintro ⟨channel, buffer⟩
  have h := within_query command buffer.length channel
  simp only [read, intoBuffer]
  rcases hq : query command buffer.length channel with ⟨e | reply, channel', events⟩
  · rw [hq] at h
    exact ⟨h.events, fun e' he => h.error e' (congrArg Except.error (Except.error.inj he))⟩
  · rw [hq] at h
    exact ⟨h.events, by simp⟩

theorem confined : Confined SpiBus where
  begin := Within.pure ()
  write payload _ := within_write payload
  read command _ := within_read command
  setReturnSize _ := Within.pure ()
  flush := within_flush

end SpiBus

/-! ## Runs -/

/-- How a run of a program may fail that has this defect or none. -/
def RunError (kind : BusKind) (defect : Option PanelError) (e : PanelError) : Prop :=
  kind.Error e ∨ e = .mismatch ∨ defect = some e

namespace Confined

variable {β : Type} [SidebandBus β]

theorem readBack (law : Confined β) (command : Bytes) (generic : Bool) (length : Nat) :
    Within Event.Quiet (SidebandBus.kind β).Error
      (Channel.readBack command generic length : Action PanelError (Channel β) Bytes) := by
  intro channel
  have h := law.read command generic (channel, Bytes.zeros length)
  refine ⟨h.events, fun e he => h.error e ?_⟩
  simp only [Channel.readBack] at he
  rcases hr : (SidebandBus.read command generic (channel, Bytes.zeros length)).result with e' | _
  · rw [hr] at he
    exact congrArg Except.error (Except.error.inj he)
  · rw [hr] at he
    cases he

theorem serve (law : Confined β) (request : Request) :
    Within Event.Quiet (SidebandBus.kind β).Error
      (PanelDriver.serve request : Action PanelError (Channel β) Bool) := by
  cases request with
  | send generic payload =>
    refine Within.bind ?_ fun _ => Within.pure false
    cases payload with
    | nil => exact Within.pure ()
    | cons b data => exact law.write (b :: data) generic
  | wait ms =>
    refine law.flush.bind fun _ => ?_
    exact (Within.delayMs _).bind fun _ => Within.pure false
  | limit size => exact (law.setReturnSize size).bind fun _ => Within.pure false
  | ask query expected =>
    exact (law.readBack query.bytes query.isGeneric expected.length).bind fun _ => Within.pure _

theorem serveAll (law : Confined β) (asked : List Request) (mismatch : Bool) :
    Within Event.Quiet (SidebandBus.kind β).Error
      (PanelDriver.serveAll mismatch asked : Action PanelError (Channel β) Bool) := by
  induction asked generalizing mismatch with
  | nil => exact Within.pure mismatch
  | cons request rest ih => exact (law.serve request).bind fun found => ih (mismatch || found)

theorem serveUntil (law : Confined β) (asked : List Request) (defect : Option PanelError) :
    Within Event.Quiet (fun e => (SidebandBus.kind β).Error e ∨ defect = some e)
      (PanelDriver.serveUntil false asked defect : Action PanelError (Channel β) Bool) := by
  refine ((law.serveAll asked false).mono fun _ he => .inl he).bind fun mismatch => ?_
  cases defect with
  | none => exact Within.pure mismatch
  | some e => exact Within.fail (.inr rfl)

theorem attend (law : Confined β) (asked : List Request) (defect : Option PanelError) :
    Within Event.Quiet (fun e => (SidebandBus.kind β).Error e ∨ defect = some e)
      (PanelDriver.attend asked defect : Action PanelError (Channel β) Bool) := by
  refine Channel.within_reset.bind fun _ => ?_
  refine (law.begin.mono fun _ he => .inl he).bind fun _ => ?_
  have hserve := law.serveUntil asked defect
  refine (hserve.orElse fun e he => Channel.within_reset.bind fun _ => Within.fail he).bind
    fun mismatch => ?_
  exact (law.flush.mono fun _ he => .inl he).bind fun _ => Within.pure mismatch

theorem run (law : Confined β) (ctx : Context) (program : Program) :
    Within Event.Quiet (RunError (SidebandBus.kind β) (defect? program.items))
      (program.run ctx : Action PanelError (Channel β) Unit) := by
  rw [run_eq_conduct]
  split
  · exact Within.pure ()
  · rw [conduct_eq_attend]
    have hattend := law.attend (program.requests ctx) (defect? program.items)
    refine (hattend.mono fun _ he => he.imp_right .inr).bind fun mismatch => ?_
    cases mismatch with
    | true => exact Within.fail (.inr (.inl rfl))
    | false => exact Within.pure ()

end Confined

/-! ## Runs on several buses -/

/-- The order in which the buses of a panel run. -/
def BusKind.order : List BusKind := [.i2c, .mipi, .spi]

def BusPrograms.on (programs : BusPrograms) : BusKind → Program
  | .i2c => programs.i2c
  | .mipi => programs.mipi
  | .spi => programs.spi

namespace Sideband

def runBus (ctx : Context) (programs : BusPrograms) : BusKind → Action PanelError Sideband Unit
  | .i2c => runOn (·.i2c) (fun bus buses => { buses with i2c := some bus }) ctx programs.i2c
  | .mipi => runOn (·.mipi) (fun bus buses => { buses with mipi := some bus }) ctx programs.mipi
  | .spi => runOn (·.spi) (fun bus buses => { buses with spi := some bus }) ctx programs.spi

/-- The programs of some of the buses, one after another. -/
def runBuses (ctx : Context) (programs : BusPrograms) :
    List BusKind → Action PanelError Sideband Unit
  | [] => pure ()
  | kind :: rest => do
    runBus ctx programs kind
    runBuses ctx programs rest

theorem run_eq_runBuses (ctx : Context) (programs : BusPrograms) :
    run ctx programs = runBuses ctx programs BusKind.order := by
  simp only [run, runInOrder, runBuses, runBus, BusKind.order, bind_pure_unit]

theorem within_runOn {β : Type} [SidebandBus β] (law : Confined β) (bus? : Buses → Option β)
    (put : β → Buses → Buses) (ctx : Context) (program : Program) :
    Within Event.Quiet (RunError (SidebandBus.kind β) (defect? program.items))
      (runOn bus? put ctx program : Action PanelError Sideband Unit) :=
  (law.run ctx program).onSome _ _

theorem within_runBus (ctx : Context) (programs : BusPrograms) (kind : BusKind) :
    Within Event.Quiet (RunError kind (defect? (programs.on kind).items))
      (runBus ctx programs kind) := by
  cases kind with
  | i2c =>
    rw [runBus]
    exact within_runOn I2cBus.confined _ _ ctx programs.i2c
  | mipi =>
    rw [runBus]
    exact within_runOn MipiBus.confined _ _ ctx programs.mipi
  | spi =>
    rw [runBus]
    exact within_runOn SpiBus.confined _ _ ctx programs.spi

theorem quiet_runBuses (ctx : Context) (programs : BusPrograms) (kinds : List BusKind) :
    Within Event.Quiet (fun _ => True) (runBuses ctx programs kinds) := by
  induction kinds with
  | nil => exact Within.pure ()
  | cons kind rest ih =>
    exact ((within_runBus ctx programs kind).mono fun _ _ => trivial).bind fun _ => ih

/-- The programs of the buses before this one succeed, and then its own fails. -/
def StopsAt (ctx : Context) (programs : BusPrograms) (s : Sideband) (kind : BusKind)
    (e : PanelError) : Prop :=
  ∃ before later, BusKind.order = before ++ kind :: later ∧
    (runBuses ctx programs before s).result = .ok () ∧
    (runBus ctx programs kind (runBuses ctx programs before s).state).result = .error e

theorem exists_of_runBuses_error {ctx : Context} {programs : BusPrograms} {kinds : List BusKind}
    {s : Sideband} {e : PanelError} (h : (runBuses ctx programs kinds s).result = .error e) :
    ∃ before kind later, kinds = before ++ kind :: later ∧
      (runBuses ctx programs before s).result = .ok () ∧
      (runBus ctx programs kind (runBuses ctx programs before s).state).result = .error e := by
  induction kinds generalizing s with
  | nil => cases h
  | cons first rest ih =>
    cases hfirst : (runBus ctx programs first s).result with
    | error e' =>
      rw [runBuses, Action.bind_of_error hfirst] at h
      refine ⟨[], first, rest, rfl, rfl, ?_⟩
      exact hfirst.trans (congrArg Except.error (Except.error.inj h))
    | ok _ =>
      rw [runBuses, Action.bind_of_ok hfirst] at h
      obtain ⟨before, kind, later, hkinds, hbefore, hkind⟩ := ih h
      refine ⟨first :: before, kind, later, by rw [hkinds]; rfl, ?_, ?_⟩
      · rw [runBuses, Action.bind_of_ok hfirst]
        exact hbefore
      · rw [runBuses, Action.bind_of_ok hfirst]
        exact hkind

/-- A run that fails stops on one of the buses. -/
theorem exists_stopsAt {ctx : Context} {programs : BusPrograms} {s : Sideband} {e : PanelError}
    (h : (run ctx programs s).result = .error e) : ∃ kind, StopsAt ctx programs s kind e := by
  rw [run_eq_runBuses] at h
  obtain ⟨before, kind, later, hkinds, hbefore, hkind⟩ := exists_of_runBuses_error h
  exact ⟨kind, before, later, hkinds, hbefore, hkind⟩

/-- How a run of valid programs may fail; a fault is one of the bus whose program was running. -/
inductive Stops (ctx : Context) (programs : BusPrograms) (s : Sideband) : PanelError → Prop
  | overflow {kind : BusKind} (h : StopsAt ctx programs s kind .overflow) :
      Stops ctx programs s .overflow
  | mismatch {kind : BusKind} (h : StopsAt ctx programs s kind .mismatch) :
      Stops ctx programs s .mismatch
  | transfer {fault : BusFault} (h : StopsAt ctx programs s fault.bus (.transfer fault)) :
      Stops ctx programs s (.transfer fault)

theorem stops_of_error {ctx : Context} {programs : BusPrograms}
    (valid : ∀ kind, defect? (programs.on kind).items = none) {s : Sideband} {e : PanelError}
    (h : (run ctx programs s).result = .error e) : Stops ctx programs s e := by
  obtain ⟨kind, before, later, hkinds, hbefore, hkind⟩ := exists_stopsAt h
  have hstop : StopsAt ctx programs s kind e := ⟨before, later, hkinds, hbefore, hkind⟩
  have herror := ((within_runBus ctx programs kind) _).error e hkind
  rw [valid kind] at herror
  rcases herror with (rfl | ⟨fault, rfl, rfl⟩) | rfl | hdefect
  · exact .overflow hstop
  · exact .transfer hstop
  · exact .mismatch hstop
  · cases hdefect

end Sideband

end PanelDriver
