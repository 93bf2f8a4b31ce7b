import PanelDriver.Proofs.Execution.Agreement

/-!
The buses are discreet. I2C and MIPI leave the packer alone. SPI looks at the waiting bits only, and
reads back no bit that did not come in with the exchange before: either the device has filled the
window as far as bits were sent, or it is silent and the window is still that of a new packer.
-/

namespace PanelDriver

/-! ## Packers -/

namespace Packer

/-- `f` sees and changes no more than the waiting bits. -/
def OnPending (f : Packer → Except PanelError Packer) : Prop :=
  ∃ g : List Bool → Except PanelError (List Bool),
    ∀ p, f p = (g p.pending).map fun pending => { p with pending }

theorem onPending_store (bits : List Bool) : OnPending (·.store bits) := by
  refine ⟨fun pending =>
    if pending.length + bits.length ≤ 512 then .ok (pending ++ bits) else .error .overflow,
    fun p => ?_⟩
  simp only [store_eq]
  split <;> rfl

theorem onPending_pushBytes (bytes : Bytes) : OnPending (·.pushBytes bytes) := by
  obtain ⟨g, hg⟩ := onPending_store (Bits.ofBytes bytes)
  refine ⟨fun pending => if pending.length % 8 = 0 then g pending else .error .misaligned,
    fun p => ?_⟩
  have hstore := hg p
  simp only [pushBytes, cursor, hstore]
  split <;> rfl

theorem cursor_congr {p q : Packer} (h : p.pending = q.pending) : p.cursor = q.cursor :=
  congrArg List.length h

theorem fits_congr {p q : Packer} (h : p.pending = q.pending) (bits : Nat) :
    p.fits bits = q.fits bits := by
  simp only [fits, cursor_congr h]

theorem frame_congr {p q : Packer} (h : p.pending = q.pending) : p.frame = q.frame := by
  simp only [frame, frameLength, cursor_congr h, h]

@[simp] theorem pending_receive (p : Packer) (start : Nat) (bytes : Bytes) :
    (p.receive start bytes).pending = p.pending := by
  simp only [receive]

/-- What was received and not changed may be put back. -/
theorem receive_received (p : Packer) : p.receive 0 p.received = p := by
  have hwindow : (p.receive 0 p.received).window = p.window := by
    ext i hi
    by_cases hlt : i < p.frameLength
    · simp [receive, received, hlt, hi]
    · simp [receive, received, List.getElem?_take, hlt]
  calc p.receive 0 p.received = { p with window := (p.receive 0 p.received).window } := rfl
    _ = p := by rw [hwindow]

/-- A full window hides what was in it before. -/
theorem windowBit_receive {p q : Packer} {bytes : Bytes} {n : Nat}
    (h : n / 8 < bytes.length ∨ 64 ≤ n / 8) :
    (p.receive 0 bytes).windowBit n = (q.receive 0 bytes).windowBit n := by
  by_cases hwindow : n / 8 < 64
  · have hlt : n / 8 < bytes.length := by omega
    simp [windowBit, receive, hwindow, hlt]
  · simp [windowBit, hwindow]

theorem readWindow_congr {p q : Packer} {start length : Nat}
    (h : ∀ n < start + 8 * length, p.windowBit n = q.windowBit n) :
    p.readWindow start length = q.readWindow start length := by
  have hbyte : ∀ j ∈ List.range length, (Bits.byte fun k => p.windowBit (start + 8 * j + k)) =
      Bits.byte fun k => q.windowBit (start + 8 * j + k) := by
    intro j hj
    have hlt : j < length := List.mem_range.mp hj
    exact Bits.byte_congr fun k hk => h (start + 8 * j + k) (by omega)
  simp only [readWindow, List.map_congr_left hbyte]

end Packer

/-! ## Buses -/

section Bus

variable {β P Q : Type}

theorem Channel.agree_onBus {ε α : Type} {suits : β → Vector UInt8 64 → Prop} {x : Action ε β α}
    (keeps : ∀ bus window, suits bus window → suits (x bus).state window) :
    Action.Agree (SamePending suits) (Channel.onBus x) (Channel.onBus x) := by
  rintro ⟨bus, p⟩ ⟨_, q⟩ ⟨⟨hbus, hleft, hright⟩, hpending⟩
  cases hbus
  exact ⟨rfl, rfl, ⟨rfl, keeps _ _ hleft, keeps _ _ hright⟩, hpending⟩

/-- Related channels have the same bus, whatever becomes of it. -/
structure SharesBus (R : Channel β P → Channel β Q → Prop) : Prop where
  bus : ∀ {s t}, R s t → s.bus = t.bus
  put : ∀ {s t} bus, R s t → R { s with bus } { t with bus }

namespace SharesBus

variable {R : Channel β P → Channel β Q → Prop}

theorem onBus {ε α : Type} (law : SharesBus R) (x : Action ε β α) :
    Action.Agree R (Channel.onBus x) (Channel.onBus x) := by
  intro s t h
  simp only [Channel.onBus, Action.on, law.bus h]
  exact ⟨rfl, rfl, law.put _ h⟩

/-- A read that only sees the bus and the buffer. -/
theorem readBack [SidebandBus β P] [SidebandBus β Q] (law : SharesBus R) {command : Bytes}
    {generic : Bool} {x : Action PanelError (β × Bytes) Unit}
    (left : (SidebandBus.read command generic : Action PanelError (Channel β P × Bytes) Unit) =
      Channel.onBusAndBuffer x)
    (right : (SidebandBus.read command generic : Action PanelError (Channel β Q × Bytes) Unit) =
      Channel.onBusAndBuffer x) (length : Nat) :
    Action.Agree R (Channel.readBack command generic length)
      (Channel.readBack command generic length) := by
  intro s t h
  simp only [Channel.readBack, left, right, Channel.onBusAndBuffer, Action.on, law.bus h]
  exact ⟨rfl, rfl, law.put _ h⟩

end SharesBus

/-- I2C leaves the packer alone. -/
theorem I2cBus.parallel {R : Channel I2cBus P → Channel I2cBus Q → Prop} (law : SharesBus R) :
    Parallel R where
  begin := Action.Agree.pure ()
  write payload _ := law.onBus (I2cBus.write payload)
  readBack _ _ := law.readBack rfl rfl
  setReturnSize _ := Action.Agree.pure ()
  flush := Action.Agree.pure ()

/-- So does MIPI. -/
theorem MipiBus.parallel {R : Channel MipiBus P → Channel MipiBus Q → Prop} (law : SharesBus R) :
    Parallel R where
  begin := law.onBus (MipiBus.onHost (DsiHost.setLowPower true))
  write payload generic := law.onBus (MipiBus.write payload generic)
  readBack _ _ := law.readBack rfl rfl
  setReturnSize size := law.onBus (MipiBus.setReturnSize size)
  flush := Action.Agree.pure ()

theorem sharesBus_samePending (p : Vector UInt8 64 → Prop) :
    SharesBus (SamePending fun _ : β => p) where
  bus h := h.bus
  put _ h := ⟨⟨rfl, h.left, h.right⟩, h.pending⟩

end Bus

namespace SpiBus

/-- Related channels frame in the same way and hold the same bits, whatever these become, and
sending a frame keeps channels related. -/
structure Framed (R : Channel SpiBus → Channel SpiBus → Prop) : Prop where
  config : ∀ {s t}, R s t → s.bus.config = t.bus.config
  pending : ∀ {s t}, R s t → s.packer.pending = t.packer.pending
  repack : ∀ {s t} bits, R s t →
    R { s with packer.pending := bits } { t with packer.pending := bits }
  sendFrame : ∀ frame, Action.Agree R (sendFrame frame) (sendFrame frame)

namespace Framed

variable {R : Channel SpiBus → Channel SpiBus → Prop}

theorem store (law : Framed R) {f : Packer → Except PanelError Packer} (hf : Packer.OnPending f) :
    Action.Agree R (Channel.store f) (Channel.store f) := by
  intro s t h
  obtain ⟨g, hg⟩ := hf
  simp only [Channel.store, hg, law.pending h]
  cases g t.packer.pending with
  | error e => exact ⟨rfl, rfl, h⟩
  | ok pending => exact ⟨rfl, rfl, law.repack pending h⟩

theorem reset (law : Framed R) :
    Action.Agree R (Channel.reset : Action PanelError (Channel SpiBus) Unit) Channel.reset :=
  fun _ _ h => ⟨rfl, rfl, law.repack [] h⟩

theorem flush (law : Framed R) : Action.Agree R SpiBus.flush SpiBus.flush := by
  intro s t h
  have hempty : s.packer.isEmpty = t.packer.isEmpty := by
    simp only [Packer.isEmpty, Packer.cursor_congr (law.pending h)]
  have hframe : s.packer.frame = t.packer.frame := Packer.frame_congr (law.pending h)
  simp only [SpiBus.flush, hempty, hframe]
  cases t.packer.isEmpty with
  | true => exact ⟨rfl, rfl, h⟩
  | false =>
    obtain ⟨hresult, hevents, hstate⟩ := law.sendFrame t.packer.frame h
    exact ⟨hresult, hevents, law.repack [] hstate⟩

theorem write (law : Framed R) (payload : Bytes) :
    Action.Agree R (SpiBus.write payload) (SpiBus.write payload) := by
  have hbytes : Packer.OnPending (·.pushBytes payload) := Packer.onPending_pushBytes payload
  have hnine : Packer.OnPending (·.pushNineBit payload) :=
    Packer.onPending_store (Packer.nineBit payload)
  intro s t h
  have hbits := Packer.fits_congr (law.pending h) (9 * payload.length)
  simp only [SpiBus.write, Action.state_bind, law.config h, hbits]
  cases t.bus.config.nineBit with
  | true =>
    cases t.packer.fits (9 * payload.length) with
    | true => exact law.store hnine h
    | false =>
      refine law.flush.bind (fun _ => ?_) h
      by_cases hlong : Packer.capacity < 9 * payload.length
      · simp only [hlong, ↓reduceIte]
        exact Action.Agree.fail _
      · simp only [hlong, ↓reduceIte]
        exact law.store hnine
  | false =>
    by_cases hlong : Packer.windowBytes < payload.length
    · simp only [hlong, Bool.false_eq_true, ↓reduceIte]
      exact Action.Agree.fail _ h
    · simp only [hlong, Bool.false_eq_true, ↓reduceIte]
      refine law.reset.bind (fun _ => ?_) h
      exact (law.store hbytes).bind fun _ => law.flush

theorem storeCommand (law : Framed R) (command : Bytes) :
    Action.Agree R (SpiBus.storeCommand command) (SpiBus.storeCommand command) := by
  intro s t h
  simp only [SpiBus.storeCommand, Action.state_bind, law.config h]
  cases t.bus.config.nineBit with
  | true =>
    refine law.flush.bind (fun _ => ?_) h
    exact law.store (Packer.onPending_store (Packer.nineBit command))
  | false =>
    refine law.reset.bind (fun _ => ?_) h
    exact law.store (Packer.onPending_pushBytes command)

end Framed

/-- What a silent device leaves in the window stays there, so it has to be that of a new packer. -/
def Suits (bus : SpiBus) (window : Vector UInt8 64) : Prop :=
  bus.device = .silent → window = .replicate 64 0

theorem state_mapError {ε φ σ α : Type} (f : ε → φ) (x : Action ε σ α) (s : σ) :
    (x.mapError f s).state = (x s).state := by
  rcases hx : x s with ⟨_ | a, s', events⟩
  · rw [Action.mapError, Action.orElse_error hx]
    rfl
  · rw [Action.mapError, Action.orElse_ok hx]

theorem agree_sendFrame (frame : Bytes) :
    Action.Agree (SamePending Suits) (sendFrame frame) (sendFrame frame) :=
  Channel.agree_onBus fun bus window h hsilent => by
    have hstate : ((SpiDevice.write frame) bus.device).state = .silent := by
      rw [← state_mapError transferError]
      exact hsilent
    refine h ?_
    cases hd : bus.device with
    | silent => rfl
    | scripted script => simp [SpiDevice.write, hd] at hstate

theorem agree_emptying {α : Type} {x : Action PanelError (Channel SpiBus) α} {s t : Channel SpiBus}
    (h : (x s).Alike (SamePending Suits) (x t)) :
    (emptying x s).Alike (SamePending Suits) (emptying x t) :=
  ⟨h.result, h.events, h.state.toSameBus.reset⟩

theorem framed : Framed (SamePending Suits) where
  config h := congrArg SpiBus.config h.bus
  pending h := h.pending
  repack _ h := ⟨⟨h.bus, h.left, h.right⟩, rfl⟩
  sendFrame := agree_sendFrame

/-- A device that fills a window fills all of it, so what was in it before shows only where the
device is silent. -/
theorem transfer_congr (frame : Bytes) (device : SpiDevice) {window other : Bytes}
    (hlength : window.length = other.length) (hsilent : device = .silent → window = other) :
    SpiDevice.transfer frame (device, window) = SpiDevice.transfer frame (device, other) := by
  cases device with
  | silent => rw [hsilent rfl]
  | scripted script => simp only [SpiDevice.transfer, SpiScript.transfer, hlength]

theorem length_transfer (frame : Bytes) (device : SpiDevice) (window : Bytes) :
    (SpiDevice.transfer frame (device, window)).state.2.length = window.length := by
  cases device with
  | silent => rfl
  | scripted script => simp [SpiDevice.transfer, SpiScript.transfer]

theorem transfer_of_silent {frame window : Bytes} {device : SpiDevice}
    (h : (SpiDevice.transfer frame (device, window)).state.1 = .silent) :
    device = .silent ∧ (SpiDevice.transfer frame (device, window)).state.2 = window := by
  cases device with
  | silent => exact ⟨rfl, rfl⟩
  | scripted script => simp [SpiDevice.transfer] at h

/-- After an exchange the same bits can be read back, as far as bits were sent. -/
theorem agree_exchange {start length : Nat} {s t : Channel SpiBus} (h : SamePending Suits s t)
    (hcursor : s.packer.cursor = start + 8 * length) :
    (exchange s).Alike (fun s t => SamePending Suits s t ∧
      s.packer.readWindow start length = t.packer.readWindow start length) (exchange t) := by
  obtain ⟨⟨device, config⟩, p⟩ := s
  obtain ⟨_, q⟩ := t
  obtain ⟨⟨hbus, hleft, hright⟩, hpending⟩ := h
  cases hbus
  have hframe : p.frame = q.frame := Packer.frame_congr hpending
  have hlength : p.frameLength = q.frameLength := by
    rw [← Packer.length_frame, hframe, Packer.length_frame]
  have hreceived (hsilent : device = .silent) : p.received = q.received := by
    have hp : p.window = .replicate 64 0 := hleft hsilent
    have hq : q.window = .replicate 64 0 := hright hsilent
    simp only [Packer.received, hp, hq, hlength]
  have htransfer : SpiDevice.transfer p.frame (device, p.received) =
      SpiDevice.transfer q.frame (device, q.received) := by
    rw [hframe]
    exact transfer_congr _ _ (by simp [hlength]) hreceived
  obtain ⟨o, ho⟩ : ∃ o, ((SpiDevice.transfer p.frame).mapError transferError)
      (device, p.received) = o := ⟨_, rfl⟩
  have ho' : ((SpiDevice.transfer q.frame).mapError transferError) (device, q.received) = o := by
    rw [← ho]
    simp only [Action.mapError, Action.orElse, htransfer]
  have hstate : o.state = (SpiDevice.transfer p.frame (device, p.received)).state := by
    rw [← ho, state_mapError]
  have hp : exchange ⟨⟨device, config⟩, p⟩ =
      ⟨o.result, ⟨⟨o.state.1, config⟩, p.receive 0 o.state.2⟩, o.events⟩ := by
    simp only [exchange, ho]
  have hq : exchange ⟨⟨device, config⟩, q⟩ =
      ⟨o.result, ⟨⟨o.state.1, config⟩, q.receive 0 o.state.2⟩, o.events⟩ := by
    simp only [exchange, ho']
  have hsuits (r : Packer) (hr : Suits ⟨device, config⟩ r.window)
      (hkept : device = .silent → r.received = p.received) :
      Suits ⟨o.state.1, config⟩ (r.receive 0 o.state.2).window := by
    intro hsilent
    rw [hstate] at hsilent ⊢
    obtain ⟨hdevice, hwindow⟩ := transfer_of_silent hsilent
    rw [hwindow, ← hkept hdevice, Packer.receive_received]
    exact hr hdevice
  have hread : (p.receive 0 o.state.2).readWindow start length =
      (q.receive 0 o.state.2).readWindow start length := by
    have hsent : p.cursor = start + 8 * length := hcursor
    refine Packer.readWindow_congr fun n hn => Packer.windowBit_receive ?_
    rw [hstate, length_transfer, Packer.length_received, Packer.frameLength]
    omega
  have hwaiting : (p.receive 0 o.state.2).pending = (q.receive 0 o.state.2).pending := by
    simpa using hpending
  have hsame : SamePending Suits ⟨⟨o.state.1, config⟩, p.receive 0 o.state.2⟩
      ⟨⟨o.state.1, config⟩, q.receive 0 o.state.2⟩ :=
    ⟨⟨rfl, hsuits p hleft fun _ => rfl, hsuits q hright fun h => (hreceived h).symm⟩, hwaiting⟩
  rw [hp, hq]
  exact ⟨rfl, rfl, hsame, hread⟩

theorem agree_transfer {start length : Nat} {s t : Channel SpiBus} (h : SamePending Suits s t)
    (hcursor : s.packer.cursor = start + 8 * length) :
    (transfer start length s).Alike (SamePending Suits) (transfer start length t) := by
  refine agree_emptying (Action.alike_bind (agree_exchange h hcursor) (fun _ _ h => h.1) ?_)
  rintro - s t ⟨h, hread⟩
  exact ⟨hread, rfl, h⟩

theorem agree_query (command : Bytes) (length : Nat) :
    Action.Agree (SamePending Suits) (query command length) (query command length) := by
  refine (framed.storeCommand command).bind fun _ s t h => ?_
  have hcursor := Packer.cursor_congr h.pending
  simp only [Action.state_bind, ← hcursor]
  have hfits := Packer.fits_congr h.pending (8 * length)
  cases hroom : s.packer.fits (8 * length) with
  | true =>
    let listening (c : Channel SpiBus) : Channel SpiBus := { c with
      packer.pending := c.packer.pending ++ List.replicate (8 * length) true }
    have hlisten (c : Channel SpiBus) (hc : c.packer.fits (8 * length) = true) :
        (Channel.store (·.pushOnes (8 * length)) : Action PanelError (Channel SpiBus) Unit) c =
          ⟨.ok (), listening c, []⟩ := by
      simp only [Channel.store, Packer.pushOnes, hc, ↓reduceIte]
      rfl
    have hsame : SamePending Suits (listening s) (listening t) :=
      ⟨⟨h.bus, h.left, h.right⟩, congrArg (· ++ _) h.pending⟩
    have hsent : (listening s).packer.cursor = s.packer.cursor + 8 * length := by
      simp [listening, Packer.cursor]
    have htransfer := agree_transfer hsame hsent
    rw [Action.bind_ok (Action.orElse_ok (hlisten s hroom)),
      Action.bind_ok (Action.orElse_ok (hlisten t (hfits.symm.trans hroom)))]
    exact ⟨htransfer.result, congrArg ([] ++ ·) htransfer.events, htransfer.state⟩
  | false =>
    have hfull (c : Channel SpiBus) (hc : c.packer.fits (8 * length) = false) :
        ((Channel.store (·.pushOnes (8 * length)) : Action PanelError (Channel SpiBus) Unit).orElse
          fun e => Channel.reset >>= fun _ => Action.fail (α := Unit) (ε := PanelError) e) c =
          ⟨.error .overflow, { c with packer := c.packer.reset }, []⟩ := by
      simp only [Action.orElse, Channel.store, Packer.pushOnes, hc, Bool.false_eq_true, ↓reduceIte]
      rfl
    rw [Action.bind_error (hfull s hroom),
      Action.bind_error (hfull t (hfits.symm.trans hroom))]
    exact ⟨rfl, rfl, h.toSameBus.reset⟩

theorem readBack_of_read {P : Type} [SidebandBus SpiBus P] {command : Bytes} {generic : Bool}
    {query : Nat → Action PanelError (Channel SpiBus P) Bytes}
    (h : SidebandBus.read command generic = intoBuffer query) (length : Nat)
    (channel : Channel SpiBus P) :
    Channel.readBack command generic length channel = query length channel := by
  simp only [Channel.readBack, h, intoBuffer, Bytes.length_zeros]
  rcases query length channel with ⟨_ | reply, channel', events⟩ <;> rfl

theorem readBack_eq_query (command : Bytes) (generic : Bool) (length : Nat)
    (channel : Channel SpiBus) :
    Channel.readBack command generic length channel = query command length channel :=
  readBack_of_read rfl length channel

theorem discreet : Discreet SpiBus Suits where
  begin := Action.Agree.pure ()
  write payload _ := framed.write payload
  readBack command generic length := by
    intro s t h
    rw [readBack_eq_query, readBack_eq_query]
    exact agree_query command length h
  setReturnSize _ := Action.Agree.pure ()
  flush := framed.flush

end SpiBus

end PanelDriver
