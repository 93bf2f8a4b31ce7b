import PanelDriver.Proofs.Execution.Bounds
import PanelDriver.Proofs.Execution.Discretion

/-!
What a read leaves in its buffer. On I2C and MIPI a read is attempted once or twice, and what the
last attempt brought is what counts (`LeavesLast`). On every bus a read that succeeds leaves as many
bytes as were asked for, and a flush fails by a fault of the bus (`Orderly`).
-/

namespace PanelDriver

namespace Action

variable {ε φ σ α β : Type}

/-- An action that ends well has gone well in both its parts. -/
theorem exists_of_bind_ok {x : Action ε σ α} {f : α → Action ε σ β} {s s' : σ} {b : β}
    {es : List Event} (h : (x >>= f) s = ⟨.ok b, s', es⟩) :
    ∃ a t first second, x s = ⟨.ok a, t, first⟩ ∧ f a t = ⟨.ok b, s', second⟩ := by
  rcases hx : x s with ⟨e | a, t, first⟩
  · rw [bind_error hx] at h
    cases h
  · rw [bind_ok hx] at h
    rcases hf : f a t with ⟨result, t', second⟩
    rw [hf] at h
    cases h
    exact ⟨a, t, first, second, rfl, hf⟩

/-- It was either the action that ended well, or what was done instead. -/
theorem cases_of_orElse_ok {x : Action ε σ α} {f : ε → Action φ σ α} {s s' : σ} {a : α}
    {es : List Event} (h : (x.orElse f) s = ⟨.ok a, s', es⟩) :
    s' = (x s).state ∨ ∃ e second, f e (x s).state = ⟨.ok a, s', second⟩ := by
  rcases hx : x s with ⟨e | b, t, first⟩
  · rw [orElse_error hx] at h
    rcases hf : f e t with ⟨result, t', second⟩
    rw [hf] at h
    cases h
    exact .inr ⟨e, second, hf⟩
  · rw [orElse_ok hx] at h
    cases h
    exact .inl rfl

end Action

/-! ## The last attempt -/

/-- One attempt of a read, on the replies that a device has left and the buffer. The next reply is
laid into the buffer; a device that gives no replies leaves the buffer as it is. -/
def attempt : Option (List Bytes) × Bytes → Option (List Bytes) × Bytes
  | (none, buffer) => (none, buffer)
  | (some replies, buffer) => (some replies.tail, Bytes.fit buffer.length (replies.headD []))

theorem length_attempt (s : Option (List Bytes) × Bytes) : (attempt s).2.length = s.2.length := by
  rcases s with ⟨_ | replies, buffer⟩ <;> simp [attempt]

/-- A read that succeeds takes one attempt or two, and the last of them leaves the reply in what was
a buffer of zeros. -/
def LeavesLast (β : Type) [SidebandBus β] (replies? : β → Option (List Bytes)) : Prop :=
  ∀ command generic length (c d : Channel β) reply es,
    Channel.readBack command generic length c = ⟨.ok reply, d, es⟩ →
      (replies? d.bus, reply) = attempt (replies? c.bus, Bytes.zeros length) ∨
      (replies? d.bus, reply) = attempt (attempt (replies? c.bus, Bytes.zeros length))

section Read

variable {β : Type} [SidebandBus β] {command : Bytes} {generic : Bool} {length : Nat}
  {c d : Channel β} {reply : Bytes} {es : List Event}

theorem Channel.read_of_readBack
    (h : Channel.readBack command generic length c = ⟨.ok reply, d, es⟩) :
    SidebandBus.read command generic (c, Bytes.zeros length) = ⟨.ok (), (d, reply), es⟩ := by
  unfold readBack at h
  rcases hread : SidebandBus.read command generic (c, Bytes.zeros length) with
    ⟨e | _, ⟨d', reply'⟩, es'⟩
  · rw [hread] at h
    cases h
  · rw [hread] at h
    cases h
    rfl

theorem LeavesLast.length_eq {replies? : β → Option (List Bytes)} (law : LeavesLast β replies?)
    (h : Channel.readBack command generic length c = ⟨.ok reply, d, es⟩) :
    reply.length = length := by
  have hstart := length_attempt (replies? c.bus, Bytes.zeros length)
  rw [Bytes.length_zeros] at hstart
  rcases law _ _ _ _ _ _ _ h with h | h
  · rwa [← h] at hstart
  · have hagain := length_attempt (attempt (replies? c.bus, Bytes.zeros length))
    rwa [← h, hstart] at hagain

end Read

namespace I2cBus

def replies? (bus : I2cBus) : Option (List Bytes) :=
  match bus.master with
  | .silent => none
  | .scripted s => some s.replies

/-- One transaction of a read. -/
def readOnce (address : UInt8) (bytes : Bytes) : Action I2cFault (I2cBus × Bytes) Unit :=
  (I2cMaster.writeRead address bytes).on (fun (bus, buffer) => (bus.master, buffer))
    fun (master, buffer) (bus, _) => ({ bus with master }, buffer)

theorem attempt_readOnce (address : UInt8) (bytes : Bytes) (s : I2cBus × Bytes) :
    let o := readOnce address bytes s
    (replies? o.state.1, o.state.2) = attempt (replies? s.1, s.2) := by
  rcases s with ⟨⟨_ | script, config⟩, buffer⟩ <;> rfl

theorem state_of_retrying {σ : Type} {x : Action I2cFault σ Unit} {s s' : σ} {es : List Event}
    (h : retrying x s = ⟨.ok (), s', es⟩) : s' = (x s).state ∨ s' = (x (x s).state).state := by
  rcases Action.cases_of_orElse_ok h with hfirst | ⟨_, _, hsecond⟩
  · exact .inl hfirst
  · obtain ⟨_, t, _, _, hwait, hagain⟩ := Action.exists_of_bind_ok hsecond
    have ht : (x s).state = t := congrArg Outcome.state hwait
    subst ht
    rcases Action.cases_of_orElse_ok hagain with hlast | ⟨_, _, hfail⟩
    · exact .inr hlast
    · cases hfail

theorem leavesLast : LeavesLast I2cBus replies? := by
  intro command generic length c d reply es h
  have hread : ∃ es, I2cBus.read command (c.bus, Bytes.zeros length) =
      ⟨.ok (), (d.bus, reply), es⟩ := by
    have hread := Channel.read_of_readBack h
    simp only [SidebandBus.read, Channel.onBusAndBuffer, Action.on] at hread
    rcases hr : I2cBus.read command (c.bus, Bytes.zeros length) with ⟨result, s, es⟩
    rw [hr] at hread
    cases hread
    exact ⟨es, rfl⟩
  obtain ⟨es, hread⟩ := hread
  simp only [I2cBus.read, Action.state_bind] at hread
  split at hread
  · cases hread
  · obtain ⟨bytes, _, _, _, hwire, hread⟩ := Action.exists_of_bind_ok hread
    cases congrArg Outcome.state hwire
    have hattempt := attempt_readOnce c.bus.config.address bytes
    rcases state_of_retrying hread with hfirst | hsecond
    · left
      rw [← hattempt (c.bus, Bytes.zeros length)]
      exact congrArg (fun s => (replies? s.1, s.2)) hfirst
    · right
      rw [← hattempt (c.bus, Bytes.zeros length), ← hattempt]
      exact congrArg (fun s => (replies? s.1, s.2)) hsecond

end I2cBus

namespace MipiBus

def replies? (bus : MipiBus) : Option (List Bytes) :=
  match bus.host with
  | .silent => none
  | .scripted s => some (s.replies.map (·.data))

theorem attempt_readOnce (command : Bytes) (generic : Bool) (s : DsiHost × Bytes) :
    let o := readOnce command generic s
    (replies? ⟨o.state.1⟩, o.state.2) = attempt (replies? ⟨s.1⟩, s.2) := by
  obtain ⟨host, buffer⟩ := s
  cases host with
  | silent => cases generic <;> rfl
  | scripted script =>
    obtain ⟨replies, writeFaults, sizeFaults, lowPower⟩ := script
    cases replies <;> cases generic <;> rfl

theorem state_of_readHost {command : Bytes} {generic : Bool} {s s' : DsiHost × Bytes}
    {es : List Event} (h : readHost command generic s = ⟨.ok (), s', es⟩) :
    s' = (readOnce command generic s).state ∨
      s' = (readOnce command generic (readOnce command generic s).state).state := by
  rcases Action.cases_of_orElse_ok h with hfirst | ⟨fault, _, hsecond⟩
  · exact .inl hfirst
  · cases fault with
    | protocol =>
      right
      rcases Action.cases_of_orElse_ok hsecond with hlast | ⟨again, _, hend⟩
      · exact hlast
      · cases again <;> cases hend
        rfl
    | timeout | other => cases hsecond

theorem leavesLast : LeavesLast MipiBus replies? := by
  intro command generic length c d reply es h
  have hread : ∃ es, readHost command generic (c.bus.host, Bytes.zeros length) =
      ⟨.ok (), (d.bus.host, reply), es⟩ := by
    have hread := Channel.read_of_readBack h
    simp only [SidebandBus.read, Channel.onBusAndBuffer, MipiBus.read, Action.on] at hread
    rcases hr : readHost command generic (c.bus.host, Bytes.zeros length) with ⟨result, s, es⟩
    rw [hr] at hread
    cases hread
    exact ⟨es, rfl⟩
  obtain ⟨es, hread⟩ := hread
  have hattempt := attempt_readOnce command generic
  rcases state_of_readHost hread with hfirst | hsecond
  · left
    rw [← hattempt (c.bus.host, Bytes.zeros length), ← hfirst]
  · right
    rw [← hattempt (c.bus.host, Bytes.zeros length), ← hattempt, ← hsecond]

end MipiBus

/-! ## Orderly buses -/

/-- On the bus programs begin, reads that succeed leave as many bytes as were asked for, and flushes
fail by a fault of the bus. -/
structure Orderly (β : Type) [SidebandBus β] : Prop extends Confined β where
  begins : ∀ c : Channel β, ∃ d es, SidebandBus.begin c = ⟨.ok (), d, es⟩
  sized : ∀ command generic length (c d : Channel β) reply es,
    Channel.readBack command generic length c = ⟨.ok reply, d, es⟩ → reply.length = length
  fault_of_flush : ∀ (c d : Channel β) e es, SidebandBus.flush c = ⟨.error e, d, es⟩ →
    ∃ fault : BusFault, fault.bus = SidebandBus.kind β ∧ e = .transfer fault

theorem I2cBus.orderly : Orderly I2cBus where
  toConfined := confined
  begins c := ⟨c, [], rfl⟩
  sized _ _ _ _ _ _ _ h := leavesLast.length_eq h
  fault_of_flush _ _ _ _ h := by cases h

theorem MipiBus.orderly : Orderly MipiBus where
  toConfined := confined
  begins := by
    rintro ⟨⟨_ | script⟩, packer⟩
    · exact ⟨_, _, rfl⟩
    · exact ⟨_, _, rfl⟩
  sized _ _ _ _ _ _ _ h := leavesLast.length_eq h
  fault_of_flush _ _ _ _ h := by cases h

namespace SpiBus

theorem length_of_transfer {start length : Nat} {c d : Channel SpiBus} {reply : Bytes}
    {es : List Event} (h : transfer start length c = ⟨.ok reply, d, es⟩) :
    reply.length = length := by
  unfold transfer emptying at h
  rcases hinner : (exchange >>= fun _ => Action.state >>= fun channel =>
    Action.ofExcept (channel.packer.readWindow start length) :
      Action PanelError (Channel SpiBus) Bytes) c with ⟨result, c', fs⟩
  rw [hinner] at h
  cases congrArg Outcome.result h
  obtain ⟨_, filled, _, _, -, hread⟩ := Action.exists_of_bind_ok hinner
  have hwindow : filled.packer.readWindow start length = .ok reply :=
    congrArg Outcome.result hread
  unfold Packer.readWindow at hwindow
  split at hwindow
  · cases hwindow
    simp
  · cases hwindow

theorem length_of_readBack {command : Bytes} {generic : Bool} {length : Nat} {c d : Channel SpiBus}
    {reply : Bytes} {es : List Event}
    (h : Channel.readBack command generic length c = ⟨.ok reply, d, es⟩) :
    reply.length = length := by
  rw [readBack_eq_query] at h
  obtain ⟨_, stored, _, _, -, h⟩ := Action.exists_of_bind_ok h
  rw [Action.state_bind] at h
  obtain ⟨_, listening, _, _, -, h⟩ := Action.exists_of_bind_ok h
  exact length_of_transfer h

theorem fault_of_flush {c d : Channel SpiBus} {e : PanelError} {es : List Event}
    (h : flush c = ⟨.error e, d, es⟩) : ∃ fault, e = transferError fault := by
  unfold flush at h
  split at h
  · cases h
  · have hsend := congrArg Outcome.result h
    simp only [emptying_apply, sendFrame, Channel.onBus, Action.on] at hsend
    rcases hw : SpiDevice.write c.packer.frame c.bus.device with ⟨fault | _, device, fs⟩
    · rw [Action.mapError, Action.orElse_error hw] at hsend
      exact ⟨fault, (Except.error.inj hsend).symm⟩
    · rw [Action.mapError, Action.orElse_ok hw] at hsend
      cases hsend

theorem orderly : Orderly SpiBus where
  toConfined := confined
  begins c := ⟨c, [], rfl⟩
  sized _ _ _ _ _ _ _ h := length_of_readBack h
  fault_of_flush _ _ _ _ h := by
    obtain ⟨fault, he⟩ := fault_of_flush h
    exact ⟨.spi fault, rfl, he⟩

end SpiBus

end PanelDriver
