import PanelDriver.Proofs.Wire.BitBuffer

/-!
A packer is a list of bits: those stored since the last reset. They are counted by the cursor,
decide which stores are refused, and begin every frame (`packer_is_bit_list`).
-/

namespace PanelDriver

/-! ## The list of waiting bits -/

namespace PackerCall

/-- The bits that a store puts behind the waiting ones. -/
def bits : PackerCall → List Bool
  | storeBytes bytes => Bits.ofBytes bytes
  | storeNineBit bytes => Packer.nineBit bytes
  | storeOnes n => List.replicate n true
  | _ => []

/-- Why a store is refused while these bits wait. -/
def refusal (waiting : List Bool) : PackerCall → Option PanelError
  | storeBytes bytes =>
    if waiting.length % 8 ≠ 0 then some .misaligned
    else if waiting.length + 8 * bytes.length ≤ 512 then none else some .overflow
  | storeNineBit bytes =>
    if waiting.length + 9 * bytes.length ≤ 512 then none else some .overflow
  | storeOnes n => if waiting.length + n ≤ 512 then none else some .overflow
  | _ => none

/-- The bits that wait after a call. Only a reset drops bits, and only a store that is not refused
adds some. -/
def next (waiting : List Bool) (call : PackerCall) : List Bool :=
  match call, call.refusal waiting with
  | reset, _ => []
  | call, none => waiting ++ call.bits
  | _, some _ => waiting

/-- What a store answers. -/
def result (waiting : List Bool) (call : PackerCall) : Except PanelError Unit :=
  match call.refusal waiting with
  | none => .ok ()
  | some e => .error e

def isStore : PackerCall → Bool
  | storeBytes _ | storeNineBit _ | storeOnes _ => true
  | _ => false

/-- The call asks for the frame. -/
def asks : PackerCall → Bool
  | frame | exchange _ => true
  | _ => false

end PackerCall

/-- The bits that wait after calls on a new packer. -/
def waitingAfter (calls : List PackerCall) : List Bool := calls.foldl PackerCall.next []

/-- The bytes that begin with these bits, the highest bit of a byte first, and are as few as can be;
the last one is filled up with ones. -/
structure Packs (frame : Bytes) (waiting : List Bool) : Prop where
  length_eq : frame.length = (waiting.length + 7) / 8
  bits_eq : Bits.ofBytes frame =
    waiting ++ List.replicate (8 * frame.length - waiting.length) true

/-- What calls on a packer find in which these bits wait. -/
structure IsBitList (b : BitBuffer) (waiting : List Bool) : Prop where
  cursor : b.cursor = waiting.length
  length_le : waiting.length ≤ 512
  fits_iff : ∀ n, b.fits n = true ↔ waiting.length + n ≤ 512
  store : ∀ call, call.isStore = true → ∃ b', b.call call =
    some (.stored (call.result waiting), b')
  frame : ∃ frame b', b.frame = some (frame, b') ∧ Packs frame waiting
  exchange : ∀ incoming, ∃ frame received b',
    b.exchange incoming = some ((frame, received), b') ∧ Packs frame waiting

theorem Packs.unique {frame frame' : Bytes} {waiting : List Bool} (h : Packs frame waiting)
    (h' : Packs frame' waiting) : frame = frame' := by
  apply Bits.ofBytes_inj
  rw [h.bits_eq, h'.bits_eq, h.length_eq, h'.length_eq]

theorem Packer.packs_frame (p : Packer) : Packs p.frame p.pending where
  length_eq := p.length_frame
  bits_eq := by
    rw [p.length_frame]
    exact p.ofBytes_frame

namespace Packer

/-- Bits that fit are put behind the others; where they do not fit, nothing changes. -/
theorem afterStore_store (p : Packer) (bits : List Bool) :
    p.afterStore (p.store bits) =
      if p.pending.length + bits.length ≤ 512 then
        (.stored (.ok ()), { p with pending := p.pending ++ bits })
      else (.stored (.error .overflow), p) := by
  rw [store_eq]
  split <;> rfl

/-- A store does to the packer what it does to the list of waiting bits. -/
theorem call_of_isStore (p : Packer) {call : PackerCall} (h : call.isStore = true) :
    p.call call =
      (.stored (call.result p.pending), { p with pending := call.next p.pending }) := by
  cases call with
  | storeBytes bytes =>
    by_cases haligned : p.pending.length % 8 = 0
    · have hpush : p.pushBytes bytes = p.store (Bits.ofBytes bytes) := if_pos haligned
      simp only [Packer.call, hpush, afterStore_store, Bits.length_ofBytes, PackerCall.result,
        PackerCall.next, PackerCall.refusal, haligned, ne_eq, not_true_eq_false, ↓reduceIte]
      split <;> rfl
    · have hpush : p.pushBytes bytes = .error .misaligned := if_neg haligned
      simp only [Packer.call, hpush, afterStore, PackerCall.result, PackerCall.next,
        PackerCall.refusal, haligned, ne_eq, not_false_eq_true, ↓reduceIte]
  | storeNineBit bytes =>
    simp only [Packer.call, pushNineBit, afterStore_store, length_nineBit, PackerCall.result,
      PackerCall.next, PackerCall.refusal]
    split <;> rfl
  | storeOnes n =>
    simp only [Packer.call, pushOnes_eq_store, afterStore_store, List.length_replicate,
      PackerCall.result, PackerCall.next, PackerCall.refusal]
    split <;> rfl
  | fits _ | reset | frame | exchange _ | receive _ _ | extract _ _ => cases h

theorem pending_call (p : Packer) (call : PackerCall) :
    (p.call call).2.pending = call.next p.pending := by
  cases h : call.isStore with
  | true => rw [p.call_of_isStore h]
  | false =>
    cases call with
    | storeBytes _ | storeNineBit _ | storeOnes _ => cases h
    | reset => rfl
    | fits _ | frame | exchange _ | receive _ _ | extract _ _ =>
      simp [Packer.call, receive, PackerCall.next, PackerCall.refusal, PackerCall.bits]

theorem pending_run (calls : List PackerCall) (p : Packer) :
    (Packer.run calls p).2.pending = calls.foldl PackerCall.next p.pending := by
  induction calls generalizing p with
  | nil => rfl
  | cons call rest ih => rw [Packer.run, ih, pending_call, List.foldl_cons]

end Packer

theorem next_of_asks {call : PackerCall} (h : call.asks = true) (waiting : List Bool) :
    call.next waiting = waiting := by
  cases call with
  | frame | exchange _ => exact List.append_nil waiting
  | storeBytes _ | storeNineBit _ | storeOnes _ | fits _ | reset | receive _ _ | extract _ _ =>
    cases h

/-- Asking for frames leaves the waiting bits as they are. -/
theorem waitingAfter_filter (calls : List PackerCall) :
    waitingAfter (calls.filter (!·.asks)) = waitingAfter calls := by
  have hfold (waiting : List Bool) :
      (calls.filter (!·.asks)).foldl PackerCall.next waiting =
        calls.foldl PackerCall.next waiting := by
    induction calls generalizing waiting with
    | nil => rfl
    | cons call rest ih =>
      cases h : call.asks with
      | true =>
        rw [List.filter_cons_of_neg (by simp [h]), List.foldl_cons, next_of_asks h]
        exact ih waiting
      | false =>
        rw [List.filter_cons_of_pos (by simp [h]), List.foldl_cons, List.foldl_cons]
        exact ih _
  exact hfold []

theorem BitBuffer.Models.isBitList {b : BitBuffer} {p : Packer} (h : b.Models p) :
    IsBitList b p.pending where
  cursor := h.cursor
  length_le := h.holds.length_le
  fits_iff n := by
    rw [b.fits_iff, h.cursor]
    rfl
  store call hcall := by
    obtain ⟨b', hb, -⟩ := h.call call
    refine ⟨b', ?_⟩
    rw [hb, p.call_of_isStore hcall]
  frame := by
    obtain ⟨b', hb, -⟩ := h.frame
    exact ⟨p.frame, b', hb, p.packs_frame⟩
  exchange incoming := by
    obtain ⟨b', hb, -⟩ := h.exchange incoming
    exact ⟨p.frame, _, b', hb, p.packs_frame⟩

/-- However a new packer is called, none of its indices is ever outside of a buffer, and it answers
like a packer of waiting bits. These are the bits stored since the last reset: they are counted by
the cursor, decide which stores are refused, and begin every frame. A frame is the same as if none
had been asked for before. -/
theorem packer_is_bit_list (calls : List PackerCall) :
    ∃ answers b, BitBuffer.run calls {} = some (answers, b) ∧
      IsBitList b (waitingAfter calls) ∧
      Packer.run calls {} = (answers, ⟨waitingAfter calls, b.window⟩) ∧
      ∃ fewer b', BitBuffer.run (calls.filter (!·.asks)) {} = some (fewer, b') ∧
        b'.frame.map Prod.fst = b.frame.map Prod.fst := by
  obtain ⟨b, hrun, hmodels⟩ := BitBuffer.models_new.run calls
  obtain ⟨b', hrun', hmodels'⟩ := BitBuffer.models_new.run (calls.filter (!·.asks))
  have hpending : (Packer.run calls {}).2.pending = waitingAfter calls :=
    Packer.pending_run calls {}
  have hpending' : (Packer.run (calls.filter (!·.asks)) {}).2.pending = waitingAfter calls :=
    (Packer.pending_run _ {}).trans (waitingAfter_filter calls)
  have hlist := hmodels.isBitList
  obtain ⟨frame, c, hframe, hpacks⟩ := hlist.frame
  obtain ⟨frame', c', hframe', hpacks'⟩ := hmodels'.isBitList.frame
  rw [hpending] at hlist hpacks
  rw [hpending'] at hpacks'
  refine ⟨_, b, hrun, hlist, ?_, _, b', hrun', ?_⟩
  · rw [← hpending, hmodels.window]
  · rw [hframe, hframe', Option.map_some, Option.map_some, hpacks'.unique hpacks]

end PanelDriver
