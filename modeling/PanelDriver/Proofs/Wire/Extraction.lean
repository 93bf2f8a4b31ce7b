import PanelDriver.Proofs.Wire.Packing

/-!
Bytes out of the receive window. Wherever they start, they are the window's bits from there on; they
are refused where they would run past its end, and then the place for them keeps what it holds. A
frame of commands in nine-bit framing that comes back to the window can be read out byte by byte:
behind every tag lies the byte that was stored there, and a tag is zero just before the first byte
of a command (`extract_window`).
-/

namespace PanelDriver

/-! ## The window as a run of bits -/

namespace Packer

/-- All bits of the window. -/
def windowBits (p : Packer) : List Bool := Bits.ofBytes p.window.toList

@[simp] theorem length_windowBits (p : Packer) : p.windowBits.length = 512 := by simp [windowBits]

theorem getElem?_windowBits (p : Packer) {n : Nat} (hn : n < 512) :
    p.windowBits[n]? = some (p.windowBit n) := by
  have hbyte : n / 8 < 64 := by omega
  rw [windowBits, Bits.getElem?_ofBytes, windowBit]
  simp [hbyte]

theorem exists_readWindow (p : Packer) {start length : Nat} (h : start + 8 * length ≤ 512) :
    ∃ bytes, p.readWindow start length = .ok bytes ∧
      Bits.ofBytes bytes = (p.windowBits.drop start).take (8 * length) := by
  refine ⟨_, if_pos h, ?_⟩
  have hbits : Bits.ofBytes ((List.range length).map fun j =>
      Bits.byte fun k => p.windowBit (start + 8 * j + k)) =
      (List.range (8 * length)).map fun n => p.windowBit (start + n) := by
    rw [Bits.ofBytes, List.flatMap_map, ← Bits.flatMap_range_eight]
    simp only [Bits.ofByte_byte, Nat.add_assoc]
  rw [hbits]
  apply List.ext_getElem?
  intro n
  rcases Nat.lt_or_ge n (8 * length) with hn | hn
  · rw [List.getElem?_take_of_lt hn, List.getElem?_drop, p.getElem?_windowBits (by omega)]
    simp [hn]
  · rw [List.getElem?_eq_none (by simp [hn]), List.getElem?_eq_none (by simp; omega)]

theorem readWindow_of_lt (p : Packer) {start length : Nat} (h : 512 < start + 8 * length) :
    p.readWindow start length = .error .overflow := if_neg (Nat.not_le.mpr h)

/-- What is received at the start of the window lies before what was there. -/
theorem windowBits_receive (p : Packer) {bytes : Bytes} (h : bytes.length ≤ 64) :
    (p.receive 0 bytes).windowBits =
      Bits.ofBytes bytes ++ p.windowBits.drop (8 * bytes.length) := by
  have hroom : 0 + bytes.length ≤ 64 := by omega
  obtain ⟨laid, hlaid, hlist⟩ := BitBuffer.toList_overlay p.window hroom
  obtain rfl : (p.receive 0 bytes).window = laid := by
    rw [BitBuffer.overlay, if_pos hroom] at hlaid
    exact Option.some.inj hlaid
  have hdrop : Bits.ofBytes (p.window.toList.drop bytes.length) =
      (Bits.ofBytes p.window.toList).drop (8 * bytes.length) := by
    have hsplit := Bits.ofBytes_append (p.window.toList.take bytes.length)
      (p.window.toList.drop bytes.length)
    have hlength : (Bits.ofBytes (p.window.toList.take bytes.length)).length =
        8 * bytes.length := by simp [h]
    rw [List.take_append_drop] at hsplit
    rw [hsplit, ← hlength, List.drop_left]
  rw [windowBits, hlist, List.take_zero, List.nil_append, Nat.zero_add,
    Bits.ofBytes_append, hdrop, windowBits]

end Packer

namespace BitBuffer

def windowBits (b : BitBuffer) : List Bool := Bits.ofBytes b.window.toList

theorem Models.windowBits {b : BitBuffer} {p : Packer} (h : b.Models p) :
    b.windowBits = p.windowBits := by rw [BitBuffer.windowBits, h.window, Packer.windowBits]

/-- An empty buffer, whatever an older stream has left in it. -/
theorem models_of_cursor {b : BitBuffer} (h : b.cursor = 0) : b.Models ⟨[], b.window⟩ :=
  ⟨⟨h, List.nil_prefix⟩, rfl⟩

/-! ## Extraction -/

theorem copyOut_eq (b : BitBuffer) (start : Nat) (destination : Bytes) :
    b.copyOut start destination =
      (List.range destination.length).mapM fun j => b.windowByte (start + 8 * j) := by
  induction destination generalizing start with
  | nil => rfl
  | cons old rest ih =>
    have hrange : List.range (rest.length + 1) = 0 :: (List.range rest.length).map (· + 1) :=
      List.range_succ_eq_map
    have hplace (j : Nat) : start + 8 * (j + 1) = start + 8 + 8 * j := by omega
    rw [copyOut, ih, List.length_cons, hrange, List.mapM_cons, List.mapM_map]
    simp only [Function.comp_def, hplace]
    rfl

/-- Where bytes are extracted, they take the destination's place; where not, it stays. -/
theorem extractInto_eq (b : BitBuffer) (start : Nat) (destination : Bytes) :
    b.extractInto start destination =
      (b.extract start destination.length).map fun
        | .ok bytes => (.ok (), bytes)
        | .error e => (.error e, destination) := by
  rw [extractInto, extract]
  split
  · rfl
  · split
    · rfl
    · rw [copyOut_eq, Option.map_map]
      rfl

/-- The waiting bits have no part in it. -/
theorem extract_eq (b : BitBuffer) (start length : Nat) :
    b.extract start length = some ((⟨[], b.window⟩ : Packer).readWindow start length) :=
  (models_of_cursor (b := { b with cursor := 0 }) rfl).extract start length

end BitBuffer

/-! ## Commands on the line -/

namespace Wire

/-- Of all bytes of these commands, byte `i` is the first one of its command. -/
def Begins (commands : List Bytes) (i : Nat) : Prop :=
  ∃ before command after, commands = before ++ command :: after ∧ command ≠ [] ∧
    before.flatten.length = i

theorem not_begins_nil (i : Nat) : ¬Begins [] i := by
  rintro ⟨before, command, after, h, -⟩
  cases before <;> cases h

theorem begins_cons_iff (command : Bytes) (rest : List Bytes) (i : Nat) :
    Begins (command :: rest) i ↔
      (i = 0 ∧ command ≠ []) ∨ ∃ j, command.length + j = i ∧ Begins rest j := by
  constructor
  · rintro ⟨_ | ⟨first, before⟩, found, after, h, hne, hi⟩
    · obtain ⟨rfl, -⟩ := List.cons.inj h
      exact .inl ⟨hi.symm, hne⟩
    · obtain ⟨rfl, rfl⟩ := List.cons.inj h
      rw [List.flatten_cons, List.length_append] at hi
      exact .inr ⟨before.flatten.length, hi, before, found, after, rfl, hne, rfl⟩
  · rintro (⟨rfl, hne⟩ | ⟨j, rfl, before, found, after, rfl, hne, rfl⟩)
    · exact ⟨[], command, rest, rfl, hne, rfl⟩
    · exact ⟨command :: before, found, after, rfl, hne, by simp⟩

@[simp] theorem length_tagged (command : Bytes) : (tagged command).length = command.length := by
  cases command <;> simp [tagged]

theorem map_snd_tagged (commands : List Bytes) :
    (commands.flatMap tagged).map Prod.snd = commands.flatten := by
  have hcommand (command : Bytes) : (tagged command).map Prod.snd = command := by
    cases command <;> simp [tagged, Function.comp_def]
  rw [List.map_flatMap, ← List.flatMap_id']
  simp only [hcommand, List.flatMap_id']

/-- The tag that is zero stands before the first byte of a command. -/
theorem fst_tagged_iff (commands : List Bytes) (i : Nat) :
    (commands.flatMap tagged)[i]?.map Prod.fst = some false ↔ Begins commands i := by
  induction commands generalizing i with
  | nil =>
    simp only [List.flatMap_nil, List.getElem?_nil, Option.map_none, reduceCtorEq, false_iff]
    exact not_begins_nil i
  | cons command rest ih =>
    rw [begins_cons_iff, List.flatMap_cons]
    rcases Nat.lt_or_ge i command.length with hi | hi
    · rw [List.getElem?_append_left (by simpa using hi)]
      have hrest : ¬∃ j, command.length + j = i ∧ Begins rest j := by
        rintro ⟨j, hj, -⟩
        omega
      cases command with
      | nil => simp at hi
      | cons b data =>
        cases i with
        | zero => simp [tagged]
        | succ i =>
          simp only [hrest, or_false]
          simp [tagged]
    · rw [List.getElem?_append_right (by simpa using hi), length_tagged, ih]
      have hfirst : ¬(i = 0 ∧ command ≠ []) := by
        rintro ⟨rfl, hne⟩
        exact hne (List.length_eq_zero_iff.mp (Nat.le_zero.mp hi))
      simp only [hfirst, false_or]
      constructor
      · intro h
        exact ⟨i - command.length, by omega, h⟩
      · rintro ⟨j, rfl, h⟩
        rwa [Nat.add_sub_cancel_left]

/-- Eight bits from `n` on, as a byte. -/
theorem take_drop_eq_ofByte {bits : List Bool} {n : Nat} (h : n + 8 ≤ bits.length) :
    (bits.drop n).take 8 = Bits.ofByte (Bits.byte fun k => bits.getD (n + k) true) := by
  rw [Bits.ofByte_byte]
  apply List.ext_getElem
  · simp
    omega
  · intro k hk _
    have hplace : n + k < bits.length := by
      simp only [List.length_take, List.length_drop] at hk
      omega
    simp [hplace]

/-- Byte `i` of commands in nine-bit framing lies behind its tag, whatever comes after the
commands. -/
theorem group_of_commands {commands : List Bytes} {i : Nat} (hi : i < commands.flatten.length)
    (more : List Bool) :
    let bits := commands.flatMap Packer.nineBit ++ more
    (bits.drop (9 * i + 1)).take 8 = Bits.ofByte commands.flatten[i] ∧
      ∃ tag, bits[9 * i]? = some tag ∧ (tag = false ↔ Begins commands i) := by
  intro bits
  have hlength : 9 * commands.flatten.length ≤ bits.length := by
    rw [List.length_append, length_commands]
    exact Nat.le_add_right _ _
  have hgroup : (commands.flatMap tagged)[i]? = some (groupAt bits (9 * i)) := by
    have hgroups : (groups bits)[i]? = some (groupAt bits (9 * i)) := by
      have hwhole : i < bits.length / 9 := by omega
      simp [groups, hwhole]
    have hshort : i < (commands.flatMap tagged).length := by
      rw [← List.length_map (f := Prod.snd), map_snd_tagged]
      exact hi
    rwa [groups_commands, List.getElem?_append_left hshort] at hgroups
  constructor
  · have hbyte : commands.flatten[i]? = some (groupAt bits (9 * i)).2 := by
      rw [← map_snd_tagged, List.getElem?_map, hgroup]
      rfl
    rw [List.getElem?_eq_getElem hi] at hbyte
    rw [Option.some.inj hbyte]
    exact take_drop_eq_ofByte (by omega)
  · have hplace : 9 * i < bits.length := by omega
    refine ⟨bits[9 * i], List.getElem?_eq_getElem hplace, ?_⟩
    have htag : (groupAt bits (9 * i)).1 = bits[9 * i] := by simp [groupAt, hplace]
    rw [← fst_tagged_iff, hgroup, ← htag]
    simp

end Wire

namespace BitBuffer

/-- Stores commands in nine-bit framing, and copies the frame to the start of the window. -/
def loopBack (commands : List Bytes) (b : BitBuffer) : Option (List PackerAnswer × BitBuffer) := do
  let (answers, b) ← run (commands.map .storeNineBit) b
  let (frame, b) ← b.frame
  some (answers, ← b.receive 0 frame)

end BitBuffer

/-- Commands that fit are stored one behind the other. -/
theorem Packer.run_storeNineBit (commands : List Bytes) (p : Packer)
    (h : p.cursor + 9 * commands.flatten.length ≤ 512) :
    Packer.run (commands.map .storeNineBit) p = (commands.map fun _ => .stored (.ok ()),
      { p with pending := p.pending ++ commands.flatMap Packer.nineBit }) := by
  induction commands generalizing p with
  | nil => simp [Packer.run]
  | cons command rest ih =>
    rw [List.flatten_cons, List.length_append] at h
    have hroom : p.pending.length + 9 * command.length ≤ 512 := by
      have hcursor : p.cursor = p.pending.length := rfl
      omega
    have hcall : p.call (.storeNineBit command) =
        (.stored (.ok ()), { p with pending := p.pending ++ Packer.nineBit command }) := by
      rw [p.call_of_isStore rfl]
      simp [PackerCall.result, PackerCall.next, PackerCall.refusal, PackerCall.bits, hroom]
    have hrest := ih { p with pending := p.pending ++ Packer.nineBit command } (by
      simp only [Packer.cursor, List.length_append, Packer.length_nineBit] at h ⊢
      omega)
    rw [List.map_cons, Packer.run, hcall, hrest]
    simp

namespace BitBuffer

/-- The frame that comes back begins with the commands. -/
theorem loopBack_eq {b : BitBuffer} (h : b.cursor = 0) {commands : List Bytes}
    (hroom : commands.flatten.length ≤ 56) :
    ∃ b' more, b.loopBack commands = some (commands.map fun _ => .stored (.ok ()), b') ∧
      b'.windowBits = commands.flatMap Packer.nineBit ++ more := by
  let start : Packer := ⟨[], b.window⟩
  let full : Packer := ⟨commands.flatMap Packer.nineBit, b.window⟩
  have hfull : Packer.run (commands.map .storeNineBit) start =
      (commands.map fun _ => .stored (.ok ()), full) := by
    refine Packer.run_storeNineBit commands start ?_
    have hempty : start.cursor = 0 := rfl
    omega
  obtain ⟨b₁, hrun, hstored⟩ := (models_of_cursor h).run (commands.map .storeNineBit)
  rw [hfull] at hrun hstored
  obtain ⟨b₂, hframe, hasked⟩ := hstored.frame
  obtain ⟨b₃, hreceive, hback⟩ := hasked.receive 0 full.frame
  refine ⟨b₃, List.replicate (8 * full.frameLength - full.cursor) true ++
    full.windowBits.drop (8 * full.frame.length), ?_, ?_⟩
  · rw [loopBack, hrun]
    show (b₁.frame.bind fun found => (found.2.receive 0 found.1).bind fun b => some (_, b)) = _
    rw [hframe, Option.bind_some, hreceive]
    rfl
  · have hlength : full.frame.length ≤ 64 := by
      rw [Packer.length_frame]
      exact hstored.frameLength_le
    rw [hback.windowBits, full.windowBits_receive hlength, Packer.ofBytes_frame, List.append_assoc]

/-- Bytes that lie within the window are its bits from `start` on. -/
theorem extractInto_of_le (b : BitBuffer) {start : Nat} {destination : Bytes}
    (h : start + 8 * destination.length ≤ 512) :
    ∃ bytes, b.extractInto start destination = some (.ok (), bytes) ∧
      b.extract start destination.length = some (.ok bytes) ∧
      Bits.ofBytes bytes = (b.windowBits.drop start).take (8 * destination.length) := by
  obtain ⟨bytes, hread, hbits⟩ := (⟨[], b.window⟩ : Packer).exists_readWindow h
  have hextract : b.extract start destination.length = some (.ok bytes) := by
    rw [extract_eq, hread]
  exact ⟨bytes, by rw [extractInto_eq, hextract]; rfl, hextract, hbits⟩

theorem extractInto_of_lt (b : BitBuffer) {start : Nat} {destination : Bytes}
    (h : 512 < start + 8 * destination.length) :
    b.extractInto start destination = some (.error .overflow, destination) ∧
      b.extract start destination.length = some (.error .overflow) := by
  have hextract : b.extract start destination.length = some (.error .overflow) := by
    rw [extract_eq, Packer.readWindow_of_lt _ h]
  exact ⟨by rw [extractInto_eq, hextract]; rfl, hextract⟩

end BitBuffer

/-- Bytes can be extracted exactly where they end within the window. Then they are the bits of the
window from their start on, one byte for each place of the destination; otherwise the destination
stays as it is, and in both cases the buffer does. So if commands of up to 56 bytes are stored in an
empty buffer and their frame comes back to the window, each of their bytes can be extracted from
behind its tag, and the tag is zero for the first byte of a command and for no other. -/
theorem extract_window (b : BitBuffer) :
    (∀ (start : Nat) (destination : Bytes),
      (start + 8 * destination.length ≤ 512 ∧ ∃ bytes,
        b.extractInto start destination = some (.ok (), bytes) ∧
        b.call (.extract start destination.length) = some (.extracted (.ok bytes), b) ∧
        bytes.length = destination.length ∧
        Bits.ofBytes bytes = (b.windowBits.drop start).take (8 * destination.length)) ∨
      (512 < start + 8 * destination.length ∧
        b.extractInto start destination = some (.error .overflow, destination) ∧
        b.call (.extract start destination.length) = some (.extracted (.error .overflow), b))) ∧
    ∀ commands : List Bytes, b.cursor = 0 → commands.flatten.length ≤ 56 →
      ∃ b', b.loopBack commands = some (commands.map fun _ => .stored (.ok ()), b') ∧
        ∀ i (hi : i < commands.flatten.length),
          (∀ old, b'.extractInto (9 * i + 1) [old] = some (.ok (), [commands.flatten[i]])) ∧
          ∃ tag, b'.windowBits[9 * i]? = some tag ∧ (tag = false ↔ Wire.Begins commands i) := by
  refine ⟨fun start destination => ?_, fun commands hempty hroom => ?_⟩
  · rcases Nat.lt_or_ge 512 (start + 8 * destination.length) with hlong | hfits
    · obtain ⟨hinto, hextract⟩ := b.extractInto_of_lt hlong
      exact .inr ⟨hlong, hinto, by rw [BitBuffer.call, hextract]; rfl⟩
    · obtain ⟨bytes, hinto, hextract, hbits⟩ := b.extractInto_of_le hfits
      have hlength : bytes.length = destination.length := by
        have hcount := congrArg List.length hbits
        simp only [Bits.length_ofBytes, List.length_take, List.length_drop, BitBuffer.windowBits,
          Vector.length_toList] at hcount
        omega
      exact .inl ⟨hfits, bytes, hinto, by rw [BitBuffer.call, hextract]; rfl, hlength, hbits⟩
  · obtain ⟨b', more, hback, hwindow⟩ := BitBuffer.loopBack_eq hempty hroom
    refine ⟨b', hback, fun i hi => ?_⟩
    obtain ⟨hbyte, htag⟩ := Wire.group_of_commands hi more
    rw [← hwindow] at hbyte htag
    refine ⟨fun old => ?_, htag⟩
    have hfits : 9 * i + 1 + 8 * [old].length ≤ 512 := by
      rw [List.length_singleton]
      omega
    obtain ⟨bytes, hinto, -, hbits⟩ := b'.extractInto_of_le hfits
    have hone : bytes = [commands.flatten[i]] := by
      apply Bits.ofBytes_inj
      rw [hbits, List.length_singleton, hbyte, Bits.ofBytes, List.flatMap_singleton]
    rw [hinto, hone]

/-- A buffer full of old bytes. The last byte lies across two bytes of the window, behind the tag of
a command of its own. -/
theorem extract_window_stale :
    let stale : BitBuffer := { sent := .replicate 64 0xa5, window := .replicate 64 0x5a }
    let commands : List Bytes := [[0xb0, 0x02], [], [0x29]]
    stale.cursor = 0 ∧ commands.flatten.length ≤ 56 ∧ Wire.Begins commands 2 ∧
    stale.extractInto 505 [0x77] = some (.error .overflow, [0x77]) ∧
    ∃ b', stale.loopBack commands = some (commands.map fun _ => .stored (.ok ()), b') ∧
      b'.extractInto 19 [0x77] = some (.ok (), [0x29]) ∧ b'.windowBits[18]? = some false := by
  intro stale commands
  have hempty : stale.cursor = 0 := rfl
  have hroom : commands.flatten.length ≤ 56 := by decide
  have hbegins : Wire.Begins commands 2 := ⟨[[0xb0, 0x02], []], [0x29], [], rfl, by decide, rfl⟩
  obtain ⟨b', hback, hbytes⟩ := (extract_window stale).2 commands hempty hroom
  obtain ⟨hextract, tag, htag, hfirst⟩ := hbytes 2 (by decide)
  rw [hfirst.mpr hbegins] at htag
  exact ⟨hempty, hroom, hbegins, rfl, b', hback, hextract 0x77, htag⟩

end PanelDriver
