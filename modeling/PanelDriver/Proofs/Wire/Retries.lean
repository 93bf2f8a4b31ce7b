import PanelDriver.Proofs.Execution.Course
import PanelDriver.Proofs.Wire.Capacity

/-!
What a run leaves on an I2C bus, whatever the schedule of its failures. Each request that needs the
bus leaves one transaction, or two that are the same with a pause between them, and only one of
which both attempts failed ends the run. A failure that is made good by the second attempt might as
well not have been in the script (`run_i2c_retries`).
-/

namespace PanelDriver

namespace I2cScript

/-- What the next transaction reports. -/
def fault? (s : I2cScript) : Option I2cFault := s.faults.headD none

/-- The script after an attempt at a request; a read takes a reply. -/
def tried (s : I2cScript) : Request → I2cScript
  | .ask _ _ => { replies := s.replies.tail, faults := s.faults.tail }
  | _ => { s with faults := s.faults.tail }

/-- What is compared after an attempt, if it is one at a read. -/
def compared (s : I2cScript) : Request → List Comparison
  | .ask _ expected => [⟨expected, Bytes.fit expected.length (s.replies.headD [])⟩]
  | _ => []

end I2cScript

namespace I2cBus

/-- The transaction that a request needs. A payload, if it is not empty, and the command of a read
are written with bytes 0 and 1 exchanged. -/
inductive Transaction (address : UInt8) : Request → Event → Prop
  | write {generic : Bool} {b : UInt8} {data bytes : Bytes} (swapped : Swapped (b :: data) bytes) :
      Transaction address (.send generic (b :: data)) (.i2cWrite address bytes)
  | read {query : Query} {expected bytes : Bytes} (swapped : Swapped query.bytes bytes) :
      Transaction address (.ask query expected) (.i2cWriteRead address bytes expected.length)

theorem Transaction.of_send {address : UInt8} {generic : Bool} {b : UInt8} {data : Bytes}
    {e : Event} (h : Transaction address (.send generic (b :: data)) e) :
    e = .i2cWrite address (swap (b :: data)) := by
  obtain ⟨swapped⟩ | _ := h
  rw [swapped_iff.mp swapped]

theorem Transaction.of_ask {address : UInt8} {query : Query} {expected : Bytes} {e : Event}
    (h : Transaction address (.ask query expected) e) :
    e = .i2cWriteRead address (swap query.bytes) expected.length := by
  obtain _ | ⟨swapped⟩ := h
  rw [swapped_iff.mp swapped]

/-- What a request leaves without a transaction. -/
def pause : Request → List Event
  | .wait ms => [.delayMs ms.toUInt32]
  | _ => []

/-- How a request goes. The comparison of a read is that of its last attempt, and the fault of a
request that fails that of its second. -/
inductive Goes (address : UInt8) (request : Request) (s : I2cScript) :
    Outcome PanelError I2cScript (List Comparison) → Prop
  | unsent (hnone : ∀ e, ¬Transaction address request e) :
      Goes address request s ⟨.ok [], s, pause request⟩
  | once {e : Event} (hneeds : Transaction address request e) (success : s.fault? = none) :
      Goes address request s ⟨.ok (s.compared request), s.tried request, [e]⟩
  | twice {e : Event} {fault : I2cFault} (hneeds : Transaction address request e)
      (failure : s.fault? = some fault) (success : (s.tried request).fault? = none) :
      Goes address request s ⟨.ok ((s.tried request).compared request),
        (s.tried request).tried request, [e, .delayMs 10, e]⟩
  | lost {e : Event} {fault last : I2cFault} (hneeds : Transaction address request e)
      (failure : s.fault? = some fault) (again : (s.tried request).fault? = some last) :
      Goes address request s ⟨.error (.transfer (.i2c last)), (s.tried request).tried request,
        [e, .delayMs 10, e]⟩

/-- The bytes of a request have room in the buffer of a bus. -/
def Fits : Request → Prop
  | .send _ payload => payload.length ≤ bufferBytes
  | .ask _ expected => expected.length ≤ bufferBytes
  | _ => True

theorem exists_goes (address : UInt8) (request : Request) (s : I2cScript) :
    ∃ o, Goes address request s o := by
  by_cases hneeds : ∃ e, Transaction address request e
  · obtain ⟨e, hneeds⟩ := hneeds
    cases hfirst : s.fault? with
    | none => exact ⟨_, .once hneeds hfirst⟩
    | some fault =>
      cases hsecond : (s.tried request).fault? with
      | none => exact ⟨_, .twice hneeds hfirst hsecond⟩
      | some last => exact ⟨_, .lost hneeds hfirst hsecond⟩
  · exact ⟨_, .unsent (not_exists.mp hneeds)⟩

theorem retrying_again {σ : Type} {x : Action I2cFault σ Unit} {s s' s'' : σ} {fault : I2cFault}
    {result : Except I2cFault Unit} {es fs : List Event} (first : x s = ⟨.error fault, s', es⟩)
    (second : x s' = ⟨result, s'', fs⟩) :
    retrying x s = ⟨result.mapError fun last => .transfer (.i2c last), s'',
      es ++ .delayMs 10 :: fs⟩ := by
  have hpause : (Action.record (.delayMs retryDelayMs) : Action PanelError σ Unit) s' =
      ⟨.ok (), s', [.delayMs 10]⟩ := rfl
  rw [retrying, Action.orElse_error first, Action.bind_ok hpause, Action.mapError_eq _ second]
  rfl

section Scripted

variable (link : I2cLink) (packer : Packer)

/-- A bus on a script, with nothing waiting. -/
def place (s : I2cScript) : Channel I2cBus := ⟨⟨.scripted s, link⟩, packer.reset⟩

theorem carryOut_send {generic : Bool} {b : UInt8} {data : Bytes}
    (hfits : Fits (.send generic (b :: data))) {s s' : I2cScript}
    {result : Except PanelError Unit} {es : List Event}
    (h : retrying (writeOnce link.address (swap (b :: data))) ⟨.scripted s, link⟩ =
      ⟨result, ⟨.scripted s', link⟩, es⟩) :
    carryOut (.send generic (b :: data)) (place link packer s) =
      ⟨result.map fun _ => [], place link packer s', es⟩ := by
  have hwrite : write (b :: data) ⟨.scripted s, link⟩ = ⟨result, ⟨.scripted s', link⟩, es⟩ :=
    (write_eq_retrying hfits _).trans h
  have hsend : (send (b :: data) generic : Action PanelError (Channel I2cBus) Unit)
      (place link packer s) = ⟨result, place link packer s', es⟩ := by
    show Channel.onBus (write (b :: data)) (place link packer s) = _
    simp only [Channel.onBus, Action.on, place, hwrite]
  cases result with
  | error e => exact Action.bind_error hsend
  | ok _ =>
    rw [carryOut, Action.bind_ok hsend, Action.pure_apply, List.append_nil]
    rfl

theorem carryOut_ask {query : Query} {expected buffer : Bytes}
    (hfits : Fits (.ask query expected)) {s s' : I2cScript}
    {result : Except PanelError Unit} {es : List Event}
    (h : retrying (readOnce link.address (swap query.bytes))
      (⟨.scripted s, link⟩, Bytes.zeros expected.length) =
        ⟨result, (⟨.scripted s', link⟩, buffer), es⟩) :
    carryOut (.ask query expected) (place link packer s) =
      ⟨result.map fun _ => [⟨expected, buffer⟩], place link packer s', es⟩ := by
  have hquery : query.bytes.length ≤ bufferBytes :=
    Nat.le_trans query.length_bytes_le (by decide)
  have hbuffer : (Bytes.zeros expected.length).length ≤ bufferBytes := by
    rw [Bytes.length_zeros]
    exact hfits
  have hread : read query.bytes (⟨.scripted s, link⟩, Bytes.zeros expected.length) =
      ⟨result, (⟨.scripted s', link⟩, buffer), es⟩ :=
    (read_eq_retrying hquery hbuffer _).trans h
  have hback : Channel.readBack query.bytes query.isGeneric expected.length
      (place link packer s) = ⟨result.map fun _ => buffer, place link packer s', es⟩ := by
    simp only [Channel.readBack, SidebandBus.read, Channel.onBusAndBuffer, Action.on, place, hread]
  cases result with
  | error e => exact Action.bind_error hback
  | ok _ =>
    rw [carryOut, Action.bind_ok hback, Action.pure_apply, List.append_nil]
    rfl

/-- What an attempt of a write does. -/
theorem writeOnce_eq (address : UInt8) (bytes : Bytes) (s : I2cScript) :
    writeOnce address bytes ⟨.scripted s, link⟩ =
      ⟨reported s.fault?, ⟨.scripted { s with faults := s.faults.tail }, link⟩,
        [.i2cWrite address bytes]⟩ := rfl

theorem readOnce_eq (address : UInt8) (bytes buffer : Bytes) (s : I2cScript) :
    readOnce address bytes (⟨.scripted s, link⟩, buffer) =
      ⟨reported s.fault?, (⟨.scripted { replies := s.replies.tail, faults := s.faults.tail }, link⟩,
        Bytes.fit buffer.length (s.replies.headD [])),
        [.i2cWriteRead address bytes buffer.length]⟩ := rfl

theorem carryOut_of_goes {request : Request} {s : I2cScript}
    {o : Outcome PanelError I2cScript (List Comparison)} (hfits : Fits request)
    (goes : Goes link.address request s o) :
    carryOut request (place link packer s) = ⟨o.result, place link packer o.state, o.events⟩ := by
  cases request with
  | wait ms | limit size =>
    cases goes with
    | unsent => rfl
    | once hneeds | twice hneeds | lost hneeds => cases hneeds
  | send generic payload =>
    cases payload with
    | nil =>
      cases goes with
      | unsent => rfl
      | once hneeds | twice hneeds | lost hneeds => cases hneeds
    | cons b data =>
      have hfirst := writeOnce_eq link link.address (swap (b :: data)) s
      have hsecond := writeOnce_eq link link.address (swap (b :: data))
        (s.tried (.send generic (b :: data)))
      cases goes with
      | unsent hnone => exact absurd (.write (swapped_swap _)) (hnone _)
      | once hneeds success =>
        obtain rfl := hneeds.of_send
        rw [success] at hfirst
        exact carryOut_send link packer hfits (Action.orElse_ok hfirst)
      | twice hneeds failure success =>
        obtain rfl := hneeds.of_send
        rw [failure] at hfirst
        rw [success] at hsecond
        exact carryOut_send link packer hfits (retrying_again hfirst hsecond)
      | lost hneeds failure again =>
        obtain rfl := hneeds.of_send
        rw [failure] at hfirst
        rw [again] at hsecond
        exact carryOut_send link packer hfits (retrying_again hfirst hsecond)
  | ask query expected =>
    have hfirst := readOnce_eq link link.address (swap query.bytes)
      (Bytes.zeros expected.length) s
    have hsecond := readOnce_eq link link.address (swap query.bytes)
      (Bytes.fit expected.length (s.replies.headD [])) (s.tried (.ask query expected))
    rw [Bytes.length_zeros] at hfirst
    rw [Bytes.length_fit] at hsecond
    cases goes with
    | unsent hnone => exact absurd (.read (swapped_swap _)) (hnone _)
    | once hneeds success =>
      obtain rfl := hneeds.of_ask
      rw [success] at hfirst
      exact carryOut_ask link packer hfits (Action.orElse_ok hfirst)
    | twice hneeds failure success =>
      obtain rfl := hneeds.of_ask
      rw [failure] at hfirst
      rw [success] at hsecond
      exact carryOut_ask link packer hfits (retrying_again hfirst hsecond)
    | lost hneeds failure again =>
      obtain rfl := hneeds.of_ask
      rw [failure] at hfirst
      rw [again] at hsecond
      exact carryOut_ask link packer hfits (retrying_again hfirst hsecond)

theorem scripted : Scripted (Goes link.address) (place link packer) Fits where
  total request s _ := exists_goes link.address request s
  carried _ _ _ hfits goes := carryOut_of_goes link packer hfits goes
  flush _ := rfl
  empty _ := rfl

end Scripted

end I2cBus

/-! ## Failures that are made good -/

namespace Event

/-- A transaction on I2C. -/
def isI2c : Event → Bool
  | .i2cWrite _ _ | .i2cWriteRead _ _ _ => true
  | _ => false

/-- A transaction that takes a reply. -/
def isI2cRead : Event → Bool
  | .i2cWriteRead _ _ _ => true
  | _ => false

end Event

theorem headD_eraseIdx_succ {α : Type} (l : List α) (n : Nat) (d : α) :
    (l.eraseIdx (n + 1)).headD d = l.headD d := by
  cases l <;> rfl

theorem tail_eraseIdx_succ {α : Type} (l : List α) (n : Nat) :
    (l.eraseIdx (n + 1)).tail = l.tail.eraseIdx n := by
  cases l <;> rfl

namespace I2cScript

/-- The script without the entries of the attempt `e` that comes right after `done`: one of the
schedule, and the reply of a read. -/
def without (done : List Event) (e : Event) (s : I2cScript) : I2cScript where
  faults := s.faults.eraseIdx (done.countP Event.isI2c)
  replies := if e.isI2cRead then s.replies.eraseIdx (done.countP Event.isI2cRead) else s.replies

/-- The entry of the schedule for the attempt that comes right after `done`. -/
def faultAt (done : List Event) (s : I2cScript) : Option I2cFault :=
  s.faults.getD (done.countP Event.isI2c) none

end I2cScript

namespace I2cBus

variable {address : UInt8} {request : Request} {s : I2cScript}

theorem Transaction.isI2c {e : Event} (h : Transaction address request e) : e.isI2c = true := by
  cases h <;> rfl

theorem countP_pause_append (request : Request) (done : List Event) :
    (pause request ++ done).countP Event.isI2c = done.countP Event.isI2c ∧
      (pause request ++ done).countP Event.isI2cRead = done.countP Event.isI2cRead := by
  cases request with
  | wait ms => exact ⟨List.countP_cons_of_neg nofun, List.countP_cons_of_neg nofun⟩
  | _ => exact ⟨rfl, rfl⟩

/-- Without the attempt that comes first, the script is what that attempt leaves. -/
theorem without_nil {e : Event} (h : Transaction address request e) (s : I2cScript) :
    s.without [] e = s.tried request := by
  cases h <;> simp [I2cScript.without, I2cScript.tried, Event.isI2cRead]

/-- An attempt does not see what is missing later. -/
theorem without_cons {first : Event} (h : Transaction address request first)
    (done : List Event) (e : Event) (s : I2cScript) :
    (s.without (first :: done) e).fault? = s.fault? ∧
      (s.without (first :: done) e).compared request = s.compared request ∧
      (s.without (first :: done) e).tried request = (s.tried request).without done e := by
  have hcount : (first :: done).countP Event.isI2c = done.countP Event.isI2c + 1 :=
    List.countP_cons_of_pos (h.isI2c)
  have hfault : (s.without (first :: done) e).fault? = s.fault? := by
    rw [I2cScript.fault?, I2cScript.without, hcount, headD_eraseIdx_succ]
    rfl
  cases request with
  | wait ms | limit size => cases h
  | send generic payload =>
    have hread : (first :: done).countP Event.isI2cRead = done.countP Event.isI2cRead := by
      cases h
      exact List.countP_cons_of_neg nofun
    refine ⟨hfault, rfl, ?_⟩
    simp only [I2cScript.without, I2cScript.tried, hcount, hread, tail_eraseIdx_succ]
  | ask query expected =>
    have hread : (first :: done).countP Event.isI2cRead = done.countP Event.isI2cRead + 1 := by
      cases h
      exact List.countP_cons_of_pos rfl
    refine ⟨hfault, ?_, ?_⟩
    · simp only [I2cScript.without, I2cScript.compared, hread]
      split
      · rw [headD_eraseIdx_succ]
      · rfl
    · simp only [I2cScript.without, I2cScript.tried, hcount, hread, tail_eraseIdx_succ]
      split
      · rw [tail_eraseIdx_succ]
      · rfl

theorem faultAt_cons {first : Event} (h : Transaction address request first)
    (done : List Event) (s : I2cScript) :
    s.faultAt (first :: done) = (s.tried request).faultAt done := by
  have hcount : (first :: done).countP Event.isI2c = done.countP Event.isI2c + 1 :=
    List.countP_cons_of_pos (h.isI2c)
  have htail : (s.tried request).faults = s.faults.tail := by cases request <;> rfl
  rw [I2cScript.faultAt, I2cScript.faultAt, hcount, htail]
  cases s.faults <;> rfl

theorem faultAt_second {e : Event} (h : Transaction address request e) (s : I2cScript) :
    s.faultAt [e, .delayMs 10] = (s.tried request).fault? := by
  rw [faultAt_cons h]
  exact (List.headD_eq_getD ..).symm

/-- A request that succeeds leaves the rest of the script to those after it. -/
theorem Goes.without {s' : I2cScript} {compared : List Comparison} {block : List Event}
    (goes : Goes address request s ⟨.ok compared, s', block⟩) (done : List Event) (e : Event) :
    Goes address request (s.without (block ++ done) e) ⟨.ok compared, s'.without done e, block⟩ ∧
      s.faultAt (block ++ done) = s'.faultAt done := by
  cases goes with
  | unsent hnone =>
    obtain ⟨hcount, hread⟩ := countP_pause_append request done
    simp only [I2cScript.without, I2cScript.faultAt, hcount, hread]
    exact ⟨.unsent hnone, trivial⟩
  | @once attempt hneeds success =>
    obtain ⟨hfault, hcompared, htried⟩ := without_cons hneeds done e s
    refine ⟨?_, faultAt_cons hneeds done s⟩
    rw [← hcompared, ← htried]
    exact .once hneeds (hfault.trans success)
  | @twice attempt fault hneeds failure success =>
    obtain ⟨hfault, -, htried⟩ := without_cons hneeds (.delayMs 10 :: attempt :: done) e s
    obtain ⟨hfault', hcompared, htried'⟩ := without_cons hneeds done e (s.tried request)
    -- The pause between the attempts has no entry.
    have hpause : (s.without (attempt :: .delayMs 10 :: attempt :: done) e).tried request =
        (s.tried request).without (attempt :: done) e := htried
    constructor
    · rw [← hcompared, ← htried', ← hpause]
      exact .twice hneeds (hfault.trans failure)
        ((congrArg I2cScript.fault? hpause).trans (hfault'.trans success))
    · have hsecond := faultAt_cons hneeds done (s.tried request)
      exact (faultAt_cons hneeds (.delayMs 10 :: attempt :: done) s).trans hsecond

/-- What two attempts come to is what the second reports. -/
theorem Goes.eq_of_twice {o : Outcome PanelError I2cScript (List Comparison)} {e : Event}
    (goes : Goes address request s o) (hblock : o.events = [e, .delayMs 10, e]) :
    Transaction address request e ∧
      s.faultAt [e, .delayMs 10] = (s.tried request).fault? ∧
      o = ⟨match s.faultAt [e, .delayMs 10] with
        | none => .ok ((s.tried request).compared request)
        | some last => .error (.transfer (.i2c last)), (s.tried request).tried request,
        [e, .delayMs 10, e]⟩ := by
  cases goes with
  | unsent hnone =>
    have hlength := congrArg List.length hblock
    cases request <;> cases hlength
  | once hneeds success => cases hblock
  | twice hneeds failure again | lost hneeds failure again =>
    obtain rfl := (List.cons.inj hblock).1
    refine ⟨hneeds, faultAt_second hneeds s, ?_⟩
    rw [faultAt_second hneeds, again]

/-- A failure that is made good at once might as well not be in the script. -/
theorem course_without {asked : List Request} {left : I2cScript} {front back : List (List Event)}
    {e : Event} {result : Except PanelError (List Comparison)}
    (course : Course (Goes address) asked s (front ++ [e, .delayMs 10, e] :: back) result left)
    (success : s.faultAt (front.flatten ++ [e, .delayMs 10]) = none) :
    Course (Goes address) asked (s.without front.flatten e) (front ++ [e] :: back) result left := by
  induction front generalizing asked s result with
  | nil =>
    rw [List.nil_append] at course
    cases course with
    | next first later =>
      obtain ⟨hneeds, hfault, heq⟩ := first.eq_of_twice rfl
      rw [show s.faultAt [e, .delayMs 10] = none from success] at heq hfault
      cases heq
      rw [List.flatten_nil, without_nil hneeds]
      exact .next (.once hneeds hfault.symm) later
    | stop last =>
      obtain ⟨-, -, heq⟩ := last.eq_of_twice rfl
      rw [show s.faultAt [e, .delayMs 10] = none from success] at heq
      cases heq
  | cons block front ih =>
    rw [List.cons_append] at course
    generalize hblocks : front ++ [e, .delayMs 10, e] :: back = blocks at course
    cases course with
    | next first later =>
      subst hblocks
      obtain ⟨hgoes, -⟩ := first.without front.flatten e
      obtain ⟨-, hfault⟩ := first.without (front.flatten ++ [e, .delayMs 10]) e
      rw [List.flatten_cons, List.append_assoc, hfault] at success
      exact .next hgoes (ih later success)
    | stop last => simp at hblocks

/-- Requests fail where both attempts of one have failed, and nothing comes after those. -/
theorem course_lost_iff {asked : List Request} {left : I2cScript} {blocks : List (List Event)}
    {result : Except PanelError (List Comparison)} {last : I2cFault}
    (course : Course (Goes address) asked s blocks result left) :
    result = .error (.transfer (.i2c last)) ↔
      ∃ front e, blocks = front ++ [[e, .delayMs 10, e]] ∧
        s.faultAt (front.flatten ++ [e, .delayMs 10]) = some last := by
  induction course with
  | done s => simp
  | stop failed =>
    cases failed with
    | lost hneeds failure again =>
      have hfault := (faultAt_second hneeds _).trans again
      constructor
      · intro h
        cases h
        exact ⟨[], _, rfl, hfault⟩
      · rintro ⟨front, e, hblocks, hlast⟩
        cases front with
        | nil =>
          cases hblocks
          cases hfault.symm.trans hlast
          rfl
        | cons block front => simp at hblocks
  | @next _ _ _ _ _ _ block _ _ first later ih =>
    rw [map_eq_error_iff, ih]
    constructor
    · rintro ⟨front, e, rfl, hfault⟩
      refine ⟨block :: front, e, rfl, ?_⟩
      rw [List.flatten_cons, List.append_assoc, (first.without _ e).2]
      exact hfault
    · rintro ⟨front, e, hblocks, hfault⟩
      cases front with
      | nil =>
        obtain ⟨hblock, -⟩ := List.cons.inj hblocks
        subst hblock
        obtain ⟨-, -, heq⟩ := first.eq_of_twice rfl
        rw [List.flatten_nil, List.nil_append] at hfault
        rw [hfault] at heq
        cases heq
      | cons block' front =>
        obtain ⟨rfl, hrest⟩ := List.cons.inj hblocks
        rw [List.flatten_cons, List.append_assoc, (first.without _ e).2] at hfault
        exact ⟨front, e, hrest, hfault⟩

end I2cBus

/-! ## Runs -/

namespace I2cBus

theorem fits_requests {ctx : Context} {program : Program} {steps : List Step}
    (valid : program.steps = .ok steps)
    (short : ∀ generic payload, Step.write generic payload ∈ active ctx.lanes steps →
      payload.length ≤ 64) :
    ∀ request ∈ program.requests ctx, Fits request := by
  intro request hrequest
  have hfits : request.exceeds (some 64) = false := by
    rw [Program.requests_of_steps valid] at hrequest
    refine exceeds_of_mem_requests (by simp) (fun step hstep => ?_) request hrequest
    cases step with
    | write generic payload =>
      exact decide_eq_false (Nat.not_lt.mpr (short generic payload hstep))
    | _ => rfl
  cases request with
  | send generic payload => exact Nat.not_lt.mp (of_decide_eq_false hfits)
  | ask query expected => exact Nat.le_trans (length_of_ask hrequest).2 (by decide)
  | wait ms | limit size => trivial

/-- A run records the course of its requests. -/
theorem run_of_course {ctx : Context} {program : Program} {link : I2cLink} {s left : I2cScript}
    {blocks : List (List Event)} {result : Except PanelError (List Comparison)}
    (course : Course (Goes link.address) (program.requests ctx) s blocks result left)
    (valid : defect? program.items = none) (hfits : ∀ request ∈ program.requests ctx, Fits request)
    (packer : Packer) :
    let run := program.run ctx (⟨⟨.scripted s, link⟩, packer⟩ : Channel I2cBus)
    run.result = verdict result ∧ run.events = blocks.flatten ∧
      run.state.bus = ⟨.scripted left, link⟩ := by
  cases hempty : program.isEmpty with
  | true =>
    obtain ⟨_ | ⟨byte, rest⟩⟩ := program
    · cases course
      exact ⟨rfl, rfl, rfl⟩
    · cases hempty
  | false =>
    have hrun := course.run_eq (scripted link packer) orderly valid hempty hfits
      ⟨⟨.scripted s, link⟩, packer⟩ rfl
    rw [hrun]
    exact ⟨rfl, rfl, rfl⟩

end I2cBus

/-- A valid program with no active payload of more than 64 bytes, on an I2C bus with any script. Its
requests, in their order, leave one block each, as far as they are reached: a payload or a read one
transaction, or two that are the same with a pause of 10 ms between them, a delay just that. What a
transaction writes is the payload or the command with bytes 0 and 1 exchanged. The run ends with a
fault if and only if both attempts of a request fail, and it is that of the second; those are then
the last it has recorded. Where only the first attempt fails, nothing else is otherwise than in a
run in which that attempt is not made. -/
theorem run_i2c_retries (ctx : Context) (program : Program) (steps : List Step)
    (valid : program.steps = .ok steps)
    (short : ∀ generic payload, Step.write generic payload ∈ active ctx.lanes steps →
      payload.length ≤ 64)
    (link : I2cLink) (script : I2cScript) (packer : Packer) :
    let run := fun script =>
      program.run ctx (⟨⟨.scripted script, link⟩, packer⟩ : Channel I2cBus)
    ∃ blocks result left,
      Course (I2cBus.Goes link.address) (requests ctx.timing 0 (active ctx.lanes steps)) script
        blocks result left ∧
      (run script).result = verdict result ∧ (run script).events = blocks.flatten ∧
      (run script).state.bus = ⟨.scripted left, link⟩ ∧
      (∀ last, (run script).result = .error (.transfer (.i2c last)) ↔
        ∃ front e, blocks = front ++ [[e, .delayMs 10, e]] ∧
          script.faultAt (front.flatten ++ [e, .delayMs 10]) = some last) ∧
      ∀ front e back, blocks = front ++ [e, .delayMs 10, e] :: back →
        script.faultAt (front.flatten ++ [e, .delayMs 10]) = none →
        (run (script.without front.flatten e)).result = (run script).result ∧
        (run (script.without front.flatten e)).events = (front ++ [e] :: back).flatten ∧
        (run (script.without front.flatten e)).state.bus = (run script).state.bus := by
  intro run
  have hdefect := (steps_eq_ok_iff.mp valid).1
  have hfits := I2cBus.fits_requests valid short
  obtain ⟨blocks, result, left, course⟩ :=
    (I2cBus.scripted link packer).exists_course _ hfits script
  obtain ⟨hresult, hevents, hbus⟩ := I2cBus.run_of_course course hdefect hfits packer
  rw [← Program.requests_of_steps valid]
  refine ⟨blocks, result, left, course, hresult, hevents, hbus, fun last => ?_, ?_⟩
  · rw [hresult, verdict_eq_transfer_iff]
    exact I2cBus.course_lost_iff course
  · rintro front e back rfl success
    have hspared := I2cBus.course_without course success
    obtain ⟨hresult', hevents', hbus'⟩ := I2cBus.run_of_course hspared hdefect hfits packer
    exact ⟨hresult'.trans hresult.symm, hevents', hbus'.trans hbus.symm⟩

/-- The second attempt makes the failure of the first write good; the read fails twice. -/
theorem run_i2c_retries_lost_read :
    let program : Program :=
      ⟨[0x03, 0xb0, 0x01, 0x77, 0x01, 0x11, 0xc0, 0x0a, 0x05, 0x9c, 0x01, 0x29]⟩
    let steps : List Step := [.write false [0xb0, 0x01, 0x77], .write false [0x11],
      .read (.generic 0x0a 0x05) [0x9c], .write false [0x29]]
    let script : I2cScript := { faults := [some .bus, none, none, some .other, some .overrun] }
    let run := program.run (.ofLanes 4) (⟨⟨.scripted script, ⟨0x2c, 0⟩⟩, {}⟩ : Channel I2cBus)
    program.steps = .ok steps ∧ run.result = .error (.transfer (.i2c .overrun)) ∧
    run.events = [.i2cWrite 0x2c [0x01, 0xb0, 0x77], .delayMs 10,
      .i2cWrite 0x2c [0x01, 0xb0, 0x77], .i2cWrite 0x2c [0x11],
      .i2cWriteRead 0x2c [0x05, 0x0a] 1, .delayMs 10, .i2cWriteRead 0x2c [0x05, 0x0a] 1] ∧
    ∃ blocks result left, Course (I2cBus.Goes 0x2c)
      [.send false [0xb0, 0x01, 0x77], .send false [0x11], .ask (.generic 0x0a 0x05) [0x9c],
        .send false [0x29]] script blocks result left ∧ run.events = blocks.flatten ∧
      ∃ front e, blocks = front ++ [[e, .delayMs 10, e]] ∧
        script.faultAt (front.flatten ++ [e, .delayMs 10]) = some .overrun := by
  intro program steps script run
  have hsteps : program.steps = .ok steps := rfl
  have hresult : run.result = .error (.transfer (.i2c .overrun)) := by decide
  have hshort : ∀ generic payload, Step.write generic payload ∈ active 4 steps →
      payload.length ≤ 64 := by
    intro generic payload h
    have hcases : generic = false ∧ payload = [0xb0, 0x01, 0x77] ∨
        generic = false ∧ payload = [0x11] ∨ generic = false ∧ payload = [0x29] := by
      simpa [steps, active, activeFrom] using h
    rcases hcases with ⟨-, rfl⟩ | ⟨-, rfl⟩ | ⟨-, rfl⟩ <;> decide
  obtain ⟨blocks, result, left, course, -, hevents, -, hlost, -⟩ :=
    run_i2c_retries (.ofLanes 4) program steps hsteps hshort ⟨0x2c, 0⟩ script {}
  exact ⟨hsteps, hresult, by decide, blocks, result, left, course, hevents,
    (hlost .overrun).mp hresult⟩

end PanelDriver
