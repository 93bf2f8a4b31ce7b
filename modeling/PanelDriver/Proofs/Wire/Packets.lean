import PanelDriver.Proofs.Execution.Course
import PanelDriver.Proofs.Execution.Replies

/-!
What a run leaves on a DSI host, whatever its script. Packets go out one for each request and as
they are, but for reads that bring a protocol report: these go out twice, and what the second brings
counts even if the report comes again. Any other report ends the run (`run_packets`).
-/

namespace PanelDriver

namespace DsiScript

/-- What the next packet that is sent reports. -/
def writeFault? (s : DsiScript) : Option DsiFault := s.writeFaults.headD none

def afterWrite (s : DsiScript) : DsiScript := { s with writeFaults := s.writeFaults.tail }

def sizeFault? (s : DsiScript) : Option DsiFault := s.sizeFaults.headD none

def afterSize (s : DsiScript) : DsiScript := { s with sizeFaults := s.sizeFaults.tail }

/-- What the next read brings. -/
def reply (s : DsiScript) : DsiReply := s.replies.headD {}

def afterRead (s : DsiScript) : DsiScript := { s with replies := s.replies.tail }

end DsiScript

namespace MipiBus

/-- The packet that sends a payload. -/
def packet (generic : Bool) (payload : Bytes) : Event :=
  if generic then .genericWrite payload else .dcsWrite payload

/-- The packet that asks for so many bytes. -/
def question : Query → Nat → Event
  | .dcs command, length => .dcsRead command length
  | .generic first second, length => .genericRead [first, second] length

/-- What a read compares that has brought a reply. -/
def compared (expected : Bytes) (reply : DsiReply) : List Comparison :=
  [⟨expected, Bytes.fit expected.length reply.data⟩]

/-- How a request goes. A protocol report on a read is the only one that is not the end of it. -/
inductive Goes : Request → DsiScript → Outcome PanelError DsiScript (List Comparison) → Prop
  | unsent {generic : Bool} {s : DsiScript} : Goes (.send generic []) s ⟨.ok [], s, []⟩
  | sent {generic : Bool} {payload : Bytes} {s : DsiScript} (nonempty : payload ≠ [])
      (success : s.writeFault? = none) :
      Goes (.send generic payload) s ⟨.ok [], s.afterWrite, [packet generic payload]⟩
  | refused {generic : Bool} {payload : Bytes} {s : DsiScript} {fault : DsiFault}
      (nonempty : payload ≠ []) (failure : s.writeFault? = some fault) :
      Goes (.send generic payload) s
        ⟨.error (.transfer (.dsi fault)), s.afterWrite, [packet generic payload]⟩
  | waited {ms : UInt8} {s : DsiScript} : Goes (.wait ms) s ⟨.ok [], s, [.delayMs ms.toUInt32]⟩
  | limited {size : UInt8} {s : DsiScript} (success : s.sizeFault? = none) :
      Goes (.limit size) s ⟨.ok [], s.afterSize, [.returnSize size.toUInt16]⟩
  | unlimited {size : UInt8} {s : DsiScript} {fault : DsiFault}
      (failure : s.sizeFault? = some fault) :
      Goes (.limit size) s
        ⟨.error (.transfer (.dsi fault)), s.afterSize, [.returnSize size.toUInt16]⟩
  | answered {query : Query} {expected : Bytes} {s : DsiScript} (success : s.reply.fault = none) :
      Goes (.ask query expected) s
        ⟨.ok (compared expected s.reply), s.afterRead, [question query expected.length]⟩
  | unanswered {query : Query} {expected : Bytes} {s : DsiScript} {fault : DsiFault}
      (failure : s.reply.fault = some fault) (other : fault ≠ .protocol) :
      Goes (.ask query expected) s
        ⟨.error (.transfer (.dsi fault)), s.afterRead, [question query expected.length]⟩
  | repeated {query : Query} {expected : Bytes} {s : DsiScript}
      (again : s.reply.fault = some .protocol)
      (accepted : s.afterRead.reply.fault = none ∨ s.afterRead.reply.fault = some .protocol) :
      Goes (.ask query expected) s
        ⟨.ok (compared expected s.afterRead.reply), s.afterRead.afterRead,
          [question query expected.length, question query expected.length]⟩
  | lost {query : Query} {expected : Bytes} {s : DsiScript} {fault : DsiFault}
      (again : s.reply.fault = some .protocol) (failure : s.afterRead.reply.fault = some fault)
      (other : fault ≠ .protocol) :
      Goes (.ask query expected) s
        ⟨.error (.transfer (.dsi fault)), s.afterRead.afterRead,
          [question query expected.length, question query expected.length]⟩

theorem exists_goes (request : Request) (s : DsiScript) : ∃ o, Goes request s o := by
  cases request with
  | send generic payload =>
    by_cases hempty : payload = []
    · subst hempty
      exact ⟨_, .unsent⟩
    · cases hfault : s.writeFault? with
      | none => exact ⟨_, .sent hempty hfault⟩
      | some fault => exact ⟨_, .refused hempty hfault⟩
  | wait ms => exact ⟨_, .waited⟩
  | limit size =>
    cases hfault : s.sizeFault? with
    | none => exact ⟨_, .limited hfault⟩
    | some fault => exact ⟨_, .unlimited hfault⟩
  | ask query expected =>
    cases hfirst : s.reply.fault with
    | none => exact ⟨_, .answered hfirst⟩
    | some fault =>
      by_cases hprotocol : fault = .protocol
      · subst hprotocol
        cases hsecond : s.afterRead.reply.fault with
        | none => exact ⟨_, .repeated hfirst (.inl hsecond)⟩
        | some last =>
          by_cases hagain : last = .protocol
          · exact ⟨_, .repeated hfirst (.inr (hagain ▸ hsecond))⟩
          · exact ⟨_, .lost hfirst hsecond hagain⟩
      · exact ⟨_, .unanswered hfirst hprotocol⟩

/-- No request touches the mode of transmission. -/
theorem Goes.not_lowPower {s : DsiScript} {request : Request}
    {o : Outcome PanelError DsiScript (List Comparison)} (goes : Goes request s o) (on : Bool) :
    .lowPower on ∉ o.events := by
  have hpacket (generic : Bool) (payload : Bytes) : packet generic payload ≠ .lowPower on := by
    cases generic <;> nofun
  have hquestion (query : Query) (length : Nat) : question query length ≠ .lowPower on := by
    cases query <;> nofun
  cases goes <;> simp [(hpacket _ _).symm, (hquestion _ _).symm]

section Scripted

variable (packer : Packer)

/-- A host on a script, with nothing waiting. -/
def place (s : DsiScript) : Channel MipiBus := ⟨⟨.scripted s⟩, packer.reset⟩

/-- A request that comes down to a call on the host goes as the call does. -/
theorem call_eq {x : Action DsiFault DsiHost Unit} {s s' : DsiScript} {fault? : Option DsiFault}
    {es : List Event} (h : x (.scripted s) = ⟨reported fault?, .scripted s', es⟩) :
    (Channel.onBus (onHost (x.mapError transferError)) >>= fun _ => pure [] :
      Action PanelError (Channel MipiBus) (List Comparison)) (place packer s) =
      ⟨((reported fault?).mapError transferError).map fun _ => [], place packer s', es⟩ := by
  have hcall : Channel.onBus (onHost (x.mapError transferError)) (place packer s) =
      ⟨(reported fault?).mapError transferError, place packer s', es⟩ := by
    simp only [Channel.onBus, onHost, Action.on, place, Action.mapError_eq _ h]
  cases fault? with
  | none =>
    rw [Action.bind_ok hcall, Action.pure_apply, List.append_nil]
    rfl
  | some fault => exact Action.bind_error hcall

theorem carryOut_send {generic : Bool} {payload : Bytes} (nonempty : payload ≠ [])
    (s : DsiScript) : carryOut (.send generic payload) (place packer s) =
      ⟨((reported s.writeFault?).mapError transferError).map fun _ => [],
        place packer s.afterWrite, [packet generic payload]⟩ := by
  have hhost : DsiHost.write generic payload (.scripted s) =
      ⟨reported s.writeFault?, .scripted s.afterWrite, [packet generic payload]⟩ := rfl
  cases payload with
  | nil => exact absurd rfl nonempty
  | cons b data => exact call_eq packer hhost

theorem carryOut_limit (size : UInt8) (s : DsiScript) :
    carryOut (.limit size) (place packer s) =
      ⟨((reported s.sizeFault?).mapError transferError).map fun _ => [],
        place packer s.afterSize, [.returnSize size.toUInt16]⟩ := by
  have hhost : DsiHost.setReturnSize size.toUInt16 (.scripted s) =
      ⟨reported s.sizeFault?, .scripted s.afterSize, [.returnSize size.toUInt16]⟩ := rfl
  exact call_eq packer hhost

theorem carryOut_ask {query : Query} {expected buffer : Bytes} {s s' : DsiScript}
    {result : Except PanelError Unit} {es : List Event}
    (h : readHost query.bytes query.isGeneric (.scripted s, Bytes.zeros expected.length) =
      ⟨result, (.scripted s', buffer), es⟩) :
    carryOut (.ask query expected) (place packer s) =
      ⟨result.map fun _ => [⟨expected, buffer⟩], place packer s', es⟩ := by
  have hback : Channel.readBack query.bytes query.isGeneric expected.length (place packer s) =
      ⟨result.map fun _ => buffer, place packer s', es⟩ := by
    simp only [Channel.readBack, SidebandBus.read, Channel.onBusAndBuffer, read, Action.on, place,
      h]
  cases result with
  | error e => exact Action.bind_error hback
  | ok _ =>
    rw [carryOut, Action.bind_ok hback, Action.pure_apply, List.append_nil]
    rfl

theorem readOnce_eq (query : Query) (buffer : Bytes) (s : DsiScript) :
    readOnce query.bytes query.isGeneric (.scripted s, buffer) =
      ⟨reported s.reply.fault, (.scripted s.afterRead, Bytes.fit buffer.length s.reply.data),
        [question query buffer.length]⟩ := by
  cases query <;> rfl

/-- A report other than a protocol report is not asked about again. -/
theorem readHost_of_other {command : Bytes} {generic : Bool} {s s' : DsiHost × Bytes}
    {fault : DsiFault} {es : List Event}
    (h : readOnce command generic s = ⟨.error fault, s', es⟩) (other : fault ≠ .protocol) :
    readHost command generic s = ⟨.error (transferError fault), s', es⟩ := by
  rw [readHost, Action.orElse_error h]
  cases fault with
  | protocol => exact absurd rfl other
  | timeout | other => simp [Action.fail]

/-- After a protocol report whatever the second attempt brings is taken, with the same report or
without one. -/
theorem readHost_of_accepted {command : Bytes} {generic : Bool} {s s' s'' : DsiHost × Bytes}
    {fault? : Option DsiFault} {es fs : List Event}
    (first : readOnce command generic s = ⟨.error .protocol, s', es⟩)
    (second : readOnce command generic s' = ⟨reported fault?, s'', fs⟩)
    (accepted : fault? = none ∨ fault? = some .protocol) :
    readHost command generic s = ⟨.ok (), s'', es ++ fs⟩ := by
  rw [readHost, Action.orElse_error first]
  rcases accepted with rfl | rfl
  · simp only [Action.orElse_ok second]
  · simp [Action.orElse_error second]

theorem readHost_of_lost {command : Bytes} {generic : Bool} {s s' s'' : DsiHost × Bytes}
    {fault : DsiFault} {es fs : List Event}
    (first : readOnce command generic s = ⟨.error .protocol, s', es⟩)
    (second : readOnce command generic s' = ⟨.error fault, s'', fs⟩) (other : fault ≠ .protocol) :
    readHost command generic s = ⟨.error (transferError fault), s'', es ++ fs⟩ := by
  rw [readHost, Action.orElse_error first]
  cases fault with
  | protocol => exact absurd rfl other
  | timeout | other => simp [Action.orElse_error second, Action.fail]

theorem carryOut_of_goes {request : Request} {s : DsiScript}
    {o : Outcome PanelError DsiScript (List Comparison)} (goes : Goes request s o) :
    carryOut request (place packer s) = ⟨o.result, place packer o.state, o.events⟩ := by
  have hfirst (query : Query) (expected : Bytes) :=
    readOnce_eq query (Bytes.zeros expected.length) s
  have hsecond (query : Query) (expected : Bytes) :=
    readOnce_eq query (Bytes.fit expected.length s.reply.data) s.afterRead
  simp only [Bytes.length_zeros] at hfirst
  simp only [Bytes.length_fit] at hsecond
  cases goes with
  | unsent | waited => rfl
  | sent nonempty fault | refused nonempty fault =>
    rw [carryOut_send packer nonempty, fault]
    rfl
  | limited fault | unlimited fault =>
    rw [carryOut_limit, fault]
    rfl
  | @answered query expected _ success =>
    have hread := hfirst query expected
    rw [success] at hread
    exact carryOut_ask packer (Action.orElse_ok hread)
  | @unanswered query expected _ fault failure other =>
    have hread := hfirst query expected
    rw [failure] at hread
    exact carryOut_ask packer (readHost_of_other hread other)
  | @repeated query expected _ again accepted =>
    have hread := hfirst query expected
    rw [again] at hread
    exact carryOut_ask packer (readHost_of_accepted hread (hsecond query expected) accepted)
  | @lost query expected _ fault again failure other =>
    have hread := hfirst query expected
    have hagain := hsecond query expected
    rw [again] at hread
    rw [failure] at hagain
    exact carryOut_ask packer (readHost_of_lost hread hagain other)

theorem scripted : Scripted Goes (place packer) fun _ => True where
  total request s _ := exists_goes request s
  carried _ _ _ _ goes := carryOut_of_goes packer goes
  flush _ := rfl
  empty _ := rfl

end Scripted

end MipiBus

/-! ## The calls of a run -/

namespace Event

def isDsiWrite : Event → Bool
  | .dcsWrite _ | .genericWrite _ => true
  | _ => false

def isDsiRead : Event → Bool
  | .dcsRead _ _ | .genericRead _ _ => true
  | _ => false

def isReturnSize : Event → Bool
  | .returnSize _ => true
  | _ => false

end Event

namespace DsiScript

/-- What is left of a script behind the calls `done`. -/
def behind (done : List Event) (s : DsiScript) : DsiScript :=
  s.after (done.countP Event.isDsiRead) (done.countP Event.isDsiWrite)
    (done.countP Event.isReturnSize) s.lowPower

/-- What a call reports, if it is the next. -/
def report? (s : DsiScript) : Event → Option DsiFault
  | .dcsWrite _ | .genericWrite _ => s.writeFault?
  | .returnSize _ => s.sizeFault?
  | .dcsRead _ _ | .genericRead _ _ => s.reply.fault
  | _ => none

/-- A call, if it is the next, reports what ends a run: any fault, but not a protocol report on a
read. -/
def Fatal (s : DsiScript) (e : Event) (fault : DsiFault) : Prop :=
  s.report? e = some fault ∧ (e.isDsiRead = true → fault ≠ .protocol)

theorem behind_append (done more : List Event) (s : DsiScript) :
    s.behind (done ++ more) = (s.behind done).behind more := by
  simp [behind, after, List.countP_append, List.drop_drop]

theorem behind_nil (s : DsiScript) : s.behind [] = s := rfl

end DsiScript

namespace MipiBus

variable {request : Request} {s s' : DsiScript} {o : Outcome PanelError DsiScript (List Comparison)}

theorem behind_packet (generic : Bool) (payload : Bytes) (s : DsiScript) :
    s.behind [packet generic payload] = s.afterWrite := by
  cases generic <;>
    simp [DsiScript.behind, DsiScript.after, DsiScript.afterWrite, packet, Event.isDsiRead,
      Event.isDsiWrite, Event.isReturnSize]

theorem behind_question (query : Query) (length : Nat) (s : DsiScript) :
    s.behind [question query length] = s.afterRead := by
  cases query <;>
    simp [DsiScript.behind, DsiScript.after, DsiScript.afterRead, question, Event.isDsiRead,
      Event.isDsiWrite, Event.isReturnSize]

theorem behind_returnSize (size : UInt16) (s : DsiScript) :
    s.behind [.returnSize size] = s.afterSize := by
  simp [DsiScript.behind, DsiScript.after, DsiScript.afterSize, Event.isDsiRead,
    Event.isDsiWrite, Event.isReturnSize]

/-- Every call takes the next entry of its own queue, and nothing else does. -/
theorem Goes.state_eq (goes : Goes request s o) : o.state = s.behind o.events := by
  cases goes with
  | unsent | waited => rfl
  | sent | refused => exact (behind_packet _ _ _).symm
  | limited | unlimited => exact (behind_returnSize _ _).symm
  | answered | unanswered => exact (behind_question _ _ _).symm
  | @repeated query expected s | @lost query expected s =>
    have htwice := s.behind_append [question query expected.length] [question query expected.length]
    rw [behind_question, behind_question] at htwice
    exact htwice.symm

theorem fatal_question_iff (query : Query) (length : Nat) (s : DsiScript) (fault : DsiFault) :
    s.Fatal (question query length) fault ↔ s.reply.fault = some fault ∧ fault ≠ .protocol := by
  cases query <;> simp [DsiScript.Fatal, DsiScript.report?, question, Event.isDsiRead]

theorem not_fatal_question {query : Query} {length : Nat}
    (h : s.reply.fault = none ∨ s.reply.fault = some .protocol) (fault : DsiFault) :
    ¬s.Fatal (question query length) fault := by
  rw [fatal_question_iff]
  rintro ⟨hfault, other⟩
  rcases h with h | h <;> rw [h] at hfault <;> cases hfault
  exact other rfl

theorem fatal_question_of_other {query : Query} {length : Nat} {reported : DsiFault}
    (h : s.reply.fault = some reported) (other : reported ≠ .protocol) (fault : DsiFault) :
    s.Fatal (question query length) fault ↔ reported = fault := by
  rw [fatal_question_iff, h]
  constructor
  · rintro ⟨hfault, -⟩
    exact Option.some.inj hfault
  · rintro rfl
    exact ⟨rfl, other⟩

theorem fatal_packet_iff (generic : Bool) (payload : Bytes) (s : DsiScript) (fault : DsiFault) :
    s.Fatal (packet generic payload) fault ↔ s.writeFault? = some fault := by
  cases generic <;> simp [DsiScript.Fatal, DsiScript.report?, packet, Event.isDsiRead]

theorem fatal_returnSize_iff (size : UInt16) (s : DsiScript) (fault : DsiFault) :
    s.Fatal (.returnSize size) fault ↔ s.sizeFault? = some fault := by
  simp [DsiScript.Fatal, DsiScript.report?, Event.isDsiRead]

/-- A call of a request is fatal if and only if it is the last and the request fails by it. -/
theorem Goes.fatal_iff (goes : Goes request s o) {done rest : List Event} {e : Event}
    (h : o.events = done ++ e :: rest) (fault : DsiFault) :
    (s.behind done).Fatal e fault ↔ rest = [] ∧ o.result = .error (.transfer (.dsi fault)) := by
  have hone {first : Event} (h : [first] = done ++ e :: rest) :
      done = [] ∧ e = first ∧ rest = [] := by
    cases done with
    | nil => cases h; exact ⟨rfl, rfl, rfl⟩
    | cons _ done => simp at h
  have htwo {first : Event} (h : [first, first] = done ++ e :: rest) :
      done = [] ∧ e = first ∧ rest = [first] ∨ done = [first] ∧ e = first ∧ rest = [] := by
    cases done with
    | nil => cases h; exact .inl ⟨rfl, rfl, rfl⟩
    | cons _ done =>
      obtain ⟨rfl, hlast⟩ := List.cons.inj h
      cases done with
      | nil => cases hlast; exact .inr ⟨rfl, rfl, rfl⟩
      | cons _ done => simp at hlast
  cases goes with
  | unsent => simp at h
  | waited =>
    obtain ⟨rfl, rfl, rfl⟩ := hone h
    simp [DsiScript.Fatal, DsiScript.report?]
  | sent nonempty success =>
    obtain ⟨rfl, rfl, rfl⟩ := hone h
    simp [DsiScript.behind_nil, fatal_packet_iff, success]
  | refused nonempty failure =>
    obtain ⟨rfl, rfl, rfl⟩ := hone h
    simp [DsiScript.behind_nil, fatal_packet_iff, failure]
  | limited success =>
    obtain ⟨rfl, rfl, rfl⟩ := hone h
    simp [DsiScript.behind_nil, fatal_returnSize_iff, success]
  | unlimited failure =>
    obtain ⟨rfl, rfl, rfl⟩ := hone h
    simp [DsiScript.behind_nil, fatal_returnSize_iff, failure]
  | answered success =>
    obtain ⟨rfl, rfl, rfl⟩ := hone h
    simp [DsiScript.behind_nil, not_fatal_question (.inl success)]
  | unanswered failure other =>
    obtain ⟨rfl, rfl, rfl⟩ := hone h
    simp [DsiScript.behind_nil, fatal_question_of_other failure other]
  | repeated again accepted =>
    rcases htwo h with ⟨rfl, rfl, rfl⟩ | ⟨rfl, rfl, rfl⟩
    · simp [DsiScript.behind_nil, not_fatal_question (.inr again)]
    · simp [behind_question, not_fatal_question accepted]
  | lost again failure other =>
    rcases htwo h with ⟨rfl, rfl, rfl⟩ | ⟨rfl, rfl, rfl⟩
    · simp [DsiScript.behind_nil, not_fatal_question (.inr again)]
    · simp [behind_question, fatal_question_of_other failure other]

theorem Goes.exists_of_error {error : PanelError} {block : List Event}
    (goes : Goes request s ⟨.error error, s', block⟩) : ∃ done e, block = done ++ [e] := by
  cases goes with
  | refused | unlimited | unanswered => exact ⟨[], _, rfl⟩
  | lost => exact ⟨[_], _, rfl⟩

end MipiBus

namespace Course

variable {asked : List Request} {s left : DsiScript} {blocks : List (List Event)}
  {result : Except PanelError (List Comparison)}

theorem left_eq (course : Course MipiBus.Goes asked s blocks result left) :
    left = s.behind blocks.flatten := by
  induction course with
  | done s => rfl
  | stop last =>
    rw [List.flatten_singleton]
    exact last.state_eq
  | next first later ih =>
    have hfirst := first.state_eq
    simp only at hfirst
    rw [List.flatten_cons, DsiScript.behind_append, ← hfirst, ih]

theorem exists_of_error (course : Course MipiBus.Goes asked s blocks result left)
    {e : PanelError} (h : result = .error e) : ∃ done last, blocks.flatten = done ++ [last] := by
  induction course with
  | done s => cases h
  | stop failed =>
    rw [List.flatten_singleton]
    exact failed.exists_of_error
  | @next _ _ _ _ _ _ block _ _ first later ih =>
    obtain ⟨done, last, hlater⟩ := ih (map_eq_error_iff.mp h)
    refine ⟨block ++ done, last, ?_⟩
    rw [List.flatten_cons, hlater, List.append_assoc]

/-- The run ends at the first call that is fatal, and by that. -/
theorem fatal_iff (course : Course MipiBus.Goes asked s blocks result left)
    {done rest : List Event} {e : Event} (h : blocks.flatten = done ++ e :: rest)
    (fault : DsiFault) : (s.behind done).Fatal e fault ↔
      rest = [] ∧ result = .error (.transfer (.dsi fault)) := by
  induction course generalizing done with
  | done s => simp at h
  | stop failed =>
    rw [List.flatten_singleton] at h
    exact failed.fatal_iff h fault
  | @next _ _ s s' _ compared block blocks result first later ih =>
    rw [List.flatten_cons] at h
    have hstate : s' = s.behind block := first.state_eq
    rcases List.append_eq_append_iff.mp h with ⟨more, hdone, hrest⟩ | ⟨more, hblock, hrest⟩
    · -- The call is one of a later block.
      rw [hdone, DsiScript.behind_append, ← hstate, map_eq_error_iff]
      exact ih hrest
    · cases more with
      | nil =>
        have hfirst : blocks.flatten = [] ++ e :: rest := hrest.symm
        rw [List.append_nil] at hblock
        rw [← hblock, ← hstate, map_eq_error_iff]
        exact ih hfirst
      | cons e' more =>
        -- It is one of this block, which has gone well; a run that fails has a later call.
        obtain ⟨rfl, hlater⟩ := List.cons.inj hrest
        refine iff_of_false (fun hfatal => ?_) ?_
        · obtain ⟨-, hresult⟩ := (first.fatal_iff hblock fault).mp hfatal
          cases hresult
        · rintro ⟨hnil, herror⟩
          obtain ⟨_, last, hlast⟩ := later.exists_of_error (map_eq_error_iff.mp herror)
          rw [hlater, hlast] at hnil
          simp at hnil

theorem not_lowPower
    (course : Course MipiBus.Goes asked s blocks result left)
    (on : Bool) : .lowPower on ∉ blocks.flatten := by
  induction course with
  | done s => simp
  | stop last => simpa using last.not_lowPower on
  | next first later ih =>
    rw [List.flatten_cons, List.mem_append, not_or]
    exact ⟨first.not_lowPower on, ih⟩

end Course

/-- A valid program that is not empty, on a DSI host with any script. A run sets low-power
transmission first and not again. Then its requests, in their order, leave one block each, as far as
they are reached; every call takes an entry of its own queue in the script. A run fails by a fault
if and only if its last call is fatal, and no other call is. -/
theorem run_packets (ctx : Context) (program : Program) (steps : List Step)
    (valid : program.steps = .ok steps) (nonempty : program.isEmpty = false)
    (script : DsiScript) (packer : Packer) :
    let run := program.run ctx (⟨⟨.scripted script⟩, packer⟩ : Channel MipiBus)
    let begun := { script with lowPower := true }
    ∃ blocks result,
      Course MipiBus.Goes (requests ctx.timing 0 (active ctx.lanes steps)) begun blocks result
        (begun.behind blocks.flatten) ∧
      run = ⟨verdict result, ⟨⟨.scripted (begun.behind blocks.flatten)⟩, packer.reset⟩,
        .lowPower true :: blocks.flatten⟩ ∧
      (∀ on, .lowPower on ∉ blocks.flatten) ∧
      (∀ fault, run.result = .error (.transfer (.dsi fault)) ↔
        ∃ done e, blocks.flatten = done ++ [e] ∧ (begun.behind done).Fatal e fault) ∧
      ∀ done e rest fault, blocks.flatten = done ++ e :: rest →
        (begun.behind done).Fatal e fault → rest = [] := by
  intro run begun
  have hdefect := (steps_eq_ok_iff.mp valid).1
  obtain ⟨blocks, result, left, course⟩ := (MipiBus.scripted packer).exists_course
    (program.requests ctx) (fun _ _ => trivial) begun
  have hrun : run = ⟨verdict result, MipiBus.place packer left, .lowPower true :: blocks.flatten⟩ :=
    course.run_eq (MipiBus.scripted packer) MipiBus.orderly hdefect nonempty
      (fun _ _ => trivial) ⟨⟨.scripted script⟩, packer⟩ rfl
  obtain rfl := course.left_eq
  rw [Program.requests_of_steps valid] at course
  refine ⟨blocks, result, course, hrun, fun on => course.not_lowPower on, fun fault => ?_,
    fun done e rest fault h hfatal => ((course.fatal_iff h fault).mp hfatal).1⟩
  rw [hrun, verdict_eq_transfer_iff]
  constructor
  · intro hresult
    obtain ⟨done, e, hlast⟩ := course.exists_of_error hresult
    exact ⟨done, e, hlast, (course.fatal_iff hlast fault).mpr ⟨rfl, hresult⟩⟩
  · rintro ⟨done, e, hlast, hfatal⟩
    exact ((course.fatal_iff hlast fault).mp hfatal).2

/-- The bytes of the second attempt are taken in spite of its protocol report; the same report of a
write ends the run. -/
theorem run_packets_refused_write :
    let program : Program := ⟨[0x40, 0x0a, 0x9c, 0x3d, 0x04, 0x01, 0x29, 0x3c, 0x05]⟩
    let script : DsiScript :=
      { replies := [⟨[0x08], some .protocol⟩, ⟨[0x9c], some .protocol⟩]
        writeFaults := [some .protocol] }
    let run := program.run (.ofLanes 4) (⟨⟨.scripted script⟩, {}⟩ : Channel MipiBus)
    let calls : List Event := [.dcsRead 0x0a 1, .dcsRead 0x0a 1, .returnSize 4, .dcsWrite [0x29]]
    run.result = .error (.transfer (.dsi .protocol)) ∧ run.events = .lowPower true :: calls ∧
    ∃ blocks result left, blocks.flatten = calls ∧
      Course MipiBus.Goes [.ask (.dcs 0x0a) [0x9c], .limit 4, .send false [0x29], .wait 5]
        { script with lowPower := true } blocks result left := by
  intro program script run calls
  obtain ⟨blocks, result, course, hrun, -⟩ := run_packets (.ofLanes 4) program
    [.read (.dcs 0x0a) [0x9c], .returnSize 4, .write false [0x29], .delay 5] rfl rfl script {}
  have hevents : run.events = .lowPower true :: calls := by decide
  have hblocks : .lowPower true :: blocks.flatten = .lowPower true :: calls :=
    (congrArg Outcome.events hrun).symm.trans hevents
  exact ⟨by decide, hevents, blocks, result, _, (List.cons.inj hblocks).2, course⟩

end PanelDriver
