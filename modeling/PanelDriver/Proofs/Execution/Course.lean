import PanelDriver.Proofs.Execution.Verdict

/-!
Runs taken apart. What a run on a scripted device records comes in blocks, one for each request it
reaches, in their order. What the block of a request is, and what becomes of the request, depends on
the script alone as far as earlier requests have left it (`Course.run_eq`).
-/

namespace PanelDriver

/-- The result of a run whose requests have this result: the first error, or else whether every read
brought what it expected. -/
def verdict : Except PanelError (List Comparison) → Except PanelError Unit
  | .error e => .error e
  | .ok compared =>
    if ∀ m ∈ compared, m.reply = m.expected then .ok () else .error .mismatch

theorem verdict_eq_transfer_iff {result : Except PanelError (List Comparison)} {fault : BusFault} :
    verdict result = .error (.transfer fault) ↔ result = .error (.transfer fault) := by
  cases result with
  | error e => simp [verdict]
  | ok compared =>
    rw [verdict]
    split <;> simp

theorem foundMismatch_eq_false_iff {compared : List Comparison} (h : ∀ m ∈ compared, m.Sized) :
    foundMismatch compared = false ↔ ∀ m ∈ compared, m.reply = m.expected := by
  rw [foundMismatch, List.any_eq_false]
  refine forall₂_congr fun m hm => ?_
  obtain ⟨hlength, -, hshort⟩ := h m hm
  rw [Bytes.differ_eq_true_iff hlength (hlength ▸ hshort), not_not]

theorem map_eq_error_iff {ε α β : Type} {f : α → β} {result : Except ε α} {e : ε} :
    result.map f = .error e ↔ result = .error e := by
  cases result with
  | error e' => exact Iff.rfl.trans ⟨fun h => congrArg _ (Except.error.inj h),
      fun h => congrArg _ (Except.error.inj h)⟩
  | ok a => exact ⟨nofun, nofun⟩

section Course

variable {σ : Type}

/-- How requests go one after another, if `goes` tells how one of them goes: each leaves a block of
events, and one that fails is the last. -/
inductive Course (goes : Request → σ → Outcome PanelError σ (List Comparison) → Prop) :
    List Request → σ → List (List Event) → Except PanelError (List Comparison) → σ → Prop
  | done (s : σ) : Course goes [] s [] (.ok []) s
  | next {request : Request} {rest : List Request} {s s' left : σ} {compared : List Comparison}
      {block : List Event} {blocks : List (List Event)}
      {result : Except PanelError (List Comparison)}
      (first : goes request s ⟨.ok compared, s', block⟩)
      (later : Course goes rest s' blocks result left) :
      Course goes (request :: rest) s (block :: blocks) (result.map (compared ++ ·)) left
  | stop {request : Request} {rest : List Request} {s s' : σ} {e : PanelError}
      {block : List Event} (last : goes request s ⟨.error e, s', block⟩) :
      Course goes (request :: rest) s [block] (.error e) s'

variable {β : Type} [SidebandBus β]
  {goes : Request → σ → Outcome PanelError σ (List Comparison) → Prop}
  {place : σ → Channel β} {fits : Request → Prop}

/-- On a channel with the script `s` the requests that fit go as `goes` tells. Nothing waits there
between them. -/
structure Scripted (goes : Request → σ → Outcome PanelError σ (List Comparison) → Prop)
    (place : σ → Channel β) (fits : Request → Prop) : Prop where
  total : ∀ request s, fits request → ∃ o, goes request s o
  carried : ∀ request s o, fits request → goes request s o →
    carryOut request (place s) = ⟨o.result, place o.state, o.events⟩
  flush : ∀ s, SidebandBus.flush (place s) = ⟨.ok (), place s, []⟩
  empty : ∀ s, { place s with packer := (place s).packer.reset } = place s

theorem Scripted.exists_course (law : Scripted goes place fits) (asked : List Request)
    (hfits : ∀ request ∈ asked, fits request) (s : σ) :
    ∃ blocks result left, Course goes asked s blocks result left := by
  induction asked generalizing s with
  | nil => exact ⟨_, _, _, .done s⟩
  | cons request rest ih =>
    obtain ⟨⟨e | compared, s', block⟩, hgoes⟩ :=
      law.total request s (hfits request List.mem_cons_self)
    · exact ⟨_, _, _, .stop hgoes⟩
    · obtain ⟨blocks, result, left, hrest⟩ :=
        ih (fun request h => hfits request (List.mem_cons_of_mem _ h)) s'
      exact ⟨_, _, _, .next hgoes hrest⟩

namespace Course

variable {asked : List Request} {s left : σ} {blocks : List (List Event)}
  {result : Except PanelError (List Comparison)}

theorem carryOutAll_eq (course : Course goes asked s blocks result left)
    (law : Scripted goes place fits) (hfits : ∀ request ∈ asked, fits request) :
    carryOutAll asked (place s) = ⟨result, place left, blocks.flatten⟩ := by
  induction course with
  | done s => rfl
  | stop last =>
    have hlast := law.carried _ _ _ (hfits _ List.mem_cons_self) last
    rw [carryOutAll, Action.bind_error hlast, List.flatten_singleton]
  | @next _ _ _ _ _ compared _ _ result first _ ih =>
    have hfirst := law.carried _ _ _ (hfits _ List.mem_cons_self) first
    have hlater := ih fun request h => hfits request (List.mem_cons_of_mem _ h)
    rw [carryOutAll, Action.bind_ok hfirst]
    cases result with
    | error e =>
      rw [Action.bind_error hlater]
      rfl
    | ok later =>
      rw [Action.bind_ok hlater]
      simp [Except.map]

/-- What a run of a valid program records are the blocks of its requests. -/
theorem run_eq {ctx : Context} {program : Program}
    (course : Course goes (program.requests ctx) s blocks result left)
    (law : Scripted goes place fits) (orderly : Orderly β)
    (valid : defect? program.items = none) (nonempty : program.isEmpty = false)
    (hfits : ∀ request ∈ program.requests ctx, fits request) (channel : Channel β)
    {first : List Event}
    (hbegin : SidebandBus.begin { channel with packer := channel.packer.reset } =
      ⟨.ok (), place s, first⟩) :
    program.run ctx channel = ⟨verdict result, place left, first ++ blocks.flatten⟩ := by
  have hall := course.carryOutAll_eq law hfits
  rw [run_eq_conduct, nonempty, valid, if_neg Bool.false_ne_true]
  cases result with
  | error e =>
    rw [conduct_of_error hbegin (serveUntil_of_error hall none), law.empty]
    rfl
  | ok compared =>
    obtain ⟨-, hsized⟩ := orderly.sized_of_execute (execute_eq hbegin hall)
    have hverdict : verdict (.ok compared) =
        if foundMismatch compared then .error .mismatch else .ok () := by
      have hiff := foundMismatch_eq_false_iff hsized
      rw [verdict]
      cases hfound : foundMismatch compared with
      | true => exact if_neg fun h => absurd (hiff.mpr h) (by simp [hfound])
      | false => exact if_pos (hiff.mp hfound)
    rw [conduct_ok hbegin (serveAll_of_ok hall) (law.flush left), hverdict, List.append_nil]

end Course

end Course

end PanelDriver
