import Mathlib.Data.List.Chain
import PanelDriver.Proofs.Panel.Devices
import PanelDriver.Proofs.Panel.Transitions

/-!
What a panel asks of its supply over its life. A supply may count how often it was switched on, so
every call that switches it on has to be met by one call to switch it off: the two take turns, also
where lines, programs or the supply itself fail (`supply_calls_paired`).
-/

namespace PanelDriver

namespace Supply

/-- What calls asked for, the oldest first; a call to switch on that failed does not count. -/
def asked : List SupplyCall → List Bool
  | [] => []
  | call :: earlier => asked earlier ++ if call.on && !call.accepted then [] else [call.on]

/-- What was asked of a supply since it had been called as `before` tells. -/
def AskedSince (before : List SupplyCall) (supply : Supply) (xs : List Bool) : Prop :=
  ∃ made, supply.calls = made ++ before ∧ asked made = xs

namespace AskedSince

variable {before : List SupplyCall} {supply : Supply} {xs : List Bool}

theorem set (h : AskedSince before supply xs) (on : Bool) :
    AskedSince before (Supply.set on supply).state
      (xs ++ if on && !(Supply.set on supply).result.isOk then [] else [on]) := by
  obtain ⟨made, hcalls, rfl⟩ := h
  exact ⟨_ :: made, by rw [calls_set, hcalls]; rfl, rfl⟩

theorem setOff (h : AskedSince before supply xs) :
    AskedSince before (Supply.set false supply).state (xs ++ [false]) := h.set false

theorem setOn_of_ok (h : AskedSince before supply xs)
    (hs : (Supply.set true supply).result = .ok ()) :
    AskedSince before (Supply.set true supply).state (xs ++ [true]) := by
  have hset := h.set true
  rwa [hs] at hset

theorem setOn_of_error {e : PanelError} (h : AskedSince before supply xs)
    (hs : (Supply.set true supply).result = .error e) :
    AskedSince before (Supply.set true supply).state xs := by
  have hset := h.set true
  rw [hs] at hset
  exact (List.append_nil xs) ▸ hset

end AskedSince

end Supply

/-- On and off take turns, on comes first, and what came last is whether it is on now. -/
structure Paired (on : Bool) (asked : List Bool) : Prop where
  alternate : asked.IsChain (· ≠ ·)
  first : ∀ x ∈ asked.head?, x = true
  last : asked.getLast? = some true ↔ on = true
  balance : asked.count true = asked.count false + on.toNat

namespace Paired

variable {asked : List Bool}

theorem nothing : Paired false [] := ⟨.nil, by simp, by simp, rfl⟩

theorem switchOn (h : Paired false asked) : Paired true (asked ++ [true]) := by
  have hlast : asked.getLast? ≠ some true := fun hlast => by simpa using h.last.mp hlast
  refine ⟨?_, ?_, by simp, ?_⟩
  · refine List.isChain_append.mpr ⟨h.alternate, .singleton true, ?_⟩
    intro x hx y hy
    rw [← Option.some.inj hy]
    rintro rfl
    exact hlast hx
  · intro x hx
    cases asked with
    | nil => exact (Option.some.inj hx).symm
    | cons first rest => exact h.first x hx
  · have hbalance := h.balance
    simp only [List.count_append, Bool.toNat_false, Bool.toNat_true] at hbalance ⊢
    simp [hbalance]

theorem switchOff (h : Paired true asked) : Paired false (asked ++ [false]) := by
  have hlast : asked.getLast? = some true := h.last.mpr rfl
  refine ⟨?_, ?_, by simp, ?_⟩
  · refine List.isChain_append.mpr ⟨h.alternate, .singleton false, ?_⟩
    intro x hx y hy
    rw [← Option.some.inj hy, ← Option.some.inj (hlast.symm.trans hx)]
    decide
  · intro x hx
    cases asked with
    | nil => simp at hlast
    | cons first rest => exact h.first x hx
  · have hbalance := h.balance
    simp only [List.count_append, Bool.toNat_false, Bool.toNat_true] at hbalance ⊢
    simp [hbalance]

end Paired

namespace Panel

/-- Since the supply had been called as `before` tells, on and off took turns. -/
def Balanced (before : List SupplyCall) (panel : Panel) : Prop :=
  ∃ xs, panel.supply.AskedSince before xs ∧ Paired panel.prepared xs

/-- A supply that is switched on goes with a panel that is prepared, or is switched off again. -/
theorem balanced_of_ends {before : List SupplyCall} {panel last : Panel} {call : Call}
    {result : Except PanelError Unit} {events : List Event}
    (hends : Ends panel call result events last) (h : Balanced before panel) :
    Balanced before last := by
  induction hends with
  | poweredUp | notPoweredUp | poweredDown | stillPrepared | stillEnabled | notEnabled | unlit
  | enabled | stillDisabled | disabled | stillUnprepared => exact h
  | unsupplied hprepared hs =>
    obtain ⟨xs, hxs, hpaired⟩ := h
    exact ⟨xs, hxs.setOn_of_error hs, hpaired⟩
  | stuck hprepared hs | notPrepared hprepared hs =>
    obtain ⟨xs, hxs, hpaired⟩ := h
    rw [hprepared] at hpaired
    refine ⟨_, (hxs.setOn_of_ok hs).setOff, ?_⟩
    simp only [hprepared]
    exact hpaired.switchOn.switchOff
  | prepared hprepared hs =>
    obtain ⟨xs, hxs, hpaired⟩ := h
    rw [hprepared] at hpaired
    exact ⟨_, hxs.setOn_of_ok hs, hpaired.switchOn⟩
  | unprepared hprepared =>
    obtain ⟨xs, hxs, hpaired⟩ := h
    rw [hprepared] at hpaired
    exact ⟨_, hxs.setOff, hpaired.switchOff⟩
  | shutDown _ _ ihd ihu => exact ihu (ihd h)

/-- Whatever fails, and in whatever order the calls come: since a panel was bound, the calls that
switched its supply on and the calls to switch it off have taken turns, the first of them to switch
it on, and the last one was to switch it on just when the panel is prepared. When the panel is
released, there were as many of the ones as of the others. -/
theorem supply_calls_paired (config : Config) (r : Resources) (panel : Panel) (driven : List Event)
    (bound : bind config r = (.ok panel, driven)) (calls : List Call) :
    (∃ made, (after calls panel).supply.calls = made ++ r.supply.calls ∧
      Paired (after calls panel).prepared (Supply.asked made)) ∧
    ∃ made, (release (after calls panel)).1.supply.calls = made ++ r.supply.calls ∧
      Paired false (Supply.asked made) ∧
      (Supply.asked made).count true = (Supply.asked made).count false := by
  obtain ⟨timing, buses, -, -, hpanel⟩ := bind_eq_ok bound
  have hstart : Balanced r.supply.calls panel := by
    rw [hpanel]
    exact ⟨[], ⟨[], rfl, rfl⟩, Paired.nothing⟩
  have hrun (calls : List Call) : Balanced r.supply.calls (after calls panel) :=
    after_kept balanced_of_ends calls hstart
  constructor
  · obtain ⟨_, ⟨made, hcalls, rfl⟩, hpaired⟩ := hrun calls
    exact ⟨made, hcalls, hpaired⟩
  · obtain ⟨_, ⟨made, hcalls, rfl⟩, hpaired⟩ := hrun (calls ++ [.shutdown])
    have hdown : (after (calls ++ [.shutdown]) panel).prepared = false := by
      rw [after_append]
      exact (flags_of_shutdown (perform_ends .shutdown (after calls panel))).2
    rw [hdown] at hpaired
    rw [release_eq]
    exact ⟨made, hcalls, hpaired, hpaired.balance⟩

/-- Only the first call to the supply fails, the second and the third call to prepare have to switch
it off again. -/
theorem supply_calls_paired_faulty : ∃ made, (after attempts faulty).supply.calls = made ∧
    Supply.asked made = [true, false, true, false, true] ∧ Paired true (Supply.asked made) := by
  obtain ⟨⟨made, hcalls, hpaired⟩, -⟩ :=
    supply_calls_paired sleeper faultyResources faulty _ bind_faulty attempts
  have hmade : (after attempts faulty).supply.calls = made :=
    hcalls.trans (List.append_nil made)
  have hasked : Supply.asked (after attempts faulty).supply.calls =
      [true, false, true, false, true] := by decide +kernel
  exact ⟨made, hmade, hmade ▸ hasked, hpaired⟩

end Panel

end PanelDriver
