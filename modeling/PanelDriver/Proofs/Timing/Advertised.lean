import PanelDriver.Advertised
import PanelDriver.Config

/-!
What a host is told about the modes of a panel, next to what the panel picks for itself. The default
mode is the first one advertised, so a host that takes the first entry and programs that read the
timing of the default mode agree (`advertised_modes`).
-/

namespace PanelDriver.Description

/-- What stands at a place of the advertised list: the typical modes of the ranges and behind them
the exact modes, each preferred if and only if it is alone in its list. -/
inductive Advertises (desc : Description) : Nat → AdvertisedMode → Prop
  | range {i : Nat} {range : DisplayTiming} (h : desc.timings[i]? = some range) :
      Advertises desc i ⟨range.typicalMode, decide (desc.timings.length = 1)⟩
  | exact {i : Nat} {mode : VideoTiming} (h : desc.modes[i]? = some mode) :
      Advertises desc (desc.timings.length + i) ⟨mode, decide (desc.modes.length = 1)⟩

variable (desc : Description)

theorem length_advertised : desc.advertised.length = desc.modeCount := by
  simp only [advertised, modeCount, List.length_append, List.length_map]

/-- The ranges come first. -/
theorem getElem?_advertised_range {i : Nat} (hi : i < desc.timings.length) :
    desc.advertised[i]? =
      desc.timings[i]?.map fun range => ⟨range.typicalMode, decide (desc.timings.length = 1)⟩ := by
  rw [advertised, List.getElem?_append_left (by rwa [List.length_map]), List.getElem?_map]
  rfl

theorem getElem?_advertised_exact (i : Nat) :
    desc.advertised[desc.timings.length + i]? =
      desc.modes[i]?.map fun mode => ⟨mode, decide (desc.modes.length = 1)⟩ := by
  rw [advertised, List.getElem?_append_right (by simp), List.length_map, Nat.add_sub_cancel_left,
    List.getElem?_map]
  rfl

theorem getElem?_advertised_iff {i : Nat} {entry : AdvertisedMode} :
    desc.advertised[i]? = some entry ↔ desc.Advertises i entry := by
  constructor
  · intro h
    rcases Nat.lt_or_ge i desc.timings.length with hi | hi
    · rw [getElem?_advertised_range desc hi] at h
      obtain ⟨range, hrange, rfl⟩ := Option.map_eq_some_iff.mp h
      exact .range hrange
    · obtain ⟨k, rfl⟩ := Nat.exists_eq_add_of_le hi
      rw [getElem?_advertised_exact] at h
      obtain ⟨mode, hmode, rfl⟩ := Option.map_eq_some_iff.mp h
      exact .exact hmode
  · intro h
    cases h with
    | range h =>
      rw [getElem?_advertised_range desc (List.getElem?_eq_some_iff.mp h).1, h, Option.map_some]
    | exact h => rw [getElem?_advertised_exact, h, Option.map_some]

/-- The default mode is the first one advertised. -/
theorem defaultMode_eq : desc.defaultMode = desc.advertised.head?.map (·.timing) := by
  unfold defaultMode advertised
  cases desc.timings with
  | nil => cases desc.modes <;> rfl
  | cons range rest => rfl

/-- Slots are overwritten from the front, as far as there are entries for them. -/
theorem getElem?_overwrite {α : Type} (slots entries : List α) (i : Nat) :
    (overwrite slots entries)[i]? =
      if i < min slots.length entries.length then entries[i]? else slots[i]? := by
  fun_induction overwrite slots entries generalizing i with
  | case1 slot slots entry entries ih =>
    cases i with
    | zero => simp
    | succ i => simp [ih]
  | case2 slots entries h =>
    have hnone : min slots.length entries.length = 0 := by
      cases slots with
      | nil => exact Nat.zero_min _
      | cons slot slots =>
        cases entries with
        | nil => rfl
        | cons entry entries => exact absurd rfl (h slot slots entry entries rfl)
    rw [hnone, if_neg (Nat.not_lt_zero i)]

theorem length_overwrite {α : Type} (slots entries : List α) :
    (overwrite slots entries).length = slots.length := by
  fun_induction overwrite slots entries with
  | case1 slot slots entry entries ih => simp [ih]
  | case2 => rfl

/-- The advertised list has as many entries as the panel counts modes, each at its place. The
default mode is the timing of the first entry, and there is none if and only if nothing is
advertised; a configuration drives its own timing, or else that of the first entry. The ranges are
copied over the slots in front, as many as there are both ranges and slots, and no other slot
changes; their number is told whether or not they fit. -/
theorem advertised_modes (desc : Description) :
    desc.advertised.length = desc.modeCount ∧
    (∀ i entry, desc.advertised[i]? = some entry ↔ desc.Advertises i entry) ∧
    desc.defaultMode = desc.advertised.head?.map (·.timing) ∧
    (desc.defaultMode = none ↔ desc.advertised = []) ∧
    (∀ config : Config, { config with desc }.activeTiming =
      config.timing.or (desc.advertised.head?.map (·.timing))) ∧
    ∀ slots : List DisplayTiming,
      (desc.copyTimings slots).2 = desc.timings.length ∧
      (desc.copyTimings slots).1.length = slots.length ∧
      ∀ i, (desc.copyTimings slots).1[i]? =
        if i < min slots.length desc.timings.length then desc.timings[i]? else slots[i]? := by
  have hdefault := desc.defaultMode_eq
  refine ⟨desc.length_advertised, fun i entry => desc.getElem?_advertised_iff, hdefault, ?_,
    fun config => ?_, fun slots => ⟨rfl, length_overwrite _ _, getElem?_overwrite _ _⟩⟩
  · rw [hdefault, Option.map_eq_none_iff, List.head?_eq_none_iff]
  · rw [Config.activeTiming, hdefault]

end PanelDriver.Description
