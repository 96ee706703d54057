import ChangeFilter.Config
import ChangeFilter.Proofs.Rules.Meaning

/-! # What checking the settings can end with

`Config.settings` reads the merged configuration and checks each setting.
A refused setting becomes a `ConfigError`, except an infinite float as the
fetch depth, which stops the conversion to an integer with an overflow. Two
more faults come from the merged configuration itself: a required key that
is missing (only once the defaults were replaced) and a `logging` entry that
counts as true but is no mapping.

Main statements:
* `checkFetchDepth_bounds` — an accepted fetch depth lies in
  `[1, maxFetchDepth]`;
* `checkFetchDepth_eq_infinite` — the depth check overflows exactly on an
  infinite float;
* `settings_outcome` — every failure of `Config.settings` is a
  `SettingsRefusal`, and every result has a fetch depth within bounds;
* `settings_fail_as_refusals` — the three together. -/

namespace ChangeFilter

open Config

/-! ## Outcomes in `Except` -/

section Outcome

variable {ε α β : Type} {P : ε → Prop} {Q : β → Prop}

/-- `x` fails only with what `P` admits and returns only what `Q` admits. -/
def Outcome (P : ε → Prop) (Q : α → Prop) : Except ε α → Prop
  | .ok a => Q a
  | .error e => P e

theorem Outcome.pure {b : β} (h : Q b) : Outcome P Q (Pure.pure b) := h

theorem Outcome.throw_bind {e : ε} {f : α → Except ε β} (h : P e) :
    Outcome P Q (throw e >>= f) := h

/-- A step that fails only as `P` admits, followed by a rest whose outcome
    holds for each of the step's results. -/
theorem Outcome.bind {x : Except ε α} {f : α → Except ε β} (hx : ∀ e, x = .error e → P e)
    (hf : ∀ a, x = .ok a → Outcome P Q (f a)) : Outcome P Q (x >>= f) := by
  cases x with
  | error e => exact hx e rfl
  | ok a => exact hf a rfl

theorem Outcome.of_eq_ok {x : Except ε β} {b : β} (h : Outcome P Q x) (hx : x = .ok b) : Q b := by
  subst hx
  exact h

theorem Outcome.of_eq_error {x : Except ε β} {e : ε} (h : Outcome P Q x) (hx : x = .error e) :
    P e := by
  subst hx
  exact h

end Outcome

/-! ## The fetch depth -/

theorem one_le_maxFetchDepth : 1 ≤ maxFetchDepth := by
  simp only [maxFetchDepth, Nat.pow_eq]
  norm_num

/-- An accepted fetch depth lies between one and `maxFetchDepth`. -/
theorem checkFetchDepth_bounds {v : Value} {n : Nat} (h : checkFetchDepth v = .ok n) :
    1 ≤ n ∧ n ≤ maxFetchDepth := by
  refine ⟨?_, checkFetchDepth_le v n h⟩
  unfold checkFetchDepth at h
  obtain ⟨m, -, h⟩ := bind_eq_ok.mp h
  split at h
  · cases h
  · rename_i hpos
    cases h
    have := one_le_maxFetchDepth
    omega

/-- A float fails to truncate as an infinity exactly when it is one. -/
theorem truncateFloat_eq_error_true {x : Float} :
    truncateFloat x = .error true ↔ ∃ negative, Decimal.classify x = .infinite negative := by
  constructor
  · intro h
    unfold truncateFloat at h
    split at h
    · split at h <;> split at h <;> cases h
    · rename_i negative hx
      exact ⟨negative, hx⟩
    · cases h
  · rintro ⟨negative, hx⟩
    unfold truncateFloat
    rw [hx]

/-- The depth a value converts to overflows exactly for an infinite float. -/
theorem depthNumber_eq_infinite {v : Value} :
    depthNumber v = .error .depthInfinite ↔
      ∃ x negative, v = .float x ∧ Decimal.classify x = .infinite negative := by
  constructor
  · intro h
    unfold depthNumber at h
    -- only the float case can overflow, and only when the float is infinite
    split at h
    · cases h
    · cases h
    · rename_i x
      split at h
      · cases h
      · rename_i htrunc
        obtain ⟨negative, hx⟩ := truncateFloat_eq_error_true.mp htrunc
        exact ⟨x, negative, rfl, hx⟩
      · cases h
    · split at h <;> cases h
    · rename_i data
      cases hread : (if data.all (· < 128) then Text.readInt (String.ofList (data.map Char.ofNat)) 10
          else none) <;> simp only [hread, reduceCtorEq, Except.error.injEq] at h
    · cases h
  · rintro ⟨x, negative, rfl, hx⟩
    have htrunc := truncateFloat_eq_error_true.mpr ⟨negative, hx⟩
    unfold depthNumber
    dsimp only
    rw [htrunc]

/-- The fetch depth check overflows exactly on an infinite float: a depth
    below one is refused before it is capped. -/
theorem checkFetchDepth_eq_infinite {v : Value} :
    checkFetchDepth v = .error .depthInfinite ↔
      ∃ x negative, v = .float x ∧ Decimal.classify x = .infinite negative := by
  rw [← depthNumber_eq_infinite]
  unfold checkFetchDepth
  constructor
  · intro h
    rcases bind_eq_error.mp h with h | ⟨n, -, h⟩
    · exact h
    · split at h <;> cases h
  · intro h
    exact bind_eq_error.mpr (.inl h)

/-! ## Refusals of the settings -/

/-- How `Config.settings` of `c` can fail: with a refused configuration, or
    with one of three faults, each caused by a value of the merged
    configuration. -/
inductive SettingsRefusal (c : Config) : Failure → Prop
  /-- No filters, or only blanks. -/
  | noFilters : SettingsRefusal c (.config .noFilters)
  /-- A setting refused by its check, as a refused configuration. -/
  | setting (e : SettingError) (he : e ≠ .depthInfinite) : SettingsRefusal c (.config (.setting e))
  /-- A required key absent from the merged configuration, which happens
      only once the defaults themselves were replaced. -/
  | missingKey (key : String)
      (hkey : key ∈ ["list_files", "predicate_quantifier", "initial_fetch_depth"])
      (habsent : Mapping.valueAt c.merged (.str key) = none) :
      SettingsRefusal c (.fault (.keyError (Value.str key).literal))
  /-- An infinite float as the fetch depth, which no integer converts. -/
  | infiniteDepth (x : Float) (negative : Bool)
      (hdepth : Mapping.valueAt c.merged (.str "initial_fetch_depth") = some (.float x))
      (hinf : Decimal.classify x = .infinite negative) :
      SettingsRefusal c (.fault (.overflowError SettingError.depthInfinite.message))
  /-- A `logging` entry that counts as true but is no mapping. -/
  | loggingNotMapping (v : Value) (hlogging : Mapping.valueAt c.merged (.str "logging") = some v)
      (htrue : v.truthy = true) (hmap : ∀ es, v ≠ .map es) :
      SettingsRefusal c (.fault (Fault.noAttribute v.typeName "get"))

theorem required_eq_ok {m : Mapping} {key : String} {v : Value} (h : required m key = .ok v) :
    Mapping.valueAt m (.str key) = some v := by
  unfold required at h
  split at h
  · rename_i hv
    cases h
    exact hv
  · cases h

theorem required_eq_error {m : Mapping} {key : String} {f : Failure}
    (h : required m key = .error f) :
    f = .fault (.keyError (Value.str key).literal) ∧ Mapping.valueAt m (.str key) = none := by
  unfold required at h
  split at h
  · cases h
  · rename_i hv
    cases h
    exact ⟨rfl, hv⟩

theorem checkListFormat_eq_error {v : Value} {e : SettingError} (h : checkListFormat v = .error e) :
    e = .listFormat v := by
  unfold checkListFormat at h
  split at h <;> cases h
  rfl

theorem checkQuantifier_eq_error {v : Value} {e : SettingError} (h : checkQuantifier v = .error e) :
    e = .quantifier v := by
  unfold checkQuantifier at h
  split at h <;> cases h
  rfl

theorem checkLogLevel_eq_error {v : Value} {e : SettingError} (h : checkLogLevel v = .error e) :
    e = .logLevel v := by
  unfold checkLogLevel at h
  split at h <;> cases h
  rfl

/-- None of the word checks refuses with an overflow. -/
theorem word_checks_ne_infinite (v : Value) :
    checkListFormat v ≠ .error .depthInfinite ∧ checkQuantifier v ≠ .error .depthInfinite ∧
      checkLogLevel v ≠ .error .depthInfinite :=
  ⟨fun h => SettingError.noConfusion (checkListFormat_eq_error h),
    fun h => SettingError.noConfusion (checkQuantifier_eq_error h),
    fun h => SettingError.noConfusion (checkLogLevel_eq_error h)⟩

/-- Only an infinite depth turns a refused setting into a fault. -/
theorem ofConfigSetting_eq_config {e : SettingError} (he : e ≠ .depthInfinite) :
    Failure.ofConfigSetting e = .config (.setting e) := by
  cases e
  case depthInfinite => exact absurd rfl he
  all_goals rfl

section Steps

variable {c : Config}

theorem required_refusal {key : String}
    (hkey : key ∈ ["list_files", "predicate_quantifier", "initial_fetch_depth"]) :
    ∀ f, required c.merged key = .error f → SettingsRefusal c f := by
  intro f h
  obtain ⟨rfl, habsent⟩ := required_eq_error h
  exact .missingKey key hkey habsent

/-- A check that never refuses with an infinite depth fails with a refused
    configuration. -/
theorem check_refusal {α : Type} {r : Except SettingError α} (hr : r ≠ .error .depthInfinite) :
    ∀ f, check r = .error f → SettingsRefusal c f := by
  intro f h
  obtain ⟨e, he, rfl⟩ := mapError_eq_error.mp h
  have hinf : e ≠ .depthInfinite := fun hinf => hr (hinf ▸ he)
  rw [ofConfigSetting_eq_config hinf]
  exact .setting e hinf

theorem depth_refusal {v : Value}
    (hv : Mapping.valueAt c.merged (.str "initial_fetch_depth") = some v) :
    ∀ f, check (checkFetchDepth v) = .error f → SettingsRefusal c f := by
  intro f h
  obtain ⟨e, he, rfl⟩ := mapError_eq_error.mp h
  by_cases hinf : e = .depthInfinite
  · subst hinf
    obtain ⟨x, negative, rfl, hx⟩ := checkFetchDepth_eq_infinite.mp he
    exact .infiniteDepth x negative hv hx
  · rw [ofConfigSetting_eq_config hinf]
    exact .setting e hinf

end Steps

/-- Every failure of `Config.settings` is a `SettingsRefusal`, and every
    result has its fetch depth in `[1, maxFetchDepth]`. -/
theorem settings_outcome (c : Config) :
    Outcome (SettingsRefusal c) (fun s => 1 ≤ s.fetchDepth ∧ s.fetchDepth ≤ maxFetchDepth)
      c.settings := by
  unfold Config.settings
  dsimp only
  -- the filters: a text with a non-blank character, or no filters at all
  split
  · split
    · exact .throw_bind .noFilters
    · rw [pure_bind]
      refine .bind (required_refusal (by simp)) fun v _ => ?_
      refine .bind (check_refusal (word_checks_ne_infinite _).1) fun listFormat _ => ?_
      refine .bind (required_refusal (by simp)) fun v _ => ?_
      refine .bind (check_refusal (word_checks_ne_infinite _).2.1) fun quantifier _ => ?_
      refine .bind (required_refusal (by simp)) fun v hv => ?_
      refine .bind (depth_refusal (required_eq_ok hv)) fun depth hdepth => ?_
      -- logging: a mapping goes on to the level, anything else is a fault
      split
      · simp only [pure_bind]
        -- name the level check first: unifying through its nested `match` is slow
        generalize hlevel : check (checkLogLevel _) = r
        refine .bind (fun e h => ?_) fun level _ => ?_
        · subst hlevel
          exact check_refusal (word_checks_ne_infinite _).2.2 e h
        · exact .pure (checkFetchDepth_bounds (mapError_eq_ok.mp hdepth))
      · rename_i hmap
        cases hlog : c.merged.valueAt (.str "logging") with
        | none => exact absurd (by simp only [hlog]) (hmap [])
        | some v =>
          by_cases htrue : v.truthy = true
          · have hv : ∀ es, v ≠ .map es := fun es h =>
              hmap es (by simp only [hlog, if_pos htrue]; exact h)
            simp only [if_pos htrue]
            exact .throw_bind (.loggingNotMapping v hlog htrue hv)
          · exact absurd (by simp only [hlog, if_neg htrue]) (hmap [])
  · exact .throw_bind .noFilters

/-- Checking the settings fails only as `SettingsRefusal` admits: with a
    refused configuration, or with a fault that a value of the merged
    configuration causes. An accepted fetch depth, in the settings and from
    `checkFetchDepth` alone, lies in `[1, maxFetchDepth]`, and the depth
    check overflows exactly on an infinite float. -/
theorem settings_fail_as_refusals (c : Config) :
    (∀ f, c.settings = .error f → SettingsRefusal c f) ∧
      (∀ s, c.settings = .ok s → 1 ≤ s.fetchDepth ∧ s.fetchDepth ≤ maxFetchDepth) ∧
      (∀ v n, checkFetchDepth v = .ok n → 1 ≤ n ∧ n ≤ maxFetchDepth) ∧
      ∀ v, checkFetchDepth v = .error .depthInfinite ↔
        ∃ x negative, v = .float x ∧ Decimal.classify x = .infinite negative :=
  ⟨fun _ h => (settings_outcome c).of_eq_error h, fun _ h => (settings_outcome c).of_eq_ok h,
    fun _ _ h => checkFetchDepth_bounds h, fun _ => checkFetchDepth_eq_infinite⟩

end ChangeFilter
