import LintBridge.Proofs.Checked
import LintBridge.Proofs.Result
import LintBridge.Proofs.Text.Trimmed
import LintBridge.Settings

/-!
# Settings that can be used

However lenient a setting is read, what comes of it is strict: there is a program to run, time
limits are positive, nobody waits for a negative time, and at least one diagnostic is shown. The
defaults are like that, **and so is whatever a layer of settings makes of settings that are**.

* `LintBridge.Settings.IsValid` – settings that can be used;
* `LintBridge.Settings.check_isValid`, `LintBridge.Settings.merge_isValid` – what is read is.
-/

namespace LintBridge

namespace Settings

open Json (Value CodePoints)

/-- **Settings that can be used.** -/
structure IsValid (s : Settings) : Prop where
  /-- There is a program to run, without blanks around its name. -/
  executable : s.executable.IsWord
  /-- A time limit is greater than zero. -/
  timeout : ∀ x ∈ s.timeoutSeconds, x.isPositive = true
  /-- The time to wait is not negative. -/
  debounce : s.debounceSeconds.isNonnegative = true
  /-- At least one diagnostic is shown. -/
  maxProblems : ∀ n ∈ s.maxProblems, 1 ≤ n

/-- The settings that nothing has been said about. -/
theorem isValid_default : IsValid {} :=
  ⟨⟨by decide, by decide +kernel⟩, by rintro _ ⟨⟩; decide, by decide, nofun⟩

/-! ### Fields -/

theorem checkExecutable_isWord {v : Value} {text : CodePoints}
    (h : checkExecutable v = .valid text) : text.IsWord := by
  obtain ⟨written, -, h⟩ := Checked.andThen_eq_valid.mp h
  split at h
  · cases h
  · rename_i hblank
    cases h
    exact CodePoints.isWord_strip hblank

theorem checkTimeout_isPositive {v : Value} {x : Binary64}
    (h : checkTimeout v = .valid (some x)) : x.isPositive = true := by
  obtain ⟨y, -, h⟩ := Checked.andThen_eq_valid.mp (Checked.optional_eq_valid h)
  split at h
  · rename_i hpositive
    cases h
    exact hpositive
  · cases h

theorem checkDebounce_isNonnegative {v : Value} {x : Binary64} (h : checkDebounce v = .valid x) :
    x.isNonnegative = true := by
  obtain ⟨y, -, h⟩ := Checked.andThen_eq_valid.mp h
  split at h
  · rename_i hnonnegative
    cases h
    exact hnonnegative
  · cases h

theorem atLeast_le {bound n : Nat} {v : Value} (h : Checked.atLeast bound v = .valid n) :
    bound ≤ n := by
  obtain ⟨m, -, h⟩ := Checked.andThen_eq_valid.mp h
  split at h
  · rename_i hle
    cases h
    omega
  · cases h

/-! ### Settings as a whole -/

/-- **Settings that are read can be used**, whatever they are read from. -/
theorem check_isValid {v : Value} {s : Settings} (h : check v = .valid s) : s.IsValid := by
  obtain ⟨fields, -, h⟩ := Checked.andThen_eq_valid.mp h
  simp only [Checked.seq_eq_valid, Checked.map_eq_valid] at h
  obtain ⟨_, maxProblems, ⟨_, minimumSeverity, ⟨_, source, ⟨_, debounce, ⟨_, timeout, ⟨_, markers,
    ⟨_, whole, ⟨_, args, ⟨executable, hexecutable, rfl⟩, -, rfl⟩, -, rfl⟩, -, rfl⟩, htimeout, rfl⟩,
    hdebounce, rfl⟩, -, rfl⟩, -, rfl⟩, hmaxProblems, rfl⟩ := h
  -- A field that is absent has its default, and the defaults can be used.
  refine ⟨?_, ?_, ?_, ?_⟩
  · rcases Checked.defaulted_eq_valid hexecutable with rfl | ⟨v, hv⟩
    · exact isValid_default.executable
    · exact checkExecutable_isWord hv
  · rintro x rfl
    rcases Checked.defaulted_eq_valid htimeout with hdefault | ⟨v, hv⟩
    · exact isValid_default.timeout x hdefault.symm
    · exact checkTimeout_isPositive hv
  · rcases Checked.defaulted_eq_valid hdebounce with rfl | ⟨v, hv⟩
    · exact isValid_default.debounce
    · exact checkDebounce_isNonnegative hv
  · rintro n rfl
    rcases Checked.defaulted_eq_valid hmaxProblems with hdefault | ⟨v, hv⟩
    · cases hdefault
    · exact atLeast_le (Checked.optional_eq_valid hv)

/-- A layer on top of settings that can be used leaves settings that can. -/
theorem merge_isValid {base s : Settings} {layer : Response.Fields} (hbase : base.IsValid)
    (h : base.merge layer = .ok s) : s.IsValid := by
  unfold merge at h
  split at h
  · cases h
    exact hbase
  · exact check_isValid (Checked.toExcept_eq_ok.mp (mapError_eq_ok.mp h))

end Settings

end LintBridge
