import GpuPlugin.Configuration
import GpuPlugin.Plugin
import GpuPlugin.Proofs.Path.Components
import GpuPlugin.Proofs.Traversal

/-!
# Proofs/Configuration/Endpoint — where the kubelet looks for a plugin

The kubelet looks for a plugin in its own directory, under the endpoint of the registration, while
the plugin serves wherever the socket name of the command line leads.  The endpoint is only the last
name of the socket's path.  So the two are one path if the socket lies in the directory itself
(`Path.same_join_fileName_iff`), which it does for a plain socket name; but nothing keeps a socket
name from leading into a directory below, where nobody looks (`Plugin.Located.missed`).
-/

namespace GpuPlugin

namespace Path

variable {dir name path : String}

/-- Two texts are **the same path** if they take the same steps. -/
def Same (p q : String) : Prop := components p = components q

instance (p q : String) : Decidable (Same p q) := inferInstanceAs (Decidable (_ = _))

/-- A path **lies in** a directory if it is one name further. -/
def LiesIn (dir path : String) : Prop := ∃ name, components path = components dir ++ [.name name]

/-- The steps to the last name of a path, taken from a directory. -/
theorem components_join_fileName (dir path : String) :
    components (join dir ((fileName path).getD ""))
      = components dir ++ ((fileName path).map Component.name).toList := by
  cases hlast : fileName path with
  | none => exact components_join dir rfl
  | some last => exact components_join_of_isPlain dir (isPlain_of_fileName hlast)

/-- **The last name of a path leads back to it** from the directory it lies in, and from no other
one.  A path without a last name is found only if it is the directory. -/
theorem same_join_fileName_iff : Same (join dir ((fileName path).getD "")) path ↔
    LiesIn dir path ∨ Same dir path ∧ fileName path = none := by
  rw [Same, components_join_fileName]
  constructor
  · intro hsame
    cases hlast : fileName path with
    | none =>
      rw [hlast] at hsame
      exact .inr ⟨(List.append_nil _).symm.trans hsame, rfl⟩
    | some last =>
      rw [hlast] at hsame
      exact .inl ⟨last, hsame.symm⟩
  · rintro (⟨last, hpath⟩ | ⟨hsame, hlast⟩)
    · rw [fileName_eq_some_iff.mpr ⟨_, hpath⟩, hpath]
      rfl
    · rw [hlast]
      exact (List.append_nil _).trans hsame

theorem fileName_join_of_isPlain (dir : String) (hname : IsPlain name) :
    fileName (join dir name) = some name :=
  fileName_eq_some_iff.mpr ⟨_, components_join_of_isPlain dir hname⟩

theorem liesIn_join_iff (hname : LeadsOn dir name) :
    LiesIn dir (join dir name) ↔ ∃ last, steps name.toList = [.name last] := by
  rw [LiesIn, hname.components_join]
  simp only [List.append_cancel_left_eq]

theorem same_join_iff (hname : LeadsOn dir name) :
    Same dir (join dir name) ↔ steps name.toList = [] := by
  rw [Same, hname.components_join, List.self_eq_append_right]

theorem fileName_join_of_steps_eq_nil (hname : LeadsOn dir name) (hsteps : steps name.toList = []) :
    fileName (join dir name) = fileName dir := by
  rw [fileName_eq, fileName_eq, hname.components_join, hsteps, List.append_nil]

end Path

open GpuPlugin.Path

/-- Both sockets lie where the command line says, whatever the file says. -/
theorem Settings.socketPaths_of_merge {line : CommandLine} {file : ConfigFile} {settings : Settings}
    (hmerge : merge line file = .ok settings) :
    settings.socketPath = join line.pluginDirectory line.socketName ∧
      settings.kubeletSocketPath = join line.pluginDirectory line.kubeletSocketName := by
  obtain ⟨replication, -, hsettings⟩ := Traversal.exists_of_bind_eq_ok hmerge
  obtain rfl := Except.ok.inj hsettings
  exact ⟨rfl, rfl⟩

namespace Plugin

variable {line : CommandLine} {file : ConfigFile} {p : Plugin}

/-- Where the kubelet looks for a plugin that has registered. -/
def dialled (p : Plugin) (dir : String) : String := join dir p.registration.endpoint

/-- **Where a plugin is looked for**, if it was set up by a command line. -/
structure Located (line : CommandLine) (p : Plugin) : Prop where
  /-- It is looked for where it serves exactly if its socket lies in the directory, or is it. -/
  same_iff : Same (p.dialled line.pluginDirectory) p.settings.socketPath ↔
    LiesIn line.pluginDirectory p.settings.socketPath ∨
      Same line.pluginDirectory p.settings.socketPath ∧ fileName p.settings.socketPath = none
  /-- For a socket name that leads on from the directory, that is a matter of its steps. -/
  same_iff_steps : LeadsOn line.pluginDirectory line.socketName →
    (Same (p.dialled line.pluginDirectory) p.settings.socketPath ↔
      (∃ last, steps line.socketName.toList = [.name last]) ∨
        steps line.socketName.toList = [] ∧ fileName line.pluginDirectory = none)
  /-- A plain socket name gives the same text. -/
  plain : IsPlain line.socketName → p.dialled line.pluginDirectory = p.settings.socketPath
  /-- A socket name that leads into a directory below is missed. -/
  missed : LeadsOn line.pluginDirectory line.socketName →
    2 ≤ (steps line.socketName.toList).length →
      ¬ Same (p.dialled line.pluginDirectory) p.settings.socketPath

theorem same_dialled_iff (hmerge : Settings.merge line file = .ok p.settings)
    (hname : LeadsOn line.pluginDirectory line.socketName) :
    Same (p.dialled line.pluginDirectory) p.settings.socketPath ↔
      (∃ last, steps line.socketName.toList = [.name last]) ∨
        steps line.socketName.toList = [] ∧ fileName line.pluginDirectory = none := by
  have hiff : Same (p.dialled line.pluginDirectory) p.settings.socketPath ↔ _ :=
    same_join_fileName_iff
  rw [hiff, (Settings.socketPaths_of_merge hmerge).1, liesIn_join_iff hname, same_join_iff hname]
  refine or_congr_right (and_congr_right fun hsteps => ?_)
  rw [fileName_join_of_steps_eq_nil hname hsteps]

/-- **A plugin is looked for where it serves exactly if its socket lies in the kubelet's
directory.** -/
theorem located_of_merge (hmerge : Settings.merge line file = .ok p.settings) :
    p.Located line where
  same_iff := same_join_fileName_iff
  same_iff_steps := same_dialled_iff hmerge
  plain hname := by
    change join line.pluginDirectory ((fileName p.settings.socketPath).getD "") = _
    rw [(Settings.socketPaths_of_merge hmerge).1,
      fileName_join_of_isPlain line.pluginDirectory hname]
    rfl
  missed hname hdeep hsame := by
    rcases (same_dialled_iff hmerge hname).mp hsame with ⟨last, hsteps⟩ | ⟨hsteps, -⟩
    all_goals
      rw [hsteps] at hdeep
      simp at hdeep

/-- A socket name in the directory need not be plain for the plugin to be found. -/
theorem located_of_socketName_dotted : ∃ p : Plugin,
    let line : CommandLine := { socketName := "./gpu.sock/" }
    Settings.merge line {} = .ok p.settings ∧ ¬ IsPlain line.socketName ∧ p.Located line ∧
      p.settings.socketPath = "/var/lib/kubelet/device-plugins/./gpu.sock/" ∧
      p.dialled line.pluginDirectory = "/var/lib/kubelet/device-plugins/gpu.sock" ∧
      Same (p.dialled line.pluginDirectory) p.settings.socketPath := by
  let line : CommandLine := { socketName := "./gpu.sock/" }
  obtain ⟨settings, hmerge⟩ : ∃ settings, Settings.merge line {} = .ok settings := ⟨_, rfl⟩
  let p : Plugin := ⟨settings, none, 0, none, []⟩
  have hsocket : p.settings.socketPath = "/var/lib/kubelet/device-plugins/./gpu.sock/" :=
    (Settings.socketPaths_of_merge hmerge).1.trans (by decide +kernel)
  have hlocated : p.Located line := located_of_merge hmerge
  have hleads : LeadsOn line.pluginDirectory line.socketName := {
    isAbsolute_eq_false := by decide +kernel
    isFloating := fun hempty => absurd hempty (by decide) }
  have hsteps : steps line.socketName.toList = [.name "gpu.sock"] := by decide +kernel
  refine ⟨p, hmerge, fun hplain => ?_, hlocated, hsocket, ?_, ?_⟩
  · exact hplain.slash_notMem (by decide)
  · change join Settings.defaultPluginDirectory ((fileName p.settings.socketPath).getD "") = _
    rw [hsocket]
    decide +kernel
  · exact (hlocated.same_iff_steps hleads).mpr (.inl ⟨_, hsteps⟩)

/-- A plugin that serves below the kubelet's directory tells it the last name only. -/
theorem missed_below_directory : ∃ settings,
    Settings.merge { socketName := "sub/gpu.sock" } {} = .ok settings ∧
      settings.socketPath = "/var/lib/kubelet/device-plugins/sub/gpu.sock" ∧
      Plugin.dialled ⟨settings, none, 0, none, []⟩ Settings.defaultPluginDirectory
        = "/var/lib/kubelet/device-plugins/gpu.sock" ∧
      ¬ Same (Plugin.dialled ⟨settings, none, 0, none, []⟩ Settings.defaultPluginDirectory)
        settings.socketPath :=
  ⟨_, rfl, by decide +kernel, by decide +kernel, by decide +kernel⟩

end Plugin

end GpuPlugin
