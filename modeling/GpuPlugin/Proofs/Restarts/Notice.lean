import GpuPlugin.Proofs.Configuration.Endpoint
import GpuPlugin.Proofs.Host.Walk
import GpuPlugin.Proofs.Path.Parent
import GpuPlugin.Proofs.Restarts.Requests

/-!
# Proofs/Restarts/Notice — when the kubelet's socket made anew is noticed

What is seen of a file is seen under an absolute path, that of the watched directory with the name
of the file, and it is compared with the path of the kubelet's socket as it was configured.  Two
paths that lead to one file are not the same path where only one of them starts at the root.  So the
kubelet's socket made anew asks for a restart if its path is absolute (`Attendance.asks_seen_iff`),
as it is for an absolute plugin directory (`Attendance.asks_made_iff`).  With a relative one the
socket is made anew without notice, and only a hangup asks for a restart.
-/

namespace GpuPlugin

open GpuPlugin.Path

namespace Daemon

variable {h : Host} {w : Watch} {socketPath dir last : String} {front place : Location}

/-! ## What is watched -/

theorem isAbsolute_workingPath (h : Host) : isAbsolute (workingPath h) = true := by
  simp [isAbsolute, workingPath]

/-- **The directory that is watched**, and the path it is watched under. -/
theorem exists_of_watch (hwatch : watch h socketPath = .ok w) :
    ∃ dir, parent socketPath = some dir ∧ w.path = join (workingPath h) dir ∧
      h.locate w.path = .ok w.directory := by
  rw [watch] at hwatch
  split at hwatch
  next => cases hwatch
  next dir hparent =>
    dsimp only at hwatch
    split at hwatch
    next => cases hwatch
    next directory hlocate =>
      split_ifs at hwatch
      obtain rfl := Except.ok.inj hwatch
      exact ⟨dir, hparent, rfl, hlocate⟩

/-- The path a directory is watched under takes the steps of the configured one exactly if that is
absolute. -/
theorem components_watched_iff :
    components (join (workingPath h) dir) = components dir ↔ isAbsolute dir = true := by
  constructor
  · intro hsame
    rw [← root_mem_components_iff, ← hsame, root_mem_components_iff, isAbsolute_join,
      isAbsolute_workingPath, Bool.true_or]
  · intro habsolute
    rw [join, if_pos habsolute]

theorem Watch.notices_concat_iff (hlast : IsPlain last) :
    w.notices socketPath (front ++ [last]) = true ↔
      front = w.directory ∧ components socketPath = components w.path ++ [.name last] := by
  rw [notices, List.getLast?_concat, List.dropLast_concat, ← components_join_of_isPlain _ hlast,
    eq_comm (a := components socketPath)]
  simp only [Bool.and_eq_true, beq_iff_eq]

/-- An absolute directory is watched at the place it leads to from anywhere. -/
theorem watched_eq_of_isAbsolute (hlocate : h.locate (join (workingPath h) dir) = .ok place)
    (habsolute : isAbsolute dir = true) (here : Location) :
    place = (components dir).foldl Host.walk here := by
  rw [Host.eq_foldl_walk_of_locate hlocate, components_watched_iff.mpr habsolute]
  exact Host.foldl_walk_of_isAbsolute habsolute _ _

/-- **What is taken for the kubelet's socket is the file at its path**, if that is absolute, and
nothing at all if it is not. -/
theorem Watch.notices_iff {name : String} {h' : Host} {made : Location}
    (hwatch : watch h socketPath = .ok w) (hname : fileName socketPath = some name)
    (hplace : h'.locate socketPath = .ok place)
    (hmade : ∀ last, made.getLast? = some last → IsPlain last) :
    w.notices socketPath made = true ↔ isAbsolute socketPath = true ∧ made = place := by
  obtain ⟨dir, hparent, hpath, hdirectory⟩ := exists_of_watch hwatch
  obtain ⟨dir', hparent', hsocket⟩ := components_of_fileName hname
  obtain rfl := Option.some.inj (hparent.symm.trans hparent')
  have habsolute : isAbsolute socketPath = isAbsolute dir := by
    rw [Bool.eq_iff_iff, ← root_mem_components_iff, ← root_mem_components_iff, hsocket]
    simp
  have hled : place = (components dir).foldl Host.walk h'.workingDirectory ++ [name] := by
    rw [Host.eq_foldl_walk_of_locate hplace, hsocket, List.foldl_append]
    rfl
  rw [hpath] at hdirectory
  rw [habsolute, hled]
  rcases List.eq_nil_or_concat' made with rfl | ⟨front, last, rfl⟩
  · exact iff_of_false Bool.false_ne_true fun h => List.concat_ne_nil _ _ h.2.symm
  · rw [notices_concat_iff (hmade last List.getLast?_concat), hsocket, hpath]
    constructor
    · rintro ⟨rfl, hsteps⟩
      obtain ⟨hsame, hlast⟩ := List.append_inj' hsteps rfl
      obtain rfl := Component.name.inj (List.singleton_inj.mp hlast)
      have hroot : isAbsolute dir = true := components_watched_iff.mp hsame.symm
      rw [watched_eq_of_isAbsolute hdirectory hroot h'.workingDirectory]
      exact ⟨hroot, rfl⟩
    · rintro ⟨hroot, hsame⟩
      obtain ⟨rfl, hlast⟩ := List.append_inj' hsame rfl
      obtain rfl := List.singleton_inj.mp hlast
      rw [watched_eq_of_isAbsolute hdirectory hroot h'.workingDirectory,
        components_watched_iff.mpr hroot]
      exact ⟨rfl, rfl⟩

end Daemon

namespace Attendance

variable {p : Plugin} {w : World} {first t : Attendance} {actions : List Action} {h : Host}
  {place : Location}

/-- **A restart is asked for by what is new at the path of the kubelet's socket**, if that path is
absolute, and by nothing else that is seen. -/
theorem asks_seen_iff {name : String} {isNew : Bool} {made : Location}
    (hbegin : begin p w = .ok first) (hrun : first.run actions = some t)
    (hname : fileName p.settings.kubeletSocketPath = some name)
    (hplace : h.locate p.settings.kubeletSocketPath = .ok place)
    (hmade : ∀ last, made.getLast? = some last → IsPlain last) :
    t.asks (.seen isNew made) = true ↔
      isNew = true ∧ isAbsolute p.settings.kubeletSocketPath = true ∧ made = place := by
  obtain ⟨watched, hwatch, rfl⟩ := exists_of_begin hbegin
  rw [asks_of_run hrun, asks, isSocketMade, Bool.and_eq_true,
    Daemon.Watch.notices_iff hwatch hname hplace hmade]

/-- **The kubelet's socket made anew is noticed exactly if the plugin directory is absolute**, at
any time of any run. -/
theorem asks_made_iff {line : CommandLine} {file : ConfigFile}
    (hmerge : Settings.merge line file = .ok p.settings) (hsocket : IsPlain line.kubeletSocketName)
    (hbegin : begin p w = .ok first) (hrun : first.run actions = some t)
    (hplace : h.locate p.settings.kubeletSocketPath = .ok place) :
    t.asks (.seen true place) = true ↔ isAbsolute line.pluginDirectory = true := by
  have hpath := (Settings.socketPaths_of_merge hmerge).2
  have hname : fileName p.settings.kubeletSocketPath = some line.kubeletSocketName := by
    rw [hpath]
    exact fileName_join_of_isPlain line.pluginDirectory hsocket
  have hmade : ∀ last, place.getLast? = some last → IsPlain last := by
    intro last hlast
    rw [Host.eq_foldl_walk_of_locate hplace, hpath,
      components_join_of_isPlain line.pluginDirectory hsocket, List.foldl_append] at hlast
    obtain rfl := Option.some.inj (List.getLast?_concat.symm.trans hlast)
    exact hsocket
  rw [asks_seen_iff hbegin hrun hname hplace hmade, hpath, isAbsolute_join,
    hsocket.isFloating.isAbsolute_eq_false, Bool.or_false]
  simp

/-- A socket below the working directory is made anew, and nobody notices. -/
example :
    let p : Plugin :=
      { settings := { kubeletSocketPath := "plugins/kubelet.sock" }, policy := none }
    let w : World := { host := ⟨["work"], [(["work", "plugins"], .directory)]⟩, devices := none }
    w.host.locate p.settings.kubeletSocketPath = .ok ["work", "plugins", "kubelet.sock"] ∧
      ∃ t, begin p w = .ok t ∧
        t.asks (.seen true ["work", "plugins", "kubelet.sock"]) = false :=
  ⟨by rfl, _, by rfl, by rfl⟩

end Attendance

end GpuPlugin
