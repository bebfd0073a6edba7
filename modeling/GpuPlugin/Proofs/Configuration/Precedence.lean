import GpuPlugin.Configuration
import GpuPlugin.Proofs.Inventory.Advertised
import GpuPlugin.Proofs.Traversal

/-!
# Proofs/Configuration/Precedence — which source a setting comes from

The sources of settings speak of **items**: a command line of all of them, a file of those that do
not place the sockets.  What holds for an item is the word of the command line, else that of the
file, else its default, and each setting is made of one or two items.  So a setting depends on the
sources of its own items only, and the number of replicas is all that can be refused
(`resolved_merge`).
-/

namespace GpuPlugin

namespace Settings

/-! ## Items -/

/-- What a source of settings can speak of. -/
inductive Item where
  | resourceName
  | listStrategy
  | idStrategy
  | passDeviceSpecs
  | driverRoot
  | listVariable
  | replicas
  | autoReplicas
  | policy
  | failOnInitError
  | pluginDirectory
  | socketName
  | kubeletSocketName
  deriving DecidableEq, Repr

namespace Item

/-- What can be said for an item. -/
abbrev Value : Item → Type
  | .resourceName | .driverRoot | .listVariable => String
  | .listStrategy => ListStrategy
  | .idStrategy => IdStrategy
  | .passDeviceSpecs | .autoReplicas | .failOnInitError => Bool
  | .replicas => Nat
  | .policy => PolicyChoice
  | .pluginDirectory | .socketName | .kubeletSocketName => String

/-- What holds for an item of which nothing is said. -/
def default : (e : Item) → e.Value
  | .resourceName => defaultResourceName
  | .listStrategy => ListStrategy.envvar
  | .idStrategy => IdStrategy.uuid
  | .passDeviceSpecs => false
  | .driverRoot => defaultDriverRoot
  | .listVariable => defaultListVariable
  | .replicas => (1 : Nat)
  | .autoReplicas => false
  | .policy => PolicyChoice.none
  | .failOnInitError => true
  | .pluginDirectory => defaultPluginDirectory
  | .socketName => defaultSocketName
  | .kubeletSocketName => defaultKubeletSocketName

/-- The word of a command line, which always places the sockets. -/
def onLine (line : CommandLine) : (e : Item) → Option e.Value
  | .resourceName => line.resourceName
  | .listStrategy => line.listStrategy
  | .idStrategy => line.idStrategy
  | .passDeviceSpecs => line.passDeviceSpecs
  | .driverRoot => line.driverRoot
  | .listVariable => line.listVariable
  | .replicas => line.replicas
  | .autoReplicas => line.autoReplicas
  | .policy => line.policy
  | .failOnInitError => line.failOnInitError
  | .pluginDirectory => some line.pluginDirectory
  | .socketName => some line.socketName
  | .kubeletSocketName => some line.kubeletSocketName

/-- The word of a file, which never places the sockets. -/
def inFile (file : ConfigFile) : (e : Item) → Option e.Value
  | .resourceName => file.flags.resourceName
  | .listStrategy => file.flags.plugin.listStrategy
  | .idStrategy => file.flags.plugin.idStrategy
  | .passDeviceSpecs => file.flags.plugin.passDeviceSpecs
  | .driverRoot => file.flags.driverRoot
  | .listVariable => file.flags.plugin.listVariable
  | .replicas => file.flags.replicas
  | .autoReplicas => file.flags.autoReplicas
  | .policy => file.flags.policy
  | .failOnInitError => file.flags.failOnInitError
  | .pluginDirectory => none
  | .socketName => none
  | .kubeletSocketName => none

/-- **What holds for an item**: the command line goes before the file, and the file before the
default. -/
def effective (line : CommandLine) (file : ConfigFile) (e : Item) : e.Value :=
  (onLine line e <|> inFile file e).getD e.default

theorem effective_congr {line line' : CommandLine} {file file' : ConfigFile} {e : Item}
    (hline : onLine line e = onLine line' e) (hfile : inFile file e = inFile file' e) :
    effective line file e = effective line' file' e := by
  rw [effective, effective, hline, hfile]

end Item

/-- The settings that are made of what holds for the items. -/
def ofItems (v : (e : Item) → e.Value) : Settings where
  resourceName := v .resourceName
  listStrategy := v .listStrategy
  idStrategy := v .idStrategy
  passDeviceSpecs := v .passDeviceSpecs
  driverRoot := v .driverRoot
  listVariable := v .listVariable
  replication := .ofSettings (v .replicas) (v .autoReplicas)
  policy := v .policy
  failOnInitError := v .failOnInitError
  socketPath := Path.join (v .pluginDirectory) (v .socketName)
  kubeletSocketPath := Path.join (v .pluginDirectory) (v .kubeletSocketName)

/-! ## Single settings -/

/-- The settings, one by one. -/
inductive Setting where
  | resourceName
  | listStrategy
  | idStrategy
  | passDeviceSpecs
  | driverRoot
  | listVariable
  | replication
  | policy
  | failOnInitError
  | socketPath
  | kubeletSocketPath
  deriving DecidableEq, Repr

namespace Setting

abbrev Value : Setting → Type
  | .resourceName | .driverRoot | .listVariable | .socketPath | .kubeletSocketPath => String
  | .listStrategy => ListStrategy
  | .idStrategy => IdStrategy
  | .passDeviceSpecs | .failOnInitError => Bool
  | .replication => Replication
  | .policy => PolicyChoice

/-- What a setting is set to. -/
def value (settings : Settings) : (s : Setting) → s.Value
  | .resourceName => settings.resourceName
  | .listStrategy => settings.listStrategy
  | .idStrategy => settings.idStrategy
  | .passDeviceSpecs => settings.passDeviceSpecs
  | .driverRoot => settings.driverRoot
  | .listVariable => settings.listVariable
  | .replication => settings.replication
  | .policy => settings.policy
  | .failOnInitError => settings.failOnInitError
  | .socketPath => settings.socketPath
  | .kubeletSocketPath => settings.kubeletSocketPath

/-- The items that a setting is made of. -/
def items : Setting → List Item
  | .resourceName => [.resourceName]
  | .listStrategy => [.listStrategy]
  | .idStrategy => [.idStrategy]
  | .passDeviceSpecs => [.passDeviceSpecs]
  | .driverRoot => [.driverRoot]
  | .listVariable => [.listVariable]
  | .replication => [.replicas, .autoReplicas]
  | .policy => [.policy]
  | .failOnInitError => [.failOnInitError]
  | .socketPath => [.pluginDirectory, .socketName]
  | .kubeletSocketPath => [.pluginDirectory, .kubeletSocketName]

/-- **A setting depends on its own items only.** -/
theorem value_ofItems_congr {v w : (e : Item) → e.Value} {s : Setting}
    (h : ∀ e ∈ s.items, v e = w e) : s.value (ofItems v) = s.value (ofItems w) := by
  rcases s <;> simp_all only [items, List.mem_cons, List.not_mem_nil, or_false, forall_eq_or_imp,
    forall_eq, value, ofItems]

end Setting

/-! ## Merging -/

variable {line : CommandLine} {file : ConfigFile} {settings : Settings} {e : Error}

theorem checkedReplication_eq_error_iff {count : Nat} {auto : Bool} :
    checkedReplication count auto = .error e ↔
      count = 0 ∧ e = .noReplicas ∨ (auto = true ∧ 1 < count) ∧ e = .replicasTwice count := by
  simp only [checkedReplication, Bool.and_eq_true, decide_eq_true_eq]
  split_ifs with hzero htwice
  · constructor
    · intro h
      exact .inl ⟨hzero, (Except.error.inj h).symm⟩
    · rintro (⟨-, rfl⟩ | ⟨⟨-, hcount⟩, -⟩)
      · rfl
      · omega
  · constructor
    · intro h
      exact .inr ⟨htwice, (Except.error.inj h).symm⟩
    · rintro (⟨hcount, -⟩ | ⟨-, rfl⟩)
      · exact absurd hcount hzero
      · rfl
  · refine ⟨nofun, ?_⟩
    rintro (⟨hcount, -⟩ | ⟨hboth, -⟩)
    · exact absurd hcount hzero
    · exact absurd hboth htwice

/-- **A replication that is accepted** follows the memory or has at least one replica. -/
theorem checkedReplication_eq_ok {count : Nat} {auto : Bool} {r : Replication}
    (h : checkedReplication count auto = .ok r) :
    r = .ofSettings count auto ∧ (r = .auto ∨ ∃ n, 1 ≤ n ∧ r = .fixed n) := by
  rw [checkedReplication] at h
  split_ifs at h with hzero htwice
  obtain rfl := Except.ok.inj h
  refine ⟨rfl, ?_⟩
  rcases auto with _ | _
  · exact .inr ⟨count, Nat.pos_of_ne_zero hzero, rfl⟩
  · exact .inl rfl

theorem merge_eq_error_iff :
    merge line file = .error e ↔
      checkedReplication (Item.effective line file .replicas)
        (Item.effective line file .autoReplicas) = .error e := by
  change checkedReplication (Item.effective line file .replicas)
    (Item.effective line file .autoReplicas) >>= _ = _ ↔ _
  rcases checkedReplication _ _ with e' | r
  · constructor
    · intro h
      exact congrArg Except.error (Except.error.inj h)
    · intro h
      exact congrArg Except.error (Except.error.inj h)
  · exact ⟨nofun, nofun⟩

/-- **Merged settings are made of what holds for the items.** -/
theorem eq_ofItems_of_merge (h : merge line file = .ok settings) :
    settings = ofItems (Item.effective line file) ∧
      (settings.replication = .auto ∨ ∃ n, 1 ≤ n ∧ settings.replication = .fixed n) := by
  obtain ⟨r, hr, hsettings⟩ := Traversal.exists_of_bind_eq_ok h
  obtain ⟨heq, hvalid⟩ := checkedReplication_eq_ok hr
  obtain rfl := Except.ok.inj hsettings
  refine ⟨?_, hvalid⟩
  rw [heq]
  rfl

end Settings

/-- Settings that are loaded are merged from the command line and some file. -/
theorem Configuration.exists_merge_of_load {read : String → Except FileFault String}
    {line : CommandLine} {settings : Settings} (h : load read line = .ok settings) :
    ∃ file, Settings.merge line file = .ok settings := by
  obtain ⟨file, -, hmerge⟩ := Traversal.exists_of_bind_eq_ok h
  refine ⟨file, ?_⟩
  rcases hmerged : Settings.merge line file with e | merged
  · rw [hmerged] at hmerge
    nomatch hmerge
  · rw [hmerged] at hmerge
    exact congrArg Except.ok (Except.ok.inj hmerge)

/-- A fixed number of replicas, which is not zero, gives every device a replica. -/
theorem Inventory.exists_id_mem_advertised {devices : List Device} {d : Device} {count : Nat}
    (hcount : 1 ≤ count) (hd : d ∈ devices) :
    ∃ i, Replica.id d.id i ∈ Inventory.advertised ⟨devices, .fixed count⟩ :=
  ⟨0, mem_advertised.mpr ⟨d, hd, 0, hcount, rfl⟩⟩

namespace Settings

open Item Setting

/-- **How a command line and a file are resolved.** -/
structure Resolved (line : CommandLine) (file : ConfigFile) : Prop where
  /-- Nothing is refused but a number of replicas that is zero, or that is given for replicas that
  follow the memory. -/
  refused : (∃ e, merge line file = .error e) ↔
    effective line file .replicas = 0 ∨
      effective line file .autoReplicas = true ∧ 1 < effective line file .replicas
  /-- The refusal says which of these it is. -/
  refusal : ∀ e, merge line file = .error e ↔
    effective line file .replicas = 0 ∧ e = .noReplicas ∨
      (effective line file .autoReplicas = true ∧ 1 < effective line file .replicas) ∧
        e = .replicasTwice (effective line file .replicas)
  /-- Otherwise every item holds as its first source has it. -/
  settled : ∀ settings, merge line file = .ok settings →
    settings = ofItems (effective line file)
  /-- Where the sources of some items only are changed, settings that are made of others stay
  what they were. -/
  isolated : ∀ (changed : Item → Prop) line' file' settings settings',
    (∀ e, ¬ changed e → onLine line e = onLine line' e ∧ inFile file e = inFile file' e) →
      merge line file = .ok settings → merge line' file' = .ok settings' →
        ∀ s : Setting, (∀ e ∈ s.items, ¬ changed e) → s.value settings = s.value settings'
  /-- Devices are replicated by their memory, or at least once each. -/
  valid : ∀ settings, merge line file = .ok settings →
    settings.replication = .auto ∨ ∃ n, 1 ≤ n ∧ settings.replication = .fixed n
  /-- So no device is left out where settings with a fixed number of replicas are loaded. -/
  advertised : ∀ read settings count, Configuration.load read line = .ok settings →
    settings.replication = .fixed count → ∀ devices, ∀ d ∈ devices,
      ∃ i, Replica.id d.id i ∈ Inventory.advertised ⟨devices, settings.replication⟩

theorem isolated_merge {changed : Item → Prop} {line' : CommandLine} {file' : ConfigFile}
    {settings' : Settings}
    (hsame : ∀ e, ¬ changed e → onLine line e = onLine line' e ∧ inFile file e = inFile file' e)
    (h : merge line file = .ok settings) (h' : merge line' file' = .ok settings')
    {s : Setting} (hs : ∀ e ∈ s.items, ¬ changed e) : s.value settings = s.value settings' := by
  rw [(eq_ofItems_of_merge h).1, (eq_ofItems_of_merge h').1]
  refine value_ofItems_congr fun e he => ?_
  obtain ⟨hline, hfile⟩ := hsame e (hs e he)
  exact effective_congr hline hfile

theorem advertised_of_load {read : String → Except FileFault String} {count : Nat}
    (h : Configuration.load read line = .ok settings) (hfixed : settings.replication = .fixed count)
    {devices : List Device} {d : Device} (hd : d ∈ devices) :
    ∃ i, Replica.id d.id i ∈ Inventory.advertised ⟨devices, settings.replication⟩ := by
  obtain ⟨file, hmerge⟩ := Configuration.exists_merge_of_load h
  rcases (eq_ofItems_of_merge hmerge).2 with hauto | ⟨n, hn, hreplication⟩
  · rw [hauto] at hfixed
    nomatch hfixed
  · rw [hreplication]
    exact Inventory.exists_id_mem_advertised hn hd

/-- **A command line and a file are resolved item by item**, and refused for their numbers of
replicas only. -/
theorem resolved_merge (line : CommandLine) (file : ConfigFile) : Resolved line file where
  refused := by
    simp only [merge_eq_error_iff, checkedReplication_eq_error_iff]
    constructor
    · rintro ⟨e, ⟨hzero, -⟩ | ⟨htwice, -⟩⟩
      · exact .inl hzero
      · exact .inr htwice
    · rintro (hzero | htwice)
      · exact ⟨_, .inl ⟨hzero, rfl⟩⟩
      · exact ⟨_, .inr ⟨htwice, rfl⟩⟩
  refusal e := merge_eq_error_iff.trans checkedReplication_eq_error_iff
  settled settings h := (eq_ofItems_of_merge h).1
  isolated changed line' file' settings settings' hsame h h' s hs := isolated_merge hsame h h' hs
  valid settings h := (eq_ofItems_of_merge h).2
  advertised read settings count h hfixed devices d hd := advertised_of_load h hfixed hd

end Settings

end GpuPlugin
