import GpuPlugin.Proofs.Allocation.Grant
import GpuPlugin.Proofs.Container.Announcement
import GpuPlugin.Proofs.Inventory.Owners

/-!
# Proofs/Allocation/Devices — a container is given the devices it asks for

What a container is told, and what nodes it is handed, are those of the devices that own the replicas
it asks for: each device once, in the order in which they are first asked for, and no other device
(`gives_owners_of_allocate`).  The names can be told apart again, whether they are announced in a
variable or as mounts.
-/

namespace GpuPlugin

/-- What a device is called under a strategy. -/
def IdStrategy.nameOf : IdStrategy → Device → String
  | .uuid, d => d.id
  | .index, d => d.index

/-- **A container is given devices**, if it is told their names and handed their nodes. -/
structure ContainerAllocateResponse.Gives (s : Settings) (pathExists : String → Bool)
    (devices : List Device) (r : ContainerAllocateResponse) : Prop where
  /-- Announced in a variable, the names are what is read from its value. -/
  named_in_variable : s.listStrategy = .envvar →
    r.mounts = [] ∧ ∃ value, r.envs.entries = [(s.listVariable, value)] ∧
      Container.namesIn value = devices.map s.idStrategy.nameOf
  /-- Announced as mounts, the names are what follows the root of the mounts, which the variable
  names. -/
  named_by_mounts : s.listStrategy = .volumeMounts →
    r.envs.entries = [(s.listVariable, Container.mountRoot)] ∧
      r.mounts.map (·.containerPath)
        = (devices.map s.idStrategy.nameOf).map (Container.mountRoot ++ "/" ++ ·)
  /-- No device is named twice. -/
  names_nodup : (devices.map s.idStrategy.nameOf).Nodup
  /-- The nodes are the control nodes that exist and then those of each device. -/
  nodes : s.passDeviceSpecs = true →
    r.devices.map (·.containerPath)
      = Container.controlNodes.filter pathExists ++ devices.flatMap (·.paths)
  no_nodes : s.passDeviceSpecs = false → r.devices = []
  /-- On the host the nodes lie under the driver's root. -/
  places : ∀ node ∈ r.devices,
    Container.LiesUnder s.driverRoot node.containerPath node.hostPath

namespace Allocator

variable {a : Allocator} {pathExists : String → Bool} {devices : List Device}

theorem announced_eq_map (a : Allocator) (devices : List Device) :
    a.announced devices = devices.map a.settings.idStrategy.nameOf := by
  rw [announced]
  cases a.settings.idStrategy <;> rfl

/-- **A grant gives its devices**, if their names can be told apart. -/
theorem gives_grant (hnodup : (devices.map a.settings.idStrategy.nameOf).Nodup)
    (hlistable : ∀ d ∈ devices, Container.IsListable (a.settings.idStrategy.nameOf d)) :
    (a.grant pathExists devices).Gives a.settings pathExists devices := by
  have hnames : ∀ name ∈ devices.map a.settings.idStrategy.nameOf, Container.IsListable name :=
    List.forall_mem_map.mpr hlistable
  refine ⟨fun hlist => ?_, fun hlist => ?_, hnodup, fun hpass => ?_, fun hpass => ?_, ?_⟩
  · rw [grant, hlist, announced_eq_map]
    exact ⟨rfl, _, rfl, Container.namesIn_intercalate hnames⟩
  · rw [grant, hlist, announced_eq_map]
    exact ⟨rfl, Container.map_containerPath_mounts hnames⟩
  · rw [grant, hpass, if_pos rfl]
    exact Container.map_containerPath_deviceSpecs
  · rw [grant, hpass, if_neg Bool.false_ne_true]
  · intro node hnode
    rw [grant] at hnode
    split_ifs at hnode with hpass
    · exact Container.lies_under_of_mem_deviceSpecs hnode
    · cases hnode

/-- **A container is given exactly the devices it asks for**: those that own the replicas it names,
each once and in the order in which they are first asked for.  For this the devices have different
ids, and whatever they are called by, ids or indices, are different names that can be listed. -/
theorem gives_owners_of_allocate {request : AllocateRequest} {response : AllocateResponse}
    (hids : a.inventory.Distinct)
    (hnames : (a.inventory.devices.map a.settings.idStrategy.nameOf).Nodup)
    (hlistable : ∀ d ∈ a.inventory.devices,
      Container.IsListable (a.settings.idStrategy.nameOf d))
    (h : a.allocate pathExists request = .ok response) :
    List.Forall₂
      (fun c r => ∃ owners, List.Forall₂ a.inventory.Owns c.deviceIds owners ∧
        r.Gives a.settings pathExists owners.eraseDups)
      request.containers response.containers := by
  obtain ⟨hknown, hanswers⟩ := allocate_eq_ok_iff.mp h
  have hadvertised := forall_mem_ids.mp (firstUnknown?_eq_none_iff.mp hknown)
  rw [hanswers, List.forall₂_map_right_iff, List.forall₂_same]
  intro c hc
  obtain ⟨owners, howners⟩ := Inventory.exists_owners (hadvertised c hc)
  have hlisted : ∀ d ∈ owners.eraseDups, d ∈ a.inventory.devices := fun d hd =>
    Inventory.mem_devices_of_owners howners d (List.mem_eraseDups.mp hd)
  refine ⟨owners, howners, ?_⟩
  rw [granted, hids.behind_eq_owners howners]
  refine gives_grant ?_ fun d hd => hlistable d (hlisted d hd)
  refine (Repetition.nodup_eraseDups owners).map_on fun d hd e he => ?_
  exact List.inj_on_of_nodup_map hnames (hlisted d hd) (hlisted e he)

/-- A container that asks for a device twice, and one that asks for none. -/
theorem gives_owners_of_two_containers :
    let gpus : List Device :=
      [⟨"GPU-a", "0", 4000, ["/dev/nvidia0"], .healthy⟩,
        ⟨"GPU-b", "1", 4000, ["/dev/nvidia1"], .healthy⟩]
    let a : Allocator := ⟨{ passDeviceSpecs := true, replication := .fixed 2 },
      ⟨gpus, .fixed 2⟩, none⟩
    let pathExists : String → Bool := (· == "/dev/nvidiactl")
    let request : AllocateRequest := ⟨[⟨["GPU-b::1", "GPU-a::0", "GPU-b::0"]⟩, ⟨[]⟩]⟩
    let response : AllocateResponse := ⟨request.containers.map (a.granted pathExists)⟩
    a.inventory.Distinct ∧ (a.inventory.devices.map a.settings.idStrategy.nameOf).Nodup ∧
      (∀ d ∈ a.inventory.devices, Container.IsListable (a.settings.idStrategy.nameOf d)) ∧
      a.allocate pathExists request = .ok response ∧
      response.containers.map (·.envs.entries)
        = [[("NVIDIA_VISIBLE_DEVICES", "GPU-b,GPU-a")], [("NVIDIA_VISIBLE_DEVICES", "")]] ∧
      response.containers.map (·.devices.map (·.hostPath))
        = [["/dev/nvidiactl", "/dev/nvidia1", "/dev/nvidia0"], ["/dev/nvidiactl"]] ∧
      List.Forall₂
        (fun c r => ∃ owners, List.Forall₂ a.inventory.Owns c.deviceIds owners ∧
          r.Gives a.settings pathExists owners.eraseDups)
        request.containers response.containers := by
  intro gpus a pathExists request response
  have hids : a.inventory.Distinct := by decide
  have hnames : (a.inventory.devices.map a.settings.idStrategy.nameOf).Nodup := by decide
  have hlistable : ∀ d ∈ a.inventory.devices,
      Container.IsListable (a.settings.idStrategy.nameOf d) := by decide
  have hallocate : a.allocate pathExists request = .ok response :=
    allocate_of_advertised (by decide +kernel)
  exact ⟨hids, hnames, hlistable, hallocate, by decide +kernel, by decide +kernel,
    gives_owners_of_allocate hids hnames hlistable hallocate⟩

end Allocator

end GpuPlugin
