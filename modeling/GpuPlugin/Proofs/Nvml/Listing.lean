import GpuPlugin.Nvml.Enumeration
import GpuPlugin.Proofs.Traversal
import Mathlib.Data.List.Nodup

/-!
# Proofs/Nvml/Listing — listed devices and the accelerators behind them

A list of devices follows the library's positions: each device is that of the accelerator at its own
position (`exists_listedAt_of_devices`).  While the listed names differ, looking an accelerator
up by the name of a device leads back to that position (`gpuNamed_of_devices`), whatever else the
library knows under the same name.
-/

namespace GpuPlugin.Nvml

/-! ## Calls that succeed -/

theorem calling_eq_ok_iff {α : Type} {r : Except Fault α} {v : α} :
    calling r = .ok v ↔ r = .ok v := by
  cases r <;> simp [calling]

theorem attempting_eq_ok_iff {α : Type} {a : Attempt} {r : Except Fault α} {v : α} :
    attempting a r = .ok v ↔ r = .ok v := by
  cases r <;> simp [attempting]

theorem answer_eq_ok_iff {α : Type} {fault : Option Fault} {v w : α} :
    answer fault v = .ok w ↔ fault = none ∧ v = w := by
  cases fault <;> simp [answer]

/-- **The device that an accelerator is listed as** at a position: under its own name, with its
memory in MiB, rounded down, and with the device node of its minor number. -/
def Gpu.listedAt (g : Gpu) (n : Nat) : Device where
  id := g.uuid
  index := toString n
  memory := g.memoryBytes / 1048576
  paths := ["/dev/nvidia" ++ toString g.minor]
  health := .healthy

namespace Library

variable {lib : Library} {devices : List Device} {n : Nat} {d : Device} {g : Gpu}

/-! ## Positions -/

theorem getElem?_of_gpuAt (h : lib.gpuAt n = .ok g) : lib.gpus[n]? = some g := by
  rw [gpuAt] at h
  split at h
  next g' hg' =>
    obtain ⟨-, rfl⟩ := answer_eq_ok_iff.mp h
    exact hg'
  next => cases h

theorem exists_gpu_of_deviceAt (h : lib.deviceAt n = .ok d) :
    ∃ g, lib.gpus[n]? = some g ∧ d = g.listedAt n := by
  obtain ⟨g, hg, h⟩ := Traversal.exists_of_bind_eq_ok h
  obtain ⟨uuid, huuid, h⟩ := Traversal.exists_of_bind_eq_ok h
  obtain ⟨bytes, hbytes, h⟩ := Traversal.exists_of_bind_eq_ok h
  obtain ⟨minor, hminor, h⟩ := Traversal.exists_of_bind_eq_ok h
  obtain ⟨-, rfl⟩ := answer_eq_ok_iff.mp (calling_eq_ok_iff.mp huuid)
  obtain ⟨-, rfl⟩ := answer_eq_ok_iff.mp (calling_eq_ok_iff.mp hbytes)
  obtain ⟨-, rfl⟩ := answer_eq_ok_iff.mp (calling_eq_ok_iff.mp hminor)
  obtain rfl := Except.ok.inj h
  exact ⟨g, getElem?_of_gpuAt (attempting_eq_ok_iff.mp hg), rfl⟩

theorem forall₂_of_devices (h : lib.devices = .ok devices) :
    List.Forall₂ (fun n d => lib.deviceAt n = .ok d) (List.range lib.count) devices := by
  obtain ⟨count, hcount, h⟩ := Traversal.exists_of_bind_eq_ok h
  obtain ⟨-, rfl⟩ := answer_eq_ok_iff.mp (attempting_eq_ok_iff.mp hcount)
  exact Traversal.mapM_eq_ok_iff.mp h

theorem length_of_devices (h : lib.devices = .ok devices) : devices.length = lib.count := by
  rw [← (forall₂_of_devices h).length_eq, List.length_range]

/-- **Each device of the list is that of the accelerator at its position.** -/
theorem exists_listedAt_of_devices (h : lib.devices = .ok devices) (hd : devices[n]? = some d) :
    ∃ g, lib.gpus[n]? = some g ∧ d = g.listedAt n := by
  obtain ⟨hn, rfl⟩ := List.getElem?_eq_some_iff.mp hd
  have hlisted := forall₂_of_devices h
  have hn' : n < (List.range lib.count).length := hlisted.length_eq ▸ hn
  have hat := hlisted.get hn' hn
  simp only [List.get_eq_getElem, List.getElem_range] at hat
  exact exists_gpu_of_deviceAt hat

/-- A device is listed under the name of its accelerator, and is well at first. -/
theorem exists_gpu_of_devices (h : lib.devices = .ok devices) (hd : devices[n]? = some d) :
    ∃ g, lib.gpus[n]? = some g ∧ d.id = g.uuid ∧ d.health = .healthy := by
  obtain ⟨g, hg, rfl⟩ := exists_listedAt_of_devices h hd
  exact ⟨g, hg, rfl, rfl⟩

theorem exists_device_of_gpu (h : lib.devices = .ok devices) (hn : n < lib.count) :
    ∃ d, devices[n]? = some d :=
  ⟨_, List.getElem?_eq_getElem (length_of_devices h ▸ hn)⟩

/-! ## Names -/

theorem id_eq_uuid_of_devices (h : lib.devices = .ok devices) (hd : devices[n]? = some d)
    (hg : lib.gpus[n]? = some g) : d.id = g.uuid := by
  obtain ⟨g', hg', hid, -⟩ := exists_gpu_of_devices h hd
  obtain rfl := Option.some.inj (hg.symm.trans hg')
  exact hid

theorem position_eq_of_id_eq {m : Nat} {b : Device} (hdistinct : (devices.map (·.id)).Nodup)
    (hb : devices[m]? = some b) (hd : devices[n]? = some d) (hid : b.id = d.id) : m = n := by
  have hm : m < (devices.map (·.id)).length := by
    rw [List.length_map]
    exact (List.getElem?_eq_some_iff.mp hb).1
  refine (List.getElem?_inj hm hdistinct).mp ?_
  rw [List.getElem?_map, List.getElem?_map, hb, hd, Option.map_some, Option.map_some, hid]

/-- **A listed name leads back to its position**, while the listed names differ. -/
theorem gpuNamed_of_devices (h : lib.devices = .ok devices)
    (hdistinct : (devices.map (·.id)).Nodup) (hd : devices[n]? = some d)
    (hg : lib.gpus[n]? = some g) : lib.gpuNamed g.uuid = answer g.lookupFault g := by
  obtain ⟨hn, hgn⟩ := List.getElem?_eq_some_iff.mp hg
  have hfind : lib.gpus.find? (·.uuid == g.uuid) = some g := by
    refine List.find?_eq_some_iff_getElem.mpr ⟨beq_self_eq_true g.uuid, n, hn, hgn, ?_⟩
    -- An accelerator before it is listed as well, and under another name.
    intro m hm
    have hlisted : m < devices.length := Nat.lt_trans hm (List.getElem?_eq_some_iff.mp hd).1
    have hb : devices[m]? = some devices[m] := List.getElem?_eq_getElem hlisted
    have hgm : lib.gpus[m]? = some lib.gpus[m] := List.getElem?_eq_getElem (Nat.lt_trans hm hn)
    rw [← id_eq_uuid_of_devices h hb hgm, ← id_eq_uuid_of_devices h hd hg, Bool.not_eq_true',
      beq_eq_false_iff_ne]
    intro hsame
    exact absurd (position_eq_of_id_eq hdistinct hb hd hsame) (Nat.ne_of_lt hm)
  rw [gpuNamed, hfind]

end Library

end GpuPlugin.Nvml
