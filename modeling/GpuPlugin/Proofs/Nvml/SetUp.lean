import GpuPlugin.Nvml.HealthCheck
import GpuPlugin.Proofs.Nvml.Listing

/-!
# Proofs/Nvml/SetUp — which accelerators cannot be watched

Setting up the events of an accelerator fails where a call fails (`SetUpFails`); an accelerator that
is found but reports no critical errors (`IsBlind`) is reported at once.  A run through the devices
ends at the first that fails, so what is reported is what is blind and reached.
-/

namespace GpuPlugin.Nvml

/-! ## One accelerator -/

/-- How setting up the events of an accelerator fails. -/
inductive Gpu.SetUpFails (g : Gpu) : Error → Prop where
  | lookUp {f : Fault} (h : g.lookupFault = some f) : SetUpFails g ⟨none, f⟩
  | query {f : Fault} (hfound : g.lookupFault = none) (h : g.eventTypesFault = some f)
    (hne : f ≠ .notSupported) : SetUpFails g ⟨some (.queryEvents g.uuid), f⟩
  | watch {f : Fault} (hfound : g.lookupFault = none) (hknown : g.eventTypesFault = none)
    (hmask : isCriticalMask g.eventTypes = true) (h : g.watchFault = some f) :
    SetUpFails g ⟨some (.watch g.uuid), f⟩

/-- The accelerator does not report critical errors. -/
def Gpu.IsBlind (g : Gpu) : Prop :=
  g.eventTypesFault = some .notSupported ∨
    (g.eventTypesFault = none ∧ isCriticalMask g.eventTypes = false)

/-- The accelerator reports critical errors, and watching it for them succeeds. -/
def Gpu.IsWatched (g : Gpu) : Prop :=
  g.eventTypesFault = none ∧ isCriticalMask g.eventTypes = true ∧ g.watchFault = none

/-- **The events of an accelerator can be set up**: it is found, and watched if that is of use. -/
def Gpu.IsSetUp (g : Gpu) : Prop := g.lookupFault = none ∧ (g.IsBlind ∨ g.IsWatched)

theorem Gpu.SetUpFails.unique {g : Gpu} {e e' : Error} (h : g.SetUpFails e)
    (h' : g.SetUpFails e') : e = e' := by
  cases h <;> cases h' <;> simp_all

theorem Gpu.SetUpFails.not_isSetUp {g : Gpu} {e : Error} (h : g.SetUpFails e) : ¬ g.IsSetUp := by
  rintro ⟨hfound, hend⟩
  cases h <;> simp_all [IsBlind, IsWatched]

theorem Gpu.IsWatched.not_isBlind {g : Gpu} (h : g.IsWatched) : ¬ g.IsBlind := by
  obtain ⟨hknown, hmask, -⟩ := h
  simp [IsBlind, hknown, hmask]

namespace Library

variable {lib : Library} {g : Gpu} {id : String} {e : Error} {devices : List Device}

/-- **What watching comes to**, for an accelerator that is known by its name. -/
theorem watch_cases (hnamed : lib.gpuNamed g.uuid = answer g.lookupFault g) :
    (∃ e, lib.watch g.uuid = .error e ∧ g.SetUpFails e) ∨
    (lib.watch g.uuid = .ok false ∧ g.lookupFault = none ∧ g.IsBlind) ∨
    (lib.watch g.uuid = .ok true ∧ g.lookupFault = none ∧ g.IsWatched) := by
  cases hlookup : g.lookupFault with
  | some f =>
    refine Or.inl ⟨_, ?_, .lookUp hlookup⟩
    rw [watch, hnamed, hlookup]
    rfl
  | none =>
    cases htypes : g.eventTypesFault with
    | some f =>
      by_cases hunsupported : f = .notSupported
      · subst hunsupported
        refine Or.inr (Or.inl ⟨?_, rfl, Or.inl htypes⟩)
        simp [watch, hnamed, hlookup, htypes, answer, calling, bind, Except.bind, pure, Except.pure]
      · refine Or.inl ⟨_, ?_, .query hlookup htypes hunsupported⟩
        simp [watch, hnamed, hlookup, htypes, answer, calling, bind, Except.bind, throw,
          throwThe, MonadExceptOf.throw]
    | none =>
      cases hmask : isCriticalMask g.eventTypes with
      | false =>
        refine Or.inr (Or.inl ⟨?_, rfl, Or.inr ⟨htypes, hmask⟩⟩)
        simp [watch, hnamed, hlookup, htypes, hmask, answer, calling, bind, Except.bind, pure,
          Except.pure]
      | true =>
        cases hwatch : g.watchFault with
        | some f =>
          refine Or.inl ⟨_, ?_, .watch hlookup htypes hmask hwatch⟩
          simp [watch, hnamed, hlookup, htypes, hmask, hwatch, answer, calling, attempting, bind,
            Except.bind]
        | none =>
          refine Or.inr (Or.inr ⟨?_, rfl, htypes, hmask, hwatch⟩)
          simp [watch, hnamed, hlookup, htypes, hmask, hwatch, answer, calling, attempting, bind,
            Except.bind]

theorem watch_eq_error_iff (hnamed : lib.gpuNamed g.uuid = answer g.lookupFault g) :
    lib.watch g.uuid = .error e ↔ g.SetUpFails e := by
  rcases watch_cases hnamed with ⟨e', hwatch, hfails⟩ | ⟨hwatch, hend⟩ | ⟨hwatch, hend⟩
  · rw [hwatch, Except.error.injEq]
    exact ⟨fun h => h ▸ hfails, hfails.unique⟩
  · rw [hwatch]
    exact ⟨nofun, fun h => absurd ⟨hend.1, Or.inl hend.2⟩ h.not_isSetUp⟩
  · rw [hwatch]
    exact ⟨nofun, fun h => absurd ⟨hend.1, Or.inr hend.2⟩ h.not_isSetUp⟩

theorem watch_eq_false_iff (hnamed : lib.gpuNamed g.uuid = answer g.lookupFault g) :
    lib.watch g.uuid = .ok false ↔ g.lookupFault = none ∧ g.IsBlind := by
  rcases watch_cases hnamed with ⟨e', hwatch, hfails⟩ | ⟨hwatch, hend⟩ | ⟨hwatch, hend⟩
  · rw [hwatch]
    exact ⟨nofun, fun h => absurd ⟨h.1, Or.inl h.2⟩ hfails.not_isSetUp⟩
  · rw [hwatch]
    exact ⟨fun _ => hend, fun _ => rfl⟩
  · rw [hwatch]
    exact ⟨nofun, fun h => absurd h.2 hend.2.not_isBlind⟩

theorem exists_watch_eq_ok_iff (hnamed : lib.gpuNamed g.uuid = answer g.lookupFault g) :
    (∃ w, lib.watch g.uuid = .ok w) ↔ g.IsSetUp := by
  rcases watch_cases hnamed with ⟨e', hwatch, hfails⟩ | ⟨hwatch, hend⟩ | ⟨hwatch, hend⟩
  · rw [hwatch]
    exact ⟨nofun, fun h => absurd h hfails.not_isSetUp⟩
  · exact ⟨fun _ => ⟨hend.1, Or.inl hend.2⟩, fun _ => ⟨false, hwatch⟩⟩
  · exact ⟨fun _ => ⟨hend.1, Or.inr hend.2⟩, fun _ => ⟨true, hwatch⟩⟩

/-! ## All devices in order -/

/-- All devices before a position can be set up. -/
def Reaches (lib : Library) (devices : List Device) (n : Nat) : Prop :=
  ∀ m < n, ∀ d, devices[m]? = some d → ∃ w, lib.watch d.id = .ok w

/-- Some device that is reached has a property. -/
def ReachesSome (lib : Library) (devices : List Device) (P : Device → Prop) : Prop :=
  ∃ n d, devices[n]? = some d ∧ lib.Reaches devices n ∧ P d

theorem reaches_cons_succ {d : Device} {n : Nat} :
    lib.Reaches (d :: devices) (n + 1) ↔
      (∃ w, lib.watch d.id = .ok w) ∧ lib.Reaches devices n := by
  rw [Reaches, Nat.forall_lt_succ_left]
  simp [Reaches]

theorem reachesSome_nil {P : Device → Prop} : ¬ lib.ReachesSome [] P := by
  simp [ReachesSome]

/-- **The first device is reached, and those after it if it can be set up.** -/
theorem reachesSome_cons {d : Device} {P : Device → Prop} :
    lib.ReachesSome (d :: devices) P ↔
      P d ∨ ((∃ w, lib.watch d.id = .ok w) ∧ lib.ReachesSome devices P) := by
  constructor
  · rintro ⟨n, d', hd', hreach, hP⟩
    cases n with
    | zero =>
      obtain rfl := Option.some.inj hd'
      exact Or.inl hP
    | succ n =>
      obtain ⟨hd, hreach⟩ := reaches_cons_succ.mp hreach
      exact Or.inr ⟨hd, n, d', hd', hreach, hP⟩
  · rintro (hP | ⟨hd, n, d', hd', hreach, hP⟩)
    · exact ⟨0, d, rfl, nofun, hP⟩
    · exact ⟨n + 1, d', hd', reaches_cons_succ.mpr ⟨hd, hreach⟩, hP⟩

/-- **What is reported is what is reached and cannot be watched.** -/
theorem mem_reported_setUp :
    id ∈ (lib.setUp devices).reported ↔
      lib.ReachesSome devices fun d => d.id = id ∧ lib.watch d.id = .ok false := by
  induction devices with
  | nil => exact ⟨nofun, fun h => absurd h reachesSome_nil⟩
  | cons d devices ih =>
    rw [setUp, reachesSome_cons]
    cases hwatch : lib.watch d.id with
    | error e => simp
    | ok watched => cases watched <;> simp [ih, eq_comm]

/-- **The run fails as the first device that cannot be set up.** -/
theorem outcome_setUp_eq_error_iff :
    (lib.setUp devices).outcome = .error e ↔
      lib.ReachesSome devices fun d => lib.watch d.id = .error e := by
  induction devices with
  | nil => exact ⟨nofun, fun h => absurd h reachesSome_nil⟩
  | cons d devices ih =>
    rw [setUp, reachesSome_cons]
    cases hwatch : lib.watch d.id with
    | error e => simp
    | ok watched => cases watched <;> simp [ih]

theorem outcome_setUp_eq_ok_iff :
    (lib.setUp devices).outcome = .ok () ↔ lib.Reaches devices devices.length := by
  induction devices with
  | nil => exact ⟨fun _ => nofun, fun _ => rfl⟩
  | cons d devices ih =>
    rw [setUp, List.length_cons, reaches_cons_succ]
    cases hwatch : lib.watch d.id with
    | error e => simp
    | ok watched => cases watched <;> simp [ih]

end Library

end GpuPlugin.Nvml
