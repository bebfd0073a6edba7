import GpuPlugin.Streams
import Mathlib.Data.List.Forall2

/-!
# Proofs/Streams/Publication — what a session has published

A session replaces its snapshot by one in which more replicas are broken, and by nothing else.  So
its history only gets worse (`Worsening`), and what has been published at some version stays there
(`Precedes`).
-/

namespace GpuPlugin.Streams

/-! ## Snapshots only get worse -/

/-- The same replicas in the same order, some of which may have broken since. -/
def Worsens (before after : List Device) : Prop :=
  List.Forall₂ (fun r r' => r' = r ∨ r' = r.failed) before after

theorem Worsens.refl (snapshot : List Device) : Worsens snapshot snapshot :=
  List.forall₂_same.mpr fun _ _ => Or.inl rfl

theorem Worsens.trans {a b c : List Device} (hab : Worsens a b) (hbc : Worsens b c) :
    Worsens a c := by
  induction hab generalizing c with
  | nil => exact hbc
  | @cons r r' a b hr _ ih =>
    obtain ⟨r'', c, hr', htail, rfl⟩ := List.forall₂_cons_left_iff.mp hbc
    refine .cons ?_ (ih htail)
    rcases hr with rfl | rfl
    · exact hr'
    · -- A broken replica that breaks again is the same broken replica.
      exact Or.inr (hr'.elim id id)

theorem worsens_reported (id : String) (snapshot : List Device) :
    Worsens snapshot (Session.reported id snapshot) := by
  rw [Worsens, Session.reported, List.forall₂_map_right_iff, List.forall₂_same]
  intro r _
  split
  · exact Or.inr rfl
  · exact Or.inl rfl

/-! ## What a session has published -/

namespace Publication

variable {p p' : Publication}

theorem length_history (p : Publication) : p.history.length = p.version + 1 := by
  simp [history, version]

/-- The snapshots that became current from one version on and before another. -/
def between (p : Publication) (first last : Nat) : List (List Device) :=
  (p.history.take last).drop first

/-- One more version is one more snapshot. -/
theorem between_succ {first last : Nat} {snapshot : List Device} (hle : first ≤ last)
    (hlast : p.history[last]? = some snapshot) :
    p.between first (last + 1) = p.between first last ++ [snapshot] := by
  have hlt : last < p.history.length := (List.getElem?_eq_some_iff.mp hlast).1
  have hlen : first ≤ (p.history.take last).length := by
    rw [List.length_take]
    omega
  rw [between, List.take_add_one, hlast, Option.toList_some, List.drop_append_of_le_length hlen]
  rfl

theorem between_subset (p : Publication) (first : Nat) {last last' : Nat} (hle : last ≤ last') :
    (p.between first last).Sublist (p.between first last') :=
  (List.take_prefix_take_left hle).sublist.drop first

theorem between_sublist (p : Publication) (first last : Nat) :
    (p.between first last).Sublist (p.history.drop first) :=
  (List.take_prefix last p.history).sublist.drop first

/-- **Every snapshot is followed by worse ones only.** -/
def Worsening (p : Publication) : Prop := p.history.Pairwise Worsens

theorem worsening_begin (replicas : List Device) : Worsening { current := replicas } :=
  List.pairwise_singleton _ _

theorem Worsening.of_mem (h : p.Worsening) {snapshot : List Device} (hmem : snapshot ∈ p.history) :
    Worsens snapshot p.current := by
  rw [Worsening, history, List.pairwise_reverse, List.pairwise_cons] at h
  rw [history, List.mem_reverse, List.mem_cons] at hmem
  rcases hmem with rfl | hmem
  · exact .refl p.current
  · exact h.1 snapshot hmem

theorem Worsening.report (h : p.Worsening) (id : String) : (p.report id).Worsening := by
  rw [Publication.report, Worsening, history_publish, List.pairwise_append]
  refine ⟨h, List.pairwise_singleton _ _, ?_⟩
  intro snapshot hmem snapshot' hmem'
  obtain rfl := List.mem_singleton.mp hmem'
  exact (h.of_mem hmem).trans (worsens_reported id p.current)

/-- **What becomes of a publication**: more is published, and what is over stays over. -/
structure Precedes (p p' : Publication) : Prop where
  history : p.history <+: p'.history
  isOver : p.isOver = true → p'.isOver = true

theorem Precedes.refl (p : Publication) : p.Precedes p := ⟨List.prefix_rfl, id⟩

theorem Precedes.trans {q : Publication} (h : p.Precedes p') (h' : p'.Precedes q) :
    p.Precedes q :=
  ⟨h.history.trans h'.history, fun hover => h'.isOver (h.isOver hover)⟩

theorem precedes_report (p : Publication) (id : String) : p.Precedes (p.report id) where
  history := by
    rw [report, history_publish]
    exact List.prefix_append _ _
  isOver hover := hover

theorem precedes_finish (p : Publication) : p.Precedes { p with isOver := true } :=
  ⟨List.prefix_rfl, fun _ => rfl⟩

theorem Precedes.version_le (h : p.Precedes p') : p.version ≤ p'.version := by
  have hlen := h.history.length_le
  rw [length_history, length_history] at hlen
  omega

theorem Precedes.getElem?_history (h : p.Precedes p') {v : Nat} (hv : v ≤ p.version) :
    p'.history[v]? = p.history[v]? := by
  obtain ⟨rest, hrest⟩ := h.history
  rw [← hrest, List.getElem?_append_left]
  rw [length_history]
  omega

theorem Precedes.between_eq (h : p.Precedes p') (first : Nat) {last : Nat}
    (hlast : last ≤ p.version + 1) : p'.between first last = p.between first last := by
  obtain ⟨rest, hrest⟩ := h.history
  rw [between, between, ← hrest, List.take_append_of_le_length]
  rwa [length_history]

end Publication

end GpuPlugin.Streams
