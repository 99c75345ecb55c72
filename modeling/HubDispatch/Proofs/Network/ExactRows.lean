import HubDispatch.Proofs.Binary64.Value
import HubDispatch.Proofs.Network.Completeness
import Mathlib.Algebra.Order.BigOperators.Group.List

/-!
# Sales plans in exact arithmetic

Rows with finite volumes can be read as rows of rational numbers, value by value (`Reads`). Whether
rows make a network, and which clusters it has, does not depend on what the volumes are, only on how
many each row has. So the rational rows make a network as well, with the same clusters
(`Network.exists_ofRows_of_sameShape`), and what is planned in it is planned in exact arithmetic:
there, sums of volumes that are not negative are not negative either.
-/

namespace HubDispatch

variable {V W : Type}

/-- The rows differ at most in the values of their volumes. -/
structure SalesRow.SameShape (row : SalesRow V) (other : SalesRow W) : Prop where
  head_eq : other.head = row.head
  location_eq : other.location = row.location
  length_eq : other.volumes.length = row.volumes.length

/-! ## Reading volumes -/

namespace SalesRow

/-- No volume is infinite or not a number. -/
def Finite (row : SalesRow Float) : Prop :=
  ∀ v ∈ row.volumes, (Binary64.Exact.ofFloat v).value?.isSome

/-- The same row, with the rational numbers that its volumes stand for. -/
structure Reads (row : SalesRow Float) (exact : SalesRow ℚ) : Prop where
  head_eq : exact.head = row.head
  location_eq : exact.location = row.location
  volumes : List.Forall₂ (fun v q => (Binary64.Exact.ofFloat v).value? = some q)
    row.volumes exact.volumes

variable {row : SalesRow Float} {exact : SalesRow ℚ}

theorem Reads.sameShape (h : row.Reads exact) : row.SameShape exact :=
  ⟨h.head_eq, h.location_eq, h.volumes.length_eq.symm⟩

theorem Finite.exists_reads (h : row.Finite) : ∃ exact, row.Reads exact := by
  obtain ⟨volumes, hvolumes⟩ :=
    exists_forall₂_iff.mpr fun v hv => Option.isSome_iff_exists.mp (h v hv)
  exact ⟨⟨row.head, row.location, volumes⟩, rfl, rfl, hvolumes⟩

end SalesRow

/-! ## Rows of the same shape -/

section SameShape

variable {rows : List (SalesRow V)} {others : List (SalesRow W)}

theorem Cluster.segments_of_sameShape (h : List.Forall₂ SalesRow.SameShape rows others) :
    segments others = segments rows := by
  induction h with
  | nil => rfl
  | cons hrow _ ih => simp only [segments, ih, hrow.head_eq, hrow.location_eq]

theorem Cluster.ofRows_of_sameShape (h : List.Forall₂ SalesRow.SameShape rows others) :
    ofRows others = ofRows rows := by
  unfold ofRows
  rw [segments_of_sameShape h]

variable [NatCast V] [Mul V] [NatCast W] [Mul W]

theorem SalesPlan.exists_ofRows_of_sameShape {plan : SalesPlan V}
    (h : List.Forall₂ SalesRow.SameShape rows others) (hplan : ofRows rows = .ok plan) :
    ∃ other, ofRows others = .ok other := by
  obtain ⟨hlen, -⟩ := ofRows_eq_ok_iff.mp hplan
  refine ⟨_, ofRows_eq_ok_iff.mpr ⟨fun other hother => ?_, rfl⟩⟩
  obtain ⟨row, hrow, hsame⟩ := exists_of_mem_right h hother
  rw [hsame.length_eq, hlen row hrow, h.length_eq]

/-- **Whether rows make a network, and its clusters, is decided by their shape.** -/
theorem Network.exists_ofRows_of_sameShape {locations : List Location} {minimum : V}
    {network : Network V} (h : List.Forall₂ SalesRow.SameShape rows others)
    (hnetwork : ofRows rows locations minimum = .ok network) (least : W) :
    ∃ other, ofRows others locations least = .ok other ∧ other.clusters = network.clusters := by
  obtain ⟨hclusters, hplan, hlocated, rfl, -⟩ := ofRows_eq_ok_iff.mp hnetwork
  obtain ⟨plan, hother⟩ := SalesPlan.exists_ofRows_of_sameShape h hplan
  refine ⟨⟨network.clusters, plan, network.locations, least⟩, ?_, rfl⟩
  refine ofRows_eq_ok_iff.mpr ⟨?_, hother, hlocated, rfl, rfl⟩
  rw [Cluster.ofRows_of_sameShape h, hclusters]

end SameShape

/-! ## Plans without negative volumes -/

namespace SalesPlan

variable {plan : SalesPlan ℚ}

/-- No known volume is negative. -/
def Nonneg (plan : SalesPlan ℚ) : Prop :=
  ∀ origin destination v, plan.volume origin destination = .ok v → 0 ≤ v

theorem nonneg_of_ofRows {rows : List (SalesRow ℚ)} (h : ofRows rows = .ok plan)
    (hrows : ∀ row ∈ rows, ∀ v ∈ row.volumes, 0 ≤ v) : plan.Nonneg := by
  intro origin destination v hv
  obtain ⟨row, hrow, w, hw, rfl⟩ := exists_row_of_volume h hv
  exact mul_nonneg (hrows row hrow w hw) (Nat.cast_nonneg _)

theorem Nonneg.totalToCluster {node : LocationCode} {c : Cluster} {total : ℚ} (h : plan.Nonneg)
    (htotal : plan.totalToCluster node c = .ok total) : 0 ≤ total := by
  obtain ⟨volumes, hvolumes, rfl⟩ := foldlM_eq_ok_iff.mp htotal
  rw [Nat.cast_zero, ← List.sum_eq_foldl]
  refine List.sum_nonneg fun v hv => ?_
  obtain ⟨m, -, hm⟩ := exists_of_mem_right hvolumes hv
  exact h node m v hm

end SalesPlan
end HubDispatch
