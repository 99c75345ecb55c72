import HubDispatch.Proofs.Network.ExactRows
import Mathlib.Algebra.Order.BigOperators.Group.Finset
import Mathlib.Tactic.Linarith

/-!
# Totals and repeated codes

A plan has a node for every row, and clusters tolerate a code that is repeated among their rows. The
volumes of such a code are known once, those of its last row toward the last of its columns. But its
totals run over the nodes, and so a volume counts as often as the code at its other end is listed
(`total_eq_counted`).

For volumes that are not negative the total is that of the distinct codes exactly if no volume to or
from the node has a repeated code at its other end (`total_counts_once_iff`).
-/

namespace HubDispatch

/-- Toward a node or away from it. -/
inductive Direction where
  | inbound
  | outbound
  deriving DecidableEq, Repr

namespace SalesPlan

variable {V W : Type} {R : V → W → Prop} {direction : Direction} {node a b : LocationCode}

/-- The volume between a node and another one, toward the node or away from it. -/
def volumeAlong (plan : SalesPlan V) (direction : Direction) (node other : LocationCode) :
    Except Fault V :=
  match direction with
  | .inbound => plan.volume other node
  | .outbound => plan.volume node other

/-- All that arrives at a node or leaves it, or the minimum. -/
def total [NatCast V] [Add V] [LT V] [DecidableLT V] (plan : SalesPlan V) (direction : Direction)
    (node : LocationCode) (minimum : V) : Except Fault V :=
  match direction with
  | .inbound => plan.totalInbound node minimum
  | .outbound => plan.totalOutbound node minimum

theorem total_eq [NatCast V] [Add V] [LT V] [DecidableLT V] (plan : SalesPlan V)
    (direction : Direction) (node : LocationCode) (minimum : V) :
    plan.total direction node minimum =
      (atLeast minimum ·) <$> sumOf (plan.volumeAlong direction node) (plan.others node) := by
  cases direction <;> rfl

theorem Complete.exists_volumeAlong {plan : SalesPlan V} (h : plan.Complete) (ha : a ∈ plan.nodes)
    (hb : b ∈ plan.nodes) (direction : Direction) :
    ∃ v, plan.volumeAlong direction a b = .ok v := by
  cases direction with
  | inbound => exact h b hb a ha
  | outbound => exact h a ha b hb

/-! ## Plans with related volumes -/

/-- The plans list the same nodes and the same pairs, and the volumes of a pair are related. -/
structure Related (R : V → W → Prop) (plan : SalesPlan V) (other : SalesPlan W) : Prop where
  nodes_eq : other.nodes = plan.nodes
  volumes : List.Forall₂ (fun entry entry' => entry'.1 = entry.1 ∧ R entry.2 entry'.2)
    plan.volumes other.volumes

variable {plan : SalesPlan V} {other : SalesPlan W}

/-- Looking a pair up finds related volumes, or none in both. -/
theorem Related.volume? (h : plan.Related R other) (a b : LocationCode) :
    Option.Rel R (plan.volume? a b) (other.volume? a b) := by
  obtain ⟨-, hvolumes⟩ := h
  -- A lookup takes the last entry of the pair, so the entries are read from the end.
  rw [SalesPlan.volume?, SalesPlan.volume?, List.findRev?_eq_find?_reverse,
    List.findRev?_eq_find?_reverse]
  have hreversed := List.forall₂_reverse_iff.mpr hvolumes
  generalize plan.volumes.reverse = entries at hreversed
  generalize other.volumes.reverse = entries' at hreversed
  induction hreversed with
  | nil => exact .none
  | @cons entry entry' _ _ hentry _ ih =>
    rw [List.find?_cons, List.find?_cons, hentry.1]
    cases entry.1 == (a, b) with
    | true => exact .some hentry.2
    | false => exact ih

theorem Related.volumeAlong (h : plan.Related R other) {v : V}
    (hv : plan.volumeAlong direction node a = .ok v) :
    ∃ w, other.volumeAlong direction node a = .ok w ∧ R v w := by
  have hvolume : ∀ {a b : LocationCode}, plan.volume a b = .ok v →
      ∃ w, other.volume a b = .ok w ∧ R v w := by
    intro a b hv
    have hrel := h.volume? a b
    rw [volume_eq_ok_iff.mp hv] at hrel
    cases hw : other.volume? a b with
    | none => rw [hw] at hrel; cases hrel
    | some w =>
      rw [hw] at hrel
      cases hrel with
      | some hvw => exact ⟨w, volume_eq_ok_iff.mpr hw, hvw⟩
  cases direction with
  | inbound => exact hvolume hv
  | outbound => exact hvolume hv

theorem Related.complete (h : plan.Related R other) (hplan : plan.Complete) : other.Complete := by
  intro a ha b hb
  rw [h.nodes_eq] at ha hb
  obtain ⟨v, hv⟩ := hplan a ha b hb
  have hv' : plan.volumeAlong .outbound a b = .ok v := hv
  obtain ⟨w, hw, -⟩ := h.volumeAlong hv'
  exact ⟨w, hw⟩

/-- The plan in exact arithmetic: every volume is read as the rational number it stands for. -/
abbrev Reads : SalesPlan Float → SalesPlan ℚ → Prop :=
  Related fun v q => (Binary64.Exact.ofFloat v).value? = some q

/-! ## Sums in exact arithmetic -/

section Exact

variable {exact : SalesPlan ℚ}

/-- The volume between a node and another one; none if it is not known. -/
def flow (exact : SalesPlan ℚ) (direction : Direction) (node other : LocationCode) : ℚ :=
  (exact.volumeAlong direction node other).toOption.getD 0

/-- What the other codes get from a node or send there, each code once. -/
def once (exact : SalesPlan ℚ) (direction : Direction) (node : LocationCode) : ℚ :=
  ∑ other ∈ exact.nodes.toFinset.erase node, exact.flow direction node other

/-- The same with each code as often as it is listed. -/
def counted (exact : SalesPlan ℚ) (direction : Direction) (node : LocationCode) : ℚ :=
  ∑ other ∈ exact.nodes.toFinset.erase node,
    exact.nodes.count other • exact.flow direction node other

theorem flow_of_volumeAlong {q : ℚ} (h : exact.volumeAlong direction node a = .ok q) :
    exact.flow direction node a = q := by
  rw [flow, h]
  rfl

theorem Complete.volumeAlong_eq_flow (h : exact.Complete) (ha : a ∈ exact.nodes)
    (hb : b ∈ exact.nodes) (direction : Direction) :
    exact.volumeAlong direction a b = .ok (exact.flow direction a b) := by
  obtain ⟨q, hq⟩ := h.exists_volumeAlong ha hb direction
  rw [flow_of_volumeAlong hq, hq]

theorem Nonneg.flow (h : exact.Nonneg) (direction : Direction) (node a : LocationCode) :
    0 ≤ exact.flow direction node a := by
  cases hq : exact.volumeAlong direction node a with
  | error fault =>
    rw [SalesPlan.flow, hq]
    exact le_refl 0
  | ok q =>
    rw [flow_of_volumeAlong hq]
    cases direction with
    | inbound => exact h _ _ q hq
    | outbound => exact h _ _ q hq

/-- A sum of known quantities is the sum of what they are. -/
theorem sumOf_eq_ok {α : Type} {quantity : α → Except Fault ℚ} {f : α → ℚ} {xs : List α}
    (h : ∀ x ∈ xs, quantity x = .ok (f x)) : sumOf quantity xs = .ok (xs.map f).sum := by
  refine foldlM_eq_ok_iff.mpr ⟨xs.map f, ?_, ?_⟩
  · rw [List.forall₂_map_right_iff, List.forall₂_same]
    exact h
  · rw [Nat.cast_zero, ← List.sum_eq_foldl]

theorem sum_others_eq_counted (exact : SalesPlan ℚ) (direction : Direction) (node : LocationCode) :
    ((exact.others node).map (exact.flow direction node)).sum = exact.counted direction node := by
  have hcodes : (exact.others node).toFinset = exact.nodes.toFinset.erase node := by
    ext code
    simp [others, and_comm]
  rw [Finset.sum_list_map_count, counted, hcodes]
  refine Finset.sum_congr rfl fun code hcode => ?_
  have hne : (code != node) = true := by simpa using Finset.ne_of_mem_erase hcode
  rw [others, List.count_filter (p := (· != node)) hne]

/-- **A total runs over the nodes as they are listed.** -/
theorem total_eq_counted (h : exact.Complete) (hnode : node ∈ exact.nodes) (direction : Direction)
    (minimum : ℚ) :
    exact.total direction node minimum =
      .ok (atLeast minimum (exact.counted direction node)) := by
  have hknown : ∀ other ∈ exact.others node,
      exact.volumeAlong direction node other = .ok (exact.flow direction node other) := by
    intro other hother
    exact h.volumeAlong_eq_flow hnode (List.mem_filter.mp hother).1 direction
  rw [total_eq, sumOf_eq_ok hknown, sum_others_eq_counted]
  rfl

/-- Two sums give the same total with every minimum if they are the same, or if the minimum stands
in for both. -/
theorem forall_atLeast_eq_iff {x y : ℚ} :
    (∀ minimum, atLeast minimum x = atLeast minimum y) ↔ x = y ∨ x ≤ 0 ∧ y ≤ 0 := by
  simp only [atLeast, Nat.cast_zero]
  constructor
  · intro h
    by_cases hx : 0 < x
    · by_cases hy : 0 < y
      · have hsame := h 0
        rw [if_pos hx, if_pos hy] at hsame
        exact Or.inl hsame
      · have hsame := h (x + 1)
        rw [if_pos hx, if_neg hy] at hsame
        linarith
    · by_cases hy : 0 < y
      · have hsame := h (y + 1)
        rw [if_neg hx, if_pos hy] at hsame
        linarith
      · exact Or.inr ⟨not_lt.mp hx, not_lt.mp hy⟩
  · rintro (rfl | ⟨hx, hy⟩) minimum
    · rfl
    · rw [if_neg (not_lt.mpr hx), if_neg (not_lt.mpr hy)]

/-- **Volumes that are not negative** add up to the same exactly if no code is listed again that has
one of them. -/
theorem counted_eq_once_iff (h : exact.Nonneg) :
    exact.counted direction node = exact.once direction node ↔
      ∀ other ∈ exact.nodes, other ≠ node → exact.flow direction node other ≠ 0 →
        exact.nodes.count other = 1 := by
  have hle : ∀ other ∈ exact.nodes.toFinset.erase node,
      exact.flow direction node other ≤
        exact.nodes.count other • exact.flow direction node other := by
    intro other hother
    have hlisted : 0 < exact.nodes.count other :=
      List.count_pos_iff.mpr (List.mem_toFinset.mp (Finset.mem_of_mem_erase hother))
    rw [nsmul_eq_mul]
    exact le_mul_of_one_le_left (h.flow direction node other) (Nat.one_le_cast.mpr hlisted)
  rw [eq_comm, once, counted, Finset.sum_eq_sum_iff_of_le hle]
  simp only [Finset.mem_erase, List.mem_toFinset, and_imp, nsmul_eq_mul]
  refine forall_congr' fun other => ?_
  have hweight : exact.flow direction node other =
      exact.nodes.count other * exact.flow direction node other ↔
        (exact.flow direction node other ≠ 0 → exact.nodes.count other = 1) := by
    rw [eq_comm, mul_left_eq_self₀, or_iff_not_imp_right]
    exact imp_congr_right fun _ => Nat.cast_eq_one
  rw [hweight]
  exact ⟨fun hall hmem hne => hall hne hmem, fun hall hne hmem => hall hmem hne⟩

end Exact

/-- **When totals count every other code once.** For rows that make a plan, and its volumes read as
rational numbers, a total is the sum over the other codes of the plan with each code as often as it
is listed, or the minimum. It is the sum over the distinct codes, whatever the minimum, exactly if
the two sums are the same or none of them is positive. Where no volume is negative the two are the
same exactly if every code with a volume in this direction is listed once. -/
theorem total_counts_once_iff {rows : List (SalesRow Float)} {plan : SalesPlan Float}
    {exact : SalesPlan ℚ} (hplan : ofRows rows = .ok plan) (hexact : plan.Reads exact)
    (hnode : node ∈ plan.nodes) (direction : Direction) :
    (∀ minimum, exact.total direction node minimum =
        .ok (atLeast minimum (exact.counted direction node))) ∧
      ((∀ minimum, exact.total direction node minimum =
          .ok (atLeast minimum (exact.once direction node))) ↔
        exact.counted direction node = exact.once direction node ∨
          exact.counted direction node ≤ 0 ∧ exact.once direction node ≤ 0) ∧
      (exact.Nonneg →
        (exact.counted direction node = exact.once direction node ↔
          ∀ other ∈ plan.nodes, other ≠ node → exact.flow direction node other ≠ 0 →
            plan.nodes.count other = 1)) := by
  have hnode' : node ∈ exact.nodes := hexact.nodes_eq ▸ hnode
  have htotal := total_eq_counted (hexact.complete (complete_of_ofRows hplan)) hnode' direction
  refine ⟨htotal, ?_, fun hnonneg => ?_⟩
  · simp only [htotal, Except.ok.injEq]
    exact forall_atLeast_eq_iff
  · rw [← hexact.nodes_eq]
    exact counted_eq_once_iff hnonneg

/-- Reading every volume gives the other plan. -/
theorem reads_of_map_eq {plan : SalesPlan Float} {exact : SalesPlan ℚ}
    (hnodes : exact.nodes = plan.nodes)
    (hvolumes : plan.volumes.map (fun e => (e.1, (Binary64.Exact.ofFloat e.2).value?)) =
      exact.volumes.map fun e => (e.1, some e.2)) : plan.Reads exact := by
  refine ⟨hnodes, ?_⟩
  rw [← List.forall₂_eq_eq_eq, List.forall₂_map_left_iff, List.forall₂_map_right_iff] at hvolumes
  refine hvolumes.imp fun entry read h => ?_
  obtain ⟨hpair, hvalue⟩ := Prod.mk.inj h
  exact ⟨hpair.symm, hvalue⟩

/-- A hub that sends a thousand kilograms to a branch which has two rows, and gets half as much from
another branch. -/
def branchTwice : List (SalesRow Float) :=
  [⟨some "H", "H", [0.0, 1.0, 1.0, 0.0]⟩, ⟨none, "X", [0.0, 0.0, 0.0, 0.0]⟩,
    ⟨none, "X", [0.0, 0.0, 0.0, 0.0]⟩, ⟨none, "Y", [0.5, 0.0, 0.0, 0.0]⟩]

/-- Its volumes as rational numbers. -/
def branchTwicePlan : SalesPlan ℚ where
  nodes := ["H", "X", "X", "Y"]
  volumes := [(("H", "H"), 0), (("H", "X"), 1000), (("H", "X"), 1000), (("H", "Y"), 0),
    (("X", "H"), 0), (("X", "X"), 0), (("X", "X"), 0), (("X", "Y"), 0),
    (("X", "H"), 0), (("X", "X"), 0), (("X", "X"), 0), (("X", "Y"), 0),
    (("Y", "H"), 500), (("Y", "X"), 0), (("Y", "X"), 0), (("Y", "Y"), 0)]

theorem exists_reads_branchTwice :
    ∃ plan, ofRows branchTwice = .ok plan ∧ plan.nodes = ["H", "X", "X", "Y"] ∧
      plan.totalOutbound "H" 100.0 = .ok 2000.0 ∧ plan.Reads branchTwicePlan := by
  refine ⟨_, rfl, rfl, by decide +kernel, reads_of_map_eq rfl (by decide +kernel)⟩

theorem nonneg_branchTwicePlan : branchTwicePlan.Nonneg := by
  intro origin destination v hv
  have hlisted : ∀ entry ∈ branchTwicePlan.volumes, 0 ≤ entry.2 := by decide +kernel
  exact hlisted _ (mem_volumes_of_volume hv)

/-- What arrives at the hub comes from the branch with one row, and counts once. -/
theorem total_counts_once_inbound :
    Cluster.ofRows branchTwice = .ok [⟨"H", ["H", "X", "Y"]⟩] ∧
      ∃ plan, ofRows branchTwice = .ok plan ∧ plan.Reads branchTwicePlan ∧ "H" ∈ plan.nodes ∧
        branchTwicePlan.Nonneg ∧ branchTwicePlan.once .inbound "H" = 500 ∧
        (∀ minimum, branchTwicePlan.total .inbound "H" minimum =
          .ok (atLeast minimum (branchTwicePlan.once .inbound "H"))) ∧
        branchTwicePlan.total .inbound "H" 100 =
          .ok (atLeast 100 (branchTwicePlan.counted .inbound "H")) := by
  obtain ⟨plan, hplan, hnodes, -, hreads⟩ := exists_reads_branchTwice
  have hnode : "H" ∈ plan.nodes := hnodes ▸ by decide
  obtain ⟨htotal, honce, hcount⟩ := total_counts_once_iff hplan hreads hnode .inbound
  have hflow : ∀ other ∈ plan.nodes, other ≠ "H" → branchTwicePlan.flow .inbound "H" other ≠ 0 →
      plan.nodes.count other = 1 := by
    rw [hnodes]
    decide +kernel
  have hsame := (hcount nonneg_branchTwicePlan).mpr hflow
  exact ⟨rfl, plan, hplan, hreads, hnode, nonneg_branchTwicePlan, by decide +kernel,
    honce.mpr (Or.inl hsame), htotal 100⟩

/-- **A volume that counts twice.** What the hub sends to the branch with two rows is a thousand
kilograms, and all it sends; but the total is two thousand, in exact arithmetic as in that of
planning. -/
theorem total_counts_twice_outbound :
    Cluster.ofRows branchTwice = .ok [⟨"H", ["H", "X", "Y"]⟩] ∧
      ∃ plan, ofRows branchTwice = .ok plan ∧ plan.Reads branchTwicePlan ∧ "H" ∈ plan.nodes ∧
        branchTwicePlan.once .outbound "H" = 1000 ∧
        branchTwicePlan.total .outbound "H" 100 = .ok 2000 ∧
        plan.totalOutbound "H" 100.0 = .ok 2000.0 ∧
        branchTwicePlan.total .outbound "H" 100 ≠
          .ok (atLeast 100 (branchTwicePlan.once .outbound "H")) := by
  obtain ⟨plan, hplan, hnodes, htotal, hreads⟩ := exists_reads_branchTwice
  have hnode : "H" ∈ plan.nodes := hnodes ▸ by decide
  exact ⟨rfl, plan, hplan, hreads, hnode, by decide +kernel, by decide +kernel, htotal,
    by decide +kernel⟩

end SalesPlan
end HubDispatch
