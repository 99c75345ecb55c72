import HubDispatch.Proofs.Binary64.Monotone
import HubDispatch.Proofs.Report.WrittenHours

/-!
# Hours in reports

Hours are rounded to minutes in their order (`minutesOf_mono`), and minutes are written so that they
can be told apart: but for the least 64-bit integer every number of minutes has its own way of being
written, and that integer has a text that is none of these. So two hours have the same text exactly
if they are the same number of minutes (`hoursText_eq_iff`), and hours are read back as their
minutes, whatever way one may find to take their text apart (`hoursText_spells`).
-/

namespace HubDispatch
namespace Report

open Binary64 (int64Min int64Max)

/-! ## Minutes -/

/-- **Later hours are no fewer minutes.** -/
theorem minutesOf_mono {x y : Float} (h : x ≤ y) : minutesOf x ≤ minutesOf y := by
  have hsixty : (60.0 : Float).toModel.unpack =
      .finite .positive (60 * 2 ^ 47) (-47) (by decide) := rfl
  exact Binary64.Exact.toInt64_mono .halfAway (Binary64.Exact.mul_le_mul_of_pos_right hsixty h)

theorem minutesOf_mem (x : Float) : int64Min ≤ minutesOf x ∧ minutesOf x ≤ int64Max :=
  Binary64.Exact.toInt_mem (by decide) (by decide) _

/-! ## Their text -/

/-- **Different numbers of minutes have different texts.** -/
theorem minutesText_inj {m n : Int} (hm : int64Min ≤ m ∧ m ≤ int64Max)
    (hn : int64Min ≤ n ∧ n ≤ int64Max) (h : minutesText m = minutesText n) : m = n := by
  rcases Int.lt_or_eq_of_le hm.1 with hlo | rfl
  · rw [minutesText_eq_text hlo hm.2] at h
    rcases Int.lt_or_eq_of_le hn.1 with hlo' | rfl
    · rw [minutesText_eq_text hlo' hn.2] at h
      rw [← WrittenHours.inMinutes_ofMinutes m, WrittenHours.text_inj h,
        WrittenHours.inMinutes_ofMinutes]
    · exact absurd h (WrittenHours.text_ne_int64Min _)
  · rcases Int.lt_or_eq_of_le hn.1 with hlo' | rfl
    · rw [minutesText_eq_text hlo' hn.2] at h
      exact absurd h.symm (WrittenHours.text_ne_int64Min _)
    · rfl

/-- Two characters follow the only point, also after the least number of minutes. -/
theorem exists_point {m : Int} (hm : int64Min ≤ m ∧ m ≤ int64Max) :
    ∃ hours minutes, (minutesText m).toList = hours ++ ['.'] ++ minutes ∧ '.' ∉ hours ∧
      minutes.length = 2 := by
  rcases Int.lt_or_eq_of_le hm.1 with hlo | rfl
  · have htext := congrArg String.toList (minutesText_eq_text hlo hm.2)
    rw [WrittenHours.text, String.toList_ofList] at htext
    exact ⟨_, _, htext, WrittenHours.point_notMem_front _, WrittenHours.length_minutes _⟩
  · refine ⟨"--153722867280912930".toList, "-8".toList, ?_, by decide, rfl⟩
    rw [minutesText_int64Min]
    rfl

theorem hoursText_eq_iff {x y : Float} : hoursText x = hoursText y ↔ minutesOf x = minutesOf y := by
  constructor
  · intro h
    exact minutesText_inj (minutesOf_mem x) (minutesOf_mem y) h
  · intro h
    rw [hoursText, hoursText, h]

/-- A time is told apart from whatever follows it. -/
theorem hoursText_append_inj {x y : Float} {cs ds : List Char}
    (h : (hoursText x).toList ++ cs = (hoursText y).toList ++ ds) :
    minutesOf x = minutesOf y ∧ cs = ds := by
  obtain ⟨hours, minutes, htext, hpoint, hlength⟩ := exists_point (minutesOf_mem x)
  obtain ⟨hours', minutes', htext', hpoint', hlength'⟩ := exists_point (minutesOf_mem y)
  have hcut := h
  rw [hoursText, hoursText, htext, htext', List.append_assoc _ minutes,
    List.append_assoc _ minutes'] at hcut
  have hcut := congrArg (Text.splitOnce ['.']) hcut
  rw [Text.splitOnce_append_of_notMem hpoint, Text.splitOnce_append_of_notMem hpoint',
    Option.some_inj, Prod.mk.injEq] at hcut
  obtain ⟨rfl, hrest⟩ := hcut
  obtain ⟨rfl, rfl⟩ := List.append_inj hrest (hlength.trans hlength'.symm)
  refine ⟨hoursText_eq_iff.mp ?_, rfl⟩
  exact String.toList_injective (List.append_cancel_right h)

/-- **Hours are read back as their minutes.** Their text is the one that has a sign exactly if the
minutes are negative and comes to these minutes, so that other hours have the same text exactly if
they are as many minutes. The least 64-bit integer is left out, for it has no magnitude. -/
theorem hoursText_spells {x : Float} (hx : minutesOf x ≠ int64Min) :
    (∃ t : WrittenHours, hoursText x = t.text) ∧
      (∀ t : WrittenHours, hoursText x = t.text ↔
        (t.negative = true ↔ minutesOf x < 0) ∧ t.inMinutes = minutesOf x) ∧
      ∀ y, hoursText x = hoursText y ↔ minutesOf x = minutesOf y := by
  obtain ⟨hlo, hhi⟩ := minutesOf_mem x
  have htext : hoursText x = (WrittenHours.ofMinutes (minutesOf x)).text :=
    minutesText_eq_text (by omega) hhi
  refine ⟨⟨_, htext⟩, fun t => ?_, fun y => hoursText_eq_iff⟩
  rw [← WrittenHours.eq_ofMinutes_iff, htext]
  constructor
  · intro h
    exact (WrittenHours.text_inj h).symm
  · rintro rfl
    rfl

/-- Half an hour before midnight has its sign in front of a zero, and a little less rounds to it. -/
theorem hoursText_spells_half_hour :
    minutesOf (-0.5) ≠ int64Min ∧
      (∃ t : WrittenHours, hoursText (-0.5) = t.text ∧ t.negative = true ∧ t.inMinutes = -30) ∧
      hoursText (-0.5) = "-0.30" ∧ hoursText (-0.5) = hoursText (-0.499) := by
  have hminutes : minutesOf (-0.5) = -30 := by decide +kernel
  have hx : minutesOf (-0.5) ≠ int64Min := by
    rw [hminutes]
    decide
  obtain ⟨⟨t, ht⟩, hreads, hsame⟩ := hoursText_spells hx
  obtain ⟨hsign, htotal⟩ := (hreads t).mp ht
  refine ⟨hx, ⟨t, ht, hsign.mpr (by rw [hminutes]; decide), htotal.trans hminutes⟩, ?_,
    (hsame _).mpr ?_⟩
  · rw [hoursText, hminutes]
    rfl
  · rw [hminutes]
    decide +kernel

end Report
end HubDispatch
