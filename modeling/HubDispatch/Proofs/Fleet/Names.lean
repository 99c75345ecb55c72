import HubDispatch.Sweep.Shipments
import HubDispatch.Proofs.Decimal.Counts
import HubDispatch.Proofs.Text.FirstMark

/-!
# Names of vehicles

A type id ends in the home of a vehicle and begins with the name of its fleet type, and all these
names are equally long, so neither can run into the other. A vehicle id has a number between the
two. Its digits end at the first hyphen, whatever hyphens the home may have, and so a vehicle id
tells fleet type, number and home apart (`SweepSettings.vehicle_id_eq_iff`).
-/

namespace HubDispatch

/-- All fleet types have names of one length. -/
theorem FleetType.length_name (t : FleetType) : t.name.toList.length = 7 := by
  cases t <;> decide

theorem FleetType.name_inj {t u : FleetType} : t.name = u.name ↔ t = u := by
  constructor
  · cases t <;> cases u <;> decide
  · intro h
    rw [h]

/-- **Texts that begin with fleet types** are the same if the types are and what follows is. -/
theorem FleetType.name_append_eq_iff {t u : FleetType} {a b : String} :
    t.name ++ a = u.name ++ b ↔ t = u ∧ a = b := by
  constructor
  · intro h
    have hchars : t.name.toList ++ a.toList = u.name.toList ++ b.toList := by
      rw [← String.toList_append, ← String.toList_append, h]
    have hlen : t.name.toList.length = u.name.toList.length := by
      rw [length_name, length_name]
    obtain ⟨hname, hrest⟩ := List.append_inj hchars hlen
    exact ⟨name_inj.mp (String.toList_inj.mp hname), String.toList_inj.mp hrest⟩
  · rintro ⟨rfl, rfl⟩
    rfl

/-- **Vehicles of one type id** are of one fleet type and one home. -/
theorem Vehicle.typeId_eq_iff {v w : Vehicle} :
    v.typeId = w.typeId ↔ v.fleet = w.fleet ∧ v.home = w.home := by
  rw [typeId, typeId, String.append_assoc, String.append_assoc, FleetType.name_append_eq_iff,
    String.append_right_inj]

/-- Digits end at the first hyphen behind them. -/
theorem wholeText_hyphen_eq_iff {n m : Nat} {a b : String} :
    Decimal.wholeText n ++ "-" ++ a = Decimal.wholeText m ++ "-" ++ b ↔ n = m ∧ a = b := by
  constructor
  · intro h
    have hcut : ∀ (n : Nat) (a : String),
        Text.splitOnce ['-'] (Decimal.wholeText n ++ "-" ++ a).toList =
          some (Decimal.digits n, a.toList) := by
      intro n a
      have hdigits : '-' ∉ Decimal.digits n := by
        intro hmem
        exact absurd (Decimal.isDigit_of_mem_digits hmem) (by decide)
      have hchars : (Decimal.wholeText n ++ "-" ++ a).toList =
          Decimal.digits n ++ ['-'] ++ a.toList := by
        simp [Decimal.wholeText]
      rw [hchars]
      exact Text.splitOnce_append_of_notMem hdigits
    have hsame := hcut n a
    rw [h, hcut m b, Option.some.injEq, Prod.mk.injEq] at hsame
    exact ⟨(Decimal.digits_injective hsame.1).symm, (String.toList_inj.mp hsame.2).symm⟩
  · rintro ⟨rfl, rfl⟩
    rfl

/-- **Vehicles of one id** are the same vehicle of one fleet type at one home. -/
theorem SweepSettings.vehicle_id_eq_iff {settings : SweepSettings} {home home' : LocationCode}
    {t u : FleetType} {n m : Nat} :
    (settings.vehicle home t n).id = (settings.vehicle home' u m).id ↔
      t = u ∧ n = m ∧ home = home' := by
  have hid : ∀ (home : LocationCode) (t : FleetType) (n : Nat),
      (settings.vehicle home t n).id =
        t.name ++ ("_" ++ (Decimal.wholeText n ++ "-" ++ home)) := by
    intro home t n
    simp only [vehicle, String.append_assoc]
  rw [hid, hid, FleetType.name_append_eq_iff, String.append_right_inj, wholeText_hyphen_eq_iff]

end HubDispatch
