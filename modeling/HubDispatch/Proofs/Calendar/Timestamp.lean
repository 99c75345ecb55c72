import HubDispatch.Calendar.Instant
import HubDispatch.Proofs.Calendar.Days
import HubDispatch.Proofs.Decimal.Counts

/-!
# Timestamps are read as they are written

A number with leading zeros fills its width, and a number of that width is read back from it,
whatever follows (`readNumber?_padded`). So the parts of a timestamp are read back one after the
other (`readNanoseconds?_text`), as long as its year has four digits and no sign.

A timestamp some hours after the midnight of a date names the day that lies that many days after
it, or before it, and is read as the same whole number of seconds after that midnight
(`read?_format`).
-/

namespace HubDispatch
namespace Instant

open Decimal (digits padZeros)

variable {width limit n : Nat} {cs rest : List Char}

/-! ## Numbers of a fixed width -/

theorem readDigits?_append (h : ∀ c ∈ cs, c.isDigit = true) (v : Nat) :
    readDigits? cs.length (cs ++ rest) v = some (Nat.ofDigitChars 10 cs v, rest) := by
  induction cs generalizing v with
  | nil => rfl
  | cons c cs ih =>
    obtain ⟨hc, hcs⟩ := List.forall_mem_cons.mp h
    rw [List.cons_append, List.length_cons, readDigits?, if_pos hc, ih hcs, Nat.ofDigitChars_cons,
      Nat.mul_comm v]
    rfl

/-- **A number of a fixed width is read back.** -/
theorem readNumber?_padded (hw : 0 < width) (hn : n < 10 ^ width) (hlimit : n ≤ limit) :
    readNumber? width limit (padded width n ++ rest) = some (n, rest) := by
  have hread := @readDigits?_append (padZeros width (digits n)) rest
    (fun _ => Decimal.isDigit_of_mem_padZeros) 0
  rw [Decimal.length_padZeros hw hn, Decimal.ofDigitChars_padZeros] at hread
  rw [readNumber?, padded, hread]
  exact Option.filter_some_pos (decide_eq_true hlimit)

/-! ## Timestamps -/

/-- The text of a time of a day. -/
def text (day : Date) (seconds : Nat) : List Char :=
  dateText day ++ 'T' :: timeText seconds ++ ['Z']

theorem skip?_cons {allowed : List Char} {c : Char} (h : allowed.contains c = true) :
    skip? allowed (c :: cs) = some cs :=
  if_pos h

/-- **A time of a day is read** as the seconds up to it. -/
theorem readNanoseconds?_text {day : Date} (hday : day.isValid = true)
    (hyear : 0 ≤ day.year ∧ day.year ≤ 9999) {seconds : Nat} (hs : seconds < 86400) :
    readNanoseconds? (text day seconds) =
      some ((day.toDays * secondsPerDay + seconds) * 10 ^ 9) := by
  obtain ⟨-, ⟨-, hmonth⟩, -, hlast⟩ := Date.isValid_iff.mp hday
  have hdays := (Date.daysInMonth_bounds day.year day.month).2
  have hfraction : readFraction? ['Z'] = some (0, ['Z']) := rfl
  have hoffset : readOffset? ['Z'] = some 0 := rfl
  have hdate : (⟨(day.year.toNat : Int), day.month, day.day⟩ : Date) = day := by
    rw [Int.toNat_of_nonneg hyear.1]
  have htime : seconds / 3600 * 3600 + seconds / 60 % 60 * 60 + seconds % 60 = seconds := by omega
  have hread : ∀ {limit n : Nat} {rest : List Char}, n ≤ limit → limit < 100 →
      readNumber? 2 limit (padded 2 n ++ rest) = some (n, rest) := fun hn hlimit =>
    readNumber?_padded (by decide) (hn.trans_lt hlimit) hn
  -- Part by part, from the left: a number, and the mark behind it.
  rw [readNanoseconds?, text, dateText, timeText, yearText, if_pos hyear]
  simp only [List.append_assoc, List.cons_append, Option.bind_eq_bind]
  rw [readNumber?_padded (by decide) (by omega) (by omega), Option.bind_some, skip?_cons rfl,
    Option.bind_some, hread hmonth (by decide), Option.bind_some, skip?_cons rfl, Option.bind_some,
    hread (hlast.trans hdays) (by decide), Option.bind_some, skip?_cons rfl, Option.bind_some,
    hread (by omega) (by decide), Option.bind_some, skip?_cons rfl, Option.bind_some,
    hread (by omega) (by decide), Option.bind_some, skip?_cons rfl, Option.bind_some,
    hread (by omega) (by decide), Option.bind_some, hfraction, Option.bind_some, hoffset,
    Option.bind_some]
  dsimp only
  rw [hdate, if_pos hday, htime, Int.sub_zero, Int.natCast_zero, Int.add_zero]

/-! ## Seconds from midnight to midnight -/

/-- The days of the calendar, and those of the four-digit years, are fewer than `10 ^ 8`. -/
theorem natAbs_toDays_lt {day : Date} (hday : day.WellFormed)
    (hyear : Date.firstYear ≤ day.year ∧ day.year ≤ Date.lastYear) :
    day.toDays.natAbs < 10 ^ 8 := by
  obtain ⟨hlo, hhi⟩ := Date.toDays_bounds hday
  have hfirst : -97000000 ≤ Date.yearStart (Date.firstYear - 1) := by decide
  have hlast : Date.yearStart (Date.lastYear + 1) ≤ 97000000 := by decide
  have hmono := Date.yearStart_mono (show Date.firstYear - 1 ≤ day.year - 1 by omega)
  have hmono' := Date.yearStart_mono (show day.year + 1 ≤ Date.lastYear + 1 by omega)
  unfold Date.daysToEpoch at hlo hhi
  omega

/-- **Timestamps are read back.** Some hours after the midnight of a date it is a certain time of
the day that many days later; the timestamp names this day and this time, and it is read as the
hours that were written, rounded to whole seconds. -/
theorem read?_format {date : Date} {hours : Float} (hdate : date.isValid = true)
    (hyear : 0 ≤ (date.addDays (secondsOf hours / secondsPerDay)).year ∧
      (date.addDays (secondsOf hours / secondsPerDay)).year ≤ 9999) :
    ∃ s, format date hours = some s ∧
      s.toList = text (date.addDays (secondsOf hours / secondsPerDay))
        (secondsOf hours % secondsPerDay).toNat ∧
      read? date s = some (Float.ofInt (secondsOf hours) / 3600.0) := by
  obtain ⟨hrange, hwell⟩ := Date.isValid_iff.mp hdate
  rw [Date.addDays_eq hwell] at hyear ⊢
  generalize hn : secondsOf hours = n at hyear ⊢
  generalize hday : Date.ofDays (date.toDays + n / secondsPerDay) = day at hyear ⊢
  have hcount : day.toDays = date.toDays + n / secondsPerDay := hday ▸ Date.toDays_ofDays _
  have hwell' : day.WellFormed := hday ▸ Date.wellFormed_ofDays _
  have hrange' : Date.firstYear ≤ day.year ∧ day.year ≤ Date.lastYear := by
    unfold Date.firstYear Date.lastYear
    omega
  have hsplit := Int.mul_ediv_add_emod n secondsPerDay
  have hrest := Int.emod_nonneg n (show secondsPerDay ≠ 0 by decide)
  have hrest' := Int.emod_lt_of_pos n (show 0 < secondsPerDay by decide)
  have hlongest : n.natAbs ≤ longest.natAbs := by
    have hfew := natAbs_toDays_lt hwell hrange
    have hfew' := natAbs_toDays_lt hwell' hrange'
    have hlong : longest.natAbs = 9223372036854775 := by unfold longest; rfl
    unfold secondsPerDay at *
    omega
  have hformat : formatSeconds date n = some (text day (n % secondsPerDay).toNat) := by
    rw [formatSeconds, hday, if_pos ⟨hlongest, hrange'⟩]
    rfl
  refine ⟨String.ofList (text day (n % secondsPerDay).toNat), ?_, String.toList_ofList, ?_⟩
  · rw [format, hn, hformat]
    rfl
  · have htime : (n % secondsPerDay).toNat < 86400 := by
      unfold secondsPerDay at *
      omega
    have hread := readNanoseconds?_text (Date.isValid_iff.mpr ⟨hrange', hwell'⟩) hyear htime
    have hseconds : (day.toDays * secondsPerDay + ((n % secondsPerDay).toNat : Int)) * 10 ^ 9 -
        date.toDays * secondsPerDay * 10 ^ 9 = n * 10 ^ 9 := by
      unfold secondsPerDay at *
      omega
    rw [read?, readSeconds?, String.toList_ofList, hread, Option.map_some, Option.map_some,
      hseconds, Int.mul_tdiv_cancel n (by decide)]

/-- Half an hour before March, in a year of a century that has no leap day. -/
theorem read?_format_before_march :
    (⟨1900, 3, 1⟩ : Date).isValid = true ∧ secondsOf (-0.5) = -1800 ∧
      (⟨1900, 3, 1⟩ : Date).addDays (-1) = ⟨1900, 2, 28⟩ ∧
      format ⟨1900, 3, 1⟩ (-0.5) = some "1900-02-28T23:30:00Z" ∧
      read? ⟨1900, 3, 1⟩ "1900-02-28T23:30:00Z" = some (Float.ofInt (-1800) / 3600.0) := by
  have hdate : (⟨1900, 3, 1⟩ : Date).isValid = true := by decide
  have hseconds : secondsOf (-0.5) = -1800 := by decide +kernel
  have hday : (⟨1900, 3, 1⟩ : Date).addDays (-1800 / secondsPerDay) = ⟨1900, 2, 28⟩ := by decide
  have hyear : 0 ≤ ((⟨1900, 3, 1⟩ : Date).addDays (secondsOf (-0.5) / secondsPerDay)).year ∧
      ((⟨1900, 3, 1⟩ : Date).addDays (secondsOf (-0.5) / secondsPerDay)).year ≤ 9999 := by
    rw [hseconds, hday]
    decide
  obtain ⟨s, hformat, htext, hread⟩ := read?_format hdate hyear
  rw [hseconds, hday] at htext
  rw [hseconds] at hread
  obtain rfl : "1900-02-28T23:30:00Z" = s := String.toList_injective (htext ▸ rfl)
  exact ⟨hdate, hseconds, hday, hformat, hread⟩

end Instant
end HubDispatch
