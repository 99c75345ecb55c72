import HubDispatch.Fleet.Basic

/-!
# Spellings of fleet types

A fleet type is spelled as its length in feet, then `ft` as often as one likes, and then `_feet` as
often as one likes, in any letter case and with blanks around it (`Spells`). These are all the texts
that are understood (`ofText_accepts_spellings`).

What decides is that taking endings away is exact: what is left does not end in the mark, and
together with some number of marks it is the whole text (`withoutEnding_eq_iff`). A text in which
the endings stand the other way round keeps its `_feet`, for `ft` is taken away last. Two bytes that
begin the name of a type are its length, since all characters of a name have one byte.
-/

namespace HubDispatch
namespace FleetType

variable {mark cs rest : List Char} {steps n : Nat} {t : FleetType} {s : String}

/-! ## Endings -/

/-- A mark as often as given. -/
def repeated (mark : List Char) (n : Nat) : List Char := (List.replicate n mark).flatten

theorem repeated_succ (mark : List Char) (n : Nat) :
    repeated mark (n + 1) = mark ++ repeated mark n := rfl

theorem repeated_succ' (mark : List Char) (n : Nat) :
    repeated mark (n + 1) = repeated mark n ++ mark := by
  rw [repeated, List.replicate_succ', List.flatten_concat]
  rfl

theorem reverse_repeated (mark : List Char) (n : Nat) :
    (repeated mark n).reverse = repeated mark.reverse n := by
  rw [repeated, List.reverse_flatten, List.map_replicate, List.reverse_replicate]
  rfl

theorem le_length_repeated (hmark : mark ≠ []) (n : Nat) : n ≤ (repeated mark n).length := by
  induction n with
  | zero => exact Nat.zero_le _
  | succ n ih =>
    have hpos := List.length_pos_iff.mpr hmark
    rw [repeated_succ, List.length_append]
    omega

/-- Marks are taken away one by one, and nothing else. -/
theorem exists_repeated_of_dropMarks (mark : List Char) (steps : Nat) (cs : List Char) :
    ∃ n, cs = repeated mark n ++ dropMarks mark steps cs := by
  induction steps generalizing cs with
  | zero => exact ⟨0, rfl⟩
  | succ steps ih =>
    rw [dropMarks]
    split
    · rename_i hbegins
      obtain ⟨n, hn⟩ := ih (cs.drop mark.length)
      refine ⟨n + 1, ?_⟩
      rw [repeated_succ, List.append_assoc, ← hn]
      exact (List.prefix_iff_eq_append.mp (List.isPrefixOf_iff_prefix.mp hbegins)).symm
    · exact ⟨0, rfl⟩

theorem not_prefix_dropMarks (hmark : mark ≠ []) (h : cs.length ≤ steps) :
    ¬ mark <+: dropMarks mark steps cs := by
  have hpos := List.length_pos_iff.mpr hmark
  induction steps generalizing cs with
  | zero =>
    rw [dropMarks, List.length_eq_zero_iff.mp (Nat.le_zero.mp h), List.prefix_nil]
    exact hmark
  | succ steps ih =>
    rw [dropMarks]
    split
    · refine ih ?_
      rw [List.length_drop]
      omega
    · rename_i hbegins
      exact fun hp => hbegins (List.isPrefixOf_iff_prefix.mpr hp)

theorem dropMarks_repeated_append (hrest : ¬ mark <+: rest) (h : n ≤ steps) :
    dropMarks mark steps (repeated mark n ++ rest) = rest := by
  induction n generalizing steps with
  | zero =>
    cases steps with
    | zero => rfl
    | succ steps => exact if_neg fun hp => hrest (List.isPrefixOf_iff_prefix.mp hp)
  | succ n ih =>
    obtain ⟨steps, rfl⟩ : ∃ k, steps = k + 1 := ⟨steps - 1, by omega⟩
    rw [repeated_succ, List.append_assoc, dropMarks,
      if_pos (List.isPrefixOf_iff_prefix.mpr (List.prefix_append _ _)), List.drop_left]
    exact ih (by omega)

/-- **What is left without an ending** does not end so, and the endings complete it. -/
theorem withoutEnding_eq_iff (hmark : mark ≠ []) :
    withoutEnding mark cs = rest ↔ ¬ mark <:+ rest ∧ ∃ n, cs = rest ++ repeated mark n := by
  have hreversed : mark.reverse ≠ [] := by simpa using hmark
  rw [withoutEnding]
  constructor
  · rintro rfl
    refine ⟨?_, ?_⟩
    · rw [← List.reverse_prefix, List.reverse_reverse]
      exact not_prefix_dropMarks hreversed (Nat.le_of_eq List.length_reverse)
    · obtain ⟨n, hn⟩ := exists_repeated_of_dropMarks mark.reverse cs.length cs.reverse
      refine ⟨n, ?_⟩
      rw [← List.reverse_inj, List.reverse_append, reverse_repeated, List.reverse_reverse]
      exact hn
  · rintro ⟨hrest, n, rfl⟩
    have hle := le_length_repeated hmark n
    rw [List.reverse_eq_iff, List.reverse_append, reverse_repeated]
    refine dropMarks_repeated_append ?_ ?_
    · rwa [List.reverse_prefix]
    · rw [List.length_append]
      omega

/-! ## Spellings -/

/-- Trimmed and in lower case, the text is the length of the type, then `ft` and then `_feet`, both
any number of times. -/
def Spells (t : FleetType) (s : String) : Prop :=
  ∃ short long, (Text.trimChars s.toList).map Char.toLower =
    Decimal.digits t.feet ++ repeated "ft".toList short ++ repeated "_feet".toList long

theorem utf8ByteSize_of_utf8Size (h : ∀ c ∈ cs, c.utf8Size = 1) :
    (String.ofList cs).utf8ByteSize = cs.length := by
  induction cs with
  | nil => rfl
  | cons c cs ih =>
    obtain ⟨hc, hcs⟩ := List.forall_mem_cons.mp h
    rw [String.ofList_cons, String.utf8ByteSize_append, String.utf8ByteSize_singleton, hc, ih hcs,
      List.length_cons, Nat.add_comm]

/-- What is two bytes long and begins the name of a type is its length in feet. -/
theorem begins_name_iff :
    (cs.isPrefixOf t.name.toList && (String.ofList cs).utf8ByteSize == 2) = true ↔
      cs = Decimal.digits t.feet := by
  rw [Bool.and_eq_true, beq_iff_eq, List.isPrefixOf_iff_prefix]
  constructor
  · rintro ⟨hbegins, hsize⟩
    have hname : (t.name.toList.all fun c => c.utf8Size == 1) = true := by cases t <;> decide
    have hones : ∀ c ∈ cs, c.utf8Size = 1 := by
      intro c hc
      exact beq_iff_eq.mp (List.all_eq_true.mp hname c (hbegins.subset hc))
    rw [utf8ByteSize_of_utf8Size hones] at hsize
    rw [List.prefix_iff_eq_take.mp hbegins, hsize]
    cases t <;> rfl
  · rintro rfl
    cases t <;> decide

/-- So one type at most is found by its name. -/
theorem find?_begins_name_iff :
    (all.find? fun u => cs.isPrefixOf u.name.toList && (String.ofList cs).utf8ByteSize == 2) =
      some t ↔ cs = Decimal.digits t.feet := by
  constructor
  · intro h
    have hfound := List.find?_some h
    exact begins_name_iff.mp hfound
  · rintro rfl
    cases t <;> decide

/-- A length does not end in `_feet`, nor does it with `ft` behind it. -/
theorem not_feet_suffix (t : FleetType) (n : Nat) :
    ¬ "_feet".toList <:+ Decimal.digits t.feet ++ repeated "ft".toList n := by
  intro h
  cases n with
  | zero =>
    revert h
    cases t <;> decide
  | succ n =>
    -- Two marks at one end: the shorter one would end the longer one.
    rw [repeated_succ', ← List.append_assoc] at h
    have hshort : "ft".toList <:+ "_feet".toList :=
      List.suffix_of_suffix_length_le (List.suffix_append _ _) h (by decide)
    revert hshort
    decide

/-- **A length is left** exactly of what has `ft` behind the length and `_feet` behind that. -/
theorem withoutEndings_eq_iff {lower : List Char} :
    withoutEnding "ft".toList (withoutEnding "_feet".toList lower) = Decimal.digits t.feet ↔
      ∃ short long, lower =
        Decimal.digits t.feet ++ repeated "ft".toList short ++ repeated "_feet".toList long := by
  have hft : ¬ "ft".toList <:+ Decimal.digits t.feet := by cases t <;> decide
  rw [withoutEnding_eq_iff (by decide)]
  constructor
  · rintro ⟨-, short, hshort⟩
    obtain ⟨-, long, hlong⟩ := (withoutEnding_eq_iff (by decide)).mp hshort
    exact ⟨short, long, hlong⟩
  · rintro ⟨short, long, hlower⟩
    have hfeet := not_feet_suffix t short
    exact ⟨hft, short, (withoutEnding_eq_iff (by decide)).mpr ⟨hfeet, long, hlower⟩⟩

theorem ofChars?_eq_some_iff : ofChars? s.toList = some t ↔ t.Spells s := by
  rw [Spells, ← withoutEndings_eq_iff, ← find?_begins_name_iff]
  rfl

/-! ## Names -/

/-- A name spells its type in any letter case. -/
theorem spells_of_name (h : s.toList.map Char.toLower = t.name.toList.map Char.toLower) :
    t.Spells s := by
  have hname : t.name.toList.map Char.toLower = Decimal.digits t.feet ++ "_feet".toList := by
    cases t <;> rfl
  have hblank : (Decimal.digits t.feet ++ "_feet".toList).any Text.isBlank = false := by
    cases t <;> decide
  have htrimmed : Text.trimChars s.toList = s.toList := by
    refine Text.trimChars_eq_self fun c hc => ?_
    have hlower : c.toLower ∈ Decimal.digits t.feet ++ "_feet".toList := by
      rw [← hname, ← h]
      exact List.mem_map_of_mem hc
    cases hb : Text.isBlank c with
    | false => rfl
    | true =>
      rw [Text.toLower_of_isBlank hb] at hlower
      exact absurd hb (List.any_eq_false.mp hblank c hlower)
  refine ⟨0, 1, ?_⟩
  rw [htrimmed, h, hname]
  simp [repeated]

/-- **Which texts are fleet types.** A text is read as the type that it spells. One that spells none
is refused, and the fault quotes it as it was given. The name of a type is read as that type in any
letter case. -/
theorem ofText_accepts_spellings (s : String) :
    (∀ t, ofText s = .ok t ↔ t.Spells s) ∧
      (∀ fault, ofText s = .error fault ↔
        fault = "unknown fleet type '" ++ s ++ "'" ∧ ∀ t : FleetType, ¬ t.Spells s) ∧
      ∀ t : FleetType, s.toList.map Char.toLower = t.name.toList.map Char.toLower →
        ofText s = .ok t := by
  have hok : ∀ t, ofText s = .ok t ↔ t.Spells s := by
    intro t
    rw [← ofChars?_eq_some_iff, ofText]
    cases ofChars? s.toList <;> simp
  refine ⟨hok, fun fault => ?_, fun t h => (hok t).mpr (spells_of_name h)⟩
  simp only [← ofChars?_eq_some_iff, ofText]
  cases hchars : ofChars? s.toList with
  | none => simp [eq_comm]
  | some t => simp

/-- Marks of both kinds in their order, and a name in another letter case. -/
theorem ofText_accepts_spellings_repeated :
    ofText "\t22FTft_FEET_feet " = .ok .feet22 ∧
      "32_fEEt".toList.map Char.toLower = feet32.name.toList.map Char.toLower ∧
      ofText "32_fEEt" = .ok .feet32 := by
  have hname : "32_fEEt".toList.map Char.toLower = feet32.name.toList.map Char.toLower := by decide
  have hmarks : feet22.Spells "\t22FTft_FEET_feet " := ⟨2, 2, by decide⟩
  exact ⟨((ofText_accepts_spellings _).1 feet22).mpr hmarks, hname,
    (ofText_accepts_spellings _).2.2 feet32 hname⟩

/-- With the marks the other way round a text is refused. -/
example : ofText "14_feetft" = .error "unknown fleet type '14_feetft'" := rfl

end FleetType
end HubDispatch
