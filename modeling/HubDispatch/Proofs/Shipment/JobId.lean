import HubDispatch.Shipment.Reference
import HubDispatch.Proofs.Decimal.Counts
import HubDispatch.Proofs.Text.FirstMark

/-!
# Job ids

A job id is cut at the first number mark and what stands before it at the first dash. No code holds
a comma, so the first number mark is the one that was written. The dash is another matter: it begins
and ends with a blank, and a code that ends in a blank and a dash completes one together with the
blank that follows. `A - - B` is the job id both from `A -` to `B` and from `A` to `- B`.

The job id of a reference is read back as that reference exactly when its origin does not end so,
and two references share a job id exactly when one is the other with the dash two characters
further on (`DashShift`).

Reading never makes such a reference, for it cuts at the first dash. So whatever was read, from a
job id or from another spelling of its number, can be written and read again
(`exists_jobId_of_ofText`).
-/

namespace HubDispatch
namespace ShipmentRef

open Text (splitOnce trimChars isBlank)

/-- What `isEncodable` asks of the characters of a code. -/
structure Encodable (cs : List Char) : Prop where
  ne_nil : cs ≠ []
  trimmed : trimChars cs = cs
  comma_notMem : ',' ∉ cs
  not_dash : ¬ dash.toList <:+: cs

theorem isEncodable_iff (code : LocationCode) :
    isEncodable code = true ↔ Encodable code.toList := by
  simp only [isEncodable, Bool.and_eq_true, Bool.not_eq_true', beq_iff_eq]
  constructor
  · rintro ⟨⟨⟨h₁, h₂⟩, h₃⟩, h₄⟩
    refine ⟨fun hn => ?_, h₂, by simpa using h₃, fun hd => ?_⟩
    · rw [String.toList_eq_nil_iff.mp hn] at h₁
      cases h₁
    · rw [Text.occurs_iff.mpr hd] at h₄
      cases h₄
  · rintro ⟨h₁, h₂, h₃, h₄⟩
    refine ⟨⟨⟨?_, h₂⟩, by simpa using h₃⟩, ?_⟩
    · cases he : code.isEmpty with
      | false => rfl
      | true => exact absurd (String.toList_eq_nil_iff.mpr (String.isEmpty_iff.mp he)) h₁
    · cases ho : Text.occurs dash.toList code.toList with
      | false => rfl
      | true => exact absurd (Text.occurs_iff.mp ho) h₄

/-- A text that trimming leaves alone does not end in a blank. -/
theorem getLast_not_blank {cs : List Char} {c : Char} (h : trimChars (cs ++ [c]) = cs ++ [c]) :
    isBlank c = false := by
  have hrev : ((cs ++ [c]).dropWhile isBlank).reverse.dropWhile isBlank = c :: cs.reverse := by
    rw [← List.reverse_inj, List.reverse_cons, List.reverse_reverse]
    exact h
  have hhead := List.head?_dropWhile_not isBlank ((cs ++ [c]).dropWhile isBlank).reverse
  rw [hrev] at hhead
  exact hhead

theorem jobId_eq_ok_iff {r : ShipmentRef} {s : String} :
    r.jobId = .ok s ↔
      Encodable r.origin.toList ∧ Encodable r.destination.toList ∧ r.text = s := by
  rw [← isEncodable_iff, ← isEncodable_iff, jobId]
  cases isEncodable r.origin <;> cases isEncodable r.destination <;> simp

/-- What is read from a text: its parts around the first number mark and the first dash. -/
theorem ofText_eq_ok_iff {s : String} {r : ShipmentRef} :
    ofText s = .ok r ↔
      ∃ codes number, splitOnce numberMark.toList s.toList = some (codes, number) ∧
        splitOnce dash.toList codes = some (r.origin.toList, r.destination.toList) ∧
        Decimal.readCount Binary64.count64Max number = .ok r.sequence ∧
        Encodable r.origin.toList ∧ Encodable r.destination.toList := by
  have hofChars : ofText s = .ok r ↔ ofChars? s.toList = some r := by
    unfold ofText
    cases ofChars? s.toList <;> simp
  rw [hofChars, ofChars?]
  simp only [Option.bind_eq_bind, Option.bind_eq_some_iff, Prod.exists]
  constructor
  · rintro ⟨codes, number, hcut, o, d, hdash, n, hn, hr⟩
    split at hr
    · rename_i he
      cases hr
      rw [Bool.and_eq_true, isEncodable_iff, isEncodable_iff] at he
      refine ⟨codes, number, hcut, by simpa using hdash, ?_, he⟩
      cases hread : Decimal.readCount Binary64.count64Max number with
      | error f => rw [hread] at hn; cases hn
      | ok m => rw [hread] at hn; cases hn; rfl
    · cases hr
  · rintro ⟨codes, number, hcut, hdash, hn, he⟩
    refine ⟨codes, number, hcut, _, _, hdash, r.sequence, by rw [hn]; rfl, ?_⟩
    rw [← isEncodable_iff, ← isEncodable_iff, ← Bool.and_eq_true] at he
    simp [he]

/-! ## The two marks -/

/-- A code that goes on where a dash would begin. The blanks that a code must not end in leave only
one way: its last two characters are the first two of the dash. -/
theorem dash_across_seam {b q a d : List Char} (hb : Encodable (b ++ q)) (hq : q ≠ [])
    (h : dash.toList ++ a = q ++ dash.toList ++ d) : q = [' ', '-'] ∧ a = ['-', ' '] ++ d := by
  change [' ', '-', ' '] ++ a = q ++ [' ', '-', ' '] ++ d at h
  -- One shared character would be a blank at the end of the code, three would be a dash inside it.
  match q, hq with
  | [x], _ =>
    simp only [List.cons_append, List.nil_append, List.cons.injEq] at h
    have := getLast_not_blank hb.trimmed
    rw [← h.1] at this
    cases this
  | [x, y], _ =>
    simp only [List.cons_append, List.nil_append, List.cons.injEq] at h
    obtain ⟨rfl, rfl, -, rfl⟩ := h
    exact ⟨rfl, rfl⟩
  | x :: y :: z :: q, _ =>
    simp only [List.cons_append, List.nil_append, List.cons.injEq] at h
    obtain ⟨rfl, rfl, rfl, -⟩ := h
    exact absurd ⟨b, q, by simp [dash]⟩ hb.not_dash

/-- The dash that was written is the first one unless the origin ends in a blank and a dash. -/
theorem splitOnce_dash_iff {o d : List Char} (ho : Encodable o) :
    splitOnce dash.toList (o ++ dash.toList ++ d) = some (o, d) ↔ ¬ [' ', '-'] <:+ o := by
  rw [Text.splitOnce_eq_some_iff]
  constructor
  · rintro ⟨-, hfirst⟩ ⟨b, rfl⟩
    have := hfirst b (['-', ' '] ++ d) (by simp [dash])
    rw [List.length_append, List.length_cons] at this
    omega
  · refine fun hend => ⟨rfl, fun b a hba => Nat.le_of_not_lt fun hlt => hend ?_⟩
    -- A dash that begins in the origin cannot end there: it crosses into the one that was written.
    obtain ⟨q, hne, rfl, hq⟩ := Text.overlap_of_lt hba hlt
    obtain ⟨rfl, -⟩ := dash_across_seam ho hne hq
    exact List.suffix_append _ _

/-- The characters of a job id. -/
theorem toList_text (r : ShipmentRef) :
    r.text.toList = (r.origin.toList ++ dash.toList ++ r.destination.toList) ++
      numberMark.toList ++ Decimal.digits r.sequence := by
  simp [text, Decimal.wholeText]

/-- The first number mark is the one that was written. -/
theorem splitOnce_numberMark {r : ShipmentRef} (ho : Encodable r.origin.toList)
    (hd : Encodable r.destination.toList) :
    splitOnce numberMark.toList r.text.toList =
      some (r.origin.toList ++ dash.toList ++ r.destination.toList, Decimal.digits r.sequence) := by
  rw [toList_text]
  refine Text.splitOnce_append_of_notMem (c := ',') ?_
  simp only [List.mem_append, not_or]
  exact ⟨⟨ho.comma_notMem, by decide⟩, hd.comma_notMem⟩

/-! ## What a job id is read as -/

/-- `r'` has the dash of `r` two characters earlier: what `r` holds at the end of its origin, `r'`
holds at the start of its destination. -/
def DashShift (r r' : ShipmentRef) : Prop :=
  r.origin = r'.origin ++ " -" ∧ r'.destination = "- " ++ r.destination ∧
    r.sequence = r'.sequence

theorem DashShift.text_eq {r r' : ShipmentRef} (h : DashShift r r') : r.text = r'.text := by
  obtain ⟨ho, hd, hn⟩ := h
  rw [text, text, ho, hd, hn, ← String.toList_inj]
  simp [dash]

/-- Of two references with one text, the one with the longer origin has its dash later. -/
theorem dashShift_of_length_lt {r r' : ShipmentRef} (hr : Encodable r.origin.toList)
    (h : r.origin.toList ++ dash.toList ++ r.destination.toList =
      r'.origin.toList ++ dash.toList ++ r'.destination.toList)
    (hn : r.sequence = r'.sequence)
    (hlt : r'.origin.toList.length < r.origin.toList.length) : DashShift r r' := by
  obtain ⟨q, hne, hb, hq⟩ := Text.overlap_of_lt h.symm hlt
  rw [hb] at hr
  obtain ⟨rfl, ha⟩ := dash_across_seam hr hne hq
  refine ⟨?_, ?_, hn⟩
  · rw [← String.toList_inj, hb]
    simp
  · rw [← String.toList_inj, ha]
    simp

/-- **References with one job id.** They are the same, or the dash of one is two characters further
on than that of the other. -/
theorem text_eq_iff {r r' : ShipmentRef} (ho : Encodable r.origin.toList)
    (hd : Encodable r.destination.toList) (ho' : Encodable r'.origin.toList)
    (hd' : Encodable r'.destination.toList) :
    r'.text = r.text ↔ r' = r ∨ DashShift r r' ∨ DashShift r' r := by
  constructor
  · intro h
    have hcut := splitOnce_numberMark ho hd
    rw [← h, splitOnce_numberMark ho' hd'] at hcut
    simp only [Option.some.injEq, Prod.mk.injEq] at hcut
    obtain ⟨hcodes, hdigits⟩ := hcut
    have hn := Decimal.digits_injective hdigits
    -- The longer origin, if one is longer, decides whose dash is further on.
    rcases Nat.lt_trichotomy r'.origin.toList.length r.origin.toList.length with hlt | heq | hlt
    · exact Or.inr (Or.inl (dashShift_of_length_lt ho hcodes.symm hn.symm hlt))
    · left
      rw [List.append_assoc, List.append_assoc] at hcodes
      obtain ⟨h₁, h₂⟩ := List.append_inj hcodes heq
      obtain ⟨o, d, n⟩ := r
      obtain ⟨o', d', n'⟩ := r'
      simp only [String.toList_inj, List.append_cancel_left_eq] at h₁ h₂ hn
      rw [h₁, h₂, hn]
    · exact Or.inr (Or.inr (dashShift_of_length_lt ho' hcodes hn hlt))
  · rintro (rfl | h | h)
    · rfl
    · exact h.text_eq.symm
    · exact h.text_eq

/-- **Reading a job id back.** The job id of a reference is read as that reference exactly when its
origin does not end in a blank and a dash. Another reference has the same job id exactly when its
dash stands two characters before or behind. -/
theorem ofText_jobId_iff {r : ShipmentRef} {s : String} (h : r.jobId = .ok s)
    (hn : r.sequence ≤ Binary64.count64Max) :
    (ofText s = .ok r ↔ ¬ ∃ code, r.origin = code ++ " -") ∧
      ∀ r' s', jobId r' = .ok s' → (s' = s ↔ r' = r ∨ DashShift r r' ∨ DashShift r' r) := by
  obtain ⟨ho, hd, rfl⟩ := jobId_eq_ok_iff.mp h
  constructor
  · have hend : (∃ code, r.origin = code ++ " -") ↔ [' ', '-'] <:+ r.origin.toList := by
      constructor
      · rintro ⟨code, hc⟩
        exact ⟨code.toList, by rw [hc]; simp⟩
      · rintro ⟨cs, hcs⟩
        exact ⟨String.ofList cs, by rw [← String.toList_inj, ← hcs]; simp⟩
    rw [hend, ← splitOnce_dash_iff ho (d := r.destination.toList), ofText_eq_ok_iff,
      splitOnce_numberMark ho hd]
    constructor
    · rintro ⟨codes, number, hcut, hdash, -⟩
      cases hcut
      exact hdash
    · exact fun hdash => ⟨_, _, rfl, hdash, Decimal.readCount_digits hn, ho, hd⟩
  · intro r' s' h'
    obtain ⟨ho', hd', rfl⟩ := jobId_eq_ok_iff.mp h'
    exact text_eq_iff ho hd ho' hd'

/-- Hyphens within a code do no harm. -/
theorem ofText_jobId_hyphen :
    jobId ⟨"DEL-B2", "-AMBT1-", 11⟩ = .ok "DEL-B2 - -AMBT1-, ShipmentNo:11" ∧
      11 ≤ Binary64.count64Max ∧
      ofText "DEL-B2 - -AMBT1-, ShipmentNo:11" = .ok ⟨"DEL-B2", "-AMBT1-", 11⟩ := by
  refine ⟨rfl, by decide, (ofText_jobId_iff rfl (by decide)).1.mpr ?_⟩
  rintro ⟨code, hc⟩
  have hlast := congrArg (fun s => s.toList.reverse.take 2) hc
  simp at hlast

/-- **A job id that is lost.** An accepted reference is read back as another one, which is accepted
with the same job id. -/
theorem ofText_jobId_trailing_dash :
    jobId ⟨"A -", "B", 1⟩ = .ok "A - - B, ShipmentNo:1" ∧
      ofText "A - - B, ShipmentNo:1" = .ok ⟨"A", "- B", 1⟩ ∧
      jobId ⟨"A", "- B", 1⟩ = .ok "A - - B, ShipmentNo:1" ∧
      (⟨"A -", "B", 1⟩ : ShipmentRef) ≠ ⟨"A", "- B", 1⟩ :=
  ⟨rfl, rfl, rfl, by decide⟩

/-! ## Writing again what was read -/

/-- **What is read can be written again.** A reference that was read from a text has a job id, which
is read as the same reference. Text and job id differ in the spelling of the number at most. -/
theorem exists_jobId_of_ofText {s : String} {r : ShipmentRef} (h : ofText s = .ok r) :
    ∃ t, r.jobId = .ok t ∧ ofText t = .ok r ∧
      ∃ codes number, s = codes ++ numberMark ++ number ∧
        t = codes ++ numberMark ++ Decimal.wholeText r.sequence := by
  obtain ⟨codes, number, hcut, hdash, hread, ho, hd⟩ := ofText_eq_ok_iff.mp h
  have hcodes := Text.append_of_splitOnce hdash
  have htext := splitOnce_numberMark ho hd
  rw [hcodes] at htext
  have hnumber := Decimal.readCount_digits (Decimal.le_of_readCount hread)
  refine ⟨r.text, jobId_eq_ok_iff.mpr ⟨ho, hd, rfl⟩,
    ofText_eq_ok_iff.mpr ⟨codes, _, htext, hdash, hnumber, ho, hd⟩,
    String.ofList codes, String.ofList number, ?_, ?_⟩
  · rw [← String.toList_inj, ← Text.append_of_splitOnce hcut]
    simp
  · rw [← String.toList_inj, toList_text, hcodes]
    simp [Decimal.wholeText]

/-- A dash at either end of a code, blanks within it, and a number with a sign and zeros before
it. -/
theorem exists_jobId_of_ofText_plus :
    ofText "DEL-B2 - - A -, ShipmentNo:+007" = .ok ⟨"DEL-B2", "- A -", 7⟩ ∧
      jobId ⟨"DEL-B2", "- A -", 7⟩ = .ok "DEL-B2 - - A -, ShipmentNo:7" ∧
      ofText "DEL-B2 - - A -, ShipmentNo:7" = .ok ⟨"DEL-B2", "- A -", 7⟩ := by
  obtain ⟨t, ht, hread, -⟩ := exists_jobId_of_ofText
    (s := "DEL-B2 - - A -, ShipmentNo:+007") (r := ⟨"DEL-B2", "- A -", 7⟩) rfl
  obtain rfl : "DEL-B2 - - A -, ShipmentNo:7" = t := Except.ok.inj ht
  exact ⟨rfl, ht, hread⟩

end ShipmentRef
end HubDispatch
