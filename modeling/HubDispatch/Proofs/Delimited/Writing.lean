import HubDispatch.Delimited.Writer
import Mathlib.Data.List.Basic

/-!
# What a written table holds

A buffer keeps the order of what it is given: what has reached the sink and what is pending, put end
to end, are the bytes of all records so far (`Buffer.bytes_writeRecord`), wherever the buffer had to
be sent on its way.

The bytes can be read in one way only (`Holds.unique`). A field without quotes has no separator in
it and does not begin with a quote; between quotes, the first quote that is not doubled ends the
field. So of two records that begin alike the first fields agree, and what follows them begins alike
again.
-/

namespace HubDispatch
namespace Delimited

/-- The bytes of a text. -/
def utf8 (s : String) : List UInt8 := s.toUTF8.data.toList

/-- Every quote doubled. -/
def doubled (bytes : List UInt8) : List UInt8 :=
  bytes.flatMap fun b => if b == 34 then [34, 34] else [b]

/-- The field holds a comma, a quote or the end of a line. -/
def Special (field : String) : Prop :=
  ',' ∈ field.toList ∨ '"' ∈ field.toList ∨ '\n' ∈ field.toList ∨ '\r' ∈ field.toList

instance (field : String) : Decidable (Special field) := inferInstanceAs (Decidable (_ ∨ _))

/-- A field of a table: between quotes if it is special. -/
def fieldBytes (field : String) : List UInt8 :=
  if Special field then 34 :: (doubled (utf8 field) ++ [34]) else utf8 field

/-- A record of a table: its fields with commas between them, and a line feed. -/
def recordBytes (fields : List String) : List UInt8 :=
  List.intercalate [44] (fields.map fieldBytes) ++ [10]

/-- The text consists of these records, none of which is without fields. -/
structure Holds (text : List UInt8) (records : List (List String)) : Prop where
  nonempty : ∀ record ∈ records, record ≠ []
  bytes : text = records.flatMap recordBytes

/-! ## Atoms -/

theorem needsQuotes_iff {field : String} : needsQuotes field = true ↔ Special field := by
  simp only [needsQuotes, Special, List.any_eq_true, Bool.or_eq_true, beq_iff_eq]
  constructor
  · rintro ⟨c, hc, ((rfl | rfl) | rfl) | rfl⟩
    · exact Or.inl hc
    · exact Or.inr (Or.inl hc)
    · exact Or.inr (Or.inr (Or.inl hc))
    · exact Or.inr (Or.inr (Or.inr hc))
  · rintro (hc | hc | hc | hc)
    · exact ⟨',', hc, by simp⟩
    · exact ⟨'"', hc, by simp⟩
    · exact ⟨'\n', hc, by simp⟩
    · exact ⟨'\r', hc, by simp⟩

theorem flatten_fieldAtoms (field : String) : (fieldAtoms field).flatten = fieldBytes field := by
  unfold fieldAtoms fieldBytes
  by_cases h : Special field
  · rw [if_pos (needsQuotes_iff.mpr h), if_pos h, doubled, List.flatMap_def, utf8]
    simp
  · rw [if_neg (mt needsQuotes_iff.mp h), if_neg h, plainAtoms, ← List.flatMap_def,
      List.flatMap_singleton']
    rfl

/-- **A record is written** field by field. -/
theorem flatten_recordAtoms (fields : List String) :
    (recordAtoms fields).flatten = recordBytes fields := by
  have hjoined : (List.intercalate [[44]] (fields.map fieldAtoms)).flatten =
      List.intercalate [44] (fields.map fieldBytes) := by
    induction fields with
    | nil => rfl
    | cons field fields ih =>
      cases fields with
      | nil => simp [List.intercalate, flatten_fieldAtoms]
      | cons second fields =>
        simp only [List.map_cons, List.intercalate_cons_cons] at ih ⊢
        rw [List.flatten_append, List.flatten_append, ih, flatten_fieldAtoms]
        rfl
  rw [recordAtoms, List.flatten_append, hjoined]
  rfl

/-! ## Buffers -/

namespace Buffer

variable {b : Buffer}

/-- All bytes that a buffer has been given. -/
def bytes (b : Buffer) : List UInt8 := b.sink.reverse ++ b.pending.reverse

@[simp] theorem bytes_empty : empty.bytes = [] := rfl

@[simp] theorem bytes_flush : b.flush.bytes = b.bytes := by
  simp [bytes, flush]

theorem written_flush : b.flush.written = b.bytes := by
  simp [written, flush, bytes]

@[simp] theorem bytes_push (atom : Atom) : (b.push atom).bytes = b.bytes ++ atom := by
  have happend (c : Buffer) (n : Nat) :
      (⟨atom.reverse ++ c.pending, n, c.sink⟩ : Buffer).bytes = c.bytes ++ atom := by
    simp [bytes]
  unfold push
  dsimp only
  split
  · rw [happend, bytes_flush]
  · rw [happend]

theorem bytes_foldl_push (atoms : List Atom) :
    (atoms.foldl push b).bytes = b.bytes ++ atoms.flatten := by
  induction atoms generalizing b with
  | nil => simp
  | cons atom atoms ih => rw [List.foldl_cons, ih, bytes_push, List.flatten_cons, List.append_assoc]

@[simp] theorem bytes_writeRecord (fields : List String) :
    (b.writeRecord fields).bytes = b.bytes ++ recordBytes fields := by
  rw [writeRecord, bytes_foldl_push, flatten_recordAtoms]

/-- **A buffer keeps the order** of the records that it is given. -/
theorem bytes_foldl_writeRecord (records : List (List String)) :
    (records.foldl writeRecord b).bytes = b.bytes ++ records.flatMap recordBytes := by
  induction records generalizing b with
  | nil => simp
  | cons record records ih =>
    rw [List.foldl_cons, ih, bytes_writeRecord, List.flatMap_cons, List.append_assoc]

end Buffer

/-! ## Fields -/

section Fields

variable {field field' : String} {bytes bytes' rest rest' : List UInt8} {b b' : UInt8}

theorem utf8_eq (s : String) : utf8 s = s.toList.flatMap String.utf8EncodeChar := by
  rw [utf8, String.toUTF8, ← String.utf8Encode_toList]
  simp [List.utf8Encode]

theorem utf8_injective (h : utf8 field = utf8 field') : field = field' := by
  rw [utf8, utf8, Array.toList_inj] at h
  exact String.toByteArray_inj.mp (congrArg ByteArray.mk h)

/-- A byte below 128 comes from the character that it stands for. -/
theorem exists_of_mem_utf8 (h : b ∈ utf8 field) (hlt : b.toNat < 128) :
    ∃ c ∈ field.toList, c.toNat = b.toNat := by
  rw [utf8_eq] at h
  obtain ⟨c, hc, hb⟩ := List.mem_flatMap.mp h
  refine ⟨c, hc, ?_⟩
  change c.val.toNat = b.toNat
  unfold String.utf8EncodeChar at hb
  dsimp only at hb
  split at hb
  · rw [List.mem_singleton.mp hb, UInt8.toNat_ofNat']
    omega
  · -- Of the bytes of other characters none is below 128.
    exfalso
    split at hb
    · simp only [List.mem_cons, List.not_mem_nil, or_false] at hb
      rcases hb with rfl | rfl <;> rw [UInt8.toNat_ofNat'] at hlt <;> omega
    · split at hb <;> simp only [List.mem_cons, List.not_mem_nil, or_false] at hb
      · rcases hb with rfl | rfl | rfl <;> rw [UInt8.toNat_ofNat'] at hlt <;> omega
      · rcases hb with rfl | rfl | rfl | rfl <;> rw [UInt8.toNat_ofNat'] at hlt <;> omega

/-- What follows a field. -/
def IsSeparator (b : UInt8) : Prop := b = 44 ∨ b = 10

/-- What is written without quotes has neither quotes nor separators. -/
theorem plain_of_not_special (h : ¬ Special field) (hb : b ∈ utf8 field) :
    ¬ IsSeparator b ∧ b ≠ 34 := by
  have hchar (d : Char) (hd : d.toNat < 128) (hbd : b.toNat = d.toNat) : d ∈ field.toList := by
    obtain ⟨c, hc, heq⟩ := exists_of_mem_utf8 hb (hbd ▸ hd)
    rwa [← Char.toNat_inj.mp (heq.trans hbd)]
  refine ⟨?_, ?_⟩
  · rintro (rfl | rfl)
    · exact h (Or.inl (hchar ',' (by decide) rfl))
    · exact h (Or.inr (Or.inr (Or.inl (hchar '\n' (by decide) rfl))))
  · rintro rfl
    exact h (Or.inr (Or.inl (hchar '"' (by decide) rfl)))

/-- Where no separator comes before, the first one is found. -/
theorem eq_of_append_separator (h : ∀ c ∈ bytes, ¬ IsSeparator c)
    (h' : ∀ c ∈ bytes', ¬ IsSeparator c) (hb : IsSeparator b) (hb' : IsSeparator b')
    (heq : bytes ++ b :: rest = bytes' ++ b' :: rest') :
    bytes = bytes' ∧ b :: rest = b' :: rest' := by
  induction bytes generalizing bytes' with
  | nil =>
    cases bytes' with
    | nil => exact ⟨rfl, heq⟩
    | cons c bytes' =>
      obtain ⟨rfl, -⟩ := List.cons.inj heq
      exact absurd hb (h' b List.mem_cons_self)
  | cons c bytes ih =>
    cases bytes' with
    | nil =>
      obtain ⟨rfl, -⟩ := List.cons.inj heq
      exact absurd hb' (h c List.mem_cons_self)
    | cons d bytes' =>
      obtain ⟨rfl, htail⟩ := List.cons.inj heq
      obtain ⟨rfl, hrest⟩ := ih (List.forall_mem_cons.mp h).2 (List.forall_mem_cons.mp h').2 htail
      exact ⟨rfl, hrest⟩

theorem doubled_cons_quote (bytes : List UInt8) :
    doubled (34 :: bytes) = 34 :: 34 :: doubled bytes := rfl

theorem doubled_cons_of_ne {c : UInt8} (h : c ≠ 34) (bytes : List UInt8) :
    doubled (c :: bytes) = c :: doubled bytes := by
  simp [doubled, h]

/-- Where quotes are doubled, the first that is not is found. -/
theorem eq_of_doubled_append (hb : b ≠ 34) (hb' : b' ≠ 34)
    (heq : doubled bytes ++ 34 :: b :: rest = doubled bytes' ++ 34 :: b' :: rest') :
    bytes = bytes' ∧ b :: rest = b' :: rest' := by
  induction bytes generalizing bytes' with
  | nil =>
    cases bytes' with
    | nil => exact ⟨rfl, (List.cons.inj heq).2⟩
    | cons d bytes' =>
      rcases eq_or_ne d 34 with rfl | hd
      · rw [doubled_cons_quote] at heq
        exact absurd (List.cons.inj (List.cons.inj heq).2).1 hb
      · rw [doubled_cons_of_ne hd] at heq
        exact absurd (List.cons.inj heq).1.symm hd
  | cons c bytes ih =>
    cases bytes' with
    | nil =>
      rcases eq_or_ne c 34 with rfl | hc
      · rw [doubled_cons_quote] at heq
        exact absurd (List.cons.inj (List.cons.inj heq).2).1.symm hb'
      · rw [doubled_cons_of_ne hc] at heq
        exact absurd (List.cons.inj heq).1 hc
    | cons d bytes' =>
      have htail : c = d ∧
          doubled bytes ++ 34 :: b :: rest = doubled bytes' ++ 34 :: b' :: rest' := by
        rcases eq_or_ne c 34 with rfl | hc <;> rcases eq_or_ne d 34 with rfl | hd
        · rw [doubled_cons_quote, doubled_cons_quote] at heq
          exact ⟨rfl, (List.cons.inj (List.cons.inj heq).2).2⟩
        · rw [doubled_cons_of_ne hd] at heq
          exact absurd (List.cons.inj heq).1.symm hd
        · rw [doubled_cons_of_ne hc] at heq
          exact absurd (List.cons.inj heq).1 hc
        · rw [doubled_cons_of_ne hc, doubled_cons_of_ne hd] at heq
          exact List.cons.inj heq
      obtain ⟨rfl, htail⟩ := htail
      obtain ⟨rfl, hrest⟩ := ih htail
      exact ⟨rfl, hrest⟩

theorem IsSeparator.ne_quote (h : IsSeparator b) : b ≠ 34 := by
  rcases h with rfl | rfl <;> decide

/-- Without quotes, a field does not begin as one with quotes does. -/
theorem plain_ne_quoted (h : ¬ Special field) (hb : IsSeparator b) :
    utf8 field ++ b :: rest ≠ 34 :: bytes := by
  intro heq
  cases hfield : utf8 field with
  | nil =>
    rw [hfield] at heq
    exact hb.ne_quote (List.cons.inj heq).1
  | cons c cs =>
    rw [hfield] at heq
    have hc : c ∈ utf8 field := by
      rw [hfield]
      exact List.mem_cons_self
    exact (plain_of_not_special h hc).2 (List.cons.inj heq).1

/-- **A field is read in one way only.** -/
theorem eq_of_fieldBytes_append (hb : IsSeparator b) (hb' : IsSeparator b')
    (heq : fieldBytes field ++ b :: rest = fieldBytes field' ++ b' :: rest') :
    field = field' ∧ b :: rest = b' :: rest' := by
  unfold fieldBytes at heq
  by_cases h : Special field <;> by_cases h' : Special field'
  · rw [if_pos h, if_pos h', List.cons_append, List.cons_append, List.append_assoc,
      List.append_assoc] at heq
    obtain ⟨hfield, hrest⟩ :=
      eq_of_doubled_append hb.ne_quote hb'.ne_quote (List.cons.inj heq).2
    exact ⟨utf8_injective hfield, hrest⟩
  · rw [if_pos h, if_neg h'] at heq
    exact absurd heq.symm (plain_ne_quoted h' hb')
  · rw [if_neg h, if_pos h'] at heq
    exact absurd heq (plain_ne_quoted h hb)
  · rw [if_neg h, if_neg h'] at heq
    obtain ⟨hfield, hrest⟩ := eq_of_append_separator (fun c hc => (plain_of_not_special h hc).1)
      (fun c hc => (plain_of_not_special h' hc).1) hb hb' heq
    exact ⟨utf8_injective hfield, hrest⟩

end Fields

/-! ## Records -/

section Records

variable {field field' : String} {fields fields' : List String} {rest rest' text : List UInt8}

theorem recordBytes_singleton (field : String) : recordBytes [field] = fieldBytes field ++ [10] := by
  simp [recordBytes, List.intercalate]

theorem recordBytes_cons_cons (field second : String) (fields : List String) :
    recordBytes (field :: second :: fields) =
      fieldBytes field ++ 44 :: recordBytes (second :: fields) := by
  simp [recordBytes, List.intercalate]

/-- **A record is read in one way only.** -/
theorem eq_of_recordBytes_append
    (heq : recordBytes (field :: fields) ++ rest = recordBytes (field' :: fields') ++ rest') :
    field :: fields = field' :: fields' ∧ rest = rest' := by
  induction fields generalizing field field' fields' with
  | nil =>
    cases fields' with
    | nil =>
      rw [recordBytes_singleton, recordBytes_singleton, List.append_assoc, List.append_assoc] at heq
      obtain ⟨rfl, hrest⟩ := eq_of_fieldBytes_append (Or.inr rfl) (Or.inr rfl) heq
      exact ⟨rfl, (List.cons.inj hrest).2⟩
    | cons second' fields' =>
      rw [recordBytes_singleton, recordBytes_cons_cons, List.append_assoc, List.append_assoc] at heq
      obtain ⟨-, hrest⟩ := eq_of_fieldBytes_append (Or.inr rfl) (Or.inl rfl) heq
      exact absurd (List.cons.inj hrest).1 (by decide)
  | cons second fields ih =>
    cases fields' with
    | nil =>
      rw [recordBytes_singleton, recordBytes_cons_cons, List.append_assoc, List.append_assoc] at heq
      obtain ⟨-, hrest⟩ := eq_of_fieldBytes_append (Or.inl rfl) (Or.inr rfl) heq
      exact absurd (List.cons.inj hrest).1 (by decide)
    | cons second' fields' =>
      rw [recordBytes_cons_cons, recordBytes_cons_cons, List.append_assoc, List.append_assoc] at heq
      obtain ⟨rfl, htail⟩ := eq_of_fieldBytes_append (Or.inl rfl) (Or.inl rfl) heq
      obtain ⟨hfields, hrest⟩ := ih (List.cons.inj htail).2
      exact ⟨by rw [hfields], hrest⟩

theorem recordBytes_ne_nil (fields : List String) : recordBytes fields ≠ [] := by
  simp [recordBytes]

/-- **A text holds one list of records.** -/
theorem Holds.unique {records records' : List (List String)} (h : Holds text records)
    (h' : Holds text records') : records = records' := by
  obtain ⟨hne, hbytes⟩ := h
  obtain ⟨hne', hbytes'⟩ := h'
  have heq := hbytes.symm.trans hbytes'
  clear hbytes hbytes'
  induction records generalizing records' with
  | nil =>
    cases records' with
    | nil => rfl
    | cons record' records' =>
      rw [List.flatMap_nil, List.flatMap_cons] at heq
      exact absurd (List.append_eq_nil_iff.mp heq.symm).1 (recordBytes_ne_nil _)
  | cons record records ih =>
    cases records' with
    | nil =>
      rw [List.flatMap_nil, List.flatMap_cons] at heq
      exact absurd (List.append_eq_nil_iff.mp heq).1 (recordBytes_ne_nil _)
    | cons record' records' =>
      obtain ⟨hrecord, hrecords⟩ := List.forall_mem_cons.mp hne
      obtain ⟨hrecord', hrecords'⟩ := List.forall_mem_cons.mp hne'
      obtain ⟨field, fields, rfl⟩ := List.exists_cons_of_ne_nil hrecord
      obtain ⟨field', fields', rfl⟩ := List.exists_cons_of_ne_nil hrecord'
      rw [List.flatMap_cons, List.flatMap_cons] at heq
      obtain ⟨hfirst, hrest⟩ := eq_of_recordBytes_append heq
      rw [hfirst, ih hrecords hrecords' hrest]

end Records
end Delimited
end HubDispatch
