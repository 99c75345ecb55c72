/-!
# Blank characters

The twenty-five characters of the Unicode property `White_Space`, and trimming by it.
-/

namespace HubDispatch
namespace Text

/-- The character has the property `White_Space`. -/
def isBlank (c : Char) : Bool :=
  let n := c.toNat
  (decide (9 ≤ n) && decide (n ≤ 13)) || n == 0x20 || n == 0x85 || n == 0xA0 || n == 0x1680 ||
    (decide (0x2000 ≤ n) && decide (n ≤ 0x200A)) || n == 0x2028 || n == 0x2029 || n == 0x202F ||
    n == 0x205F || n == 0x3000

/-- Blank characters have no lower case of their own. -/
theorem toLower_of_isBlank {c : Char} (h : isBlank c = true) : c.toLower = c := by
  unfold Char.toLower
  split
  · rename_i hupper
    have hlo : 65 ≤ c.toNat := UInt32.le_iff_toNat_le.mp hupper.1
    have hhi : c.toNat ≤ 90 := UInt32.le_iff_toNat_le.mp hupper.2
    simp only [isBlank, Bool.or_eq_true, Bool.and_eq_true, decide_eq_true_eq, beq_iff_eq] at h
    omega
  · rfl

/-- Without the characters in `p` at either end. -/
def trimWith (p : α → Bool) (xs : List α) : List α :=
  ((xs.dropWhile p).reverse.dropWhile p).reverse

/-- Without blank characters at either end. -/
def trimChars (cs : List Char) : List Char := trimWith isBlank cs

/-- A text without blank characters has none at its ends. -/
theorem trimChars_eq_self {cs : List Char} (h : ∀ c ∈ cs, isBlank c = false) :
    trimChars cs = cs := by
  have hkept : ∀ xs : List Char, (∀ c ∈ xs, isBlank c = false) → xs.dropWhile isBlank = xs := by
    intro xs hxs
    cases xs with
    | nil => rfl
    | cons c xs => rw [List.dropWhile_cons_of_neg (by rw [hxs c List.mem_cons_self]; decide)]
  rw [trimChars, trimWith, hkept cs h, hkept _ fun c hc => h c (List.mem_reverse.mp hc),
    List.reverse_reverse]

/-- Without blank characters at either end. -/
def trim (s : String) : String := String.ofList (trimChars s.toList)

/-- The text before and after the first occurrence of a nonempty mark. -/
def splitOnce (mark : List Char) : List Char → Option (List Char × List Char)
  | [] => if mark.isEmpty then some ([], []) else none
  | c :: cs =>
    if mark.isPrefixOf (c :: cs) then some ([], (c :: cs).drop mark.length)
    else (splitOnce mark cs).map fun (before, after) => (c :: before, after)

/-- Whether the mark occurs anywhere in the text. -/
def occurs (mark : List Char) (cs : List Char) : Bool := (splitOnce mark cs).isSome

/-- Spaces in front of a text, up to the given number of characters. -/
def padLeft (width : Nat) (s : String) : String :=
  String.ofList (List.replicate (width - s.toList.length) ' ' ++ s.toList)

/-- Spaces behind a text, up to the given number of characters. -/
def padRight (width : Nat) (s : String) : String :=
  String.ofList (s.toList ++ List.replicate (width - s.toList.length) ' ')

end Text
end HubDispatch
