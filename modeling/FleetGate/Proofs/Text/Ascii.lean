import FleetGate.Text.Case
import Mathlib.Data.List.Lex
import Mathlib.Data.String.Basic

/-! # ASCII characters

What holds of every ASCII character is checked character by character. Lower-casing ASCII letters
moves a text up in the order of texts, if it changes it at all.
-/

namespace FleetGate.Text

/-- What holds of every ASCII character holds of a character below 128. -/
theorem ascii_forall {P : Char → Prop} (h : ∀ n, n < 128 → P (Char.ofNat n)) {c : Char}
    (hc : c.toNat < 128) : P c := by
  have hchar : P (Char.ofNat c.toNat) := h c.toNat hc
  rwa [Char.ofNat_toNat] at hchar

/-- Letters and digits are ASCII. -/
theorem toNat_lt_of_isAlphanum {c : Char} (h : c.isAlphanum = true) : c.toNat < 128 := by
  have upper (h : c.isUpper = true) : c.toNat ≤ 90 :=
    UInt32.le_iff_toNat_le.mp (of_decide_eq_true h).2
  have lower (h : c.isLower = true) : c.toNat ≤ 122 :=
    UInt32.le_iff_toNat_le.mp (of_decide_eq_true (Bool.and_eq_true_iff.mp h).2)
  have digit (h : c.isDigit = true) : c.toNat ≤ 57 :=
    UInt32.le_iff_toNat_le.mp (of_decide_eq_true (Bool.and_eq_true_iff.mp h).2)
  rcases Bool.or_eq_true_iff.mp h with h | h
  · rcases Bool.or_eq_true_iff.mp h with h | h
    · exact Nat.lt_of_le_of_lt (upper h) (by decide)
    · exact Nat.lt_of_le_of_lt (lower h) (by decide)
  · exact Nat.lt_of_le_of_lt (digit h) (by decide)

/-- A character does not come after its small letter. -/
theorem le_lowerAscii (c : Char) : c ≤ lowerAscii c := by
  rw [lowerAscii]
  split
  · rename_i h
    have hlt : c.toNat < 128 := by
      have hZ : c.toNat ≤ 90 := Char.le_def.mp h.2
      omega
    exact ascii_forall (P := fun c => ('A' ≤ c ∧ c ≤ 'Z') → c ≤ Char.ofNat (c.toNat + 32))
      (by decide +kernel) hlt h
  · exact le_refl c

/-- The text with small letters in place of ASCII capitals. -/
def lowerText (s : String) : String :=
  String.ofList (s.toList.map lowerAscii)

/-- A text that lower-casing changes comes before what it becomes. -/
theorem lt_of_lowerText_eq {s t : String} (h : lowerText s = t) (hne : s ≠ t) : s < t := by
  have hchars (cs : List Char) : cs.map lowerAscii ≠ cs → cs < cs.map lowerAscii := by
    induction cs with
    | nil => simp
    | cons c rest ih =>
        intro hchanged
        rw [List.map_cons]
        rcases (le_lowerAscii c).eq_or_lt with hc | hc
        · rw [← hc]
          refine List.Lex.cons (ih fun hrest => hchanged ?_)
          rw [List.map_cons, hrest, ← hc]
        · exact List.Lex.rel hc
  rw [String.lt_iff_toList_lt, ← h, lowerText, String.toList_ofList]
  refine hchars _ fun hsame => hne ?_
  rw [← h, lowerText, hsame, String.ofList_toList]

end FleetGate.Text
