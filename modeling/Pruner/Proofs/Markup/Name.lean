import Pruner.Markup.Element

/-!
# Names in ASCII

The tree leaves a name as it is that XML admits. Lower case in the tree is lower case in ASCII alone, and
on ASCII text the lower case of the whole character set is the same.
-/

namespace Pruner.Text

def isAscii (c : Char) : Bool :=
  c.toNat < 0x80

/-- A statement on ASCII characters is checked on all of them. -/
theorem forall_ascii {P : Char → Prop} (h : ∀ n < 0x80, P (Char.ofNat n)) {c : Char}
    (hc : isAscii c = true) : P c := by
  have hcode := h c.toNat (of_decide_eq_true hc)
  rwa [Char.ofNat_toNat] at hcode

theorem isAscii_of_isAlphanum {c : Char} (h : c.isAlphanum = true) : isAscii c = true := by
  delta Char.isAlphanum Char.isAlpha Char.isUpper Char.isLower Char.isDigit at h
  simp only [Bool.or_eq_true, Bool.and_eq_true, decide_eq_true_eq, ge_iff_le,
    UInt32.le_iff_toNat_le] at h
  have hlt : c.val.toNat < 0x80 := by
    rcases h with (h | h) | h
    · exact Nat.lt_of_le_of_lt h.2 (by decide)
    · exact Nat.lt_of_le_of_lt h.2 (by decide)
    · exact Nat.lt_of_le_of_lt h.2 (by decide)
  exact decide_eq_true hlt

theorem lowerAfter_ascii {text : List Char} (h : ∀ c ∈ text, isAscii c = true)
    (before : List Char) : lowerAfter before text = text.map Char.toLower := by
  induction text generalizing before with
  | nil => rfl
  | cons c cs ih =>
      obtain ⟨hc, hcs⟩ := List.forall_mem_cons.mp h
      have hsigma : c ≠ 'Σ' := by
        rintro rfl
        exact absurd hc (by decide)
      have hdotted : c ≠ 'İ' := by
        rintro rfl
        exact absurd hc (by decide)
      rw [lowerAfter, ih hcs, if_neg hsigma, if_neg hdotted, lowerChar, if_pos (of_decide_eq_true hc)]
      rfl

theorem lower_ascii {text : List Char} (h : ∀ c ∈ text, isAscii c = true) :
    lower (String.ofList text) = String.ofList (text.map Char.toLower) := by
  rw [lower, String.toList_ofList, lowerAfter_ascii h]

end Pruner.Text

namespace Pruner.Markup

open Text

theorem isNameChar_of_isNameStart {c : Char} (h : isNameStart c = true) : isNameChar c = true := by
  rw [isNameChar]
  split
  · rename_i hascii
    rw [isNameStart, if_pos hascii] at h
    rcases Bool.or_eq_true_iff.mp h with h | h
    · simp [Char.isAlphanum, h]
    · simp [h]
  · simp [h]

/-- A name that XML admits stays as it is. -/
theorem nameChars_of_legal {c : Char} {cs : List Char} (hc : isNameStart c = true)
    (hcs : ∀ d ∈ cs, isNameChar d = true) : nameChars (c :: cs) = c :: cs := by
  have hrest : (cs.flatMap fun d => if isNameChar d then [d] else spellOut d) = cs := by
    induction cs with
    | nil => rfl
    | cons d ds ih =>
        obtain ⟨hd, hds⟩ := List.forall_mem_cons.mp hcs
        rw [List.flatMap_cons, ih hds, if_pos hd]
        rfl
  rw [nameChars, if_pos hc, hrest]
  rfl

end Pruner.Markup
