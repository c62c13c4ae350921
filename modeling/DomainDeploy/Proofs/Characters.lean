/-!
# Characters and their codes

Digits and letters are ranges of ASCII codes, so that a fact about all of them is decided code by
code (`of_ascii`). Beyond ASCII, a number is the code of a character unless it is that of a
surrogate or too large.
-/

namespace DomainDeploy.Text

variable {c : Char} {n : Nat}

theorem toNat_ofNat (h : n.isValidChar) : (Char.ofNat n).toNat = n := by
  rw [Char.ofNat, dif_pos h]
  rfl

theorem isValidChar_iff : n.isValidChar ↔ ¬(0x110000 ≤ n ∨ 0xD800 ≤ n ∧ n ≤ 0xDFFF) := by
  unfold Nat.isValidChar
  omega

/-- What holds of every ASCII code holds of every ASCII character. -/
theorem of_ascii {p : Char → Bool} (h : ∀ n < 128, p (Char.ofNat n) = true)
    (hc : c.toNat < 128) : p c = true := by
  simpa using h c.toNat hc

theorem toNat_of_isDigit (h : c.isDigit = true) : 48 ≤ c.toNat ∧ c.toNat ≤ 57 := by
  simpa [Char.isDigit, UInt32.le_iff_toNat_le] using h

theorem toNat_of_isAlphanum (h : c.isAlphanum = true) : c.toNat < 128 := by
  have hle {d : Char} (hd : d.toNat < 128) (hc : decide (c.val ≤ d.val) = true) : c.toNat < 128 :=
    Nat.lt_of_le_of_lt (UInt32.le_iff_toNat_le.1 (of_decide_eq_true hc)) hd
  rcases Bool.or_eq_true_iff.1 h with halpha | hdigit
  · rcases Bool.or_eq_true_iff.1 halpha with hupper | hlower
    · exact hle (by decide) (decide_eq_true (of_decide_eq_true hupper).2)
    · exact hle (by decide) (Bool.and_eq_true_iff.1 hlower).2
  · exact hle (by decide) (Bool.and_eq_true_iff.1 hdigit).2

end DomainDeploy.Text
