/-!
# ASCII letters and digits

* `lowerAscii`, `sameAscii` — comparison that ignores the case of the letters A–Z alone.
* `forall_ascii`, `toLower_congr` — what is checked for the ASCII characters one by one.
* `digitValue`, `hexDigit?` — the value of a digit; `natOfDigits` — the number that digits write.
-/

set_option autoImplicit false
namespace ListQuery
namespace Text

/-- A text with the letters A–Z in lower case and every other character as it is. -/
def lowerAscii (s : String) : String :=
  s.map Char.toLower

/-- Whether two texts differ at most in the case of the letters A–Z. -/
def sameAscii (s t : String) : Bool :=
  lowerAscii s == lowerAscii t

theorem sameAscii_iff {s t : String} : sameAscii s t = true ↔ lowerAscii s = lowerAscii t := by
  simp [sameAscii]

/-- Comparison character by character, which is also what a proof can compute with. -/
theorem sameAscii_iff_map {s t : String} :
    sameAscii s t = true ↔ s.toList.map Char.toLower = t.toList.map Char.toLower := by
  rw [sameAscii_iff, lowerAscii, lowerAscii, ← String.toList_inj, String.toList_map,
    String.toList_map]

/-- What holds of the first 128 code points holds of every ASCII character. -/
theorem forall_ascii {p : Char → Prop} (h : ∀ n < 0x80, p (Char.ofNat n)) {c : Char}
    (hc : c.toNat < 0x80) : p c := by
  have hchar := h c.toNat hc
  rwa [Char.ofNat_toNat] at hchar

/-- What does not see the case of the ASCII characters does not see the case of any character. -/
theorem toLower_congr {α : Type} {f : Char → α}
    (h : ∀ n < 0x80, f (Char.ofNat n).toLower = f (Char.ofNat n)) (c : Char) :
    f c.toLower = f c := by
  by_cases hc : c.toNat < 0x80
  · exact forall_ascii (p := fun c => f c.toLower = f c) h hc
  · have hupper : ¬(c.val ≥ 'A'.val ∧ c.val ≤ 'Z'.val) := by
      rintro ⟨-, hle⟩
      have hcode : c.toNat ≤ 'Z'.toNat := UInt32.le_iff_toNat_le.1 hle
      exact hc (Nat.lt_of_le_of_lt hcode (by decide))
    have hsame : c.toLower = c := dif_neg hupper
    rw [hsame]

/-- One of the digits 0–9. -/
def isDigit (c : Char) : Bool :=
  '0' ≤ c && c ≤ '9'

/-- The value of a decimal digit; 0 for any other character. -/
def digitValue (c : Char) : Nat :=
  if isDigit c then c.toNat - '0'.toNat else 0

/-- The value of a hexadecimal digit in either case. -/
def hexDigit? (c : Char) : Option (Fin 16) :=
  if '0' ≤ c && c ≤ '9' then some (Fin.ofNat 16 (c.toNat - '0'.toNat))
  else if 'a' ≤ c && c ≤ 'f' then some (Fin.ofNat 16 (c.toNat - 'a'.toNat + 10))
  else if 'A' ≤ c && c ≤ 'F' then some (Fin.ofNat 16 (c.toNat - 'A'.toNat + 10))
  else none

/-- The number written by decimal digits, most significant first. -/
def natOfDigits (cs : List Char) : Nat :=
  cs.foldl (fun n c => n * 10 + digitValue c) 0

/-- The number that a non-empty row of decimal digits writes; `none` for anything else. -/
def decimalNat? (cs : List Char) : Option Nat :=
  if !cs.isEmpty && cs.all isDigit then some (natOfDigits cs) else none

/-- The rest of a text that begins with `lead`. -/
def afterLead? : (lead cs : List Char) → Option (List Char)
  | [], cs => some cs
  | _ :: _, [] => none
  | a :: lead, c :: cs => if a = c then afterLead? lead cs else none

end Text
end ListQuery
