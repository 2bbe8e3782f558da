import CodecGen.Proofs.Tag.Literal
import CodecGen.Text.LowerCase

/-!
# Lower case forms between double quotes

The lower case form of a character that stands for itself between double quotes stands for itself
too (`all_isPlainChar_lowerCase`).
-/

namespace CodecGen.Text

set_option maxRecDepth 100000 in
/-- The table of lower case forms leads to no character below the backslash. -/
theorem le_target_of_mem_lowerCaseRuns {r : MappingRun} (h : r ∈ lowerCaseRuns) :
    93 ≤ r.target := by
  -- the text is taken apart as a list of characters, which the kernel reads fast
  have htable : ∃ cs, lowerCaseText = String.ofList cs ∧
      (((split ' ' (cs.map fun c => if c = '\n' then ' ' else c)).filter (· ≠ [])).map
        MappingRun.ofText).all (fun r => 93 ≤ r.target) = true :=
    ⟨_, rfl, by decide +kernel⟩
  obtain ⟨cs, htext, hall⟩ := htable
  unfold lowerCaseRuns readMappings RangeSet.tableItems at h
  rw [htext, String.toList_ofList] at h
  exact of_decide_eq_true (List.all_eq_true.mp hall r h)

/-- From the closing square bracket on, all characters stand for themselves between double quotes.
-/
theorem isPlainChar_of_le {c : Char} (h : 93 ≤ c.toNat) : Tag.isPlainChar c = true := by
  have hne : ∀ d : Char, d.toNat < 93 → c ≠ d := by
    rintro d hd rfl
    omega
  simp [Tag.isPlainChar, hne '"' (by decide), hne '\\' (by decide), hne '\n' (by decide)]

/-- So do the characters with such code points, and what a code point without a character gives. -/
theorem isPlainChar_ofNat {n : Nat} (h : 93 ≤ n) : Tag.isPlainChar (Char.ofNat n) = true := by
  by_cases hvalid : n.isValidChar
  · refine isPlainChar_of_le ?_
    have hcode : (Char.ofNat n).toNat = n := by
      rw [Char.ofNat, dif_pos hvalid]
      rfl
    rwa [hcode]
  · have hzero : Char.ofNat n = '\x00' := dif_neg hvalid
    rw [hzero]
    decide

/-- Lower case takes a character of ASCII that stands for itself to one that does. -/
theorem isPlainChar_toLower {c : Char} (hascii : c.val < 128) (h : Tag.isPlainChar c = true) :
    Tag.isPlainChar c.toLower = true := by
  have hall : ∀ n < 128, Tag.isPlainChar (Char.ofNat n) = true →
      Tag.isPlainChar (Char.ofNat n).toLower = true := by decide +kernel
  have hn : c.toNat < 128 := hascii
  have hc := hall c.toNat hn
  rw [Char.ofNat_toNat] at hc
  exact hc h

/-- A run leads to its target and beyond. -/
theorem MappingRun.le_image {r : MappingRun} {n m : Nat} (h : r.image? n = some m) :
    r.target ≤ m := by
  unfold image? at h
  split at h
  · cases h
    exact Nat.le_add_right _ _
  · cases h

/-- No character in the lower case of one that stands for itself needs a backslash. -/
theorem all_isPlainChar_lowerCase {c : Char} (h : Tag.isPlainChar c = true) :
    (lowerCase c).all Tag.isPlainChar = true := by
  unfold lowerCase
  split
  · rename_i hascii
    rw [List.all_cons, isPlainChar_toLower hascii h]
    rfl
  split
  · decide
  · rw [List.all_cons, List.all_nil, Bool.and_true]
    cases himage : lowerCaseRuns.findSome? (·.image? c.toNat) with
    | none => exact h
    | some n =>
      obtain ⟨r, hr, hn⟩ := List.exists_of_findSome?_eq_some himage
      exact isPlainChar_ofNat (Nat.le_trans (le_target_of_mem_lowerCaseRuns hr) (r.le_image hn))

end CodecGen.Text
