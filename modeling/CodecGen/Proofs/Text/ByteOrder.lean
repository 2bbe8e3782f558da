import Mathlib.Data.String.Basic
import Mathlib.Data.UInt

/-!
# The order of the bytes of texts

Texts are ordered by their characters, and the bytes that they are stored as are ordered the same
way (`bytes_lt_bytes`): the first byte of a character tells how many there are, more of them for
greater characters, and each byte carries bits of the character from the highest on.
-/

namespace CodecGen.Text

/-- The bytes that a text is stored as. -/
def bytes (s : String) : List UInt8 :=
  s.toByteArray.data.toList

/-- A text is stored as the encodings of its characters in order. -/
theorem bytes_eq (s : String) : bytes s = s.toList.flatMap String.utf8EncodeChar := by
  have h : (String.ofList s.toList).toByteArray = s.toList.utf8Encode := String.toByteArray_ofList
  rw [String.ofList_toList] at h
  rw [bytes, h, List.utf8Encode, List.data_toByteArray]

/-! ## Numbers written in bytes -/

/-- A byte with a remainder above a mark. -/
def byteAt (mark k m : Nat) : UInt8 :=
  UInt8.ofNat (m % k + mark)

/-- A number in a byte with its highest bits, and some more bytes with six bits each. -/
def form (mark k : Nat) : Nat → Nat → List UInt8
  | 0, m => [byteAt mark k m]
  | more + 1, m => form mark k more (m / 64) ++ [byteAt 128 64 m]

section

variable {mark k : Nat} (hk : 0 < k) (hroom : k + mark ≤ 256)

include hk hroom

/-- A byte with a mark has room for the remainder above it. -/
theorem toNat_byteAt (m : Nat) : (byteAt mark k m).toNat = m % k + mark := by
  have hmod := Nat.mod_lt m hk
  rw [byteAt, UInt8.toNat_ofNat']
  omega

/-- The first byte of a form lies above its mark, by less than it has room for. -/
theorem form_head (more m : Nat) :
    ∃ b rest, form mark k more m = b :: rest ∧ mark ≤ b.toNat ∧ b.toNat < mark + k := by
  induction more generalizing m with
  | zero =>
    have hmod := Nat.mod_lt m hk
    refine ⟨_, [], rfl, ?_, ?_⟩ <;> rw [toNat_byteAt hk hroom] <;> omega
  | succ more ih =>
    obtain ⟨b, rest, hform, hbounds⟩ := ih (m / 64)
    exact ⟨b, rest ++ [byteAt 128 64 m], by rw [form, hform, List.cons_append], hbounds⟩

/-- The bytes of a smaller number come before those of a greater one in the same form, whatever
follows either. -/
theorem form_lt_form {more m n : Nat} (hmn : m < n) (hn : n < k * 64 ^ more) (xs ys : List UInt8) :
    form mark k more m ++ xs < form mark k more n ++ ys := by
  induction more generalizing m n xs ys with
  | zero =>
    refine List.cons_lt_cons_iff.mpr (.inl (UInt8.lt_iff_toNat_lt.mpr ?_))
    rw [pow_zero, Nat.mul_one] at hn
    rw [toNat_byteAt hk hroom, toNat_byteAt hk hroom, Nat.mod_eq_of_lt hn,
      Nat.mod_eq_of_lt (hmn.trans hn)]
    omega
  | succ more ih =>
    have hbound : n / 64 < k * 64 ^ more := by
      rw [pow_succ, ← Nat.mul_assoc] at hn
      exact Nat.div_lt_of_lt_mul (Nat.mul_comm (k * 64 ^ more) 64 ▸ hn)
    simp only [form, List.append_assoc]
    -- either the bits before the last byte decide, or that byte does
    rcases Nat.lt_or_eq_of_le (Nat.div_le_div_right (c := 64) hmn.le) with hlt | heq
    · exact ih hlt hbound _ _
    · rw [heq]
      refine List.append_left_lt (List.cons_lt_cons_iff.mpr (.inl ?_))
      rw [UInt8.lt_iff_toNat_lt, toNat_byteAt (by decide) (by decide),
        toNat_byteAt (by decide) (by decide)]
      omega

/-- A form with a lower mark comes before one with a higher mark. -/
theorem form_lt_of_mark {mark' k' : Nat} (hk' : 0 < k') (hroom' : k' + mark' ≤ 256)
    (hmark : mark + k ≤ mark') (more more' m n : Nat) (xs ys : List UInt8) :
    form mark k more m ++ xs < form mark' k' more' n ++ ys := by
  obtain ⟨b, rest, hform, _, hupper⟩ := form_head hk hroom more m
  obtain ⟨b', rest', hform', hlower, _⟩ := form_head hk' hroom' more' n
  rw [hform, hform', List.cons_append, List.cons_append]
  refine List.cons_lt_cons_iff.mpr (.inl (UInt8.lt_iff_toNat_lt.mpr ?_))
  omega

end

/-! ## Characters and texts -/

/-- A character takes one to four bytes, by its number. -/
theorem utf8EncodeChar_eq_form (c : Char) :
    String.utf8EncodeChar c =
      if c.toNat < 128 then form 0 128 0 c.toNat
      else if c.toNat < 2048 then form 192 32 1 c.toNat
      else if c.toNat < 65536 then form 224 16 2 c.toNat
      else form 240 8 3 c.toNat := by
  show String.utf8EncodeChar c =
      if c.val.toNat < 128 then form 0 128 0 c.val.toNat
      else if c.val.toNat < 2048 then form 192 32 1 c.val.toNat
      else if c.val.toNat < 65536 then form 224 16 2 c.val.toNat
      else form 240 8 3 c.val.toNat
  unfold String.utf8EncodeChar
  simp only [form, byteAt, List.cons_append, List.nil_append, Nat.div_div_eq_div_mul, Nat.reduceMul,
    Nat.add_zero]
  generalize c.val.toNat = n
  split_ifs <;> first | rfl | omega | (rw [Nat.mod_eq_of_lt ‹_›])

/-- The bytes of a smaller character come before those of a greater one, whatever follows either. -/
theorem encode_lt_encode {c d : Char} (h : c < d) (xs ys : List UInt8) :
    String.utf8EncodeChar c ++ xs < String.utf8EncodeChar d ++ ys := by
  have hlt : c.toNat < d.toNat := h
  have hmax : d.toNat < 8 * 64 ^ 3 := by
    have hvalid := d.valid
    unfold UInt32.isValidChar Nat.isValidChar at hvalid
    show d.val.toNat < _
    omega
  rw [utf8EncodeChar_eq_form, utf8EncodeChar_eq_form]
  split_ifs <;> first
    | omega
    | exact form_lt_form (by decide) (by decide) hlt (by omega) xs ys
    | exact form_lt_of_mark (by decide) (by decide) (by decide) (by decide) (by decide) _ _ _ _ _ _

/-- Texts in order have their bytes in order. -/
theorem bytes_lt_bytes {a b : String} (h : a < b) : bytes a < bytes b := by
  rw [bytes_eq, bytes_eq]
  have hlists : a.toList < b.toList := String.lt_iff_toList_lt.mp h
  generalize a.toList = cs at hlists
  generalize b.toList = ds at hlists
  induction cs generalizing ds with
  | nil =>
    cases ds with
    | nil => exact absurd hlists (List.lt_irrefl _)
    | cons d ds =>
      have hpos : String.utf8EncodeChar d ≠ [] := by
        rw [utf8EncodeChar_eq_form]
        split_ifs <;> simp [form]
      obtain ⟨x, xs, hx⟩ := List.exists_cons_of_ne_nil hpos
      rw [List.flatMap_nil, List.flatMap_cons, hx]
      exact List.nil_lt_cons _ _
  | cons c cs ih =>
    cases ds with
    | nil => exact absurd hlists (List.not_lt_nil _)
    | cons d ds =>
      rw [List.flatMap_cons, List.flatMap_cons]
      rcases List.cons_lt_cons_iff.mp hlists with hlt | ⟨rfl, hlt⟩
      · exact encode_lt_encode hlt _ _
      · exact List.append_left_lt (ih ds hlt)

end CodecGen.Text
