import CodecGen.Proofs.Tag.Grammar
import CodecGen.Proofs.Text.ByteOrder
import CodecGen.Tag.Scanner

/-!
# Positions in tags

Reading a tag by positions never fails a check and gives the pairs, or the fault, that reading from
characters gives (`parseBytes_eq`). A position that is reached is always one where a character
begins, since the bytes that are looked for are those of single characters: no byte of a longer
character is below 128.
-/

namespace CodecGen.Tag

open Text (byteLength byteLength_pos)

/-! ## Bytes of characters -/

/-- A character of ASCII is one byte, its code point. -/
theorem utf8EncodeChar_of_ascii {c : Char} (h : c.toNat < 128) :
    String.utf8EncodeChar c = [UInt8.ofNat c.toNat] := by
  rw [Text.utf8EncodeChar_eq_form, if_pos h]
  simp only [Text.form, Text.byteAt, Nat.mod_eq_of_lt h, Nat.add_zero]

/-- No byte of a form for more than one byte is a character of ASCII. -/
theorem le_of_mem_form {mark k : Nat} (hk : 0 < k) (hroom : k + mark ≤ 256) (hmark : 128 ≤ mark)
    {more m : Nat} {b : UInt8} (hb : b ∈ Text.form mark k more m) : 128 ≤ b.toNat := by
  induction more generalizing m with
  | zero =>
    rw [List.mem_singleton.mp hb, Text.toNat_byteAt hk hroom]
    omega
  | succ more ih =>
    rcases List.mem_append.mp hb with hb | hb
    · exact ih hb
    · rw [List.mem_singleton.mp hb, Text.toNat_byteAt (by decide) (by decide)]
      omega

/-- The encoding of any other character has no byte of ASCII in it. -/
theorem le_of_not_ascii {c : Char} (h : ¬c.toNat < 128) {b : UInt8}
    (hb : b ∈ String.utf8EncodeChar c) : 128 ≤ b.toNat := by
  rw [Text.utf8EncodeChar_eq_form, if_neg h] at hb
  split_ifs at hb
  · exact le_of_mem_form (by decide) (by decide) (by decide) hb
  · exact le_of_mem_form (by decide) (by decide) (by decide) hb
  · exact le_of_mem_form (by decide) (by decide) (by decide) hb

/-- A class of bytes tells for every byte of a character whether the character is in a class. -/
def Tells (p : UInt8 → Bool) (q : Char → Bool) : Prop :=
  ∀ c, ∀ b ∈ String.utf8EncodeChar c, p b = q c

/-- It is enough that the classes agree on the first 128 bytes and characters and hold all or none
of the others. -/
theorem tells_of_ascii {p : UInt8 → Bool} {q : Char → Bool} (high : Bool)
    (hbyte : ∀ b : UInt8, 128 ≤ b.toNat → p b = high)
    (hchar : ∀ c : Char, 128 ≤ c.toNat → q c = high)
    (hascii : ∀ n < 128, p (UInt8.ofNat n) = q (Char.ofNat n)) : Tells p q := by
  intro c b hb
  by_cases hc : c.toNat < 128
  · rw [utf8EncodeChar_of_ascii hc] at hb
    rw [List.mem_singleton.mp hb, hascii _ hc, Char.ofNat_toNat]
  · rw [hbyte b (le_of_not_ascii hc hb), hchar c (by omega)]

/-- A code point of ASCII is that of its character. -/
theorem toNat_ofNat_of_lt {n : Nat} (hn : n < 128) : (Char.ofNat n).toNat = n := by
  rw [Char.ofNat, dif_pos (Or.inl (by omega))]
  rfl

/-- A byte below 128 is looked for to find the character with its number. -/
theorem tells_eq {n : Nat} (hn : n < 128) : Tells (· == UInt8.ofNat n) (· == Char.ofNat n) := by
  refine tells_of_ascii false ?_ ?_ ?_
  · intro b hb
    rw [beq_eq_false_iff_ne]
    rintro rfl
    rw [UInt8.toNat_ofNat'] at hb
    omega
  · intro c hc
    rw [beq_eq_false_iff_ne]
    rintro rfl
    rw [toNat_ofNat_of_lt hn] at hc
    omega
  · intro m hm
    rw [Bool.eq_iff_iff, beq_iff_eq, beq_iff_eq, ← UInt8.toNat_inj, ← Char.toNat_inj,
      UInt8.toNat_ofNat', UInt8.toNat_ofNat', toNat_ofNat_of_lt hm, toNat_ofNat_of_lt hn]
    omega

/-- The byte of a space tells where a space is. -/
theorem tells_space : Tells (· == 0x20) (· == ' ') :=
  tells_eq (n := 0x20) (by decide)

/-- The byte of a double quote tells where a quote is. -/
theorem tells_quote : Tells (· == 0x22) (· == '"') :=
  tells_eq (n := 0x22) (by decide)

/-- The byte of a backslash tells where a backslash is. -/
theorem tells_backslash : Tells (· == 0x5C) (· == '\\') :=
  tells_eq (n := 0x5C) (by decide)

/-- The bytes of keys tell where characters of keys are. -/
theorem tells_key : Tells isKeyByte isKeyChar := by
  refine tells_of_ascii true ?_ ?_ (by decide)
  · intro b hb
    have hne : ∀ n < 128, b ≠ UInt8.ofNat n := by
      rintro n hn rfl
      rw [UInt8.toNat_ofNat'] at hb
      omega
    have hspace : 0x20 < b := UInt8.lt_iff_toNat_lt.mpr (by
      show 32 < b.toNat
      omega)
    simp only [isKeyByte, Bool.and_eq_true, decide_eq_true_eq, bne_iff_ne]
    exact ⟨⟨⟨hspace, hne 0x3A (by decide)⟩, hne 0x22 (by decide)⟩, hne 0x7F (by decide)⟩
  · intro c hc
    have hne : ∀ d : Char, d.toNat < 128 → c ≠ d := by
      rintro d hd rfl
      omega
    have hspace : ' ' < c := by
      show ' '.toNat < c.toNat
      have hvalue : ' '.toNat = 32 := rfl
      omega
    simp only [isKeyChar, Bool.and_eq_true, decide_eq_true_eq, bne_iff_ne]
    exact ⟨⟨⟨hspace, hne ':' (by decide)⟩, hne '"' (by decide)⟩, hne '\x7f' (by decide)⟩

/-- Texts one after another have their bytes one after another. -/
theorem bytesOf_append (cs ds : List Char) : bytesOf (cs ++ ds) = bytesOf cs ++ bytesOf ds :=
  List.flatMap_append

/-- The bytes of a text begin with those of its first character. -/
theorem bytesOf_cons (c : Char) (cs : List Char) :
    bytesOf (c :: cs) = String.utf8EncodeChar c ++ bytesOf cs :=
  List.flatMap_cons

/-- The length of a text in bytes is the number of its bytes. -/
theorem length_bytesOf (cs : List Char) : (bytesOf cs).length = byteLength cs := by
  induction cs with
  | nil => rfl
  | cons c cs ih =>
    rw [bytesOf_cons, List.length_append, String.length_utf8EncodeChar, ih, Text.byteLength_cons]

/-- The first byte of a text tells for its first character. -/
theorem Tells.head {p : UInt8 → Bool} {q : Char → Bool} (h : Tells p q) {cs : List Char}
    (hcs : ∀ c, cs.head? = some c → q c = false) :
    ∀ b, (bytesOf cs).head? = some b → p b = false := by
  intro b hb
  cases cs with
  | nil => cases hb
  | cons c cs =>
    obtain ⟨d, ds, hd⟩ := List.exists_cons_of_ne_nil (String.utf8EncodeChar_ne_nil (c := c))
    rw [bytesOf_cons, hd] at hb
    cases hb
    rw [h c b (hd ▸ List.mem_cons_self), hcs c rfl]

/-! ## Loops over bytes -/

section

variable {p : UInt8 → Bool} {b : UInt8}

/-- The byte behind some others is read at the position after them. -/
theorem readByte_append (xs zs : List UInt8) : readByte (xs ++ b :: zs) xs.length = .ok b := by
  unfold readByte
  rw [List.getElem?_append_right (Nat.le_refl _), Nat.sub_self, List.getElem?_cons_zero]

/-- This position is inside the text. -/
theorem length_lt_append (xs zs : List UInt8) : xs.length < (xs ++ b :: zs).length := by
  simp

/-- Bytes of a class are skipped as far as they go. -/
theorem skipBytes_bytes {ys zs : List UInt8} (hys : ∀ b ∈ ys, p b = true)
    (hzs : ∀ b, zs.head? = some b → p b = false) (xs : List UInt8) :
    skipBytes p (xs ++ (ys ++ zs)) xs.length = .ok (xs.length + ys.length) := by
  induction ys generalizing xs with
  | nil =>
    cases zs with
    | nil =>
      rw [skipBytes, if_neg (by simp)]
      rfl
    | cons b zs =>
      rw [List.nil_append, skipBytes, if_pos (length_lt_append xs zs), readByte_append]
      simp only [bind, Except.bind, hzs b rfl, Bool.false_eq_true, if_false]
      rfl
  | cons b ys ih =>
    have hmore := ih (fun d hd => hys d (List.mem_cons_of_mem _ hd)) (xs ++ [b])
    rw [List.append_assoc, List.singleton_append, List.length_append, List.length_singleton]
      at hmore
    rw [List.cons_append, skipBytes, if_pos (length_lt_append xs _), readByte_append]
    simp only [bind, Except.bind, hys b List.mem_cons_self, if_true, hmore, List.length_cons]
    congr 1
    omega

/-- The search for a quote ends with the text. -/
theorem closingByte_end {bytes : List UInt8} {i : Nat} (h : bytes.length ≤ i) :
    closingByte bytes i = .ok i := by
  rw [closingByte, if_neg (by omega)]
  rfl

/-- One byte decides how the search for a quote goes on: there, two bytes further, or one. -/
theorem closingByte_cons (xs zs : List UInt8) :
    closingByte (xs ++ b :: zs) xs.length =
      if b = 0x22 then .ok xs.length
      else if b = 0x5C then closingByte (xs ++ b :: zs) (xs.length + 2)
      else closingByte (xs ++ b :: zs) (xs.length + 1) := by
  rw [closingByte, if_pos (length_lt_append xs zs), readByte_append]
  rfl

/-- Bytes that are neither a quote nor a backslash are passed over. -/
theorem closingByte_skip {ys : List UInt8} (hys : ∀ b ∈ ys, b ≠ 0x22 ∧ b ≠ 0x5C)
    (xs zs : List UInt8) :
    closingByte (xs ++ (ys ++ zs)) xs.length =
      closingByte (xs ++ (ys ++ zs)) (xs.length + ys.length) := by
  induction ys generalizing xs with
  | nil => rfl
  | cons b ys ih =>
    obtain ⟨hquote, hback⟩ := hys b List.mem_cons_self
    have hmore := ih (fun d hd => hys d (List.mem_cons_of_mem _ hd)) (xs ++ [b])
    rw [List.append_assoc, List.singleton_append, List.length_append, List.length_singleton]
      at hmore
    rw [List.cons_append, closingByte_cons, if_neg hquote, if_neg hback, hmore, List.length_cons]
    congr 1
    omega

end

/-! ## Loops over characters -/

/-- All characters of a class are passed over by their bytes. -/
theorem skipBytes_text {p : UInt8 → Bool} {q : Char → Bool} (h : Tells p q)
    (before cs : List Char) :
    skipBytes p (bytesOf (before ++ cs)) (byteLength before) =
      .ok (byteLength before + byteLength (cs.takeWhile q)) := by
  have hinside : ∀ b ∈ bytesOf (cs.takeWhile q), p b = true := by
    intro b hb
    obtain ⟨c, hc, hbyte⟩ := List.mem_flatMap.mp hb
    rw [h c b hbyte]
    exact List.all_eq_true.mp List.all_takeWhile c hc
  have houtside : ∀ c, (cs.dropWhile q).head? = some c → q c = false := by
    intro c hc
    have hhead := List.head?_dropWhile_not q cs
    rw [hc] at hhead
    simpa using hhead
  have hskip := skipBytes_bytes hinside (h.head houtside) (bytesOf before)
  rw [← bytesOf_append, ← bytesOf_append, List.takeWhile_append_dropWhile, length_bytesOf,
    length_bytesOf] at hskip
  exact hskip

/-- The bytes of a character that is neither a quote nor a backslash are neither. -/
theorem ne_of_mem_utf8EncodeChar {c : Char} (hquote : c ≠ '"') (hback : c ≠ '\\') :
    ∀ b ∈ String.utf8EncodeChar c, b ≠ 0x22 ∧ b ≠ 0x5C := by
  intro b hb
  have hquoteByte : (b == 0x22) = (c == '"') := tells_quote c b hb
  have hbackByte : (b == 0x5C) = (c == '\\') := tells_backslash c b hb
  rw [beq_false_of_ne hquote] at hquoteByte
  rw [beq_false_of_ne hback] at hbackByte
  exact ⟨ne_of_beq_false hquoteByte, ne_of_beq_false hbackByte⟩

/-- The bytes of a character after its first one are neither quotes nor backslashes. -/
theorem ne_of_mem_tail {c : Char} {b : UInt8} {bs : List UInt8}
    (hc : String.utf8EncodeChar c = b :: bs) : ∀ d ∈ bs, d ≠ 0x22 ∧ d ≠ 0x5C := by
  intro d hd
  have hhigh : ¬c.toNat < 128 := by
    intro hascii
    rw [utf8EncodeChar_of_ascii hascii] at hc
    cases hc
    cases hd
  have hle := le_of_not_ascii hhigh (hc ▸ List.mem_cons_of_mem b hd)
  constructor
  · rintro rfl
    exact absurd hle (by decide)
  · rintro rfl
    exact absurd hle (by decide)

/-- A character that is neither quote nor backslash is passed with all its bytes. -/
theorem closingByte_char {c : Char} (hquote : c ≠ '"') (hback : c ≠ '\\') (before cs : List Char) :
    closingByte (bytesOf (before ++ c :: cs)) (byteLength before) =
      closingByte (bytesOf (before ++ c :: cs)) (byteLength (before ++ [c])) := by
  have hskip := closingByte_skip (ne_of_mem_utf8EncodeChar hquote hback) (bytesOf before)
    (bytesOf cs)
  rw [← bytesOf_cons, ← bytesOf_append, length_bytesOf, String.length_utf8EncodeChar] at hskip
  rw [Text.byteLength_append]
  exact hskip

/-- The character after a backslash is passed over whatever it is: its first byte together with the
backslash, and the others because they are neither quotes nor backslashes. -/
theorem closingByte_escape (c : Char) (before cs : List Char) :
    closingByte (bytesOf (before ++ '\\' :: c :: cs)) (byteLength before) =
      closingByte (bytesOf (before ++ '\\' :: c :: cs)) (byteLength (before ++ ['\\', c])) := by
  obtain ⟨b, bs, hb⟩ := List.exists_cons_of_ne_nil (String.utf8EncodeChar_ne_nil (c := c))
  have hbytes : bytesOf (before ++ '\\' :: c :: cs) =
      (bytesOf before ++ [0x5C, b]) ++ (bs ++ bytesOf cs) := by
    rw [bytesOf_append, bytesOf_cons, bytesOf_cons, hb, List.append_assoc]
    rfl
  have hlength : (bytesOf before ++ [0x5C, b]).length = byteLength before + 2 := by
    rw [List.length_append, length_bytesOf]
    rfl
  have hsize : c.utf8Size = bs.length + 1 := by
    rw [← String.length_utf8EncodeChar, hb, List.length_cons]
  have hslash := closingByte_cons (b := 0x5C) (bytesOf before) (b :: (bs ++ bytesOf cs))
  have hrest := closingByte_skip (ne_of_mem_tail hb) (bytesOf before ++ [0x5C, b]) (bytesOf cs)
  rw [if_neg (by decide), if_pos rfl, length_bytesOf] at hslash
  rw [hlength] at hrest
  calc closingByte (bytesOf (before ++ '\\' :: c :: cs)) (byteLength before)
      = closingByte (bytesOf before ++ 0x5C :: b :: (bs ++ bytesOf cs)) (byteLength before) := by
        rw [hbytes, List.append_assoc]
        rfl
    _ = closingByte ((bytesOf before ++ [0x5C, b]) ++ (bs ++ bytesOf cs))
          (byteLength before + 2) := by
        rw [hslash, List.append_assoc]
        rfl
    _ = closingByte (bytesOf (before ++ '\\' :: c :: cs)) (byteLength before + 2 + bs.length) := by
        rw [hrest, hbytes]
    _ = _ := by
        rw [Text.byteLength_append, Text.byteLength_cons, Text.byteLength_cons, hsize]
        congr 1
        show _ = byteLength before + (1 + (bs.length + 1 + 0))
        omega

/-- The quote that closes a literal is found by its position. Without one, the end of the text is
passed. -/
theorem closingByte_text (before cs : List Char) :
    ∃ i, closingByte (bytesOf (before ++ cs)) (byteLength before) = .ok i ∧
      match closing? cs with
      | some (body, _) => i + 1 = byteLength before + byteLength body
      | none => byteLength (before ++ cs) ≤ i := by
  fun_induction closing? cs generalizing before with
  | case1 =>
    refine ⟨byteLength before, closingByte_end ?_, ?_⟩
    · rw [length_bytesOf, List.append_nil]
    · rw [List.append_nil]
  | case2 =>
    have hbytes : bytesOf (before ++ ['\\']) = bytesOf before ++ [0x5C] := bytesOf_append _ _
    refine ⟨byteLength before + 2, ?_, ?_⟩
    · rw [hbytes, ← length_bytesOf, closingByte_cons, if_neg (by decide), if_pos rfl]
      exact closingByte_end (by simp)
    · rw [Text.byteLength_append]
      show _ + 1 ≤ _
      omega
  | case3 c cs ih =>
    obtain ⟨i, hi, hpost⟩ := ih (before ++ ['\\', c])
    rw [List.append_assoc] at hi hpost
    refine ⟨i, (closingByte_escape c before cs).trans hi, ?_⟩
    cases hclose : closing? cs with
    | none =>
      rw [hclose] at hpost
      exact hpost
    | some p =>
      rw [hclose] at hpost
      rw [Text.byteLength_append] at hpost
      show i + 1 = byteLength before + byteLength (['\\', c] ++ p.1)
      rw [hpost, Text.byteLength_append, Nat.add_assoc]
  | case4 cs =>
    have hbytes : bytesOf (before ++ '"' :: cs) = bytesOf before ++ 0x22 :: bytesOf cs := by
      rw [bytesOf_append, bytesOf_cons]
      rfl
    refine ⟨byteLength before, ?_, rfl⟩
    rw [hbytes, ← length_bytesOf, closingByte_cons, if_pos rfl]
  | case5 c cs hlast hescape hquote ih =>
    obtain ⟨i, hi, hpost⟩ := ih (before ++ [c])
    rw [List.append_assoc] at hi hpost
    -- a backslash would have begun an escape, or stood at the end
    have hback : c ≠ '\\' := by
      rintro rfl
      cases cs with
      | nil => exact hlast rfl rfl
      | cons c' cs' => exact hescape c' cs' rfl rfl
    refine ⟨i, (closingByte_char hquote hback before cs).trans hi, ?_⟩
    cases hclose : closing? cs with
    | none =>
      rw [hclose] at hpost
      exact hpost
    | some p =>
      rw [hclose] at hpost
      rw [Text.byteLength_append] at hpost
      show i + 1 = byteLength before + byteLength ([c] ++ p.1)
      rw [hpost, Text.byteLength_append, Nat.add_assoc]

/-! ## Pairs -/

/-- A byte below 128 is the character with its number. -/
theorem exists_of_bytesOf_cons {n : Nat} (hn : n < 128) {cs : List Char} {zs : List UInt8}
    (h : bytesOf cs = UInt8.ofNat n :: zs) :
    ∃ more, cs = Char.ofNat n :: more ∧ bytesOf more = zs := by
  cases cs with
  | nil => cases h
  | cons c more =>
    obtain ⟨b, bs, hb⟩ := List.exists_cons_of_ne_nil (String.utf8EncodeChar_ne_nil (c := c))
    have hc : (b == UInt8.ofNat n) = (c == Char.ofNat n) :=
      tells_eq hn c b (hb ▸ List.mem_cons_self)
    rw [bytesOf_cons, hb] at h
    obtain ⟨hbyte, hmore⟩ := List.cons.inj h
    rw [hbyte, beq_self_eq_true] at hc
    have hchar := eq_of_beq hc.symm
    rw [utf8EncodeChar_of_ascii (by rw [hchar, toNat_ofNat_of_lt hn]; exact hn)] at hb
    rw [← (List.cons.inj hb).2] at hmore
    exact ⟨more, by rw [hchar], hmore⟩

/-- The second of two bytes behind some others is read one position later. -/
theorem readByte_append_succ {b d : UInt8} (xs zs : List UInt8) :
    readByte (xs ++ b :: d :: zs) (xs.length + 1) = .ok d := by
  have hread := readByte_append (b := d) (xs ++ [b]) zs
  rwa [List.append_assoc, List.length_append] at hread

/-- A key that is not followed by a colon and a quote leaves a pair malformed at its end. -/
theorem front_of_not_mark {offset : Nat} {cs : List Char} (hne : cs.takeWhile isKeyChar ≠ [])
    (h : ∀ more, cs.dropWhile isKeyChar ≠ ':' :: '"' :: more) :
    front offset cs = .error ⟨.pair, offset + byteLength (cs.takeWhile isKeyChar)⟩ := by
  unfold front
  rw [if_neg hne]
  split
  · rename_i more hdrop
    exact absurd hdrop (h more)
  · rfl

/-- The text between two others is cut out by the positions at its ends. -/
theorem cutText_append (before cs after : List Char) :
    cutText (before ++ (cs ++ after)) (byteLength before) (byteLength before + byteLength cs) =
      .ok cs := by
  unfold cutText
  rw [Text.slice?_append]

/-- What follows a key with its mark is the value that the text there begins with. -/
theorem valueAt_eq (before key more : List Char) :
    valueAt (before ++ (key ++ ':' :: '"' :: more)) (byteLength before)
        (byteLength before + byteLength key) =
      .ok (match closing? more with
        | none => .error ⟨.value, byteLength before + byteLength key + 1⟩
        | some (body, _) =>
          match unquote? ('"' :: body) with
          | none => .error ⟨.value, byteLength before + byteLength key + 1⟩
          | some value => .ok (.ofValue key value,
              byteLength before + byteLength (key ++ ':' :: '"' :: body))) := by
  have htext : before ++ (key ++ ':' :: '"' :: more) = (before ++ key ++ [':', '"']) ++ more := by
    simp
  have hposition : byteLength (before ++ key ++ [':', '"']) =
      byteLength before + byteLength key + 2 := by
    rw [Text.byteLength_append, Text.byteLength_append]
    rfl
  obtain ⟨close, hclose, hpost⟩ := closingByte_text (before ++ key ++ [':', '"']) more
  rw [← htext, hposition] at hclose
  unfold valueAt
  rw [cutText_append]
  simp only [bind, Except.bind, hclose, length_bytesOf]
  cases hmore : closing? more with
  | none =>
    rw [hmore, ← htext] at hpost
    rw [if_pos hpost]
    rfl
  | some p =>
    obtain ⟨body, rest⟩ := p
    rw [hmore, hposition] at hpost
    -- the literal is what stands between the mark and the position of the quote
    have hliteral : before ++ (key ++ ':' :: '"' :: more) =
        (before ++ key ++ [':']) ++ ('"' :: body ++ rest) := by
      rw [← closing?_append hmore]
      simp
    have hstart : byteLength (before ++ key ++ [':']) = byteLength before + byteLength key + 1 := by
      rw [Text.byteLength_append, Text.byteLength_append]
      rfl
    have hbody : byteLength ('"' :: body) = byteLength body + 1 := Nat.add_comm _ _
    have hinside : ¬byteLength (before ++ (key ++ ':' :: '"' :: more)) ≤ close := by
      rw [hliteral, Text.byteLength_append, hstart, Text.byteLength_append, hbody]
      omega
    have hcut : cutText (before ++ (key ++ ':' :: '"' :: more))
        (byteLength before + byteLength key + 1) (close + 1) = .ok ('"' :: body) := by
      have hstop : close + 1 =
          byteLength (before ++ key ++ [':']) + byteLength ('"' :: body) := by
        omega
      rw [hliteral, hstop, ← hstart]
      exact cutText_append _ _ _
    have hend : byteLength (key ++ ':' :: '"' :: body) =
        byteLength key + (1 + byteLength ('"' :: body)) :=
      Text.byteLength_append _ _
    rw [if_neg hinside, hcut]
    show (match unquote? ('"' :: body) with | none => _ | some value => _) =
      Except.ok (match unquote? ('"' :: body) with | none => _ | some value => _)
    cases unquote? ('"' :: body) with
    | none => rfl
    | some value =>
      rw [hend, hbody, show close + 1 = byteLength before +
        (byteLength key + (1 + (byteLength body + 1))) by omega]
      rfl

/-- The pair at a position where a character begins is the one that the text from there on begins
with. Nothing that is looked at or cut out is missing. -/
theorem pairAt_eq (before ahead : List Char) :
    pairAt (before ++ ahead) (byteLength before) =
      .ok ((front (byteLength before) ahead).map fun p =>
        (p.1, byteLength before + byteLength p.2.1)) := by
  obtain ⟨key, hkey⟩ : ∃ key, key = ahead.takeWhile isKeyChar := ⟨_, rfl⟩
  obtain ⟨after, hafter⟩ : ∃ after, after = ahead.dropWhile isKeyChar := ⟨_, rfl⟩
  have hskip : skipBytes isKeyByte (bytesOf (before ++ ahead)) (byteLength before) =
      .ok (byteLength before + byteLength key) := by
    rw [hkey]
    exact skipBytes_text tells_key before ahead
  have hahead : ahead = key ++ after := by
    rw [hkey, hafter, List.takeWhile_append_dropWhile]
  have hbytes : bytesOf (before ++ ahead) = bytesOf (before ++ key) ++ bytesOf after := by
    rw [hahead, ← List.append_assoc, bytesOf_append]
  have hstop : byteLength before + byteLength key = (bytesOf (before ++ key)).length := by
    rw [length_bytesOf, Text.byteLength_append]
  unfold pairAt
  simp only [hskip, bind, Except.bind]
  by_cases hnone : key = []
  · rw [if_pos (by rw [hnone]; rfl), front, if_pos (hkey.symm.trans hnone)]
    rfl
  have hlt := byteLength_pos hnone
  rw [if_neg (by omega)]
  have hfault : (∀ more, after ≠ ':' :: '"' :: more) → front (byteLength before) ahead =
      .error ⟨.pair, byteLength before + byteLength key⟩ := by
    intro h
    rw [hkey]
    exact front_of_not_mark (hkey ▸ hnone) (hafter ▸ h)
  -- both bytes after the key are looked at only where there are two
  by_cases hshort : (bytesOf after).length ≤ 1
  · have hlength : (bytesOf (before ++ ahead)).length ≤
        byteLength before + byteLength key + 1 := by
      rw [hbytes, List.length_append, ← hstop]
      omega
    have hno : ∀ more, after ≠ ':' :: '"' :: more := by
      rintro more rfl
      exact absurd (Nat.le_of_succ_le_succ hshort) (Nat.not_succ_le_zero _)
    rw [if_pos hlength, hfault hno]
    rfl
  obtain ⟨b, d, zs, hzs⟩ : ∃ b d zs, bytesOf after = b :: d :: zs := by
    match hzs : bytesOf after with
    | [] => exact absurd (by rw [hzs]; decide) hshort
    | [b] => exact absurd (by rw [hzs]; exact Nat.le_refl 1) hshort
    | b :: d :: zs => exact ⟨b, d, zs, rfl⟩
  have hlength : ¬(bytesOf (before ++ ahead)).length ≤ byteLength before + byteLength key + 1 := by
    rw [hbytes, List.length_append, ← hstop, hzs, List.length_cons, List.length_cons]
    omega
  have hcolon : readByte (bytesOf (before ++ ahead)) (byteLength before + byteLength key) =
      .ok b := by
    rw [hbytes, hzs, hstop, readByte_append]
  have hquote : readByte (bytesOf (before ++ ahead)) (byteLength before + byteLength key + 1) =
      .ok d := by
    rw [hbytes, hzs, hstop, readByte_append_succ]
  simp only [if_neg hlength, hcolon, hquote]
  by_cases hmark : b ≠ 0x3A ∨ d ≠ 0x22
  · have hno : ∀ more, after ≠ ':' :: '"' :: more := by
      rintro more rfl
      cases hzs
      exact absurd hmark (by decide)
    rw [if_pos hmark, hfault hno]
    rfl
  · obtain ⟨rfl, rfl⟩ : b = 0x3A ∧ d = 0x22 := by simpa using hmark
    -- two bytes of ASCII are two characters, since no byte of a longer one is below 0x80
    obtain ⟨more, rfl⟩ : ∃ more, after = ':' :: '"' :: more := by
      obtain ⟨ds, rfl, hds⟩ := exists_of_bytesOf_cons (n := 0x3A) (by decide) hzs
      obtain ⟨more, rfl, -⟩ := exists_of_bytesOf_cons (n := 0x22) (by decide) hds
      exact ⟨more, rfl⟩
    have hvalue := valueAt_eq before key more
    rw [← hahead] at hvalue
    rw [if_neg hmark, hvalue, front, ← hkey, ← hafter, if_neg hnone]
    cases hclose : closing? more with
    | none =>
      simp only [hclose]
      rfl
    | some p =>
      simp only [hclose]
      cases unquote? ('"' :: p.1) <;> rfl

/-! ## Tags -/

/-- The spaces before a pair are passed over. -/
theorem parseFrom_spaces (offset : Nat) (cs : List Char) :
    parseFrom offset cs = parseFrom (offset + byteLength (cs.takeWhile (· == ' ')))
      (cs.dropWhile (· == ' ')) := by
  induction cs generalizing offset with
  | nil => rfl
  | cons c cs ih =>
    by_cases hc : c = ' '
    · subst hc
      rw [parseFrom, ih, List.takeWhile_cons_of_pos (by decide),
        List.dropWhile_cons_of_pos (by decide), Text.byteLength_cons, Nat.add_assoc]
      rfl
    · have hspace : ¬(c == ' ') = true := by simpa using hc
      rw [List.takeWhile_cons_of_neg (p := (· == ' ')) hspace,
        List.dropWhile_cons_of_neg (p := (· == ' ')) hspace]
      rfl

/-- Pairs are read up to the first that is malformed, whose fault is that of the tag. -/
theorem parseFrom_of_front_error {offset : Nat} {c : Char} {cs : List Char} {e : Fault}
    (hc : c ≠ ' ') (h : front offset (c :: cs) = .error e) :
    parseFrom offset (c :: cs) = .error e := by
  rw [parseFrom]
  · split
    · rename_i e' herror
      rw [h] at herror
      cases herror
      rfl
    · rename_i p text rest hok
      rw [h] at hok
      cases hok
  · exact fun hspace => hc hspace

/-- The pairs from a position on where a character begins are those of the text from there on. The
induction is on that text, of which every pair takes some. -/
theorem pairsFrom_eq (before ahead : List Char) :
    pairsFrom (before ++ ahead) (byteLength before) =
      .ok (parseFrom (byteLength before) ahead) := by
  induction hlength : ahead.length using Nat.strong_induction_on generalizing before ahead with
  | _ n ih =>
  obtain ⟨spaces, hspaces⟩ : ∃ spaces, spaces = ahead.takeWhile (· == ' ') := ⟨_, rfl⟩
  obtain ⟨rest, hrest⟩ : ∃ rest, rest = ahead.dropWhile (· == ' ') := ⟨_, rfl⟩
  have hskip : skipBytes (· == 0x20) (bytesOf (before ++ ahead)) (byteLength before) =
      .ok (byteLength (before ++ spaces)) := by
    rw [skipBytes_text tells_space, Text.byteLength_append, hspaces]
  have hahead : before ++ ahead = (before ++ spaces) ++ rest := by
    rw [hspaces, hrest, List.append_assoc, List.takeWhile_append_dropWhile]
  rw [hahead] at hskip ⊢
  rw [parseFrom_spaces, ← hspaces, ← hrest, ← Text.byteLength_append, pairsFrom]
  simp only [hskip, bind, Except.bind, length_bytesOf]
  cases hc : rest with
  | nil =>
    rw [List.append_nil, if_pos (Nat.le_refl _), parseFrom]
    rfl
  | cons c cs =>
    have hspace : c ≠ ' ' := by
      have hhead := List.head?_dropWhile_not (· == ' ') ahead
      rw [← hrest, hc] at hhead
      simpa using hhead
    have hmore : ¬byteLength (before ++ spaces ++ c :: cs) ≤ byteLength (before ++ spaces) := by
      have hpos := byteLength_pos (List.cons_ne_nil c cs)
      rw [Text.byteLength_append]
      omega
    rw [if_neg hmore, pairAt_eq]
    cases hfront : front (byteLength (before ++ spaces)) (c :: cs) with
    | error e =>
      rw [parseFrom_of_front_error hspace hfront]
      rfl
    | ok result =>
      obtain ⟨p, text, after⟩ := result
      obtain ⟨hsplit, htext⟩ := front_split hfront
      have hpos := byteLength_pos htext
      -- the position after the pair is further on and within the text, so the loop does not stall
      have hnext : byteLength before < byteLength (before ++ spaces) + byteLength text ∧
          byteLength (before ++ spaces) + byteLength text ≤
            byteLength (before ++ spaces ++ c :: cs) := by
        rw [← hsplit]
        simp only [Text.byteLength_append]
        omega
      have hlt : after.length < n := by
        have hle := (List.dropWhile_suffix (l := ahead) (· == ' ')).length_le
        have htotal := congrArg List.length hsplit
        rw [List.length_append, ← hc, hrest] at htotal
        have htext := List.length_pos_iff.mpr htext
        omega
      have hmore := ih after.length hlt (before ++ spaces ++ text) after rfl
      rw [List.append_assoc, hsplit, Text.byteLength_append] at hmore
      rw [parseFrom_of_front hspace hfront]
      simp only [Except.map, dif_pos hnext, hmore]
      rfl

/-- A tag that is read by positions has every byte that is looked at and is cut at characters only,
and its pairs, or its fault, are those that are read from its characters. -/
theorem parseBytes_eq (text : String) : parseBytes text = .ok (parse text) :=
  pairsFrom_eq [] text.toList

end CodecGen.Tag
