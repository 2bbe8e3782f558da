import CodecGen.Proofs.Tag.Spelling

/-!
# The escapes of interpreted literals

`Decodes` says which text stands between the quotes of an interpreted literal and what it denotes,
character by character, for a rule on how the numbers of escapes are written. A number has as many
hexadecimal digits as its escape asks for (`FullNumber`). More is taken for one: a plus sign counts
as a digit, and the end of the literal ends the number early (`TakenNumber`). What `unquote?`
decodes is exactly what is written with numbers so taken (`unquote?_eq_some_iff`).
-/

namespace CodecGen.Tag

open Text (RangeSet)
open Text.RangeSet (hexDigit? hexValue)

/-! ## Numbers -/

/-- A hexadecimal digit, in either case. -/
def IsHexDigit (c : Char) : Prop :=
  ('0' ≤ c ∧ c ≤ '9') ∨ ('a' ≤ c ∧ c ≤ 'f') ∨ ('A' ≤ c ∧ c ≤ 'F')

/-- A rule on the numbers of escapes: how many digits the escape asks for, the characters that are
taken for its number, what follows them, and the number. -/
abbrev NumberRule := Nat → List Char → List Char → Nat → Prop

/-- Hexadecimal digits, as many as the escape asks for. -/
def FullNumber : NumberRule := fun width cs _ n =>
  cs.length = width ∧ (∀ c ∈ cs, IsHexDigit c) ∧ n = hexValue cs

/-- As many characters as the escape asks for, or fewer where the literal ends after them: one
hexadecimal digit or more, the first of all possibly after a plus sign. -/
def TakenNumber : NumberRule := fun width cs after n =>
  (cs.length = width ∨ (cs.length < width ∧ after = [])) ∧
    ∃ digits, (cs = digits ∨ cs = '+' :: digits) ∧ digits ≠ [] ∧ (∀ c ∈ digits, IsHexDigit c) ∧
      n = hexValue digits

/-- How many digits an escape by number asks for, by its letter. -/
def numberWidth? : Char → Option Nat
  | 'x' => some 2
  | 'u' => some 4
  | _ => none

/-- The text between the quotes of an interpreted literal, and the text that it denotes. -/
inductive Decodes (number : NumberRule) : List Char → List Char → Prop
  | nil : Decodes number [] []
  | plain {c : Char} {cs ds : List Char} (hc : isPlainChar c = true) (hcs : Decodes number cs ds) :
      Decodes number (c :: cs) (c :: ds)
  /-- An escape by letter. -/
  | letter {c d : Char} {cs ds : List Char} (hc : escaped? c = some d)
      (hcs : Decodes number cs ds) : Decodes number ('\\' :: c :: cs) (d :: ds)
  /-- An escape by number. The number is that of a character. -/
  | number {c : Char} {width n : Nat} {digits cs ds : List Char} (hc : numberWidth? c = some width)
      (hdigits : number width digits cs n) (hvalid : n.isValidChar) (hcs : Decodes number cs ds) :
      Decodes number ('\\' :: c :: (digits ++ cs)) (Char.ofNat n :: ds)

/-! ## Reading numbers -/

/-- The characters that have a value as digits are the hexadecimal digits. -/
theorem isSome_hexDigit?_iff {c : Char} : (hexDigit? c).isSome = true ↔ IsHexDigit c := by
  unfold hexDigit? IsHexDigit
  split_ifs <;> simp_all

/-- Digits are read one after the other as long as they are digits. -/
theorem foldlM_hexDigit? {cs : List Char} {n m : Nat} :
    cs.foldlM (fun n c => (hexDigit? c).map (16 * n + ·)) m = some n ↔
      (∀ c ∈ cs, IsHexDigit c) ∧ n = cs.foldl (fun n c => 16 * n + (hexDigit? c).getD 0) m := by
  induction cs generalizing m with
  | nil =>
    simp only [List.foldlM_nil, List.foldl_nil, List.not_mem_nil, false_implies, implies_true,
      true_and]
    exact ⟨fun h => (Option.some.inj h).symm, fun h => congrArg some h.symm⟩
  | cons c cs ih =>
    rw [List.foldlM_cons, List.foldl_cons, List.forall_mem_cons, ← isSome_hexDigit?_iff]
    cases hexDigit? c with
    | none => simp
    | some d => simpa using ih

/-- A plus sign is no digit. -/
theorem not_isHexDigit_plus : ¬IsHexDigit '+' := by
  unfold IsHexDigit
  decide

/-- A number is read where there are digits only, possibly after a plus sign, and one at least. -/
theorem hexNumber?_eq_some_iff {cs : List Char} {n : Nat} :
    hexNumber? cs = some n ↔ ∃ digits, (cs = digits ∨ cs = '+' :: digits) ∧ digits ≠ [] ∧
      (∀ c ∈ digits, IsHexDigit c) ∧ n = hexValue digits := by
  have hread : ∀ digits : List Char,
      (if digits.isEmpty then none
        else digits.foldlM (fun n c => (hexDigit? c).map (16 * n + ·)) 0) = some n ↔
      digits ≠ [] ∧ (∀ c ∈ digits, IsHexDigit c) ∧ n = hexValue digits := by
    intro digits
    cases digits with
    | nil => simp
    | cons c digits =>
      rw [List.isEmpty_cons, if_neg Bool.false_ne_true, foldlM_hexDigit?]
      simp [hexValue]
  unfold hexNumber?
  split
  · rename_i digits
    rw [hread]
    constructor
    · exact fun h => ⟨digits, .inr rfl, h⟩
    · rintro ⟨ds, rfl | heq, hds⟩
      -- a plus sign is no digit
      · exact absurd (hds.2.1 _ List.mem_cons_self) not_isHexDigit_plus
      · cases heq
        exact hds
  · rename_i hplus
    rw [hread]
    constructor
    · exact fun h => ⟨cs, .inl rfl, h⟩
    · rintro ⟨ds, rfl | rfl, hds⟩
      · exact hds
      · exact absurd rfl (hplus ds)

/-- A character is read where its number is one and belongs to a character. -/
theorem hexChar?_eq_some_iff {cs : List Char} {c : Char} :
    hexChar? cs = some c ↔ ∃ n, hexNumber? cs = some n ∧ n.isValidChar ∧ c = Char.ofNat n := by
  unfold hexChar?
  cases hexNumber? cs with
  | none => simp
  | some n =>
    show (if n.isValidChar then some (Char.ofNat n) else none) = some c ↔ _
    split_ifs with hvalid
    · simp [hvalid, eq_comm]
    · simp [hvalid]

/-- The characters taken for a number are a number if they are read as one. -/
theorem takenNumber_take_iff {width n : Nat} {cs : List Char} :
    TakenNumber width (cs.take width) (cs.drop width) n ↔
      hexNumber? (cs.take width) = some n := by
  have hlength : (cs.take width).length = width ∨
      ((cs.take width).length < width ∧ cs.drop width = []) := by
    rw [List.length_take, List.drop_eq_nil_iff]
    omega
  unfold TakenNumber
  rw [hexNumber?_eq_some_iff]
  exact and_iff_right hlength

/-- They are the first of what is ahead. -/
theorem TakenNumber.split {width n : Nat} {cs after : List Char}
    (h : TakenNumber width cs after n) :
    (cs ++ after).take width = cs ∧ (cs ++ after).drop width = after := by
  obtain ⟨hlength | ⟨hlength, rfl⟩, -⟩ := h
  · exact ⟨List.take_left' hlength, List.drop_left' hlength⟩
  · rw [List.append_nil]
    exact ⟨List.take_of_length_le (by omega), List.drop_eq_nil_iff.mpr (by omega)⟩

/-- What a full number is read of is also taken for a number. -/
theorem FullNumber.taken {width n : Nat} {cs after : List Char} (hwidth : width ≠ 0)
    (h : FullNumber width cs after n) : TakenNumber width cs after n := by
  obtain ⟨hlength, hdigits, hn⟩ := h
  refine ⟨.inl hlength, cs, .inl rfl, ?_, hdigits, hn⟩
  rintro rfl
  exact hwidth hlength.symm

/-! ## Decoding -/

/-- No letter begins both kinds of escape. -/
theorem escaped?_of_numberWidth? {c : Char} {width : Nat} (h : numberWidth? c = some width) :
    escaped? c = none := by
  unfold numberWidth? at h
  split at h
  · rfl
  · rfl
  · cases h

/-- Full numbers are taken as they are written. -/
theorem Decodes.taken {cs ds : List Char} (h : Decodes FullNumber cs ds) :
    Decodes TakenNumber cs ds := by
  induction h with
  | nil => exact .nil
  | plain hc _ ih => exact .plain hc ih
  | letter hc _ ih => exact .letter hc ih
  | @number c width n digits cs ds hc hdigits hvalid _ ih =>
    have hwidth : width ≠ 0 := by
      rintro rfl
      unfold numberWidth? at hc
      split at hc <;> cases hc
    exact .number hc (hdigits.taken hwidth) hvalid ih

/-- An escape by number decodes the characters taken for it, and then the rest. -/
theorem decode?_number {c : Char} {width : Nat} (hc : numberWidth? c = some width)
    (cs : List Char) :
    decode? ('\\' :: c :: cs) = (do
      return (← hexChar? (cs.take width)) :: (← decode? (cs.drop width))) := by
  unfold numberWidth? at hc
  split at hc
  · cases hc
    rw [decode?]
  · cases hc
    rw [decode?]
  · cases hc

/-- What is written with numbers as they are taken is decoded. -/
theorem Decodes.decode? {cs ds : List Char} (h : Decodes TakenNumber cs ds) :
    decode? cs = some ds := by
  induction h with
  | nil => rw [Tag.decode?]
  | plain hc _ ih =>
    rw [decode?_cons_of_isPlainChar hc, ih]
    rfl
  | letter hc _ ih =>
    rw [decode?_escape hc, ih]
    rfl
  | @number c width n digits cs ds hc hdigits hvalid _ ih =>
    obtain ⟨htake, hdrop⟩ := hdigits.split
    have hnumber : hexNumber? digits = some n := hexNumber?_eq_some_iff.mpr hdigits.2
    have hchar : hexChar? digits = some (Char.ofNat n) :=
      hexChar?_eq_some_iff.mpr ⟨n, hnumber, hvalid, rfl⟩
    rw [decode?_number hc, htake, hdrop, hchar, ih]
    rfl

/-- An escape by number that is decoded is written with the number that is taken. -/
theorem decodes_number {c : Char} {width : Nat} {cs ds : List Char}
    (hc : numberWidth? c = some width)
    (h : (do return (← hexChar? (cs.take width)) :: (← decode? (cs.drop width))) = some ds)
    (ih : ∀ {es : List Char}, decode? (cs.drop width) = some es →
      Decodes TakenNumber (cs.drop width) es) :
    Decodes TakenNumber ('\\' :: c :: cs) ds := by
  cases hchar : hexChar? (cs.take width) with
  | none =>
    rw [hchar] at h
    cases h
  | some d =>
    rw [hchar] at h
    obtain ⟨_, es, hes, rfl⟩ := escape_eq_some h
    obtain ⟨n, hn, hvalid, rfl⟩ := hexChar?_eq_some_iff.mp hchar
    rw [hes] at h
    cases h
    have hall := Decodes.number hc (takenNumber_take_iff.mpr hn) hvalid (ih hes)
    rwa [List.take_append_drop] at hall

/-- What is decoded is written with numbers as they are taken. -/
theorem decodes_of_decode? {cs ds : List Char} (h : decode? cs = some ds) :
    Decodes TakenNumber cs ds := by
  fun_induction Tag.decode? cs generalizing ds with
  | case1 =>
    cases h
    exact .nil
  | case2 => cases h
  | case3 cs ih => exact decodes_number rfl h ih
  | case4 cs ih => exact decodes_number rfl h ih
  | case5 c cs _ _ ih =>
    cases hc : escaped? c with
    | none =>
      rw [hc] at h
      cases h
    | some d =>
      rw [hc] at h
      obtain ⟨_, es, hes, rfl⟩ := escape_eq_some h
      rw [hes] at h
      cases h
      exact .letter hc (ih hes)
  | case6 => cases h
  | case7 c cs hlast hx hu hescape hc ih =>
    cases hes : Tag.decode? cs with
    | none =>
      rw [hes] at h
      cases h
    | some es =>
      rw [hes] at h
      cases h
      -- a backslash would have begun an escape, or stood at the end
      have hslash : c ≠ '\\' := by
        rintro rfl
        cases cs with
        | nil => exact hlast rfl rfl
        | cons c' cs' => exact hescape c' cs' rfl rfl
      rw [not_or] at hc
      exact .plain (by simp [isPlainChar, hc.1, hc.2, hslash]) (ih hes)

/-- What stands before the last delimiter is the text without it, if the text ends with one. -/
theorem beforeLast?_eq_some_iff {delimiter : Char} {cs ds : List Char} :
    beforeLast? delimiter cs = some ds ↔ cs = ds ++ [delimiter] := by
  constructor
  · intro h
    unfold beforeLast? at h
    split_ifs at h with hlast
    obtain ⟨init, rfl⟩ := List.getLast?_eq_some_iff.mp hlast
    cases h
    rw [List.dropLast_concat]
  · rintro rfl
    exact beforeLast?_concat delimiter ds

/-- A text is an interpreted literal and denotes another text if and only if it stands between
double quotes and is written of plain characters, escapes by letter, and escapes by number, whose
numbers are taken leniently. In particular, where every number is written in full, it is an
interpreted literal. -/
theorem unquote?_eq_some_iff (literal value : List Char) :
    (unquote? literal = some value ↔
      ∃ cs, literal = '"' :: (cs ++ ['"']) ∧ Decodes TakenNumber cs value) ∧
    ((∃ cs, literal = '"' :: (cs ++ ['"']) ∧ Decodes FullNumber cs value) →
      unquote? literal = some value) := by
  have hiff : unquote? literal = some value ↔
      ∃ cs, literal = '"' :: (cs ++ ['"']) ∧ Decodes TakenNumber cs value := by
    constructor
    · intro h
      unfold unquote? at h
      split at h
      · obtain ⟨ds, hds, hdecode⟩ := Option.bind_eq_some_iff.mp h
        rw [beforeLast?_eq_some_iff.mp hds]
        exact ⟨ds, rfl, decodes_of_decode? hdecode⟩
      · cases h
    · rintro ⟨cs, rfl, hcs⟩
      rw [unquote?, beforeLast?_concat, Option.bind_some]
      exact hcs.decode?
  refine ⟨hiff, ?_⟩
  rintro ⟨cs, rfl, hcs⟩
  exact hiff.mpr ⟨cs, rfl, hcs.taken⟩

/-- A literal with an escape of each kind, each number in full. -/
theorem unquote?_eq_some_iff_fullNumbers :
    Decodes FullNumber "a\\n\\x7E\\u00e9".toList "a\n~\u00e9".toList ∧
      unquote? "\"a\\n\\x7E\\u00e9\"".toList = some "a\n~\u00e9".toList := by
  have hdigits : ∀ {width : Nat} {cs after : List Char}, cs.length = width →
      cs.all (fun c => (hexDigit? c).isSome) = true →
      FullNumber width cs after (hexValue cs) := by
    intro width cs after hlength hall
    exact ⟨hlength, fun c hc => isSome_hexDigit?_iff.mp (List.all_eq_true.mp hall c hc), rfl⟩
  have hcs : Decodes FullNumber "a\\n\\x7E\\u00e9".toList "a\n~\u00e9".toList :=
    .plain (by decide) (.letter rfl
      (@Decodes.number _ 'x' 2 _ ['7', 'E'] _ _ rfl (hdigits rfl (by decide)) (by decide)
        (@Decodes.number _ 'u' 4 _ ['0', '0', 'e', '9'] _ _ rfl (hdigits rfl (by decide))
          (by decide) .nil)))
  exact ⟨hcs, (unquote?_eq_some_iff _ _).2 ⟨_, rfl, hcs⟩⟩

/-- What begins with an escape by number goes on with a number. -/
theorem Decodes.exists_number {number : NumberRule} {c : Char} {width : Nat} {cs ds : List Char}
    (hc : numberWidth? c = some width) (h : Decodes number ('\\' :: c :: cs) ds) :
    ∃ digits after n, cs = digits ++ after ∧ number width digits after n := by
  cases h with
  | plain hplain _ => cases hplain
  | letter hletter _ => cases (escaped?_of_numberWidth? hc).symm.trans hletter
  | number hwidth hdigits _ _ =>
    cases hc.symm.trans hwidth
    exact ⟨_, _, _, rfl, hdigits⟩

/-- A plus sign stands in for a digit, and so does the end of the literal: two literals that are
decoded although their numbers are not written in full. -/
theorem unquote?_not_full :
    unquote? "\"\\x+1\"".toList = some ['\x01'] ∧ unquote? "\"\\u41\"".toList = some ['A'] ∧
      (¬∃ cs, "\"\\x+1\"".toList = '"' :: (cs ++ ['"']) ∧ Decodes FullNumber cs ['\x01']) ∧
      ¬∃ cs, "\"\\u41\"".toList = '"' :: (cs ++ ['"']) ∧ Decodes FullNumber cs ['A'] := by
  refine ⟨by decide +kernel, by decide +kernel, ?_, ?_⟩
  · rintro ⟨cs, hcs, hdecodes⟩
    obtain rfl : "\\x+1".toList = cs := List.append_cancel_right (List.cons.inj hcs).2
    obtain ⟨digits, after, n, hsplit, hlength, hdigits, -⟩ := hdecodes.exists_number rfl
    cases digits with
    | nil => cases hlength
    | cons c digits =>
      obtain ⟨rfl, -⟩ := List.cons.inj hsplit
      exact not_isHexDigit_plus (hdigits '+' List.mem_cons_self)
  · rintro ⟨cs, hcs, hdecodes⟩
    obtain rfl : "\\u41".toList = cs := List.append_cancel_right (List.cons.inj hcs).2
    obtain ⟨digits, after, n, hsplit, hlength, -⟩ := hdecodes.exists_number rfl
    -- two characters are left where four digits are asked for
    have htotal : 2 = digits.length + after.length := by
      rw [← List.length_append, ← hsplit]
      rfl
    omega

end CodecGen.Tag
