import CodecGen.Json.Basic

/-!
# Texts of JSON values

The texts that write a JSON value, as a grammar: blanks may stand between the parts, a string may
be written with any escapes, and a number with any digits. The reader reads each such text as the
value that it writes (`ofText?_writes`). The printer without blanks gives one of the texts, so that
a value whose strings have texts is read back from what is printed (`ofText?_print`).
-/

namespace CodecGen.Json

/-! ## Blanks and what may follow a value -/

/-- Only blanks. -/
def AllGap (cs : List Char) : Prop :=
  ∀ c ∈ cs, isGap c = true

/-- Nothing is a text of blanks. -/
theorem allGap_nil : AllGap [] :=
  fun _ hc => nomatch hc

/-- What may follow a value: nothing, a blank, a comma or a closing mark. -/
def Ends : List Char → Prop
  | [] => True
  | c :: _ => isGap c = true ∨ c = ',' ∨ c = ']' ∨ c = '\x7d'

/-- Blanks at the front are skipped with all that follow them. -/
theorem skipGap_gap {g : List Char} (hg : AllGap g) (cs : List Char) :
    skipGap (g ++ cs) = skipGap cs :=
  List.dropWhile_append_of_pos hg

/-- Nothing is skipped of a text that begins with another character. -/
theorem skipGap_cons {c : Char} (hc : isGap c = false) (cs : List Char) :
    skipGap (c :: cs) = c :: cs :=
  List.dropWhile_cons_of_neg (by simp [hc])

/-- Nothing is left of a text of blanks. -/
theorem skipGap_eq_nil {g : List Char} (hg : AllGap g) : skipGap g = [] := by
  have h := skipGap_gap hg []
  rwa [List.append_nil] at h

/-- Blanks before something that may follow a value may follow it too. -/
theorem ends_gap {g : List Char} (hg : AllGap g) (rest : List Char) (hrest : Ends rest) :
    Ends (g ++ rest) := by
  cases g with
  | nil => exact hrest
  | cons c g => exact .inl (hg c (List.mem_cons_self ..))

/-! ## Numbers -/

/-- No digit, point or exponent may follow a value. -/
theorem Ends.not_number {c : Char} {cs : List Char} (h : Ends (c :: cs)) :
    c.isDigit = false ∧ c ≠ '.' ∧ c ≠ 'e' ∧ c ≠ 'E' := by
  simp only [Ends, isGap, Bool.or_eq_true, beq_iff_eq] at h
  rcases h with (((rfl | rfl) | rfl) | rfl) | rfl | rfl | rfl <;> decide

/-- Digits are read as before if something that ends a number is added. -/
theorem digits?_append {cs r rest : List Char} (h : digits? cs = some r) (hrest : Ends rest) :
    digits? (cs ++ rest) = some (r ++ rest) := by
  cases cs with
  | nil => simp [digits?] at h
  | cons c cs =>
    unfold digits? at h ⊢
    by_cases hc : c.isDigit = true
    case neg => simp [hc] at h
    simp only [List.takeWhile_cons_of_pos hc, List.dropWhile_cons_of_pos hc, List.isEmpty_cons,
      Bool.false_eq_true, if_false, Option.some.injEq, List.cons_append] at h ⊢
    rw [List.dropWhile_append, h]
    cases r with
    | cons => rfl
    | nil =>
      -- all digits have been passed over, and what follows begins with none
      cases rest with
      | nil => rfl
      | cons e rest => simp [hrest.not_number.1]

/-- The whole part of a number is read as before if something that ends a number is added. -/
theorem wholePart?_append {cs r rest : List Char} (h : wholePart? cs = some r)
    (hrest : Ends rest) : wholePart? (cs ++ rest) = some (r ++ rest) := by
  cases cs with
  | nil => simp [wholePart?, digits?] at h
  | cons c cs =>
    by_cases hc : c = '0'
    · subst hc
      simp only [wholePart?, Option.some.injEq, List.cons_append] at h ⊢
      rw [h]
    · have hdigits : ∀ cs, wholePart? (c :: cs) = digits? (c :: cs) := by simp [wholePart?, hc]
      rw [hdigits] at h
      rw [List.cons_append, hdigits]
      exact digits?_append h hrest

/-- The fraction of a number is read as before if something that ends a number is added. -/
theorem fraction?_append {cs r rest : List Char} (h : fraction? cs = some r)
    (hrest : Ends rest) : fraction? (cs ++ rest) = some (r ++ rest) := by
  cases cs with
  | nil =>
    obtain rfl : [] = r := by simpa [fraction?] using h
    cases rest with
    | nil => rfl
    | cons c rest => simp [fraction?, hrest.not_number.2.1]
  | cons c cs =>
    by_cases hc : c = '.'
    · subst hc
      exact digits?_append h hrest
    · have hnone : ∀ cs, fraction? (c :: cs) = some (c :: cs) := by simp [fraction?, hc]
      rw [hnone, Option.some.injEq] at h
      rw [← h]
      exact hnone _

/-- A sign before digits is passed over whatever follows them. -/
theorem digits?_skipSign_append {cs r rest : List Char} (h : digits? (skipSign cs) = some r)
    (hrest : Ends rest) : digits? (skipSign (cs ++ rest)) = some (r ++ rest) := by
  have hsign : skipSign (cs ++ rest) = skipSign cs ++ rest := by
    cases cs with
    | nil => simp [skipSign, digits?] at h
    | cons c cs =>
      by_cases hplus : c = '+'
      · subst hplus
        rfl
      · by_cases hminus : c = '-'
        · subst hminus
          rfl
        · simp [skipSign, hplus, hminus]
  rw [hsign]
  exact digits?_append h hrest

/-- The exponent of a number is read as before if something that ends a number is added. -/
theorem exponent?_append {cs r rest : List Char} (h : exponent? cs = some r)
    (hrest : Ends rest) : exponent? (cs ++ rest) = some (r ++ rest) := by
  cases cs with
  | nil =>
    obtain rfl : [] = r := by simpa [exponent?] using h
    cases rest with
    | nil => rfl
    | cons c rest => simp [exponent?, hrest.not_number.2.2.1, hrest.not_number.2.2.2]
  | cons c cs =>
    by_cases hlower : c = 'e'
    · subst hlower
      exact digits?_skipSign_append h hrest
    · by_cases hupper : c = 'E'
      · subst hupper
        exact digits?_skipSign_append h hrest
      · have hnone : ∀ cs, exponent? (c :: cs) = some (c :: cs) := by
          simp [exponent?, hlower, hupper]
        rw [hnone, Option.some.injEq] at h
        rw [← h]
        exact hnone _

/-- A number is read whole before anything that may follow a value. -/
theorem number?_append {cs rest : List Char} (h : number? cs = some []) (hrest : Ends rest) :
    number? (cs ++ rest) = some rest := by
  -- each part of a number stops where a value may be followed by something
  have hparts : ∀ {cs : List Char},
      (do exponent? (← fraction? (← wholePart? cs)) : Option (List Char)) = some [] →
      (do exponent? (← fraction? (← wholePart? (cs ++ rest))) : Option (List Char)) =
        some rest := by
    intro cs h
    cases hwhole : wholePart? cs with
    | none => simp [hwhole] at h
    | some afterWhole =>
      cases hfraction : fraction? afterWhole with
      | none => simp [hwhole, hfraction] at h
      | some afterFraction =>
        have hexponent : exponent? afterFraction = some [] := by
          simpa [hwhole, hfraction] using h
        simpa [wholePart?_append hwhole hrest, fraction?_append hfraction hrest] using
          exponent?_append hexponent hrest
  cases cs with
  | nil => simp [number?, wholePart?, digits?] at h
  | cons c cs =>
    by_cases hc : c = '-'
    · subst hc
      exact hparts h
    · have hunsigned : ∀ cs, number? (c :: cs) =
          (do exponent? (← fraction? (← wholePart? (c :: cs)))) := by
        simp [number?, hc]
      rw [hunsigned] at h
      rw [List.cons_append, hunsigned]
      exact hparts h

/-- A number begins with a digit or a minus sign. -/
theorem number?_begins {cs : List Char} (h : number? cs = some []) :
    ∃ c tail, cs = c :: tail ∧ (c = '-' ∨ c.isDigit = true) := by
  cases cs with
  | nil => simp [number?, wholePart?, digits?] at h
  | cons c tail =>
    refine ⟨c, tail, rfl, ?_⟩
    by_cases hminus : c = '-'
    · exact .inl hminus
    · refine .inr ?_
      by_cases hzero : c = '0'
      · subst hzero
        rfl
      · refine Decidable.byContradiction fun hdigit => ?_
        simp [number?, wholePart?, digits?, hminus, hzero, hdigit] at h

/-! ## Strings -/

/-- The ways to write one character of a string. -/
inductive WritesChar : Char → List Char → Prop
  /-- A character by itself. -/
  | plain {c : Char} (hcontrol : ¬ c.val < 0x20) (hquote : c ≠ '"') (hescape : c ≠ '\\') :
    WritesChar c [c]
  /-- A backslash and a letter. -/
  | letter {letter c : Char} (h : escaped? letter = some c) : WritesChar c ['\\', letter]
  /-- The number of the character. -/
  | code {digits : List Char} {n : Nat} (h : hex4? digits = some (n, []))
    (hleading : isLeading n = false) (htrailing : isTrailing n = false) :
    WritesChar (Char.ofNat n) ('\\' :: 'u' :: digits)
  /-- The numbers of a surrogate pair. -/
  | pair {digits digits' : List Char} {n m : Nat} (h : hex4? digits = some (n, []))
    (h' : hex4? digits' = some (m, [])) (hleading : isLeading n = true)
    (htrailing : isTrailing m = true) :
    WritesChar (Char.ofNat (0x10000 + (n - 0xD800) * 0x400 + (m - 0xDC00)))
      ('\\' :: 'u' :: (digits ++ '\\' :: 'u' :: digits'))

/-- The ways to write a string from some point on through its closing quote. -/
inductive WritesChars : List Char → List Char → Prop
  | close : WritesChars [] ['"']
  | cons {c : Char} {text cs rest : List Char} (hc : WritesChar c cs)
    (hrest : WritesChars text rest) : WritesChars (c :: text) (cs ++ rest)

/-- Four hexadecimal digits are read as a number, whatever follows them. -/
theorem hex4?_append {digits : List Char} {n : Nat} (h : hex4? digits = some (n, []))
    (rest : List Char) : hex4? (digits ++ rest) = some (n, rest) := by
  match digits, h with
  | a :: b :: c :: d :: tail, h =>
    simp only [hex4?, Option.map_eq_some_iff, Prod.mk.injEq] at h
    obtain ⟨_, hn, rfl, rfl⟩ := h
    simp only [hex4?, List.cons_append, hn, Option.map_some, List.nil_append]

/-- A character is read as written, whatever follows. -/
theorem stringChar?_writes {c : Char} {cs : List Char} (h : WritesChar c cs) (rest : List Char) :
    stringChar? (cs ++ rest) = some (some c, rest) := by
  cases h with
  | plain hcontrol hquote hescape => simp [stringChar?, hcontrol, hescape]
  | letter h =>
    rename_i letter
    have hu : letter ≠ 'u' := by
      rintro rfl
      cases h
    simp [stringChar?, h]
  | code h hleading htrailing =>
    simp [stringChar?, codeEscape?, hex4?_append h, hleading, htrailing]
  | pair h h' hleading htrailing =>
    simp [stringChar?, codeEscape?, trailing?, hex4?_append h, hex4?_append h', hleading,
      htrailing, Option.filter]

/-- What writes a character does not begin with a quote. -/
theorem WritesChar.begins {c : Char} {cs : List Char} (h : WritesChar c cs) :
    ∃ b tail, cs = b :: tail ∧ b ≠ '"' := by
  cases h with
  | plain _ hquote _ => exact ⟨_, _, rfl, hquote⟩
  | letter | code | pair => exact ⟨_, _, rfl, by decide⟩

/-- A written string is read through its closing quote, if there are turns for all its characters.
-/
theorem stringEnd?_writes {text cs : List Char} (h : WritesChars text cs) :
    ∀ (turns : Nat) (rest : List Char), cs.length ≤ turns →
      stringEnd? turns (cs ++ rest) = some (some text, rest) := by
  induction h with
  | close =>
    intro turns rest hturns
    obtain ⟨turns, rfl⟩ := Nat.exists_eq_add_of_le hturns
    rw [List.length_singleton, Nat.add_comm]
    rfl
  | @cons c text cs ws hc _ ih =>
    intro turns rest hturns
    obtain ⟨b, tail, hcs, hb⟩ := hc.begins
    have hread := stringChar?_writes hc (ws ++ rest)
    cases turns with
    | zero => simp [hcs] at hturns
    | succ turns =>
      have hlater := ih turns rest (by simp [hcs] at hturns; omega)
      rw [List.append_assoc]
      simp only [hcs, List.cons_append] at hread ⊢
      simp [stringEnd?, hb, hread, hlater]

/-- A written string is read back as the text that it stands for. -/
theorem string?_writes {text cs : List Char} (h : WritesChars text cs) (rest : List Char) :
    string? (cs ++ rest) = some (some (String.ofList text), rest) := by
  have hturns : cs.length ≤ (cs ++ rest).length + 1 := by
    rw [List.length_append]
    omega
  unfold string?
  rw [stringEnd?_writes h _ rest hturns]
  rfl

/-! ## Values -/

mutual

/-- The texts that write a value, without blanks around them. -/
inductive Writes : Json → List Char → Prop
  | null : Writes null ['n', 'u', 'l', 'l']
  | yes : Writes (bool true) ['t', 'r', 'u', 'e']
  | no : Writes (bool false) ['f', 'a', 'l', 's', 'e']
  | number {cs : List Char} (h : number? cs = some []) : Writes number cs
  | string {text : String} {cs : List Char} (h : WritesChars text.toList cs) :
    Writes (string (some text)) ('"' :: cs)
  | emptyArray {g : List Char} (hg : AllGap g) : Writes (array []) ('[' :: (g ++ [']']))
  | array {items : List Json} {cs : List Char} (h : WritesItems items cs) :
    Writes (array items) ('[' :: cs)
  | emptyObject {g : List Char} (hg : AllGap g) :
    Writes (object []) ('\x7b' :: (g ++ ['\x7d']))
  | object {members : List (Option String × Json)} {cs : List Char}
    (h : WritesMembers members cs) : Writes (object members) ('\x7b' :: cs)

/-- The texts that write the items of an array through its closing bracket, one at least. -/
inductive WritesItems : List Json → List Char → Prop
  | last {v : Json} {g cs g' : List Char} (hg : AllGap g) (hv : Writes v cs) (hg' : AllGap g') :
    WritesItems [v] (g ++ (cs ++ (g' ++ [']'])))
  | cons {v : Json} {items : List Json} {g cs g' rest : List Char} (hg : AllGap g)
    (hv : Writes v cs) (hg' : AllGap g') (hrest : WritesItems items rest) :
    WritesItems (v :: items) (g ++ (cs ++ (g' ++ ',' :: rest)))

/-- The texts that write the members of an object through its closing brace, one at least. -/
inductive WritesMembers : List (Option String × Json) → List Char → Prop
  | last {name : String} {v : Json} {g key g' g₃ cs g₄ : List Char} (hg : AllGap g)
    (hkey : WritesChars name.toList key) (hg' : AllGap g') (hg₃ : AllGap g₃)
    (hv : Writes v cs) (hg₄ : AllGap g₄) :
    WritesMembers [(some name, v)]
      (g ++ '"' :: (key ++ (g' ++ ':' :: (g₃ ++ (cs ++ (g₄ ++ ['\x7d']))))))
  | cons {name : String} {v : Json} {members : List (Option String × Json)}
    {g key g' g₃ cs g₄ rest : List Char} (hg : AllGap g)
    (hkey : WritesChars name.toList key) (hg' : AllGap g') (hg₃ : AllGap g₃)
    (hv : Writes v cs) (hg₄ : AllGap g₄) (hrest : WritesMembers members rest) :
    WritesMembers ((some name, v) :: members)
      (g ++ '"' :: (key ++ (g' ++ ':' :: (g₃ ++ (cs ++ (g₄ ++ ',' :: rest))))))

end

/-! ## Reading values -/

/-- A character that begins no blank and no keyword, text or container. -/
theorem number_begins {c : Char} (h : c = '-' ∨ c.isDigit = true) :
    isGap c = false ∧ c ≠ 'n' ∧ c ≠ 't' ∧ c ≠ 'f' ∧ c ≠ '"' ∧ c ≠ '[' ∧ c ≠ '\x7b' ∧ c ≠ ']' := by
  have hother : ∀ d : Char, d ≠ '-' → d.isDigit = false → c ≠ d := by
    rintro d hminus hdigit rfl
    rcases h with h | h
    · exact hminus h
    · simp [h] at hdigit
  have hgap : isGap c = false := by
    simp only [isGap, Bool.or_eq_false_iff, beq_eq_false_iff_ne]
    exact ⟨⟨⟨hother _ (by decide) (by decide), hother _ (by decide) (by decide)⟩,
      hother _ (by decide) (by decide)⟩, hother _ (by decide) (by decide)⟩
  refine ⟨hgap, ?_, ?_, ?_, ?_, ?_, ?_, ?_⟩ <;> exact hother _ (by decide) (by decide)

/-- What writes a value begins with no blank and no closing bracket. -/
theorem Writes.begins {v : Json} {cs : List Char} (h : Writes v cs) :
    ∃ c tail, cs = c :: tail ∧ isGap c = false ∧ c ≠ ']' := by
  cases h with
  | number h =>
    obtain ⟨c, tail, rfl, hc⟩ := number?_begins h
    have hbegins := number_begins hc
    exact ⟨c, tail, rfl, hbegins.1, hbegins.2.2.2.2.2.2.2⟩
  | null | yes | no | string | emptyArray | array | emptyObject | object =>
    exact ⟨_, _, rfl, by decide, by decide⟩

/-- Behind blanks, items begin with no closing bracket. -/
theorem WritesItems.begins {items : List Json} {cs : List Char} (h : WritesItems items cs)
    (rest : List Char) : ∃ c tail, skipGap (cs ++ rest) = c :: tail ∧ c ≠ ']' := by
  cases h with
  | last hg hv _ | cons hg hv _ _ =>
    obtain ⟨c, tail, rfl, hgap, hc⟩ := hv.begins
    rw [List.append_assoc, skipGap_gap hg, List.append_assoc, List.cons_append, skipGap_cons hgap]
    exact ⟨c, _, rfl, hc⟩

/-- Behind blanks, members begin with a quote. -/
theorem WritesMembers.begins {members : List (Option String × Json)} {cs : List Char}
    (h : WritesMembers members cs) (rest : List Char) :
    ∃ tail, skipGap (cs ++ rest) = '"' :: tail := by
  cases h with
  | last hg | cons hg =>
    rw [List.append_assoc, skipGap_gap hg, List.cons_append, skipGap_cons (c := '"') rfl]
    exact ⟨_, rfl⟩

/-- Skipping blanks twice is skipping them once. -/
theorem skipGap_skipGap (cs : List Char) : skipGap (skipGap cs) = skipGap cs := by
  induction cs with
  | nil => rfl
  | cons c cs ih =>
    cases hc : isGap c with
    | true =>
      have hskip : skipGap (c :: cs) = skipGap cs := List.dropWhile_cons_of_pos hc
      rw [hskip, ih]
    | false => rw [skipGap_cons hc, skipGap_cons hc]

/-- Blanks before a value do not matter. -/
theorem value?_skipGap (steps : Nat) (cs : List Char) :
    value? steps (skipGap cs) = value? steps cs := by
  cases steps with
  | zero => rfl
  | succ steps => simp only [value?, skipGap_skipGap]

/-- Blanks before the items of an array do not matter. -/
theorem items?_skipGap (steps : Nat) (cs : List Char) :
    items? steps (skipGap cs) = items? steps cs := by
  cases steps with
  | zero => rfl
  | succ steps => simp only [items?, value?_skipGap]

/-- Blanks before the members of an object do not matter. -/
theorem members?_skipGap (steps : Nat) (cs : List Char) :
    members? steps (skipGap cs) = members? steps cs := by
  cases steps with
  | zero => rfl
  | succ steps => simp only [members?, skipGap_skipGap]

/-- Blanks before a value do not matter. -/
theorem value?_gap {g : List Char} (hg : AllGap g) (steps : Nat) (cs : List Char) :
    value? steps (g ++ cs) = value? steps cs := by
  rw [← value?_skipGap, skipGap_gap hg, value?_skipGap]

/-- A number is read through its last digit where something that ends it follows. -/
theorem value?_number {cs rest : List Char} (h : number? cs = some []) (hrest : Ends rest)
    (steps : Nat) : value? (steps + 1) (cs ++ rest) = some (.number, rest) := by
  have hnumber := number?_append h hrest
  obtain ⟨c, tail, rfl, hc⟩ := number?_begins h
  obtain ⟨hgap, hn, ht, hf, hquote, hbracket, hbrace, -⟩ := number_begins hc
  rw [List.cons_append] at hnumber ⊢
  simp [value?, skipGap_cons hgap, hn, ht, hf, hquote, hbracket, hbrace, hnumber]

mutual

/-- A value is read from each text that writes it, before anything that may follow a value. -/
theorem value?_writes {v : Json} {cs : List Char} (h : Writes v cs) (steps : Nat)
    (hsteps : 2 * cs.length ≤ steps) (rest : List Char) (hrest : Ends rest) :
    value? steps (cs ++ rest) = some (v, rest) := by
  cases steps with
  | zero =>
    obtain ⟨c, tail, rfl, -⟩ := h.begins
    simp at hsteps
  | succ steps =>
    -- one step is taken for the value itself, the others are left for what is inside
    cases h with
    | null | yes | no => rfl
    | number h => exact value?_number h hrest steps
    | string h =>
      rw [List.cons_append]
      simp only [value?, skipGap_cons (c := '"') rfl, string?_writes h, Option.map_some,
        String.ofList_toList]
    | emptyArray hg =>
      simp [value?, skipGap_cons (c := '[') rfl, skipGap_gap hg, skipGap_cons (c := ']') rfl]
    | emptyObject hg =>
      simp [value?, skipGap_cons (c := '\x7b') rfl, skipGap_gap hg,
        skipGap_cons (c := '\x7d') rfl]
    | array h =>
      obtain ⟨c, tail, hskip, hc⟩ := h.begins rest
      have hread := items?_writes h steps (by simp at hsteps; omega) rest
      rw [← items?_skipGap, hskip] at hread
      simp [value?, skipGap_cons (c := '[') rfl, hskip, hc, hread]
    | object h =>
      obtain ⟨tail, hskip⟩ := h.begins rest
      have hread := members?_writes h steps (by simp at hsteps; omega) rest
      rw [← members?_skipGap, hskip] at hread
      simp [value?, skipGap_cons (c := '\x7b') rfl, hskip, hread]

/-- Items are read from each text that writes them. -/
theorem items?_writes {items : List Json} {cs : List Char} (h : WritesItems items cs)
    (steps : Nat) (hsteps : 2 * cs.length ≤ steps) (rest : List Char) :
    items? steps (cs ++ rest) = some (items, rest) := by
  cases h with
  | @last v g cs g' hg hv hg' =>
    obtain ⟨steps, rfl⟩ := Nat.exists_eq_add_one_of_ne_zero (n := steps) (by simp at hsteps; omega)
    have hread := value?_writes hv steps (by simp at hsteps; omega) _
      (ends_gap hg' (']' :: rest) (.inr (.inr (.inl rfl))))
    simp [items?, value?_gap hg, hread, skipGap_gap hg', skipGap_cons (c := ']') rfl]
  | @cons v items g cs g' later hg hv hg' hlater =>
    obtain ⟨steps, rfl⟩ := Nat.exists_eq_add_one_of_ne_zero (n := steps) (by simp at hsteps; omega)
    have hread := value?_writes hv steps (by simp at hsteps; omega) _
      (ends_gap hg' (',' :: (later ++ rest)) (.inr (.inl rfl)))
    have hitems := items?_writes hlater steps (by simp at hsteps; omega) rest
    simp [items?, value?_gap hg, hread, skipGap_gap hg', skipGap_cons (c := ',') rfl, hitems]

/-- Members are read from each text that writes them. -/
theorem members?_writes {members : List (Option String × Json)} {cs : List Char}
    (h : WritesMembers members cs) (steps : Nat) (hsteps : 2 * cs.length ≤ steps)
    (rest : List Char) : members? steps (cs ++ rest) = some (members, rest) := by
  cases h with
  | @last name v g key g' g₃ cs g₄ hg hkey hg' hg₃ hv hg₄ =>
    obtain ⟨steps, rfl⟩ := Nat.exists_eq_add_one_of_ne_zero (n := steps) (by simp at hsteps; omega)
    have hread := value?_writes hv steps (by simp at hsteps; omega) _
      (ends_gap hg₄ ('\x7d' :: rest) (.inr (.inr (.inr rfl))))
    simp [members?, skipGap_gap hg, skipGap_cons (c := '"') rfl, string?_writes hkey,
      skipGap_gap hg', skipGap_cons (c := ':') rfl, value?_gap hg₃, hread, skipGap_gap hg₄,
      skipGap_cons (c := '\x7d') rfl]
  | @cons name v members g key g' g₃ cs g₄ later hg hkey hg' hg₃ hv hg₄ hlater =>
    obtain ⟨steps, rfl⟩ := Nat.exists_eq_add_one_of_ne_zero (n := steps) (by simp at hsteps; omega)
    have hread := value?_writes hv steps (by simp at hsteps; omega) _
      (ends_gap hg₄ (',' :: (later ++ rest)) (.inr (.inl rfl)))
    have hmembers := members?_writes hlater steps (by simp at hsteps; omega) rest
    simp [members?, skipGap_gap hg, skipGap_cons (c := '"') rfl, string?_writes hkey,
      skipGap_gap hg', skipGap_cons (c := ':') rfl, value?_gap hg₃, hread, skipGap_gap hg₄,
      skipGap_cons (c := ',') rfl, hmembers]

end

/-- A text writes a value, with or without blanks around it. -/
def IsTextOf (v : Json) (text : String) : Prop :=
  ∃ g cs g', AllGap g ∧ v.Writes cs ∧ AllGap g' ∧ text.toList = g ++ (cs ++ g')

/-- A value is read from each text that writes it. -/
theorem ofText?_writes {v : Json} {text : String} (h : v.IsTextOf text) :
    ofText? text = some v := by
  obtain ⟨g, cs, g', hg, hv, hg', htext⟩ := h
  have hlength : 2 * cs.length ≤ 2 * text.length + 1 := by
    rw [← String.length_toList, htext]
    simp
    omega
  have hends : Ends g' := by
    have hnil := ends_gap hg' [] trivial
    rwa [List.append_nil] at hnil
  unfold ofText?
  rw [htext, value?_gap hg, value?_writes hv _ hlength _ hends]
  simp [skipGap_eq_nil hg']

/-! ## Printing -/

/-- The letter that stands for a character behind a backslash. -/
def letterOf? : Char → Option Char
  | '"' => some '"'
  | '\\' => some '\\'
  | '\x08' => some 'b'
  | '\x0c' => some 'f'
  | '\n' => some 'n'
  | '\r' => some 'r'
  | '\t' => some 't'
  | _ => none

/-- A character of a string: by a letter where it has one, by its number where it is another
control character, and else by itself. -/
def printChar (c : Char) : List Char :=
  match letterOf? c with
  | some letter => ['\\', letter]
  | none =>
    if c.val < 0x20 then
      ['\\', 'u', '0', '0', Nat.digitChar (c.toNat / 16), Nat.digitChar (c.toNat % 16)]
    else [c]

/-- The characters of a string and its closing quote. -/
def printChars (text : String) : List Char :=
  text.toList.flatMap printChar ++ ['"']

mutual

/-- A value without blanks. All numbers look the same, and a string without text is empty. -/
def print : Json → List Char
  | null => ['n', 'u', 'l', 'l']
  | bool true => ['t', 'r', 'u', 'e']
  | bool false => ['f', 'a', 'l', 's', 'e']
  | number => ['0']
  | string text => '"' :: printChars (text.getD "")
  | array items => '[' :: printItems items
  | object members => '\x7b' :: printMembers members

/-- The items of an array and its closing bracket. -/
def printItems : List Json → List Char
  | [] => [']']
  | v :: items => print v ++ if items.isEmpty then [']'] else ',' :: printItems items

/-- The members of an object and its closing brace. -/
def printMembers : List (Option String × Json) → List Char
  | [] => ['\x7d']
  | (name, v) :: members =>
    '"' :: (printChars (name.getD "") ++ ':' ::
      (print v ++ if members.isEmpty then ['\x7d'] else ',' :: printMembers members))

end

mutual

/-- All strings and all names of members have texts. -/
def HasTexts : Json → Prop
  | string text => text.isSome = true
  | array items => ItemsHaveTexts items
  | object members => MembersHaveTexts members
  | _ => True

/-- All strings in the items of an array have texts. -/
def ItemsHaveTexts : List Json → Prop
  | [] => True
  | v :: items => HasTexts v ∧ ItemsHaveTexts items

/-- All strings in the members of an object and all their names have texts. -/
def MembersHaveTexts : List (Option String × Json) → Prop
  | [] => True
  | (name, v) :: members => name.isSome = true ∧ HasTexts v ∧ MembersHaveTexts members

end

/-- The letter for a character behind a backslash is read as this character. -/
theorem escaped?_of_letterOf? {c letter : Char} (h : letterOf? c = some letter) :
    escaped? letter = some c := by
  unfold letterOf? at h
  split at h
  case h_8 => cases h
  all_goals
    cases h
    rfl

/-- The number of a control character has two digits. -/
theorem hex4?_control : ∀ n < 32,
    hex4? ['0', '0', Nat.digitChar (n / 16), Nat.digitChar (n % 16)] = some (n, []) := by
  decide

/-- A printed character is one of the ways to write it. -/
theorem writesChar_printChar (c : Char) : WritesChar c (printChar c) := by
  unfold printChar
  split
  case h_1 h => exact .letter (escaped?_of_letterOf? h)
  case h_2 h =>
    by_cases hcontrol : c.val < 0x20
    · rw [if_pos hcontrol]
      have hn : c.toNat < 32 := UInt32.lt_iff_toNat_lt.mp hcontrol
      have hleading : isLeading c.toNat = false := by
        simp [isLeading]
        omega
      have htrailing : isTrailing c.toNat = false := by
        simp [isTrailing]
        omega
      have hcode := WritesChar.code (hex4?_control _ hn) hleading htrailing
      rwa [Char.ofNat_toNat] at hcode
    · rw [if_neg hcontrol]
      refine .plain hcontrol ?_ ?_
      · rintro rfl
        cases h
      · rintro rfl
        cases h

/-- A printed string is one of the ways to write it. -/
theorem writesChars_printChars (text : String) : WritesChars text.toList (printChars text) := by
  unfold printChars
  induction text.toList with
  | nil => exact .close
  | cons c cs ih =>
    rw [List.flatMap_cons, List.append_assoc]
    exact .cons (writesChar_printChar c) ih

mutual

/-- What is printed for a value whose strings have texts writes it. -/
theorem writes_print {v : Json} (h : v.HasTexts) : v.Writes v.print := by
  match v, h with
  | null, _ => exact .null
  | bool true, _ => exact .yes
  | bool false, _ => exact .no
  | number, _ => exact .number rfl
  | string (some text), _ => exact .string (writesChars_printChars text)
  | array [], _ => exact .emptyArray allGap_nil
  | array (v :: items), h => exact .array (writesItems_print h (List.cons_ne_nil v items))
  | object [], _ => exact .emptyObject allGap_nil
  | object (m :: members), h =>
    exact .object (writesMembers_print h (List.cons_ne_nil m members))

/-- Printed items are one of the ways to write them. -/
theorem writesItems_print {items : List Json} (h : ItemsHaveTexts items) (hne : items ≠ []) :
    WritesItems items (printItems items) := by
  match items, h with
  | [v], h => exact .last allGap_nil (writes_print h.1) allGap_nil
  | v :: w :: items, h =>
    exact .cons allGap_nil (writes_print h.1) allGap_nil
      (writesItems_print h.2 (List.cons_ne_nil w items))

/-- Printed members are one of the ways to write them. -/
theorem writesMembers_print {members : List (Option String × Json)} (h : MembersHaveTexts members)
    (hne : members ≠ []) : WritesMembers members (printMembers members) := by
  match members, h with
  | [(some name, v)], h =>
    exact .last allGap_nil (writesChars_printChars name) allGap_nil allGap_nil
      (writes_print h.2.1) allGap_nil
  | (some name, v) :: m :: members, h =>
    exact .cons allGap_nil (writesChars_printChars name) allGap_nil allGap_nil
      (writes_print h.2.1) allGap_nil (writesMembers_print h.2.2 (List.cons_ne_nil m members))

end

/-- A value whose strings have texts is read back from what is printed. -/
theorem isTextOf_print {v : Json} (h : v.HasTexts) : v.IsTextOf (String.ofList v.print) :=
  ⟨[], v.print, [], allGap_nil, writes_print h, allGap_nil, by simp⟩

end CodecGen.Json
