import CodecGen.Tag.Pairs

/-!
# The grammar of tags

`Spells` says which texts are tags and which keys and values they have, without a scanner: pairs
with spaces before them, each a key, a colon, and a literal through its first quote that no
backslash stands before. `parseFrom_eq_ok_iff` says that `parse` reads exactly these texts.
-/

namespace CodecGen.Tag

open CodecGen.Text

/-- What follows the opening quote of a literal, through the first quote that no backslash stands
before. -/
inductive UpToQuote : List Char → Prop
  | close : UpToQuote ['"']
  | escape (c : Char) {cs : List Char} (hcs : UpToQuote cs) : UpToQuote ('\\' :: c :: cs)
  | char {c : Char} {cs : List Char} (hquote : c ≠ '"') (hback : c ≠ '\\') (hcs : UpToQuote cs) :
      UpToQuote (c :: cs)

/-- The text is a tag with the keys and the values of the literals after them, in order. -/
inductive Spells : List Char → List (List Char × List Char) → Prop
  | nil : Spells [] []
  | space {cs : List Char} {ps : List (List Char × List Char)} (hcs : Spells cs ps) :
      Spells (' ' :: cs) ps
  | pair {key body value rest : List Char} {ps : List (List Char × List Char)} (hne : key ≠ [])
      (hkey : ∀ c ∈ key, isKeyChar c = true) (hbody : UpToQuote body)
      (hvalue : unquote? ('"' :: body) = some value) (hrest : Spells rest ps) :
      Spells (key ++ ':' :: '"' :: (body ++ rest)) ((key, value) :: ps)

/-! ## Literals -/

/-- A literal is cut off after its first quote that no backslash stands before. -/
theorem closing?_upToQuote {body : List Char} (h : UpToQuote body) (rest : List Char) :
    closing? (body ++ rest) = some (body, rest) := by
  induction h with
  | close =>
    show closing? ('"' :: rest) = _
    rw [closing?]
    · rw [if_pos rfl]
    all_goals simp
  | escape c hcs ih =>
    show closing? ('\\' :: c :: (_ ++ rest)) = _
    rw [closing?, ih]
    rfl
  | @char c cs hquote hback hcs ih =>
    show closing? (c :: (cs ++ rest)) = _
    rw [closing?]
    · rw [if_neg hquote, ih]
      rfl
    all_goals simp [hback]

/-- What is cut off as a literal ends with its first such quote. -/
theorem upToQuote_of_closing? {cs body rest : List Char} (h : closing? cs = some (body, rest)) :
    UpToQuote body := by
  fun_induction closing? cs generalizing body rest with
  | case1 => cases h
  | case2 => cases h
  | case3 c cs ih =>
    obtain ⟨⟨b, r⟩, hb, heq⟩ := Option.map_eq_some_iff.mp h
    cases heq
    exact .escape c (ih hb)
  | case4 cs =>
    cases h
    exact .close
  | case5 c cs hlast hescape hquote ih =>
    obtain ⟨⟨b, r⟩, hb, heq⟩ := Option.map_eq_some_iff.mp h
    cases heq
    -- a backslash would have begun an escape, or stood at the end
    have hback : c ≠ '\\' := by
      rintro rfl
      cases cs with
      | nil => exact hlast rfl rfl
      | cons c' cs' => exact hescape c' cs' rfl rfl
    exact .char hquote hback (ih hb)

/-- One pair is a tag. -/
theorem spells_pair {key body value : List Char} (hne : key ≠ [])
    (hkey : key.all isKeyChar = true) (hbody : closing? body = some (body, []))
    (hvalue : unquote? ('"' :: body) = some value) :
    Spells (key ++ ':' :: '"' :: body) [(key, value)] := by
  have hpair := Spells.pair hne (List.all_eq_true.mp hkey) (upToQuote_of_closing? hbody) hvalue
    .nil
  rwa [List.append_nil] at hpair

/-! ## Pairs -/

/-- A pair at the beginning of a tag is read with what follows it as the rest. -/
theorem front_pair {key body value : List Char} (hne : key ≠ [])
    (hkey : ∀ c ∈ key, isKeyChar c = true) (hbody : UpToQuote body)
    (hvalue : unquote? ('"' :: body) = some value) (offset : Nat) (rest : List Char) :
    front offset (key ++ ':' :: '"' :: (body ++ rest)) =
      .ok (.ofValue key value, key ++ ':' :: '"' :: body, rest) := by
  have htake : (key ++ ':' :: '"' :: (body ++ rest)).takeWhile isKeyChar = key := by
    rw [List.takeWhile_append_of_pos hkey, List.takeWhile_cons_of_neg (by decide), List.append_nil]
  have hdrop : (key ++ ':' :: '"' :: (body ++ rest)).dropWhile isKeyChar =
      ':' :: '"' :: (body ++ rest) := by
    rw [List.dropWhile_append_of_pos hkey, List.dropWhile_cons_of_neg (by decide)]
  unfold front
  simp only [htake, hdrop, closing?_upToQuote hbody rest, hvalue, if_neg hne]

/-- What is read as a pair is one. -/
theorem exists_of_front {offset : Nat} {cs text rest : List Char} {p : Pair}
    (h : front offset cs = .ok (p, text, rest)) :
    ∃ key body value, key ≠ [] ∧ (∀ c ∈ key, isKeyChar c = true) ∧ UpToQuote body ∧
      unquote? ('"' :: body) = some value ∧ p = .ofValue key value ∧
      cs = key ++ ':' :: '"' :: (body ++ rest) := by
  unfold front at h
  simp only at h
  split at h
  · cases h
  · rename_i hne
    split at h
    · rename_i after hdrop
      split at h
      · cases h
      · rename_i body rest' hclose
        split at h
        · cases h
        · rename_i value hvalue
          cases h
          refine ⟨cs.takeWhile isKeyChar, body, value, hne,
            List.all_eq_true.mp List.all_takeWhile, upToQuote_of_closing? hclose, hvalue, rfl, ?_⟩
          rw [closing?_append hclose, ← hdrop]
          exact List.takeWhile_append_dropWhile.symm
    · cases h

/-! ## Tags -/

/-- A tag that begins with a pair has this pair and those of the rest. -/
theorem parseFrom_of_front {offset : Nat} {c : Char} {cs text rest : List Char} {p : Pair}
    (hc : c ≠ ' ') (h : front offset (c :: cs) = .ok (p, text, rest)) :
    parseFrom offset (c :: cs) = (parseFrom (offset + byteLength text) rest).map (p :: ·) := by
  rw [parseFrom]
  · split
    · rename_i e herror
      rw [h] at herror
      cases herror
    · rename_i p' text' rest' hok
      rw [h] at hok
      cases hok
      rfl
  · exact fun hspace => hc hspace

/-- Texts that spell pairs are read as these pairs. -/
theorem parseFrom_spells {cs : List Char} {ps : List (List Char × List Char)} (h : Spells cs ps)
    (offset : Nat) : parseFrom offset cs = .ok (ps.map fun p => .ofValue p.1 p.2) := by
  induction h generalizing offset with
  | nil => rw [parseFrom]; rfl
  | space hcs ih =>
    rw [parseFrom]
    exact ih _
  | @pair key body value rest ps hne hkey hbody hvalue hrest ih =>
    have hfront := front_pair hne hkey hbody hvalue offset rest
    obtain ⟨c, key', rfl⟩ := List.exists_cons_of_ne_nil hne
    have hc : c ≠ ' ' := by
      rintro rfl
      exact absurd (hkey ' ' List.mem_cons_self) (by decide)
    rw [List.cons_append] at hfront ⊢
    rw [parseFrom_of_front hc hfront, ih]
    rfl

/-- Whatever is read as a tag is spelled as one, with the keys and values that were read. -/
theorem spells_of_parseFrom {offset : Nat} {cs : List Char} {pairs : List Pair}
    (h : parseFrom offset cs = .ok pairs) :
    ∃ ps, Spells cs ps ∧ pairs = ps.map fun p => .ofValue p.1 p.2 := by
  fun_induction parseFrom offset cs generalizing pairs with
  | case1 =>
    cases h
    exact ⟨[], .nil, rfl⟩
  | case2 offset cs ih =>
    obtain ⟨ps, hps, rfl⟩ := ih h
    exact ⟨ps, .space hps, rfl⟩
  | case3 offset c cs _ e hfront => cases h
  | case4 offset c cs _ p text rest hfront hlength ih =>
    obtain ⟨key, body, value, hne, hkey, hbody, hvalue, rfl, hcs⟩ := exists_of_front hfront
    cases hrest : parseFrom (offset + byteLength text) rest with
    | error e =>
      rw [hrest] at h
      cases h
    | ok pairs' =>
      rw [hrest] at h
      cases h
      obtain ⟨ps, hps, rfl⟩ := ih hrest
      rw [hcs]
      exact ⟨(key, value) :: ps, .pair hne hkey hbody hvalue hps, rfl⟩

/-- A text is read if and only if it is a tag, and its pairs are those that it spells. -/
theorem parse_eq_ok_iff {text : String} {pairs : List Pair} :
    parse text = .ok pairs ↔
      ∃ ps, Spells text.toList ps ∧ pairs = ps.map fun p => .ofValue p.1 p.2 := by
  constructor
  · exact spells_of_parseFrom
  · rintro ⟨ps, hps, rfl⟩
    exact parseFrom_spells hps 0

end CodecGen.Tag
