import CodecGen.Proofs.Tag.Scanner
import CodecGen.Proofs.Tag.Spelling

/-!
# The faults of tags

What `parse` answers, on every text. A text that is a tag gives its pairs, each with the parts of
its value between commas. On any other text some pair is the first that is not there: the text
before it is a tag, and `Misses` says at which byte it goes wrong and how. Tags that are rendered
are read back (`parse_exact`).
-/

namespace CodecGen.Tag

open Text (byteLength)

/-- The pair has the key, and its name and options are the parts of the value between commas. -/
structure Pair.Holds (p : Pair) (key value : List Char) : Prop where
  key_eq : p.key.toList = key
  join_eq : Text.join ',' ((p.name :: p.options).map String.toList) = value
  comma_notMem : ∀ part ∈ p.name :: p.options, ',' ∉ part.toList

/-- The text does not begin with a space and not with a pair, and the fault says what is missing.
A key is missing at the byte where it would begin, a colon with a quote at the byte after the key,
and a value at the byte of its opening quote. `offset` counts the bytes before the text. -/
inductive Misses (offset : Nat) : List Char → Fault → Prop
  | key {c : Char} {cs : List Char} (hspace : c ≠ ' ') (hc : isKeyChar c = false) :
      Misses offset (c :: cs) ⟨.key, offset⟩
  | mark {key after : List Char} (hne : key ≠ []) (hkey : ∀ c ∈ key, isKeyChar c = true)
      (hafter : ∀ c, after.head? = some c → isKeyChar c = false)
      (hmark : ∀ more, after ≠ ':' :: '"' :: more) :
      Misses offset (key ++ after) ⟨.pair, offset + byteLength key⟩
  | unclosed {key more : List Char} (hne : key ≠ []) (hkey : ∀ c ∈ key, isKeyChar c = true)
      (hopen : ∀ body rest, UpToQuote body → more ≠ body ++ rest) :
      Misses offset (key ++ ':' :: '"' :: more) ⟨.value, offset + byteLength key + 1⟩
  | undecoded {key body rest : List Char} (hne : key ≠ []) (hkey : ∀ c ∈ key, isKeyChar c = true)
      (hbody : UpToQuote body) (hvalue : unquote? ('"' :: body) = none) :
      Misses offset (key ++ ':' :: '"' :: (body ++ rest)) ⟨.value, offset + byteLength key + 1⟩

/-- The text is a tag up to a place where a pair is missing. -/
def Fails (text : List Char) (e : Fault) : Prop :=
  ∃ before rest ps, text = before ++ rest ∧ Spells before ps ∧ Misses (byteLength before) rest e

/-- A pair of a key and a value, with the value as an interpreted literal. -/
def pairText (p : String × String) : List Char :=
  p.1.toList ++ ':' :: (interpretedLiteral p.2).toList

/-- Pairs with single spaces between them. -/
def render (ps : List (String × String)) : String :=
  String.ofList (Text.join ' ' (ps.map pairText))

/-! ## Parts -/

/-- The parts that are joined are those that are found again. -/
theorem split_join {sep : Char} {pieces : List (List Char)} (hne : pieces ≠ [])
    (h : ∀ piece ∈ pieces, sep ∉ piece) : Text.split sep (Text.join sep pieces) = pieces := by
  induction pieces with
  | nil => exact absurd rfl hne
  | cons piece pieces ih =>
    cases pieces with
    | nil => exact Text.split_of_notMem (h piece List.mem_cons_self)
    | cons next pieces =>
      have hrest := ih (List.cons_ne_nil _ _) fun p hp => h p (List.mem_cons_of_mem _ hp)
      show Text.split sep (piece ++ sep :: Text.join sep (next :: pieces)) = _
      rw [Text.split_append_cons, Text.split_of_notMem (h piece List.mem_cons_self), hrest]
      rfl

/-- A pair is made of its key and value if and only if it holds their parts. -/
theorem holds_iff {p : Pair} {key value : List Char} :
    p.Holds key value ↔ p = .ofValue key value := by
  constructor
  · rintro ⟨hkey, hjoin, hcomma⟩
    have hsplit : Text.split ',' value = (p.name :: p.options).map String.toList := by
      rw [← hjoin]
      refine split_join (List.cons_ne_nil _ _) ?_
      intro piece hpiece
      obtain ⟨part, hpart, rfl⟩ := List.mem_map.mp hpiece
      exact hcomma part hpart
    have hparts : (Text.split ',' value).map String.ofList = p.name :: p.options := by
      rw [hsplit, List.map_map]
      exact (List.map_congr_left fun part _ => String.ofList_toList).trans (List.map_id _)
    -- the parts between commas are determined by the whole value
    rw [Pair.ofValue, hparts, ← hkey, String.ofList_toList]
    rfl
  · rintro rfl
    obtain ⟨first, pieces, hsplit⟩ := List.exists_cons_of_ne_nil (Text.split_ne_nil ',' value)
    have hparts : ((Pair.ofValue key value).name :: (Pair.ofValue key value).options) =
        (Text.split ',' value).map String.ofList := by
      rw [Pair.ofValue, hsplit]
      rfl
    refine ⟨String.toList_ofList, ?_, ?_⟩
    · rw [hparts, List.map_map]
      refine Eq.trans (congrArg (Text.join ',') ?_) (Text.join_split ',' value)
      exact (List.map_congr_left fun piece _ => String.toList_ofList).trans (List.map_id _)
    · rw [hparts]
      intro part hpart
      obtain ⟨piece, hpiece, rfl⟩ := List.mem_map.mp hpart
      rw [String.toList_ofList]
      exact Text.notMem_of_mem_split hpiece

/-- Pairs hold their keys and values if and only if they are read from them. -/
theorem forall₂_holds_iff {pairs : List Pair} {ps : List (List Char × List Char)} :
    List.Forall₂ (fun p kv => p.Holds kv.1 kv.2) pairs ps ↔
      pairs = ps.map fun p => .ofValue p.1 p.2 := by
  simp only [holds_iff]
  rw [← List.forall₂_eq_eq_eq, List.forall₂_map_right_iff]

/-! ## The first pair that is missing -/

/-- A literal is closed where a quote is found that no backslash stands before. -/
theorem closing?_eq_none_iff {cs : List Char} :
    closing? cs = none ↔ ∀ body rest, UpToQuote body → cs ≠ body ++ rest := by
  constructor
  · rintro h body rest hbody rfl
    rw [closing?_upToQuote hbody] at h
    cases h
  · intro h
    cases hclose : closing? cs with
    | none => rfl
    | some p =>
      obtain ⟨body, rest⟩ := p
      exact absurd (closing?_append hclose).symm (h body rest (upToQuote_of_closing? hclose))

section

variable {key after : List Char} {offset : Nat}

/-- A key ends where no character of keys follows. -/
theorem takeWhile_key (hkey : ∀ c ∈ key, isKeyChar c = true)
    (hafter : ∀ c, after.head? = some c → isKeyChar c = false) :
    (key ++ after).takeWhile isKeyChar = key ∧ (key ++ after).dropWhile isKeyChar = after := by
  rw [List.takeWhile_append_of_pos hkey, List.dropWhile_append_of_pos hkey]
  cases after with
  | nil => exact ⟨List.append_nil _, rfl⟩
  | cons c cs =>
    have hc : ¬isKeyChar c = true := by
      rw [hafter c rfl]
      decide
    rw [List.takeWhile_cons_of_neg hc, List.dropWhile_cons_of_neg hc]
    exact ⟨List.append_nil _, rfl⟩

/-- A key with its mark is followed by a value. -/
theorem front_mark (hne : key ≠ []) (hkey : ∀ c ∈ key, isKeyChar c = true) (more : List Char) :
    front offset (key ++ ':' :: '"' :: more) =
      match closing? more with
      | none => .error ⟨.value, offset + byteLength key + 1⟩
      | some (body, rest) =>
        match unquote? ('"' :: body) with
        | none => .error ⟨.value, offset + byteLength key + 1⟩
        | some value => .ok (.ofValue key value, key ++ ':' :: '"' :: body, rest) := by
  have hcolon : ∀ c, (':' :: '"' :: more).head? = some c → isKeyChar c = false := by
    rintro c ⟨⟩
    rfl
  obtain ⟨htake, hdrop⟩ := takeWhile_key hkey hcolon
  unfold front
  rw [htake, hdrop, if_neg hne]
  rfl

end

/-- A fault at a place where a pair has to begin is one of what can be missing there. -/
theorem misses_of_front {offset : Nat} {cs : List Char} {e : Fault} (hcs : cs ≠ [])
    (hspace : ∀ c, cs.head? = some c → c ≠ ' ') (h : front offset cs = .error e) :
    Misses offset cs e := by
  obtain ⟨key, hkey⟩ : ∃ key, key = cs.takeWhile isKeyChar := ⟨_, rfl⟩
  obtain ⟨after, hafter⟩ : ∃ after, after = cs.dropWhile isKeyChar := ⟨_, rfl⟩
  have hsplit : cs = key ++ after := by
    rw [hkey, hafter, List.takeWhile_append_dropWhile]
  have hall : ∀ c ∈ key, isKeyChar c = true := by
    rw [hkey]
    exact List.all_eq_true.mp List.all_takeWhile
  have hstop : ∀ c, after.head? = some c → isKeyChar c = false := by
    intro c hc
    have hhead := List.head?_dropWhile_not isKeyChar cs
    rw [← hafter, hc] at hhead
    simpa using hhead
  -- the parts of a pair are looked for in order: its key, the colon and quote, the closing quote
  by_cases hne : key = []
  · rw [front, ← hkey, if_pos hne] at h
    cases h
    obtain ⟨c, cs, rfl⟩ := List.exists_cons_of_ne_nil hcs
    rw [hne, List.nil_append] at hsplit
    exact .key (hspace c rfl) (hstop c (by rw [← hsplit]; rfl))
  by_cases hmark : ∃ more, after = ':' :: '"' :: more
  · obtain ⟨more, rfl⟩ := hmark
    rw [hsplit, front_mark hne hall] at h
    rw [hsplit]
    cases hclose : closing? more with
    | none =>
      rw [hclose] at h
      cases h
      exact .unclosed hne hall (closing?_eq_none_iff.mp hclose)
    | some p =>
      obtain ⟨body, rest⟩ := p
      rw [← closing?_append hclose]
      cases hvalue : unquote? ('"' :: body) with
      | none =>
        simp only [hclose, hvalue] at h
        cases h
        exact .undecoded hne hall (upToQuote_of_closing? hclose) hvalue
      | some value =>
        simp only [hclose, hvalue] at h
        cases h
  · have hno : ∀ more, after ≠ ':' :: '"' :: more := fun more hmore => hmark ⟨more, hmore⟩
    rw [front_of_not_mark (hkey ▸ hne) (hafter ▸ hno), ← hkey] at h
    cases h
    rw [hsplit]
    exact .mark hne hall hstop hno

/-- Whatever is missing of a pair is its fault. -/
theorem Misses.front {offset : Nat} {cs : List Char} {e : Fault} (h : Misses offset cs e) :
    Tag.front offset cs = .error e := by
  cases h with
  | key hspace hc =>
    rw [Tag.front, if_pos]
    rw [List.takeWhile_cons_of_neg (by rw [hc]; decide)]
  | @mark key after hne hkey hafter hmark =>
    obtain ⟨htake, hdrop⟩ := takeWhile_key hkey hafter
    rw [front_of_not_mark (by rwa [htake]) (by rwa [hdrop]), htake]
  | unclosed hne hkey hopen =>
    rw [front_mark hne hkey, closing?_eq_none_iff.mpr hopen]
  | @undecoded key body rest hne hkey hbody hvalue =>
    rw [front_mark hne hkey]
    simp only [closing?_upToQuote hbody, hvalue]

/-- Where a pair is missing there is a text, and it does not begin with a space. -/
theorem Misses.ne_nil {offset : Nat} {cs : List Char} {e : Fault} (h : Misses offset cs e) :
    cs ≠ [] ∧ ∀ c, cs.head? = some c → c ≠ ' ' := by
  have hkeyed : ∀ {key after : List Char}, key ≠ [] → (∀ c ∈ key, isKeyChar c = true) →
      key ++ after ≠ [] ∧ ∀ c, (key ++ after).head? = some c → c ≠ ' ' := by
    intro key after hne hkey
    obtain ⟨c, cs, rfl⟩ := List.exists_cons_of_ne_nil hne
    refine ⟨List.cons_ne_nil _ _, ?_⟩
    rintro _ ⟨⟩ rfl
    exact absurd (hkey ' ' List.mem_cons_self) (by decide)
  cases h with
  | key hspace hc =>
    refine ⟨List.cons_ne_nil _ _, ?_⟩
    rintro _ ⟨⟩
    exact hspace
  | mark hne hkey _ _ => exact hkeyed hne hkey
  | unclosed hne hkey _ => exact hkeyed hne hkey
  | undecoded hne hkey _ _ => exact hkeyed hne hkey

/-- A tag is not read on where a pair is missing. -/
theorem parseFrom_of_misses {before rest : List Char} {ps : List (List Char × List Char)}
    (h : Spells before ps) {e : Fault} {offset : Nat}
    (hrest : Misses (offset + byteLength before) rest e) :
    parseFrom offset (before ++ rest) = .error e := by
  induction h generalizing offset with
  | nil =>
    obtain ⟨hne, hspace⟩ := hrest.ne_nil
    have hfront := hrest.front
    obtain ⟨c, cs, rfl⟩ := List.exists_cons_of_ne_nil hne
    exact parseFrom_of_front_error (hspace c rfl) hfront
  | @space cs ps hcs ih =>
    rw [List.cons_append, parseFrom]
    exact ih (by rwa [Nat.add_assoc])
  | @pair key body value after ps hne hkey hbody hvalue hafter ih =>
    have hfront := front_pair hne hkey hbody hvalue offset (after ++ rest)
    have hmore : parseFrom (offset + byteLength (key ++ ':' :: '"' :: body)) (after ++ rest) =
        .error e := by
      refine ih ?_
      rw [Nat.add_assoc, ← Text.byteLength_append]
      simpa using hrest
    obtain ⟨c, key', rfl⟩ := List.exists_cons_of_ne_nil hne
    have hc : c ≠ ' ' := by
      rintro rfl
      exact absurd (hkey ' ' List.mem_cons_self) (by decide)
    have htext : (c :: key' ++ ':' :: '"' :: (body ++ after)) ++ rest =
        c :: (key' ++ ':' :: '"' :: (body ++ (after ++ rest))) := by
      simp
    rw [List.cons_append] at hfront
    rw [htext, parseFrom_of_front hc hfront, hmore]
    rfl

/-- What is not read is a tag up to a place where a pair is missing. -/
theorem misses_of_parseFrom {offset : Nat} {cs : List Char} {e : Fault}
    (h : parseFrom offset cs = .error e) :
    ∃ before rest ps, cs = before ++ rest ∧ Spells before ps ∧
      Misses (offset + byteLength before) rest e := by
  fun_induction parseFrom offset cs with
  | case1 => cases h
  | case2 offset cs ih =>
    obtain ⟨before, rest, ps, rfl, hbefore, hrest⟩ := ih h
    refine ⟨' ' :: before, rest, ps, rfl, .space hbefore, ?_⟩
    rwa [Nat.add_assoc] at hrest
  | case3 offset c cs hc e' hfront =>
    cases h
    have hspace : ∀ d, (c :: cs).head? = some d → d ≠ ' ' := by
      rintro _ ⟨⟩ rfl
      exact hc rfl
    exact ⟨[], c :: cs, [], rfl, .nil,
      misses_of_front (List.cons_ne_nil _ _) hspace hfront⟩
  | case4 offset c cs _ p text rest hfront hlength ih =>
    cases hmore : parseFrom (offset + byteLength text) rest with
    | ok pairs =>
      rw [hmore] at h
      cases h
    | error e' =>
      rw [hmore] at h
      cases h
      obtain ⟨before, after, ps, rfl, hbefore, hafter⟩ := ih hmore
      obtain ⟨key, body, value, hne, hkey, hbody, hvalue, -, hcs⟩ := exists_of_front hfront
      have htext : text = key ++ ':' :: '"' :: body := by
        have hsplit := (front_split hfront).1.trans hcs
        rw [show key ++ ':' :: '"' :: (body ++ (before ++ after)) =
          (key ++ ':' :: '"' :: body) ++ (before ++ after) by simp] at hsplit
        exact List.append_cancel_right hsplit
      refine ⟨key ++ ':' :: '"' :: (body ++ before), after, (key, value) :: ps, ?_,
        .pair hne hkey hbody hvalue hbefore, ?_⟩
      · rw [hcs]
        simp
      · rw [htext, Nat.add_assoc, ← Text.byteLength_append] at hafter
        simpa using hafter

/-! ## Rendered tags -/

/-- The characters of keys are those whose bytes are all bytes of keys. -/
theorem forall_isKeyByte_iff {cs : List Char} :
    (∀ b ∈ bytesOf cs, isKeyByte b = true) ↔ ∀ c ∈ cs, isKeyChar c = true := by
  constructor
  · intro h c hc
    obtain ⟨b, hb⟩ := List.exists_mem_of_ne_nil _ (String.utf8EncodeChar_ne_nil (c := c))
    rw [← tells_key c b hb]
    exact h b (List.mem_flatMap.mpr ⟨c, hc, hb⟩)
  · intro h b hb
    obtain ⟨c, hc, hbyte⟩ := List.mem_flatMap.mp hb
    rw [tells_key c b hbyte]
    exact h c hc

/-- An escaped text ends at its quote. -/
theorem upToQuote_escapedBody (cs : List Char) : UpToQuote (escapedBody cs) := by
  induction cs with
  | nil => exact .close
  | cons c cs ih =>
    have hcons : escapedBody (c :: cs) = escape c ++ escapedBody cs := by
      simp [escapedBody]
    rw [hcons]
    unfold escape
    split_ifs with hback hquote hline
    · exact .escape _ ih
    · exact .escape _ ih
    · exact .escape _ ih
    · exact .char hquote hback ih

/-- An escaped text is what its interpreted literal denotes. -/
theorem unquote?_escapedBody (cs : List Char) : unquote? ('"' :: escapedBody cs) = some cs := by
  rw [unquote?, escapedBody, beforeLast?_concat, Option.bind_some, decode?_flatMap_escape]

/-- A pair that is rendered is a pair of the tag, whatever follows. -/
theorem spells_pairText {p : String × String} (hne : p.1.toList ≠ [])
    (hkey : ∀ c ∈ p.1.toList, isKeyChar c = true) {rest : List Char}
    {ps : List (List Char × List Char)} (hrest : Spells rest ps) :
    Spells (pairText p ++ rest) ((p.1.toList, p.2.toList) :: ps) := by
  have hpair := Spells.pair hne hkey (upToQuote_escapedBody p.2.toList)
    (unquote?_escapedBody p.2.toList) hrest
  rw [pairText, toList_interpretedLiteral]
  simpa using hpair

/-- A rendered tag is spelled with the pairs that it is rendered from. -/
theorem spells_render {ps : List (String × String)}
    (h : ∀ p ∈ ps, p.1.toList ≠ [] ∧ ∀ c ∈ p.1.toList, isKeyChar c = true) :
    Spells (render ps).toList (ps.map fun p => (p.1.toList, p.2.toList)) := by
  rw [render, String.toList_ofList]
  induction ps with
  | nil => exact .nil
  | cons p ps ih =>
    obtain ⟨hne, hkey⟩ := h p List.mem_cons_self
    have hps := ih fun q hq => h q (List.mem_cons_of_mem _ hq)
    cases ps with
    | nil =>
      have hpair := spells_pairText hne hkey .nil
      rwa [List.append_nil] at hpair
    | cons q ps => exact spells_pairText hne hkey (.space hps)

/-- What `parse` answers on every text. Read by positions, no byte and no slice is missing, and the
answer is the same. Pairs are read exactly where the text is a tag, with the keys that it spells and
the parts of its values; a fault is reported exactly where the text goes wrong. Pairs with any
values that are rendered are read back. -/
theorem parse_exact (text : String) :
    parseBytes text = .ok (parse text) ∧
    (∀ pairs, parse text = .ok pairs ↔ ∃ ps, Spells text.toList ps ∧
      List.Forall₂ (fun p kv => p.Holds kv.1 kv.2) pairs ps) ∧
    (∀ e, parse text = .error e ↔ Fails text.toList e) ∧
    ∀ ps : List (String × String), text = render ps →
      (∀ p ∈ ps, p.1 ≠ "" ∧ ∀ b ∈ bytesOf p.1.toList, isKeyByte b = true) →
      ∃ pairs, parse text = .ok pairs ∧
        List.Forall₂ (fun pair p => pair.Holds p.1.toList p.2.toList) pairs ps := by
  have hok : ∀ pairs, parse text = .ok pairs ↔ ∃ ps, Spells text.toList ps ∧
      List.Forall₂ (fun p kv => p.Holds kv.1 kv.2) pairs ps := by
    intro pairs
    simp only [parse_eq_ok_iff, forall₂_holds_iff]
  refine ⟨parseBytes_eq text, hok, ?_, ?_⟩
  · intro e
    constructor
    · intro h
      simpa [Fails] using misses_of_parseFrom h
    · rintro ⟨before, rest, ps, htext, hbefore, hrest⟩
      rw [parse, htext]
      exact parseFrom_of_misses hbefore (by rwa [Nat.zero_add])
  · rintro ps rfl hps
    have hspells := spells_render fun p hp =>
      ⟨fun hnil => (hps p hp).1 (String.toList_inj.mp hnil), forall_isKeyByte_iff.mp (hps p hp).2⟩
    refine ⟨_, parse_eq_ok_iff.mpr ⟨_, hspells, rfl⟩, ?_⟩
    rw [List.map_map, List.forall₂_map_left_iff, List.forall₂_same]
    exact fun p _ => holds_iff.mpr rfl

/-- Two pairs, one with an option and one with quotes, as they are rendered and read back. -/
theorem parse_exact_two :
    render [("gojay", "age,omitempty"), ("fmt", "\"2006\"")] =
      "gojay:\"age,omitempty\" fmt:\"\\\"2006\\\"\"" ∧
    ∃ pairs, parse "gojay:\"age,omitempty\" fmt:\"\\\"2006\\\"\"" = .ok pairs ∧
      List.Forall₂ (fun pair p => pair.Holds p.1.toList p.2.toList) pairs
        [("gojay", "age,omitempty"), ("fmt", "\"2006\"")] := by
  have hrender : render [("gojay", "age,omitempty"), ("fmt", "\"2006\"")] =
      "gojay:\"age,omitempty\" fmt:\"\\\"2006\\\"\"" := by decide +kernel
  exact ⟨hrender, (parse_exact _).2.2.2 _ hrender.symm (by decide +kernel)⟩

/-- The second pair has no value: its quote is not closed. -/
example : parse "gojay:\"age\"  fmt:\"open" = .error ⟨.value, 17⟩ := by decide +kernel

end CodecGen.Tag
