import CodecGen.Text.Basic
import Mathlib.Data.List.Infix

/-!
# Words that code mentions

Where code mentions a word: at the beginning of a name, and not inside a string literal. The parts
of a text can be read one by one where the word cannot reach from one into the next
(`mentions_append`); a string literal mentions nothing (`mentions_of_isStringLiteral`), and neither
does a text in which no point ends the word (`mentions_of_isQuiet`).
-/

namespace CodecGen.Text

/-- Where the reading of code stands. -/
inductive Place where
  /-- In code, before a name may begin. -/
  | code
  /-- In code, after a character of a name. -/
  | name
  /-- In an interpreted literal. -/
  | quoted
  /-- In an interpreted literal, after a backslash. -/
  | escape
  /-- In a raw literal. -/
  | raw
  deriving DecidableEq, Repr, Inhabited

/-- The character may belong to a name. What is not in ASCII counts as a letter. -/
def isNameChar (c : Char) : Bool :=
  c.isAlphanum || c = '_' || 127 < c.toNat

namespace Place

/-- The place in code after a character. -/
def inCode (c : Char) : Place :=
  if c = '"' then quoted else if c = '\x60' then raw else if isNameChar c then name else code

/-- The place after one more character. -/
def next : Place → Char → Place
  | code, c | name, c => inCode c
  | quoted, c => if c = '"' then code else if c = '\\' then escape else quoted
  | escape, _ => quoted
  | raw, c => if c = '\x60' then code else raw

/-- The place after a text. -/
def after (p : Place) (cs : List Char) : Place :=
  cs.foldl next p

/-- The place is inside a string literal. -/
def isLiteral : Place → Bool
  | code | name => false
  | quoted | escape | raw => true

/-- Reading two texts one after another is reading them as one. -/
theorem after_append (p : Place) (cs ds : List Char) :
    p.after (cs ++ ds) = (p.after cs).after ds :=
  List.foldl_append

end Place

/-- The word begins somewhere in a text that is read from the given place on. -/
def mentions (word : List Char) : Place → List Char → Bool
  | _, [] => false
  | p, c :: cs => (p = .code && word.isPrefixOf (c :: cs)) || mentions word (p.next c) cs

/-- The word is mentioned where it comes next in code. -/
theorem mentions_of_isPrefix {word cs : List Char} (hne : word ≠ []) (h : word <+: cs) :
    mentions word .code cs = true := by
  cases cs with
  | nil => exact absurd (List.prefix_nil.mp h) hne
  | cons c cs =>
    rw [mentions, List.isPrefixOf_iff_prefix.mpr h]
    rfl

/-- What a text mentions is mentioned when more text is put before it. -/
theorem mentions_append_right {word ds : List Char} {p : Place} (cs : List Char)
    (h : mentions word (p.after cs) ds = true) : mentions word p (cs ++ ds) = true := by
  induction cs generalizing p with
  | nil => exact h
  | cons c cs ih =>
    rw [List.cons_append, mentions, ih h, Bool.or_true]

/-- A word that begins in code stands in the text. -/
theorem infix_of_mentions {word cs : List Char} {p : Place} (h : mentions word p cs = true) :
    word <:+: cs := by
  induction cs generalizing p with
  | nil => cases h
  | cons c cs ih =>
    rw [mentions, Bool.or_eq_true, Bool.and_eq_true, List.isPrefixOf_iff_prefix] at h
    rcases h with ⟨_, hpre⟩ | hrest
    · exact hpre.isInfix
    · exact (ih hrest).trans (List.suffix_cons c cs).isInfix

/-! ## Texts in parts -/

/-- A word that lacks the last character of a text or the first one of what follows it cannot begin
in the one and end in the other. -/
def Parted (word cs ds : List Char) : Prop :=
  (∀ c ∈ cs.getLast?, c ∉ word) ∨ ∀ d ∈ ds.head?, d ∉ word

/-- Whether a text begins with a word can be seen in its first part, if the word cannot run on into
the second. -/
theorem isPrefixOf_append {word cs ds : List Char} (hcs : cs ≠ []) (h : Parted word cs ds) :
    word.isPrefixOf (cs ++ ds) = word.isPrefixOf cs := by
  rw [Bool.eq_iff_iff, List.isPrefixOf_iff_prefix, List.isPrefixOf_iff_prefix]
  constructor
  · intro hword
    rcases List.prefix_or_prefix_of_prefix hword (List.prefix_append cs ds) with hpre | ⟨es, rfl⟩
    · exact hpre
    · cases es with
      | nil => rw [List.append_nil]
      | cons e es =>
        -- the word would have characters on both sides
        have hes : (e :: es) <+: ds := (List.prefix_append_right_inj cs).mp hword
        rcases h with hlast | hfirst
        · refine absurd ?_ (hlast _ (List.getLast?_eq_some_getLast hcs))
          exact List.mem_append_left _ (List.getLast_mem hcs)
        · obtain ⟨fs, rfl⟩ := hes
          refine absurd ?_ (hfirst e rfl)
          exact List.mem_append_right _ List.mem_cons_self
  · intro hword
    exact hword.trans (List.prefix_append cs ds)

/-- A text in two parts mentions a word if one of the parts does. -/
theorem mentions_append {word cs ds : List Char} (p : Place) (h : Parted word cs ds) :
    mentions word p (cs ++ ds) = (mentions word p cs || mentions word (p.after cs) ds) := by
  induction cs generalizing p with
  | nil => rfl
  | cons c cs ih =>
    have hrest : Parted word cs ds := by
      refine h.imp_left fun hlast d hd => hlast d ?_
      cases cs with
      | nil => cases hd
      | cons e es => rwa [Option.mem_def, List.getLast?_cons_cons]
    have hbegins := isPrefixOf_append (List.cons_ne_nil c cs) h
    rw [List.cons_append] at hbegins
    rw [List.cons_append, mentions, mentions, ih _ hrest, hbegins, Bool.or_assoc]
    rfl

/-! ## String literals -/

/-- The literal that is open at a place is closed by the last character of a text. -/
def closes : Place → List Char → Bool
  | _, [] => false
  | p, [c] => p.next c = .code
  | p, c :: d :: cs => (p.next c).isLiteral && closes (p.next c) (d :: cs)

/-- The text is one string literal. -/
def isStringLiteral : List Char → Bool
  | [] => false
  | c :: cs => (Place.inCode c).isLiteral && closes (Place.inCode c) cs

/-- Nothing is mentioned in a literal from some place inside it on, through its end. -/
theorem mentions_of_closes {p : Place} {cs : List Char} (hp : p.isLiteral = true)
    (h : closes p cs = true) (word : List Char) : mentions word p cs = false := by
  have hcode : ∀ {p : Place}, p.isLiteral = true → p ≠ .code := by
    rintro _ hlit rfl
    cases hlit
  fun_induction closes p cs with
  | case1 => rfl
  | case2 p c =>
    rw [mentions, decide_eq_false (hcode hp)]
    rfl
  | case3 p c d cs ih =>
    obtain ⟨hnext, hrest⟩ := Bool.and_eq_true_iff.mp h
    rw [mentions, decide_eq_false (hcode hp), Bool.false_and, Bool.false_or]
    exact ih hnext hrest

/-- Literals begin with a double quote or a backquote. -/
theorem eq_of_isLiteral_inCode {c : Char} (h : (Place.inCode c).isLiteral = true) :
    c = '"' ∨ c = '\x60' := by
  by_contra hne
  obtain ⟨hquote, hraw⟩ := not_or.mp hne
  rw [Place.inCode, if_neg hquote, if_neg hraw] at h
  split at h <;> cases h

/-- A word without quotes is not mentioned in a string literal. -/
theorem mentions_of_isStringLiteral {cs word : List Char} (h : isStringLiteral cs = true)
    (hne : word ≠ []) (hquote : '"' ∉ word) (hraw : '\x60' ∉ word) :
    mentions word .code cs = false := by
  cases cs with
  | nil => cases h
  | cons c cs =>
    obtain ⟨hopen, hclose⟩ := Bool.and_eq_true_iff.mp h
    have hc : c ∉ word := by
      rcases eq_of_isLiteral_inCode hopen with rfl | rfl
      · exact hquote
      · exact hraw
    have hfirst : word.isPrefixOf (c :: cs) = false := by
      rw [Bool.eq_false_iff, ne_eq, List.isPrefixOf_iff_prefix, List.prefix_cons_iff]
      rintro (rfl | ⟨word', rfl, _⟩)
      · exact hne rfl
      · exact hc List.mem_cons_self
    rw [mentions, hfirst, Bool.and_false, Bool.false_or]
    exact mentions_of_closes hopen hclose word

/-! ## Texts without a qualifier -/

/-- No point in the text follows the letter or another point, where the text comes after the
character `a`. -/
def isQuietAfter (letter : Char) : Char → List Char → Bool
  | _, [] => true
  | a, c :: cs => (c ≠ '.' || (a ≠ letter && a ≠ '.')) && isQuietAfter letter c cs

/-- No point in the text follows the letter, and none begins the text. -/
def isQuiet (letter : Char) (cs : List Char) : Bool :=
  isQuietAfter letter '.' cs

variable {letter : Char}

/-- A text without a point at its beginning may come after any character. -/
theorem isQuietAfter_of_isQuiet {cs : List Char} (h : isQuiet letter cs = true) (a : Char) :
    isQuietAfter letter a cs = true := by
  cases cs with
  | nil => rfl
  | cons c cs =>
    simp only [isQuiet, isQuietAfter, ne_eq, not_true_eq_false, decide_false, Bool.and_false,
      Bool.or_false, Bool.and_eq_true] at h
    rw [isQuietAfter, h.1, h.2]
    rfl

/-- A text without points is quiet. -/
theorem isQuiet_of_notMem {cs : List Char} (h : '.' ∉ cs) : isQuiet letter cs = true := by
  have hafter : ∀ a, isQuietAfter letter a cs = true := by
    induction cs with
    | nil => exact fun _ => rfl
    | cons c cs ih =>
      intro a
      have hc : c ≠ '.' := fun heq => h (heq ▸ List.mem_cons_self)
      have hrest := ih (fun hmem => h (List.mem_cons_of_mem c hmem)) c
      rw [isQuietAfter, decide_eq_true hc, hrest]
      rfl
  exact hafter '.'

/-- A quiet text after another leaves it quiet, whatever stands before both. -/
theorem isQuietAfter_append {a : Char} {cs ds : List Char}
    (hcs : isQuietAfter letter a cs = true) (hds : isQuiet letter ds = true) :
    isQuietAfter letter a (cs ++ ds) = true := by
  induction cs generalizing a with
  | nil => exact isQuietAfter_of_isQuiet hds a
  | cons c cs ih =>
    obtain ⟨hc, hrest⟩ := Bool.and_eq_true_iff.mp hcs
    rw [List.cons_append, isQuietAfter, hc, ih hrest]
    rfl

/-- Two quiet texts are a quiet text. -/
theorem isQuiet_append {cs ds : List Char} (hcs : isQuiet letter cs = true)
    (hds : isQuiet letter ds = true) : isQuiet letter (cs ++ ds) = true :=
  isQuietAfter_append hcs hds

/-- A text with the letter and a point after it is not quiet. -/
theorem isQuietAfter_pair (word cs : List Char) (a : Char) :
    isQuietAfter letter a (word ++ letter :: '.' :: cs) = false := by
  induction word generalizing a with
  | nil => simp [isQuietAfter]
  | cons c word ih => rw [List.cons_append, isQuietAfter, ih, Bool.and_false]

/-- A word that ends in the letter and a point is not in a quiet text. -/
theorem not_infix_of_isQuietAfter {a : Char} {cs : List Char}
    (h : isQuietAfter letter a cs = true) (word : List Char) :
    ¬(word ++ [letter, '.']) <:+: cs := by
  rintro ⟨before, after, rfl⟩
  have hpair : isQuietAfter letter a (before ++ word ++ letter :: '.' :: after) = false :=
    isQuietAfter_pair (before ++ word) after a
  have hsplit : before ++ (word ++ [letter, '.']) ++ after =
      before ++ word ++ letter :: '.' :: after := by
    simp
  rw [hsplit, hpair] at h
  cases h

/-- A quiet text does not mention a word that ends in the letter and a point. -/
theorem mentions_of_isQuiet {cs : List Char} (h : isQuiet letter cs = true) (word : List Char)
    (p : Place) : mentions (word ++ [letter, '.']) p cs = false := by
  rw [Bool.eq_false_iff]
  exact fun hmention => not_infix_of_isQuietAfter h word (infix_of_mentions hmention)

/-- A word is found in a text if and only if it stands in it. -/
theorem hasInfix_iff {word cs : List Char} : hasInfix word cs = true ↔ word <:+: cs := by
  induction cs with
  | nil => simp [hasInfix, List.isEmpty_iff]
  | cons c cs ih =>
    rw [hasInfix, Bool.or_eq_true, ih, List.isPrefixOf_iff_prefix, List.infix_cons_iff]

end CodecGen.Text
