import CodecGen.Proofs.Tag.Faults
import CodecGen.Tag.Policy
import Mathlib.Logic.Relation

/-!
# The two pairs that a tag decides by

A tag that can be read decides by two of its pairs: the first with the key of the naming rules and
the first with the key of layouts. `TagRules.Decides` says what these decide, and they decide all of
it (`TagRules.Decides.unique`). So nothing that is done to the other pairs of a tag has an effect:
`Tag.Edit` puts in pairs that are not looked at and exchanges neighbours, and may be undone.
-/

namespace CodecGen

namespace Tag

/-! ## The pairs of a literal -/

/-- A literal whose content is the text of a tag with the given pairs. -/
def Carries (literal : String) (pairs : List Pair) : Prop :=
  ∃ text ps, content? literal = some text ∧ Spells text.toList ps ∧
    List.Forall₂ (fun p kv => p.Holds kv.1 kv.2) pairs ps

/-- What is no string literal, or one whose text is no tag. -/
def IsMalformed (literal : String) : Prop :=
  content? literal = none ∨
    ∃ text, content? literal = some text ∧ ∀ ps, ¬Spells text.toList ps

variable {literal : String} {pairs : List Pair}

/-- A literal is read as pairs if and only if it carries them. -/
theorem read_eq_ok_iff : read literal = .ok pairs ↔ Carries literal pairs := by
  unfold read Carries
  cases content? literal with
  | none => simp
  | some text =>
    have hparse : (parse text).mapError ReadFault.text = .ok pairs ↔ parse text = .ok pairs := by
      cases parse text with
      | error e => simp [Except.mapError]
      | ok ps => simp [Except.mapError]
    simp only [Option.some.injEq, exists_and_left, exists_eq_left', forall₂_holds_iff]
    exact hparse.trans parse_eq_ok_iff

/-- A malformed literal is not read. -/
theorem exists_read_error (h : IsMalformed literal) : ∃ e, read literal = .error e := by
  cases hread : read literal with
  | error e => exact ⟨e, rfl⟩
  | ok pairs =>
    obtain ⟨text, ps, htext, hps, -⟩ := read_eq_ok_iff.mp hread
    rcases h with hnone | ⟨text', htext', hno⟩
    · rw [hnone] at htext
      cases htext
    · obtain rfl : text' = text := Option.some.inj (htext'.symm.trans htext)
      exact absurd hps (hno ps)

/-- A literal is malformed, or it carries pairs. -/
theorem isMalformed_or_exists_carries (literal : String) :
    IsMalformed literal ∨ ∃ pairs, Carries literal pairs := by
  cases htext : content? literal with
  | none => exact .inl (.inl htext)
  | some text =>
    by_cases hps : ∃ ps, Spells text.toList ps
    · obtain ⟨ps, hps⟩ := hps
      exact .inr ⟨_, text, ps, htext, hps, forall₂_holds_iff.mpr rfl⟩
    · exact .inl (.inr ⟨text, htext, not_exists.mp hps⟩)

/-! ## First pairs -/

/-- The first of some pairs with a key, or none where no pair has it. -/
def IsFirst (key : String) (pairs : List Pair) : Option Pair → Prop
  | none => ∀ q ∈ pairs, q.key ≠ key
  | some p => p.key = key ∧
      ∃ before after, pairs = before ++ p :: after ∧ ∀ q ∈ before, q.key ≠ key

/-- A pair that is looked up by its key is the first with this key. -/
theorem get?_eq_iff {key : String} {first : Option Pair} :
    get? pairs key = first ↔ IsFirst key pairs first := by
  unfold get? IsFirst
  cases first with
  | none => simp
  | some p =>
    rw [List.find?_eq_some_iff_append]
    simp only [decide_eq_true_eq, Bool.not_eq_true', decide_eq_false_iff_not, ne_eq]

/-! ## Edits -/

/-- A change of pairs that leaves the first pairs with some keys where they are looked up. -/
inductive Edit (keys : List String) : List Pair → List Pair → Prop
  /-- A pair with none of the keys is put in. -/
  | other {before after : List Pair} {p : Pair} (hp : p.key ∉ keys) :
      Edit keys (before ++ after) (before ++ p :: after)
  /-- A pair is put in after another one with its key. -/
  | later {before after : List Pair} {p : Pair} (hp : p.key ∈ before.map Pair.key) :
      Edit keys (before ++ after) (before ++ p :: after)
  /-- Neighbours are exchanged, unless both have the same one of the keys. -/
  | exchange {before after : List Pair} {p q : Pair} (hpq : p.key = q.key → p.key ∉ keys) :
      Edit keys (before ++ p :: q :: after) (before ++ q :: p :: after)

/-- The second row is asked only where the first has no pair with the key. -/
theorem get?_append (ps qs : List Pair) (key : String) :
    get? (ps ++ qs) key = (get? ps key).or (get? qs key) :=
  List.find?_append

/-- A pair with another key does not matter. -/
theorem get?_cons_of_ne {p : Pair} {key : String} (h : p.key ≠ key) (ps : List Pair) :
    get? (p :: ps) key = get? ps key :=
  List.find?_cons_of_neg (by simpa using h)

/-- The first pair with the key is found, whatever comes after it. -/
theorem get?_cons_of_eq {p : Pair} {key : String} (h : p.key = key) (ps : List Pair) :
    get? (p :: ps) key = some p :=
  List.find?_cons_of_pos (by simpa using h)

/-- An edit does not change the first pair with one of the keys. -/
theorem Edit.get?_eq {keys : List String} {ps qs : List Pair} (h : Edit keys ps qs) {key : String}
    (hkey : key ∈ keys) : get? ps key = get? qs key := by
  cases h with
  | @other before after p hp =>
    have hne : p.key ≠ key := fun heq => hp (heq ▸ hkey)
    rw [get?_append, get?_append, get?_cons_of_ne hne]
  | @later before after p hp =>
    rw [get?_append, get?_append]
    by_cases heq : p.key = key
    -- the pair with the key that stands before decides on both sides
    · obtain ⟨q, hq, hqp⟩ := List.mem_map.mp hp
      have hsome : (get? before key).isSome = true := by
        unfold get?
        rw [List.find?_isSome]
        exact ⟨q, hq, by simpa using hqp.trans heq⟩
      obtain ⟨first, hfirst⟩ := Option.isSome_iff_exists.mp hsome
      rw [hfirst, Option.some_or, Option.some_or]
    · rw [get?_cons_of_ne heq]
  | @exchange before after p q hpq =>
    rw [get?_append, get?_append]
    congr 1
    by_cases hp : p.key = key
    · have hq : q.key ≠ key := fun hq => hpq (hp.trans hq.symm) (hp ▸ hkey)
      rw [get?_cons_of_eq hp, get?_cons_of_ne hq, get?_cons_of_eq hp]
    · by_cases hq : q.key = key
      · rw [get?_cons_of_ne hp, get?_cons_of_eq hq, get?_cons_of_eq hq]
      · rw [get?_cons_of_ne hp, get?_cons_of_ne hq, get?_cons_of_ne hq, get?_cons_of_ne hp]

/-- Edits in any number, made or undone. -/
def Edits (keys : List String) : List Pair → List Pair → Prop :=
  Relation.EqvGen (Edit keys)

/-- Edits do not change what is found for the keys that they leave alone. -/
theorem Edits.get?_eq {keys : List String} {ps qs : List Pair} (h : Edits keys ps qs)
    {key : String} (hkey : key ∈ keys) : get? ps key = get? qs key := by
  induction h with
  | rel _ _ hedit => exact hedit.get?_eq hkey
  | refl _ => rfl
  | symm _ _ _ ih => exact ih.symm
  | trans _ _ _ _ _ ih ih' => exact ih.trans ih'

end Tag

/-! ## Decisions -/

namespace TagRules

/-- What the first pair with the key of the naming rules and the first with the key of layouts
decide, where there are such pairs. -/
structure Decides (r : TagRules) (naming layout : Option Tag.Pair) (p : Policy) : Prop where
  hideMarshal : p.hideMarshal = true ↔
    ∃ n ∈ naming, n.name = "-" ∨ n.name = "-m" ∨ "-m" ∈ n.options
  hideUnmarshal : p.hideUnmarshal = true ↔
    ∃ n ∈ naming, n.name = "-" ∨ n.name = "-u" ∨ "-u" ∈ n.options
  omitEmpty : p.omitEmpty = true ↔
    ∃ n ∈ naming, n.name = "omitempty" ∨ "omitempty" ∈ n.options
  /-- A name that is a word for hiding is not a key. -/
  unnamed : p.keyName = "" ↔ ∀ n ∈ naming, n.name ∈ ["", "-", "-m", "-u"]
  named : ∀ n ∈ naming, n.name ∉ ["", "-", "-m", "-u"] → p.keyName = n.name
  layout : p.layout = (layout.map Tag.Pair.name).getD r.defaultLayout

variable {r : TagRules} {naming layout : Option Tag.Pair}

/-- Nothing is left open by the two pairs. -/
theorem Decides.unique {p q : Policy} (hp : r.Decides naming layout p)
    (hq : r.Decides naming layout q) : p = q := by
  have hmarshal : p.hideMarshal = q.hideMarshal :=
    Bool.eq_iff_iff.mpr (hp.hideMarshal.trans hq.hideMarshal.symm)
  have hunmarshal : p.hideUnmarshal = q.hideUnmarshal :=
    Bool.eq_iff_iff.mpr (hp.hideUnmarshal.trans hq.hideUnmarshal.symm)
  have homit : p.omitEmpty = q.omitEmpty :=
    Bool.eq_iff_iff.mpr (hp.omitEmpty.trans hq.omitEmpty.symm)
  have hlayout : p.layout = q.layout := hp.layout.trans hq.layout.symm
  have hname : p.keyName = q.keyName := by
    by_cases hall : ∀ n ∈ naming, n.name ∈ ["", "-", "-m", "-u"]
    · rw [hp.unnamed.mpr hall, hq.unnamed.mpr hall]
    · push Not at hall
      obtain ⟨n, hn, hno⟩ := hall
      rw [hp.named n hn hno, hq.named n hn hno]
  obtain ⟨_, _, _, _, _⟩ := p
  obtain ⟨_, _, _, _, _⟩ := q
  simp only at hmarshal hunmarshal homit hname hlayout
  rw [hmarshal, hunmarshal, homit, hname, hlayout]

/-- The pair with the naming rules says a word if it is the name or an option. -/
theorem says_iff {n : Tag.Pair} {word : String} :
    n.says word = true ↔ n.name = word ∨ word ∈ n.options := by
  unfold Tag.Pair.says Tag.Pair.hasOption
  simp

/-- Three names hide a field, in one direction or in both. -/
theorem namesHiding_iff {n : Tag.Pair} :
    n.namesHiding = true ↔ n.name = "-" ∨ n.name = "-m" ∨ n.name = "-u" := by
  unfold Tag.Pair.namesHiding
  rw [Bool.or_eq_true, Bool.or_eq_true, decide_eq_true_iff, decide_eq_true_iff, decide_eq_true_iff,
    or_assoc]
  rfl

/-- A pair hides a field by its name or by an option. -/
theorem hides_iff {n : Tag.Pair} {word : String} :
    (n.name = Tag.hideName || n.says word) = true ↔
      n.name = "-" ∨ n.name = word ∨ word ∈ n.options := by
  rw [Bool.or_eq_true, decide_eq_true_iff, says_iff]
  rfl

/-- Without a pair with the naming rules nothing but the layout is decided. -/
theorem decides_plain (r : TagRules) (layout : Option Tag.Pair) :
    r.Decides none layout (.plain ((layout.map Tag.Pair.name).getD r.defaultLayout)) := by
  constructor <;> simp [Policy.plain]

/-- The policy of a pair is what the pair decides, with the layout beside it. -/
theorem decides_policy (r : TagRules) (n : Tag.Pair) (layout : Option Tag.Pair) :
    r.Decides (some n) layout (n.policy ((layout.map Tag.Pair.name).getD r.defaultLayout)) := by
  constructor
  case hideMarshal =>
    simp only [Option.mem_some_iff, exists_eq_left']
    exact hides_iff
  case hideUnmarshal =>
    simp only [Option.mem_some_iff, exists_eq_left']
    exact hides_iff
  case omitEmpty =>
    simp only [Option.mem_some_iff, exists_eq_left']
    exact says_iff
  case unnamed =>
    by_cases hhides : n.namesHiding = true
    · simp [Tag.Pair.policy, hhides, namesHiding_iff.mp hhides]
    · have hnot := hhides
      rw [namesHiding_iff] at hnot
      simp [Tag.Pair.policy, hhides, hnot]
  case named =>
    rintro _ ⟨⟩ hname
    have hhides : ¬n.namesHiding = true := fun hhides =>
      hname (List.mem_cons_of_mem _ (by simpa using namesHiding_iff.mp hhides))
    simp [Tag.Pair.policy, hhides]
  case layout => rfl

/-- The policy of some pairs is what their first pairs with the two keys decide. -/
theorem decides_policyOf (r : TagRules) (pairs : List Tag.Pair) :
    r.Decides (Tag.get? pairs r.namingKey) (Tag.get? pairs r.layoutKey) (r.policyOf pairs) := by
  unfold policyOf
  cases Tag.get? pairs r.namingKey with
  | none => exact decides_plain r _
  | some n => exact decides_policy r n _

/-- A malformed tag gives the policy of a field without a tag. -/
theorem policy_of_isMalformed {literal : String} (h : Tag.IsMalformed literal) :
    r.policy (some literal) = .plain r.defaultLayout := by
  obtain ⟨e, he⟩ := Tag.exists_read_error h
  unfold policy
  rw [Option.map_some, he]

/-- A tag that carries pairs gives the policy of its pairs. -/
theorem policy_of_carries {literal : String} {pairs : List Tag.Pair}
    (h : Tag.Carries literal pairs) : r.policy (some literal) = r.policyOf pairs := by
  unfold policy
  rw [Option.map_some, Tag.read_eq_ok_iff.mpr h]

/-- What a tag decides. A malformed one decides what no tag does: no flag is set, no name given, and
the layout is the default. Any other decides by the first pair with either key, whatever else it
carries; so tags that can be edited into each other without touching these decide the same. -/
theorem policy_by_two_pairs (r : TagRules) (literal : String) :
    (Tag.IsMalformed literal ∧ r.policy (some literal) = r.policy none ∧
        r.policy none = ⟨false, false, false, "", r.defaultLayout⟩ ∨
      ∃ pairs naming layout, Tag.Carries literal pairs ∧ Tag.IsFirst r.namingKey pairs naming ∧
        Tag.IsFirst r.layoutKey pairs layout ∧
        r.Decides naming layout (r.policy (some literal))) ∧
    (∀ literal' pairs pairs' naming layout, Tag.Carries literal pairs →
      Tag.Carries literal' pairs' →
      Tag.IsFirst r.namingKey pairs naming → Tag.IsFirst r.namingKey pairs' naming →
      Tag.IsFirst r.layoutKey pairs layout → Tag.IsFirst r.layoutKey pairs' layout →
      r.policy (some literal) = r.policy (some literal')) ∧
    ∀ literal' pairs pairs', Tag.Carries literal pairs → Tag.Carries literal' pairs' →
      Tag.Edits [r.namingKey, r.layoutKey] pairs pairs' →
      r.policy (some literal) = r.policy (some literal') := by
  have hfirsts : ∀ literal' pairs pairs' naming layout, Tag.Carries literal pairs →
      Tag.Carries literal' pairs' →
      Tag.IsFirst r.namingKey pairs naming → Tag.IsFirst r.namingKey pairs' naming →
      Tag.IsFirst r.layoutKey pairs layout → Tag.IsFirst r.layoutKey pairs' layout →
      r.policy (some literal) = r.policy (some literal') := by
    intro literal' pairs pairs' naming layout hpairs hpairs' hnaming hnaming' hlayout hlayout'
    have hleft := decides_policyOf r pairs
    have hright := decides_policyOf r pairs'
    rw [Tag.get?_eq_iff.mpr hnaming, Tag.get?_eq_iff.mpr hlayout] at hleft
    rw [Tag.get?_eq_iff.mpr hnaming', Tag.get?_eq_iff.mpr hlayout'] at hright
    rw [policy_of_carries hpairs, policy_of_carries hpairs']
    exact hleft.unique hright
  -- an edit that leaves both keys alone keeps both first pairs
  refine ⟨?_, hfirsts, ?_⟩
  · rcases Tag.isMalformed_or_exists_carries literal with hmalformed | ⟨pairs, hpairs⟩
    · exact .inl ⟨hmalformed, policy_of_isMalformed hmalformed, rfl⟩
    · refine .inr ⟨pairs, _, _, hpairs, Tag.get?_eq_iff.mp rfl, Tag.get?_eq_iff.mp rfl, ?_⟩
      rw [policy_of_carries hpairs]
      exact decides_policyOf r pairs
  · intro literal' pairs pairs' hpairs hpairs' hedits
    have hnaming := hedits.get?_eq (List.mem_cons_self (a := r.namingKey))
    have hlayout := hedits.get?_eq (List.mem_cons_of_mem r.namingKey (List.mem_singleton_self _))
    exact hfirsts literal' pairs pairs' _ _ hpairs hpairs' (Tag.get?_eq_iff.mp hnaming)
      (Tag.get?_eq_iff.mp rfl) (Tag.get?_eq_iff.mp hlayout) (Tag.get?_eq_iff.mp rfl)

/-- A tag with a name that hides a field from decoding, and a pair for another tool after it. -/
def hiddenLiteral : String :=
  Tag.rawLiteral "gojay:\"id,-u\" json:\"id\""

/-- The pair for the other tool stands first, and another pair with the key of the naming rules,
which would hide the field, last. -/
def editedLiteral : String :=
  Tag.interpretedLiteral "yaml:\"ref\" json:\"id\"  gojay:\"id,-u\" gojay:\"-\""

/-- The two literals differ in pairs that do not count, and give the same policy. -/
theorem policy_by_two_pairs_hiddenLiteral :
    let r : TagRules := ⟨"gojay", "fmt", "time.RFC3339"⟩
    let naming : Tag.Pair := ⟨"gojay", "id", ["-u"]⟩
    let json : Tag.Pair := ⟨"json", "id", []⟩
    let yaml : Tag.Pair := ⟨"yaml", "ref", []⟩
    let more : Tag.Pair := ⟨"gojay", "-", []⟩
    Tag.Carries hiddenLiteral [naming, json] ∧
      Tag.Carries editedLiteral [yaml, json, naming, more] ∧
      Tag.Edits ["gojay", "fmt"] [naming, json] [yaml, json, naming, more] ∧
      r.policy (some hiddenLiteral) = ⟨false, true, false, "id", "time.RFC3339"⟩ ∧
      r.policy (some hiddenLiteral) = r.policy (some editedLiteral) := by
  intro r naming json yaml more
  have hhidden : Tag.Carries hiddenLiteral [naming, json] :=
    Tag.read_eq_ok_iff.mp (by decide +kernel)
  have hedited : Tag.Carries editedLiteral [yaml, json, naming, more] :=
    Tag.read_eq_ok_iff.mp (by decide +kernel)
  have hedits : Tag.Edits ["gojay", "fmt"] [naming, json] [yaml, json, naming, more] := by
    have hfirst : Tag.Edit ["gojay", "fmt"] ([] ++ [naming, json]) ([] ++ [json, naming]) :=
      .exchange (by decide)
    have hsecond : Tag.Edit ["gojay", "fmt"] ([] ++ [json, naming]) ([] ++ [yaml, json, naming]) :=
      .other (by decide)
    have hthird : Tag.Edit ["gojay", "fmt"] ([yaml, json, naming] ++ [])
        ([yaml, json, naming] ++ [more]) := .later (by decide)
    exact .trans _ _ _ (.rel _ _ hfirst) (.trans _ _ _ (.rel _ _ hsecond) (.rel _ _ hthird))
  refine ⟨hhidden, hedited, hedits, by decide +kernel, ?_⟩
  exact (policy_by_two_pairs r hiddenLiteral).2.2 _ _ _ hhidden hedited hedits

end TagRules

end CodecGen
