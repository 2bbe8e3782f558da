import CodecGen.Proofs.Load.Fold
import CodecGen.Proofs.Token.Layout

/-!
# Sources that are taken for generated

A source is passed over if a marker line stands anywhere in it, in a literal or after declarations
too, and if nothing but a line end follows the line (`isGenerated_iff_markedAt`). It says by the
standard that it was generated if a marker line stands before everything that is neither blank nor
comment, and then lines may end with a carriage return. The two are the same for sources whose
marker lines all stand there and end without one (`readDeclarations_marked`).
-/

namespace CodecGen

/-! ## Lines of a text -/

namespace Text

variable {sep : Char} {piece : List Char}

/-- The text is nothing, or ends with the separator. -/
def StopsWith (sep : Char) (before : List Char) : Prop :=
  ∀ c, before.getLast? = some c → c = sep

/-- The text is nothing, or begins with the separator. -/
def GoesOnWith (sep : Char) (after : List Char) : Prop :=
  ∀ c, after.head? = some c → c = sep

theorem stopsWith_nil : StopsWith sep [] := by
  intro c hc
  cases hc

theorem goesOnWith_nil : GoesOnWith sep [] := by
  intro c hc
  cases hc

/-- A separator goes on with what follows it. -/
theorem goesOnWith_cons (rest : List Char) : GoesOnWith sep (sep :: rest) := by
  intro c hc
  exact (Option.some.inj hc).symm

/-- What ends with a separator still does with more text before it. -/
theorem stopsWith_append_cons (first : List Char) {before : List Char}
    (h : StopsWith sep before) : StopsWith sep (first ++ sep :: before) := by
  intro c hc
  cases before with
  | nil =>
    rw [List.getLast?_concat] at hc
    exact (Option.some.inj hc).symm
  | cons b bs =>
    rw [List.getLast?_append_of_ne_nil _ (List.cons_ne_nil _ _), List.getLast?_cons_cons] at hc
    exact h c hc

/-- A piece of a text stands at the start or after a separator, and at the end or before one. -/
theorem exists_of_mem_split {cs : List Char} (h : piece ∈ split sep cs) : ∃ before after,
    cs = before ++ (piece ++ after) ∧ StopsWith sep before ∧ GoesOnWith sep after := by
  by_cases hsep : sep ∈ cs
  · obtain ⟨first, rest, rfl, hfirst⟩ := List.eq_append_cons_of_mem hsep
    rw [split_append_cons, split_of_notMem hfirst] at h
    rcases List.mem_cons.mp h with rfl | hrest
    · exact ⟨[], sep :: rest, rfl, stopsWith_nil, goesOnWith_cons rest⟩
    · obtain ⟨before, after, rfl, hbefore, hafter⟩ := exists_of_mem_split hrest
      exact ⟨first ++ sep :: before, after, by simp, stopsWith_append_cons first hbefore, hafter⟩
  · rw [split_of_notMem hsep, List.mem_singleton] at h
    subst h
    exact ⟨[], [], (List.append_nil piece).symm, stopsWith_nil, goesOnWith_nil⟩
termination_by cs.length

/-- A text without separators between two places of a cut is a piece. -/
theorem mem_split_of_stops {before after : List Char} (hpiece : sep ∉ piece)
    (hbefore : StopsWith sep before) (hafter : GoesOnWith sep after) :
    piece ∈ split sep (before ++ (piece ++ after)) := by
  have hfront : piece ∈ split sep (piece ++ after) := by
    cases after with
    | nil =>
      rw [List.append_nil, split_of_notMem hpiece]
      exact List.mem_singleton_self piece
    | cons c cs =>
      rw [hafter c rfl, split_append_cons, split_of_notMem hpiece]
      exact List.mem_cons_self
  cases hlast : before.getLast? with
  | none =>
    rw [List.getLast?_eq_none_iff.mp hlast]
    exact hfront
  | some c =>
    obtain ⟨init, rfl⟩ := List.getLast?_eq_some_iff.mp hlast
    rw [hbefore c hlast, List.append_assoc, List.singleton_append, split_append_cons]
    exact List.mem_append_right _ hfront

end Text

open Text (StopsWith GoesOnWith)

/-! ## Marker lines -/

/-- A line of the text, or what begins a line of it, is a marker. -/
structure MarkedAt (source before line after : List Char) : Prop where
  split : source = before ++ (line ++ after)
  begins : StopsWith '\n' before
  marks : ∃ tool, '\n' ∉ tool ∧ line = markerOpening ++ (tool ++ markerClosing)

/-- The words that a marker begins with stand behind what is before it. -/
theorem MarkedAt.place {source before line after : List Char}
    (h : MarkedAt source before line after) : before.length ≤ source.length ∧
      before = source.take before.length ∧ markerOpening <+: source.drop before.length := by
  obtain ⟨rfl, -, tool, -, rfl⟩ := h
  rw [List.take_left, List.drop_left, List.length_append, List.append_assoc]
  exact ⟨Nat.le_add_right _ _, rfl, List.prefix_append _ _⟩

/-- A marker has its two ends beside each other, or with a text between them. -/
theorem isMarkerLine_iff {line : List Char} :
    isMarkerLine line = true ↔ ∃ tool, line = markerOpening ++ (tool ++ markerClosing) := by
  unfold isMarkerLine
  rw [Bool.and_eq_true, List.isPrefixOf_iff_prefix, List.isSuffixOf_iff_suffix]
  constructor
  · rintro ⟨⟨rest, rfl⟩, hclosing⟩
    rw [List.drop_left] at hclosing
    obtain ⟨tool, rfl⟩ := hclosing
    exact ⟨tool, rfl⟩
  · rintro ⟨tool, rfl⟩
    rw [List.drop_left]
    exact ⟨List.prefix_append _ _, List.suffix_append _ _⟩

/-- A marker has a line end in it only if the name of the tool has. -/
theorem newline_mem_marker_iff {tool : List Char} :
    '\n' ∈ markerOpening ++ (tool ++ markerClosing) ↔ '\n' ∈ tool := by
  have hopening : '\n' ∉ markerOpening := by decide
  have hclosing : '\n' ∉ markerClosing := by decide
  rw [List.mem_append, List.mem_append]
  exact ⟨fun h => (h.resolve_left hopening).resolve_right hclosing, fun h => .inr (.inl h)⟩

/-- A source is taken for generated if some line of it is a marker, wherever the line stands. -/
theorem isGenerated_iff_markedAt {source : String} : isGenerated source = true ↔
    ∃ before line after, MarkedAt source.toList before line after ∧ GoesOnWith '\n' after := by
  unfold isGenerated
  rw [List.any_eq_true]
  constructor
  · rintro ⟨line, hline, hmarker⟩
    obtain ⟨tool, rfl⟩ := isMarkerLine_iff.mp hmarker
    have htool := mt newline_mem_marker_iff.mpr (Text.notMem_of_mem_split hline)
    obtain ⟨before, after, hsplit, hbefore, hafter⟩ := Text.exists_of_mem_split hline
    exact ⟨before, _, after, ⟨hsplit, hbefore, tool, htool, rfl⟩, hafter⟩
  · rintro ⟨before, _, after, ⟨hsplit, hbefore, tool, htool, rfl⟩, hafter⟩
    refine ⟨_, ?_, isMarkerLine_iff.mpr ⟨tool, rfl⟩⟩
    rw [hsplit]
    exact Text.mem_split_of_stops (mt newline_mem_marker_iff.mp htool) hbefore hafter

/-! ## The standard -/

/-- Blanks, line ends and comments in a row, of which the last may still go on. -/
inductive IsPreamble : List Char → Prop
  | nil : IsPreamble []
  | blank {c : Char} {cs : List Char} (hc : Token.isGapChar c = true ∨ c = '\n')
      (hcs : IsPreamble cs) : IsPreamble (c :: cs)
  | line {cs rest : List Char} (hcs : '\n' ∉ cs) (hend : GoesOnWith '\n' rest)
      (hrest : IsPreamble rest) : IsPreamble ('/' :: '/' :: (cs ++ rest))
  | block {cs rest : List Char} (hcs : Token.CommentBody cs) (hrest : IsPreamble rest) :
      IsPreamble ('/' :: '*' :: (cs ++ rest))
  | unclosed {cs : List Char} (hcs : ¬['*', '/'] <:+: cs) : IsPreamble ('/' :: '*' :: cs)

/-- A preamble begins with a blank, a line end or a slash. -/
theorem IsPreamble.head {c : Char} {cs : List Char} (h : IsPreamble (c :: cs)) :
    Token.isGapChar c = true ∨ c = '\n' ∨ c = '/' := by
  cases h with
  | blank hc _ => exact hc.imp_right .inl
  | line => exact .inr (.inr rfl)
  | block => exact .inr (.inr rfl)
  | unclosed => exact .inr (.inr rfl)

/-- A marker is a comment. -/
theorem isPreamble_marker {tool : List Char} (htool : '\n' ∉ tool) :
    IsPreamble (markerOpening ++ (tool ++ markerClosing)) := by
  have hline : '\n' ∉ " Code generated ".toList ++ (tool ++ markerClosing) :=
    fun hmem => htool (newline_mem_marker_iff.mp (List.mem_cons_of_mem _
      (List.mem_cons_of_mem _ hmem)))
  have hcomment : IsPreamble ('/' :: '/' ::
      (" Code generated ".toList ++ (tool ++ markerClosing) ++ [])) :=
    .line hline Text.goesOnWith_nil .nil
  rwa [List.append_nil] at hcomment

/-- The source says by the standard that a tool wrote it: a line that ends like any line, and stands
before everything that is neither blank nor comment, is a marker. -/
def SaysGenerated (source : List Char) : Prop :=
  ∃ before line after, MarkedAt source before line after ∧
    (GoesOnWith '\n' after ∨ ['\r', '\n'] <+: after) ∧ IsPreamble (before ++ line)

/-- Nothing is read of a source file if and only if a marker stands on a line of it, anywhere in the
file, with nothing but a line end after it. Where markers stand only before what is neither blank
nor comment, and no carriage return comes after them, these are the files that say by the standard
that they were generated. -/
theorem readDeclarations_marked (source : String) :
    ((readDeclarations (some "go") source).result = .ok none ↔ isGenerated source = true) ∧
      (isGenerated source = true ↔ ∃ before line after,
        MarkedAt source.toList before line after ∧ GoesOnWith '\n' after) ∧
      ((∀ before line after, MarkedAt source.toList before line after →
          IsPreamble (before ++ line) ∧ ¬['\r', '\n'] <+: after) →
        (isGenerated source = true ↔ SaysGenerated source.toList)) := by
  refine ⟨?_, isGenerated_iff_markedAt, fun hmarkers => ?_⟩
  · rw [readDeclarations_result, if_pos rfl]
    split
    · simp [*]
    · simp [*, ofSource_ne_none]
  · rw [isGenerated_iff_markedAt]
    constructor
    · rintro ⟨before, line, after, hmarked, hafter⟩
      exact ⟨before, line, after, hmarked, .inl hafter, (hmarkers _ _ _ hmarked).1⟩
    · rintro ⟨before, line, after, hmarked, hafter, -⟩
      exact ⟨before, line, after, hmarked, hafter.resolve_right (hmarkers _ _ _ hmarked).2⟩

/-- A source that a tool wrote: a comment, the marker, and declarations. -/
def eventsSource : String :=
  "// Package events has what is sent.\n// Code generated by gojay-gen. DO NOT EDIT.\n\n" ++
    "package events\n\nimport \"time\"\n\n// Event is sent once.\ntype Event struct \x7b\n" ++
    "\tID int\n\tAt time.Time // DO NOT EDIT.\n\x7d\n"

/-- The only marker of such a source stands before its declarations, so that it is passed over by
the standard. -/
theorem readDeclarations_marked_eventsSource :
    (∀ before line after, MarkedAt eventsSource.toList before line after →
        IsPreamble (before ++ line) ∧ ¬['\r', '\n'] <+: after) ∧
      SaysGenerated eventsSource.toList ∧
      (readDeclarations (some "go") eventsSource).result = .ok none := by
  have hreturn : '\r' ∉ eventsSource.toList := by decide +kernel
  -- the words that a marker begins with stand at one place only
  have hplaces : ∀ n < eventsSource.toList.length + 1,
      markerOpening.isPrefixOf (eventsSource.toList.drop n) = true → n = 36 := by
    decide +kernel
  have hstart : eventsSource.toList.take 36 =
      '/' :: '/' :: (" Package events has what is sent.".toList ++ ['\n']) := by
    decide +kernel
  have hmarkers : ∀ before line after, MarkedAt eventsSource.toList before line after →
      IsPreamble (before ++ line) ∧ ¬['\r', '\n'] <+: after := by
    intro before line after hmarked
    obtain ⟨hle, htake, hopens⟩ := hmarked.place
    obtain ⟨hsplit, -, tool, htool, rfl⟩ := hmarked
    have hplace := hplaces before.length (by omega) (List.isPrefixOf_iff_prefix.mpr hopens)
    rw [hplace, hstart] at htake
    constructor
    · rw [htake, List.cons_append, List.cons_append, List.append_assoc]
      exact .line (by decide) (Text.goesOnWith_cons _) (.blank (.inr rfl) (isPreamble_marker htool))
    · intro hreturned
      refine hreturn ?_
      rw [hsplit]
      exact List.mem_append_right _ (List.mem_append_right _ (hreturned.subset List.mem_cons_self))
  have hgenerated : isGenerated eventsSource = true := by decide +kernel
  obtain ⟨hread, -, hstandard⟩ := readDeclarations_marked eventsSource
  exact ⟨hmarkers, (hstandard hmarkers).mp hgenerated, hread.mpr hgenerated⟩

/-- A source with a marker in a literal is passed over although it does not say that it was
generated, and one that says so is read where its lines end with carriage returns. -/
theorem isGenerated_not_standard :
    let quoting := "package p\n\nvar s = \x60\n// Code generated by hand. DO NOT EDIT.\n\x60\n"
    let returning := "// Code generated by hand. DO NOT EDIT.\r\n\r\npackage p\r\n"
    isGenerated quoting = true ∧ ¬SaysGenerated quoting.toList ∧
      isGenerated returning = false ∧ SaysGenerated returning.toList := by
  intro quoting returning
  refine ⟨by decide +kernel, ?_, by decide +kernel, ?_⟩
  · rintro ⟨before, line, after, ⟨hsplit, -, tool, -, hline⟩, -, hpreamble⟩
    have hopening : markerOpening ≠ [] := by decide
    have hne : before ++ line ≠ [] := by
      rw [hline]
      simp [hopening]
    obtain ⟨c, cs, hstart⟩ := List.exists_cons_of_ne_nil hne
    have hfirst : quoting.toList.head? = some 'p' := by decide +kernel
    rw [hsplit, ← List.append_assoc, hstart] at hfirst
    obtain rfl : c = 'p' := Option.some.inj hfirst
    rw [hstart] at hpreamble
    exact absurd hpreamble.head (by decide)
  · have hmarked : MarkedAt returning.toList [] "// Code generated by hand. DO NOT EDIT.".toList
        "\r\n\r\npackage p\r\n".toList :=
      ⟨by decide +kernel, Text.stopsWith_nil, "by hand.".toList, by decide +kernel,
        by decide +kernel⟩
    have hcomment : IsPreamble
        ('/' :: '/' :: (" Code generated by hand. DO NOT EDIT.".toList ++ [])) :=
      .line (by decide +kernel) Text.goesOnWith_nil .nil
    exact ⟨[], _, _, hmarked, .inr (by decide +kernel), hcomment⟩

end CodecGen
