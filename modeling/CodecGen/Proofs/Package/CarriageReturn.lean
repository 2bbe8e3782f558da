import CodecGen.Proofs.Package.ExactLikeness
import CodecGen.Proofs.Package.Names
import CodecGen.Proofs.Token.CarriageReturn

/-!
# Line ends do not matter to the parser

A source whose line ends get a carriage return is read as the same package, tags and array lengths
included, or is refused for the same reason on the same line (`parse_withReturns`). What could
differ is a raw string or an array length that spans lines, since their texts are cut from the
source.
-/

namespace CodecGen

/-- The texts between two tokens in a row are the same with returns added. -/
theorem Token.spanText_addsReturns {ts ts' : List Token}
    (h : List.Forall₂ Token.AddsReturns ts ts') :
    Text.AddsReturns (spanText ts) (spanText ts') := by
  have hsource : ∀ {us us' : List Token}, List.Forall₂ Token.AddsReturns us us' →
      Text.AddsReturns (us.flatMap fun u => u.gap ++ u.text)
        (us'.flatMap fun u => u.gap ++ u.text) := by
    intro us us' hus
    induction hus with
    | nil => exact .nil
    | cons hu _ ih =>
      rw [List.flatMap_cons, List.flatMap_cons]
      exact hu.whole.append ih
  cases h with
  | nil => exact .nil
  | cons ht hts => exact ht.text.append (hsource hts)

namespace Package

/-- Tokens are alike if one has returns added, and none if it is a raw string. Array lengths on one
line are the same. -/
def carriageReturns : ExactLikeness where
  token t t' := t.AddsReturns t' ∧ (t.kind = .rawString → '\n' ∉ t.text)
  length s s' := '\n' ∉ s.toList → s = s'
  line h := h.1.line
  kind h := .inl h.1.kind
  text := by
    rintro t t' ⟨h, hraw⟩ hkept
    by_cases hrawString : t.kind = .rawString
    · exact h.text.eq_of_notMem (hraw hrawString)
    · refine h.same (fun hcomment => ?_) hrawString
      rw [hcomment] at hkept
      rcases hkept with hkept | hkept <;> cases hkept
  span := by
    intro ts ts' h hline
    rw [String.toList_ofList] at hline
    have hspan := Token.spanText_addsReturns (h.imp fun _ _ ht => ht.1)
    exact congrArg String.ofList (hspan.trim_eq hline)

/-- Tokens with returns added are alike if no raw string spans lines. -/
theorem forall₂_carriageReturns {ts ts' : List Token} (h : List.Forall₂ Token.AddsReturns ts ts')
    (hraw : ∀ t ∈ ts, t.kind = .rawString → '\n' ∉ t.text) :
    List.Forall₂ carriageReturns.token ts ts' := by
  induction h with
  | nil => exact .nil
  | cons ht _ ih =>
    obtain ⟨ht', hts⟩ := List.forall_mem_cons.mp hraw
    exact .cons ⟨ht, ht'⟩ (ih hts)

/-- No raw string of a source and no array length of its package spans lines. -/
structure KeepsToLines (source : String) : Prop where
  raw : ∀ ts, Token.scan source.toList = .ok ts → ∀ t ∈ ts, t.kind = .rawString → '\n' ∉ t.text
  length : ∀ p, (parse source).result = .ok p → ∀ len ∈ p.lengths, '\n' ∉ len.toList

/-- A source with returns before all its line ends is read as the same package as without, or is
refused with the same message for the same line. -/
theorem parse_withReturns {source : String} (h : KeepsToLines source) :
    (parse (String.ofList (Text.withReturns source.toList))).result = (parse source).result := by
  have hscans : Token.ScanAlike (Token.scan source.toList)
      (Token.scan (Text.withReturns source.toList)) :=
    Token.scanFrom_addsReturns (.text (Text.addsReturns_withReturns source.toList))
  rw [← String.toList_ofList (l := Text.withReturns source.toList)] at hscans
  obtain ⟨e, he, he'⟩ | ⟨ts, ts', hts, hts', hrows⟩ := hscans
  · unfold parse
    rw [Logged.result_bind, Logged.result_bind, Logged.result_ofExcept, Logged.result_ofExcept, he,
      he']
  · have hlengths : ∀ p, (ofTokens ts).result = .ok p →
        carriageReturns.KeepsLengths id p.lengths := by
      intro p hp len hlen len' hsame
      refine hsame (h.length p ?_ len hlen)
      rw [parse_of_scan hts, hp]
      rfl
    have hrows' := forall₂_carriageReturns hrows (h.raw ts hts)
    have houtcome := ExactLikeness.outcome_eq hrows' hlengths
    have hid : ∀ read : Except SourceError Package, read.map (mapLengths id) = read := by
      intro read
      cases read with
      | error e => rfl
      | ok p => exact congrArg Except.ok p.mapLengths_id
    rw [hid, hid] at houtcome
    rw [parse_of_scan hts, parse_of_scan hts', houtcome]

/-- The tokens of a source with a comment over two lines and a struct with a tag and a length. -/
def returnSampleTokens : List Token :=
  [⟨.keyword .package, [], "package".toList, 1⟩, ⟨.ident, [' '], ['p'], 1⟩,
    ⟨.newline, [], ['\n'], 1⟩, ⟨.comment, [], "/* two\nlines */".toList, 2⟩,
    ⟨.keyword .typeDecl, [], "type".toList, 3⟩, ⟨.ident, [' '], ['T'], 3⟩,
    ⟨.keyword .struct, [' '], "struct".toList, 3⟩, ⟨.lbrace, [' '], ['\x7b'], 3⟩,
    ⟨.newline, [], ['\n'], 3⟩, ⟨.ident, ['\t'], ['A'], 4⟩, ⟨.lbracket, [' '], ['['], 4⟩,
    ⟨.number, [], ['2'], 4⟩, ⟨.rbracket, [], [']'], 4⟩, ⟨.ident, [], "int".toList, 4⟩,
    ⟨.rawString, [' '], "\x60a\x60".toList, 4⟩, ⟨.newline, [], ['\n'], 4⟩,
    ⟨.rbrace, [], ['\x7d'], 5⟩, ⟨.newline, [], ['\n'], 5⟩]

/-- The source that they are the tokens of. -/
def returnSample : String :=
  "package p\n/* two\nlines */type T struct \x7b\n\tA [2]int \x60a\x60\n\x7d\n"

/-- The package that it is read as. -/
def returnSamplePackage : Package :=
  ⟨"p", [⟨"T", .struct [⟨["A"], .array (some "2") (.ident "int"), some "\x60a\x60"⟩]⟩]⟩

/-- The tokens of the sample are those of its text. -/
theorem scan_returnSample : Token.scan returnSample.toList = .ok returnSampleTokens := by
  have hlaid : Token.Laid 1 [] returnSampleTokens := by decide +kernel
  have hsource : Token.source returnSampleTokens ++ [] = returnSample.toList := by decide +kernel
  exact hsource ▸ Token.scan_source hlaid

/-- The sample is read as the package. -/
theorem parse_returnSample : (parse returnSample).result = .ok returnSamplePackage := by
  rw [parse_of_scan scan_returnSample]
  rfl

/-- The sample with a return before every line end is read as the same package: a case of the
general theorem. -/
theorem parse_withReturns_sample :
    KeepsToLines returnSample ∧
      (parse ("package p\r\n/* two\r\nlines */type T struct \x7b\r\n\tA [2]int \x60a\x60" ++
        "\r\n\x7d\r\n")).result = .ok returnSamplePackage := by
  have hlines : KeepsToLines returnSample := by
    constructor
    · intro ts hts
      obtain rfl : returnSampleTokens = ts := Except.ok.inj (scan_returnSample.symm.trans hts)
      decide +kernel
    · intro p hp
      obtain rfl : returnSamplePackage = p := Except.ok.inj (parse_returnSample.symm.trans hp)
      decide +kernel
  have htext : String.ofList (Text.withReturns returnSample.toList) =
      "package p\r\n/* two\r\nlines */type T struct \x7b\r\n\tA [2]int \x60a\x60" ++
        "\r\n\x7d\r\n" := by
    decide +kernel
  exact ⟨hlines, htext ▸ (parse_withReturns hlines).trans parse_returnSample⟩

end Package

end CodecGen
