import CodecGen.Proofs.Package.Extents
import CodecGen.Proofs.Package.Names
import CodecGen.Proofs.Token.Respelling
import CodecGen.Proofs.Token.Tiling

/-!
# Where faults are reported

A reader of declarations leaves an end of the tokens ahead, and a fault that stops it is reported at
the first token of such an end, or at the end of the file (`ofTokens_endsIn`). So the line of every
fault in a source is that of one of its tokens, or of the character that no token begins with
(`parse_faultLines`).
-/

namespace CodecGen

/-- A fault is reported where the given tokens are ahead: it has the line of the first of them, its
message says that this one was found, and what only the end of a file brings about is reported only
there. -/
structure ReadFault.IsAt (e : ReadFault) (rest : List Token) : Prop where
  line : e.line? = rest.head?.map Token.line
  found : ∀ what found, e.fault = .expected what found → found = rest.head?.map Token.describe
  ending : e.fault ∈ [.unbalanced, .unterminatedGroup, .unterminatedStruct, .unterminatedLength] →
    rest = []

namespace Package

open Reading

/-- What the reader leaves, told by the value, is an end of the tokens ahead, and its fault is
reported where such an end is ahead. -/
structure EndsIn {α : Type} (left : α → List Token) (ts : List Token) (r : Reading α) : Prop where
  value : ∀ a, r.result = .ok a → left a <:+ ts
  fault : ∀ e, r.result = .error e → ∃ rest, rest <:+ ts ∧ e.IsAt rest

section

variable {α β : Type} {left : α → List Token} {left' : β → List Token} {ts us : List Token}

/-- A value that leaves an end of the tokens ends in them. -/
theorem endsIn_pure {a : α} (h : left a <:+ ts) : EndsIn left ts (pure a) := by
  constructor
  · rintro _ ⟨⟩
    exact h
  · rintro _ ⟨⟩

/-- What ends in an end of the tokens ends in all of them. -/
theorem EndsIn.mono {r : Reading α} (h : EndsIn left us r) (hus : us <:+ ts) :
    EndsIn left ts r := by
  refine ⟨fun a ha => (h.value a ha).trans hus, fun e he => ?_⟩
  obtain ⟨rest, hrest, hat⟩ := h.fault e he
  exact ⟨rest, hrest.trans hus, hat⟩

/-- A reader that goes on with what another leaves ends in the tokens ahead of both. -/
theorem EndsIn.bind {x : Reading α} {f : α → Reading β} (hx : EndsIn left ts x)
    (hf : ∀ a, EndsIn left' (left a) (f a)) : EndsIn left' ts (x >>= f) := by
  constructor
  · intro b hb
    obtain ⟨a, ha, hfa⟩ := Logged.exists_of_result_bind hb
    exact ((hf a).value b hfa).trans (hx.value a ha)
  · intro e he
    rw [Logged.result_bind] at he
    cases hresult : x.result with
    | error e' =>
      rw [hresult] at he
      cases he
      exact hx.fault e hresult
    | ok a =>
      rw [hresult] at he
      exact ((hf a).mono (hx.value a hresult)).fault e he

/-- A note before a reading makes no difference to where it ends. -/
theorem EndsIn.after_note {r : Reading α} (h : EndsIn left ts r) (level : Level) (text : String) :
    EndsIn left ts (Logged.note level text >>= fun _ => r) := by
  have hnote : EndsIn (fun _ => ts) ts (Logged.note level text : Reading Unit) :=
    ⟨fun _ _ => List.suffix_rfl, fun _ he => by cases he⟩
  exact hnote.bind fun _ => h

/-- A report of an unexpected token stands at that token. -/
theorem endsIn_expected (h : us <:+ ts) (what : String) :
    EndsIn left ts (expected what us : Reading α) := by
  constructor
  · rintro _ ⟨⟩
  · rintro _ ⟨⟩
    refine ⟨us, h, rfl, ?_, ?_⟩
    · rintro _ _ ⟨⟩
      rfl
    · intro hfault
      simp at hfault

/-- A fault of the end of a file is reported there. -/
theorem endsIn_failAt_nil {fault : SourceFault} (h : ∀ what found, fault ≠ .expected what found) :
    EndsIn left ts (failAt [] fault : Reading α) := by
  constructor
  · rintro _ ⟨⟩
  · rintro _ ⟨⟩
    exact ⟨[], List.nil_suffix, rfl, fun what found heq => absurd heq (h what found), fun _ => rfl⟩

/-! ## Readers without types inside -/

/-- An awaited token is taken, or the fault stands at the one that is there. -/
theorem expectKind_endsIn (kind : TokenKind) (what : String) (ts : List Token) :
    EndsIn id ts (expectKind kind what ts) := by
  cases ts with
  | nil => exact endsIn_expected List.suffix_rfl what
  | cons t ts =>
    rw [expectKind]
    split
    · exact endsIn_pure (List.suffix_cons t ts)
    · exact endsIn_expected List.suffix_rfl what

/-- A name is taken, or the fault stands at the token that is there. -/
theorem identifier_endsIn (ts : List Token) : EndsIn Prod.snd ts (identifier ts) := by
  cases ts with
  | nil => exact endsIn_expected List.suffix_rfl _
  | cons t ts =>
    rw [identifier]
    split
    · exact endsIn_pure (List.suffix_cons t ts)
    · exact endsIn_expected List.suffix_rfl _

/-- A statement is passed over, or the fault stands where its brackets do not close. -/
theorem skipStatement_endsIn (depth : Nat) (ts : List Token) :
    EndsIn id ts (skipStatement depth ts) := by
  induction ts generalizing depth with
  | nil =>
    rw [skipStatement]
    split
    · exact endsIn_pure List.suffix_rfl
    · exact endsIn_failAt_nil (by simp)
  | cons t ts ih =>
    rw [skipStatement]
    have hmore : ∀ depth', EndsIn id (t :: ts) (skipStatement depth' ts) := fun depth' =>
      (ih depth').mono (List.suffix_cons t ts)
    split
    · exact hmore _
    · split
      · split
        · exact endsIn_expected List.suffix_rfl _
        · exact hmore _
      · split
        · exact endsIn_pure List.suffix_rfl
        · exact hmore _

/-- A group is passed over, or the fault stands at the end of the file. -/
theorem skipGroup_endsIn (depth : Nat) (ts : List Token) : EndsIn id ts (skipGroup depth ts) := by
  induction ts generalizing depth with
  | nil => exact endsIn_failAt_nil (by simp)
  | cons t ts ih =>
    rw [skipGroup]
    have hmore : ∀ depth', EndsIn id (t :: ts) (skipGroup depth' ts) := fun depth' =>
      (ih depth').mono (List.suffix_cons t ts)
    split
    · exact hmore _
    · split
      · split
        · exact endsIn_pure (List.suffix_cons t ts)
        · exact hmore _
      · exact hmore _

/-- An awaited group is passed over, or the fault stands at the token that is there or at the end.
-/
theorem expectGroup_endsIn (kind : TokenKind) (what : String) (ts : List Token) :
    EndsIn id ts (expectGroup kind what ts) := by
  unfold expectGroup
  split
  · exact skipGroup_endsIn 0 ts
  · exact endsIn_expected List.suffix_rfl what

/-- An array length is read, or the fault stands at the end of the file. -/
theorem lengthTokens_endsIn (depth : Nat) (ts : List Token) :
    EndsIn Prod.snd ts (lengthTokens depth ts) := by
  induction ts generalizing depth with
  | nil => exact endsIn_failAt_nil (by simp)
  | cons t ts ih =>
    rw [lengthTokens]
    split
    · exact endsIn_pure List.suffix_rfl
    · refine EndsIn.mono ?_ (List.suffix_cons t ts)
      exact (ih _).bind fun _ => endsIn_pure List.suffix_rfl

/-- Names are read, or the fault stands where one is missing. -/
theorem names_endIn (ts : List Token) :
    EndsIn Prod.snd ts (namesAfter ts) ∧ EndsIn Prod.snd ts (nameAwaited ts) := by
  induction ts with
  | nil => exact ⟨endsIn_pure List.suffix_rfl, endsIn_expected List.suffix_rfl _⟩
  | cons t ts ih =>
    have hsuffix := List.suffix_cons t ts
    constructor
    · rw [namesAfter]
      split
      · exact ih.2.mono hsuffix
      · exact endsIn_pure List.suffix_rfl
    · rw [nameAwaited]
      split
      · exact ih.2.mono hsuffix
      · split
        · refine EndsIn.mono ?_ hsuffix
          exact ih.1.bind fun _ => endsIn_pure List.suffix_rfl
        · exact endsIn_expected List.suffix_rfl _

/-- The tag of a field is taken from the tokens ahead, and never missed. -/
theorem fieldTag_endsIn (names : List String) (type : GoType) (ts : List Token) :
    EndsIn Prod.snd ts (fieldTag names type ts) := by
  cases ts with
  | nil => exact endsIn_pure List.suffix_rfl
  | cons t ts =>
    rw [fieldTag]
    split
    · exact endsIn_pure (List.suffix_cons t ts)
    · exact endsIn_pure List.suffix_rfl

/-- A field line ends, or the fault stands at the token that goes on with it. -/
theorem fieldEnd_endsIn (ts : List Token) : EndsIn id ts (fieldEnd ts) := by
  cases ts with
  | nil => exact endsIn_expected List.suffix_rfl _
  | cons t ts =>
    rw [fieldEnd]
    split
    · exact endsIn_pure (List.suffix_cons t ts)
    · split
      · exact endsIn_pure List.suffix_rfl
      · exact endsIn_expected List.suffix_rfl _

/-- A reader that goes on after one token. -/
theorem EndsIn.after_tail {r : Reading α} (h : EndsIn left ts.tail r) : EndsIn left ts r :=
  h.mono (List.tail_suffix ts)

/-- A named type is read, or the fault stands among the tokens after its name. -/
theorem namedType_endsIn (name : Token) (ts : List Token) :
    EndsIn Prod.snd ts (namedType name ts) := by
  have harguments : ∀ p : GoType × List Token, EndsIn Prod.snd p.2
      (if next? p.2 = some .lbracket then do
        let us ← skipGroup 0 p.2
        Logged.note .debug ("line " ++ toString name.line ++ ": ignoring type arguments")
        pure (p.1, us)
      else pure p) := by
    intro p
    split
    · refine (skipGroup_endsIn 0 p.2).bind fun us => ?_
      refine EndsIn.after_note ?_ _ _
      exact endsIn_pure List.suffix_rfl
    · exact endsIn_pure List.suffix_rfl
  unfold namedType
  dsimp only
  split
  · refine EndsIn.after_tail ?_
    refine (identifier_endsIn ts.tail).bind fun sel => ?_
    exact EndsIn.bind (endsIn_pure List.suffix_rfl) harguments
  · exact EndsIn.bind (endsIn_pure List.suffix_rfl) harguments

/-! ## Type expressions -/

section

variable {inner : TypeReader} (h : ∀ ts, EndsIn Prod.snd ts (inner ts))

include h

/-- Slices and arrays end in the tokens ahead if their elements do. -/
theorem arrayType_endsIn (ts : List Token) : EndsIn Prod.snd ts (arrayType inner ts) := by
  have helem : ∀ (us : List Token) (len : Option String),
      EndsIn Prod.snd us (inner us.tail >>= fun p => pure (GoType.array len p.1, p.2)) :=
    fun us len => EndsIn.after_tail ((h _).bind fun _ => endsIn_pure List.suffix_rfl)
  unfold arrayType
  split
  · exact helem ts none
  · exact (lengthTokens_endsIn 0 ts).bind fun p => helem p.2 _

/-- Map types end in the tokens ahead if their keys and values do. -/
theorem mapType_endsIn (ts : List Token) : EndsIn Prod.snd ts (mapType inner ts) := by
  unfold mapType
  refine (expectKind_endsIn .lbracket _ ts).bind fun us => ?_
  refine (h us).bind fun key => ?_
  refine (expectKind_endsIn .rbracket _ key.2).bind fun vs => ?_
  exact (h vs).bind fun _ => endsIn_pure List.suffix_rfl

/-- Channel types end in the tokens ahead if their elements do. -/
theorem chanType_endsIn (ts : List Token) : EndsIn Prod.snd ts (chanType inner ts) := by
  unfold chanType
  exact (h ts).bind fun _ => endsIn_pure List.suffix_rfl

/-- Signatures end in the tokens ahead if a single result does. -/
theorem skipSignature_endsIn (ts : List Token) : EndsIn id ts (skipSignature inner ts) := by
  unfold skipSignature
  refine (expectGroup_endsIn .lparen _ ts).bind fun us => ?_
  dsimp only [id]
  split
  · exact skipGroup_endsIn 0 us
  · split
    · exact (h us).bind fun _ => endsIn_pure List.suffix_rfl
    · exact endsIn_pure List.suffix_rfl
  · exact endsIn_pure List.suffix_rfl

/-- Field lines end in the tokens ahead if their types do. -/
theorem fieldLine_endsIn (ts : List Token) : EndsIn Prod.snd ts (fieldLine inner ts) := by
  unfold fieldLine
  split
  · exact (h ts).bind fun p => fieldTag_endsIn _ _ p.2
  · refine (identifier_endsIn ts).bind fun name => ?_
    refine (names_endIn name.2).1.bind fun names => ?_
    exact (h names.2).bind fun p => fieldTag_endsIn _ _ p.2

/-- The fields of a struct end in the tokens ahead: induction on the turns. -/
theorem structFields_endsIn (turns : Nat) (ts : List Token) :
    EndsIn Prod.snd ts (structFields inner turns ts) := by
  induction turns generalizing ts with
  | zero => exact endsIn_failAt_nil (by simp)
  | succ turns ih =>
    rw [structFields]
    refine EndsIn.mono ?_ (skipSeparators_suffix ts)
    split
    · exact endsIn_failAt_nil (by simp)
    · rename_i t us hskip
      rw [hskip]
      split
      · exact endsIn_pure (List.suffix_cons t us)
      · refine (fieldLine_endsIn h _).bind fun field => ?_
        refine (fieldEnd_endsIn field.2).bind fun vs => ?_
        exact (ih vs).bind fun _ => endsIn_pure List.suffix_rfl

/-- Struct types end in the tokens ahead if the types of their fields do. -/
theorem structType_endsIn (ts : List Token) : EndsIn Prod.snd ts (structType inner ts) := by
  unfold structType
  refine (expectKind_endsIn .lbrace _ ts).bind fun us => ?_
  exact (structFields_endsIn h _ us).bind fun _ => endsIn_pure List.suffix_rfl

/-- Every form of type expression ends in the tokens ahead if the types inside do. -/
theorem typeForm_endsIn (ts : List Token) : EndsIn Prod.snd ts (typeForm inner ts) := by
  cases ts with
  | nil => exact endsIn_expected List.suffix_rfl _
  | cons t ts =>
    have hsuffix := List.suffix_cons t ts
    rw [typeForm]
    split
    · exact (namedType_endsIn t ts).mono hsuffix
    · refine EndsIn.mono ?_ hsuffix
      exact (h ts).bind fun _ => endsIn_pure List.suffix_rfl
    · exact (arrayType_endsIn h ts).mono hsuffix
    · exact (mapType_endsIn h ts).mono hsuffix
    · exact (structType_endsIn h ts).mono hsuffix
    · refine EndsIn.mono ?_ hsuffix
      exact (expectGroup_endsIn .lbrace _ ts).bind fun _ => endsIn_pure List.suffix_rfl
    · refine EndsIn.mono ?_ hsuffix
      exact (skipSignature_endsIn h ts).bind fun _ => endsIn_pure List.suffix_rfl
    · exact ((chanType_endsIn h _).mono (skipKind_suffix .arrow ts)).mono hsuffix
    · refine EndsIn.mono ?_ hsuffix
      exact (expectKind_endsIn _ _ ts).bind fun us => chanType_endsIn h us
    · refine EndsIn.mono ?_ hsuffix
      refine (h ts).bind fun p => ?_
      exact (expectKind_endsIn .rparen _ p.2).bind fun _ => endsIn_pure List.suffix_rfl
    · exact endsIn_expected List.suffix_rfl _

end

/-- Type expressions end in the tokens ahead, at any depth. -/
theorem typeExpr_endsIn (depth : Nat) (ts : List Token) :
    EndsIn Prod.snd ts (typeExpr depth ts) := by
  induction depth generalizing ts with
  | zero =>
    constructor
    · rintro _ ⟨⟩
    · rintro _ ⟨⟩
      refine ⟨ts, List.suffix_rfl, rfl, ?_, ?_⟩
      · rintro _ _ ⟨⟩
      · intro hfault
        simp at hfault
  | succ depth ih => exact typeForm_endsIn ih ts

/-! ## Declarations -/

/-- A declaration ends in the tokens ahead. -/
theorem typeSpec_endsIn (ts : List Token) : EndsIn Prod.snd ts (typeSpec ts) := by
  have htype : ∀ us, EndsIn Prod.snd us (typeExpr maxTypeDepth (skipKind .assign us)) :=
    fun us => (typeExpr_endsIn _ _).mono (skipKind_suffix .assign us)
  unfold typeSpec
  refine (identifier_endsIn ts).bind fun name => ?_
  dsimp only
  split
  · refine (skipGroup_endsIn 0 name.2).bind fun us => ?_
    refine (htype us).bind fun _ => ?_
    refine EndsIn.after_note ?_ _ _
    exact endsIn_pure List.suffix_rfl
  · exact (htype name.2).bind fun _ => endsIn_pure List.suffix_rfl

/-- A group of declarations ends in the tokens ahead: induction on the turns. -/
theorem typeGroup_endsIn (turns : Nat) (ts : List Token) :
    EndsIn Prod.snd ts (typeGroup turns ts) := by
  induction turns generalizing ts with
  | zero => exact endsIn_failAt_nil (by simp)
  | succ turns ih =>
    rw [typeGroup]
    refine EndsIn.mono ?_ (skipSeparators_suffix ts)
    split
    · exact endsIn_failAt_nil (by simp)
    · rename_i t us hskip
      rw [hskip]
      split
      · exact endsIn_pure (List.suffix_cons t us)
      · refine (typeSpec_endsIn _).bind fun decl => ?_
        dsimp only
        split
        · split
          · exact (ih decl.2).bind fun _ => endsIn_pure List.suffix_rfl
          · exact endsIn_expected List.suffix_rfl _
        · exact endsIn_expected List.suffix_rfl _

/-- What follows the word `type` ends in the tokens ahead. -/
theorem typeDecls_endsIn (ts : List Token) : EndsIn Prod.snd ts (typeDecls ts) := by
  have hsingle : ∀ us, EndsIn Prod.snd us
      (typeSpec us >>= fun p => pure (p.1.toList, p.2)) := fun us =>
    (typeSpec_endsIn us).bind fun _ => endsIn_pure List.suffix_rfl
  cases ts with
  | nil => exact hsingle []
  | cons t ts =>
    rw [typeDecls]
    split
    · exact (typeGroup_endsIn _ ts).mono (List.suffix_cons t ts)
    · exact hsingle _

/-- The statements of a source leave nothing, or the fault stands among them. -/
theorem statements_endIn (turns : Nat) (ts : List Token) :
    EndsIn (fun _ => []) ts (statements turns ts) := by
  induction turns generalizing ts with
  | zero => exact endsIn_pure List.nil_suffix
  | succ turns ih =>
    rw [statements]
    refine EndsIn.mono ?_ (skipSeparators_suffix ts)
    split
    · exact endsIn_pure List.nil_suffix
    · rename_i t us hskip
      rw [hskip]
      split
      · refine EndsIn.mono ?_ (List.suffix_cons t us)
        refine (typeDecls_endsIn us).bind fun decls => ?_
        exact (ih decls.2).bind fun _ => endsIn_pure List.nil_suffix
      · exact (skipStatement_endsIn 0 _).bind fun vs => ih vs

/-- A fault in a row of tokens is reported at one of them or at their end. -/
theorem ofTokens_endsIn (ts : List Token) : EndsIn (fun _ => []) ts (ofTokens ts) := by
  unfold ofTokens
  refine EndsIn.mono ?_ (skipSeparators_suffix ts)
  refine (expectKind_endsIn _ _ _).bind fun us => ?_
  refine (identifier_endsIn us).bind fun name => ?_
  refine (statements_endIn _ name.2).bind fun decls => ?_
  refine EndsIn.after_note ?_ _ _
  exact endsIn_pure List.nil_suffix

end

end Package

/-! ## Sources -/

/-- A fault in a source is reported between some of its tokens and the others: on the line of the
first token after that, which is the one that was found, or else on the line of the last token of
the file, or on the first line if there are no tokens. -/
structure SourceError.StandsAt (e : SourceError) (front back : List Spanned) : Prop where
  line : e.line = ((back.head?.or front.getLast?).map fun s => s.token.line).getD 1
  found : ∀ what found, e.fault = .expected what found →
    found = back.head?.map fun s => s.token.describe
  ending : e.fault ∈ [.unbalanced, .unterminatedGroup, .unterminatedStruct, .unterminatedLength] →
    back = []

namespace Package

open Spanned (spansFrom)

/-- A fault between two parts of the tokens is reported at the first token of the second part. -/
theorem standsAt_locate {front back : List Token} {e : ReadFault} (h : e.IsAt back)
    (pos pos' : Nat) :
    (locate (front ++ back) e).StandsAt (spansFrom pos front) (spansFrom pos' back) := by
  constructor
  case line =>
    show e.line?.getD _ = _
    rw [h.line]
    cases back with
    | nil =>
      -- the last token of the file is the last one before its end
      have hlast : front.getLast? = (spansFrom pos front).getLast?.map Spanned.token := by
        rw [← List.getLast?_map, Spanned.map_token_spansFrom]
      rw [List.append_nil, hlast, Option.map_map]
      rfl
    | cons t back => rfl
  case found =>
    intro what found hfault
    rw [h.found what found hfault]
    cases back with
    | nil => rfl
    | cons t back => rfl
  case ending =>
    intro hfault
    rw [h.ending hfault]
    rfl

/-- The tokens of a source tile it, each with its line. Where a source cannot be cut into tokens, a
character that none begins with is reported with its line, and any other fault on the line of a
token. -/
theorem parse_faultLines (source : String) :
    (∀ spans, Spanned.scan source.toList = .ok spans → Spanned.Tiling source.toList spans) ∧
      (∀ crash, Spanned.scan source.toList = .error crash → ∃ c before after,
        source.toList = before ++ c :: after ∧
          crash = .fault ⟨1 + before.count '\n', .character c⟩ ∧
          Token.front? (c :: after) = none) ∧
      ∀ e, (parse source).result = .error e →
        Spanned.scan source.toList = .error (.fault e) ∨
          ∃ front back, Spanned.scan source.toList = .ok (front ++ back) ∧
            e.StandsAt front back := by
  refine ⟨fun _ => Spanned.tiling_of_scan, fun _ => Spanned.exists_of_scan_error, ?_⟩
  intro e he
  have heq := Spanned.scan_eq source.toList
  cases hscan : Token.scan source.toList with
  | error e' =>
    rw [hscan] at heq
    unfold parse at he
    rw [Logged.result_bind, Logged.result_ofExcept, hscan] at he
    cases he
    exact .inl heq
  | ok ts =>
    rw [hscan] at heq
    rw [parse_of_scan hscan] at he
    cases hresult : (ofTokens ts).result with
    | ok p =>
      rw [hresult] at he
      cases he
    | error e' =>
      rw [hresult] at he
      cases he
      -- the parser stops where some tokens are ahead, and the others are those before
      obtain ⟨back, ⟨front, rfl⟩, hat⟩ := (ofTokens_endsIn ts).fault e' hresult
      have hspans := heq.1
      rw [Spanned.spansFrom_append] at hspans
      exact .inr ⟨_, _, hspans, standsAt_locate hat _ _⟩

/-- A line end, and on the next line a comment and a name. -/
def commentedTokens : List Token :=
  [⟨.newline, [], ['\n'], 1⟩, ⟨.ident, "/*é*/".toList, ['b'], 2⟩]

theorem scan_commentedTokens : Token.scan "\n/*é*/b".toList = .ok commentedTokens := by
  have hname : Token.front? ['b'] = some (some .ident, ['b'], []) := by decide +kernel
  have hscan : Token.scanFrom 2 "/*é*/".toList ['b'] =
      .ok [⟨.ident, "/*é*/".toList, ['b'], 2⟩] := by
    rw [Token.scanFrom_token hname, Token.scanFrom_nil]
    rfl
  have hcomment : Token.front? "/*é*/b".toList = some (none, "/*é*/".toList, ['b']) := by
    decide +kernel
  have hline : Token.front? "\n/*é*/b".toList = some (some .newline, ['\n'], "/*é*/b".toList) := by
    decide +kernel
  have hskip : Token.scanFrom 2 [] "/*é*/b".toList =
      Token.scanFrom 2 ([] ++ "/*é*/".toList) ['b'] := Token.scanFrom_skip hcomment
  unfold Token.scan
  rw [Token.scanFrom_token hline]
  show (Token.scanFrom 2 [] _).map _ = _
  rw [hskip, List.nil_append, hscan]
  rfl

theorem scan_hash : Spanned.scan "\n#".toList = .error (.fault ⟨2, .character '#'⟩) := by
  have hline : Token.front? "\n#".toList = some (some .newline, ['\n'], ['#']) := by
    decide +kernel
  have hhash : Token.scanFrom 2 [] ['#'] = .error ⟨2, .character '#'⟩ :=
    Token.scanFrom_fails (by decide +kernel)
  have hscan : Token.scan "\n#".toList = .error ⟨2, .character '#'⟩ := by
    unfold Token.scan
    rw [Token.scanFrom_token hline]
    show (Token.scanFrom 2 [] ['#']).map _ = _
    rw [hhash]
    rfl
  have heq := Spanned.scan_eq "\n#".toList
  rwa [hscan] at heq

/-- A comment that is longer in bytes than in characters, and a fault at the first of two tokens: a
case of the general theorem. -/
theorem parse_faultLines_commentedTokens :
    let source := "\n/*é*/b"
    let newline : Spanned := ⟨⟨.newline, [], ['\n'], 1⟩, 0, 1⟩
    let name : Spanned := ⟨⟨.ident, "/*é*/".toList, ['b'], 2⟩, 7, 8⟩
    let e : SourceError := ⟨2, .expected "package clause" (some "identifier \x60b\x60")⟩
    Spanned.scan source.toList = .ok [newline, name] ∧
      Spanned.Tiling source.toList [newline, name] ∧
      (parse source).result = .error e ∧
      (∃ front back, Spanned.scan source.toList = .ok (front ++ back) ∧ e.StandsAt front back) ∧
      Spanned.scan "\n#".toList = .error (.fault ⟨2, .character '#'⟩) ∧
      ∃ c before after, "\n#".toList = before ++ c :: after ∧
        Crash.fault ⟨2, .character '#'⟩ = .fault ⟨1 + before.count '\n', .character c⟩ ∧
        Token.front? (c :: after) = none := by
  intro source newline name e
  have hscan := Spanned.scan_eq source.toList
  rw [scan_commentedTokens] at hscan
  have hspans : Spanned.scan source.toList = .ok [newline, name] := hscan.1
  have hparse : (parse source).result = .error e := by
    rw [parse_of_scan scan_commentedTokens]
    rfl
  obtain ⟨htiling, -, hfault⟩ := parse_faultLines source
  refine ⟨hspans, htiling _ hspans, hparse, (hfault e hparse).resolve_left ?_, scan_hash,
    (parse_faultLines "\n#").2.1 _ scan_hash⟩
  rw [hspans]
  simp

end Package

end CodecGen
