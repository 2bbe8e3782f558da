import CodecGen.Proofs.Emit.KeyLiteral
import CodecGen.Proofs.Emit.Kinds
import CodecGen.Proofs.Emit.Verbatim
import CodecGen.Proofs.Package.Names
import CodecGen.Proofs.Template.Stepwise
import CodecGen.Proofs.Text.LowerCase

/-!
# Generated files read back

The machine of `Token.run?` goes through the code of every method, from between two statements to
between two statements, with one statement begun (`IsMethodCode`). So a generated file is read as a
source without type declarations, and each of its methods is one statement of it
(`generate_readsBack`).
-/

namespace CodecGen

open Fragment (textOf)
open Package (Standing)
open Token (run? run?_concat)

/-! ## Fragments -/

namespace Fragment

/-- The machine goes through the text of some fragments from between two tokens to between two
tokens. -/
def Leads (s s' : Standing) (fs : List Fragment) : Prop :=
  run? (.between, s) (textOf fs).toList = some (.between, s')

variable {s s' s'' : Standing} {fs gs : List Fragment}

/-- No fragments lead nowhere else. -/
theorem leads_nil (s : Standing) : Leads s s [] :=
  rfl

/-- Fragments in two rows lead where the second row leads from where the first does. -/
theorem Leads.append (hf : Leads s s' fs) (hg : Leads s' s'' gs) : Leads s s'' (fs ++ gs) := by
  unfold Leads at *
  rw [textOf_append, String.toList_append, Token.run?_append, hf]
  exact hg

/-- Fragments lead where the others lead from where the first does. -/
theorem Leads.cons {f : Fragment} (hf : Leads s s' [f]) (hg : Leads s' s'' gs) :
    Leads s s'' (f :: gs) :=
  Leads.append hf hg

/-- Things whose code leads back to where it began have code in a row that does. -/
theorem leads_flatMap {α : Type} {code : α → List Fragment} {as : List α}
    (h : ∀ a ∈ as, Leads s s (code a)) : Leads s s (as.flatMap code) := by
  induction as with
  | nil => exact leads_nil s
  | cons a as ih =>
    rw [List.flatMap_cons]
    exact Leads.append (h a List.mem_cons_self) (ih fun b hb => h b (List.mem_cons_of_mem _ hb))

/-- A fragment with suitable values leads where its template does. -/
theorem leads_of_body {f : Fragment} {depth depth' : Option Nat} {begun : Nat}
    (hbody : f.body.leads? (.between, ⟨0, depth⟩) = some (.between, ⟨begun, depth'⟩))
    (hsupplied : f.IsSupplied) (hvalue : ∀ var ∈ f.supplied, var.Suits (f.value var)) (n : Nat) :
    Leads ⟨n, depth⟩ ⟨begun + n, depth'⟩ [f] := by
  have hrun := Template.run?_fill hbody fun var hvar =>
    hvalue var (Template.mem_of_asksOnly hsupplied hvar)
  have hlater : run? (.between, ⟨0 + n, depth⟩) f.filled.toList =
      some (.between, ⟨begun + n, depth'⟩) := Token.run?_later hrun n
  unfold Leads
  rw [textOf_cons, textOf_nil, String.append_empty,
    text_of_render (render_of_isSupplied hsupplied)]
  rwa [Nat.zero_add] at hlater

/-- A frame with suitable values leads to the next part of its method. -/
theorem leads_frame {f : Frame} {values : List (Var × Value)} (hf : f ≠ .header)
    (hsupplied : values.map Prod.fst = f.supplied)
    (hvalue : ∀ entry ∈ values, values.lookup entry.1 = some entry.2 ∧
      entry.1.Suits entry.2.render) (n : Nat) :
    Leads ⟨n, f.before⟩ ⟨f.begun + n, f.after⟩ [frame f values] := by
  refine leads_of_body (f := frame f values) (Frame.leads?_template hf)
    (isSupplied_frame hf hsupplied) ?_ n
  intro var hvar
  obtain ⟨entry, hentry, rfl⟩ := List.mem_map.mp hvar
  obtain ⟨hlookup, hsuits⟩ := hvalue entry hentry
  have htext : (frame f values).value entry.1 = entry.2.render := by
    simp only [value, hlookup]
    rfl
  rw [htext]
  exact hsuits

/-- A word suits where the name of a type is asked for, as a value of a frame. -/
theorem suits_typeName_render {owner : String} (h : Token.isWord owner.toList = true) :
    Var.Suits .typeName (Value.text owner).render := by
  rw [Value.render]
  exact Var.suits_typeName h

/-- A frame that speaks of a type by its name. -/
theorem leads_named {f : Frame} (hf : f ≠ .header) (hsupplied : f.supplied = [.typeName])
    {owner : String} (howner : Token.isWord owner.toList = true) (n : Nat) :
    Leads ⟨n, f.before⟩ ⟨f.begun + n, f.after⟩ [named f owner] := by
  have hvalues : [(Var.typeName, Value.text owner)].map Prod.fst = f.supplied := hsupplied.symm
  exact leads_frame hf hvalues
    (List.forall_mem_singleton.mpr ⟨rfl, suits_typeName_render howner⟩) n

end Fragment

/-! ## Members -/

/-- The texts that a member is written from are read as what they stand for. -/
structure MemberInput.IsLegible (i : MemberInput) : Prop where
  /-- The name of a field. -/
  field : i.slot = .field → Token.isWord i.field.toList = true
  /-- The key of a field. -/
  key : i.slot = .field → Tag.isPlainText i.key = true
  /-- What the name of the encoder method ends in. -/
  omitEmpty : i.omitEmpty.toList.all Token.isIdentPart = true
  /-- The type around the member. -/
  owner : Token.isWord i.owner.toList = true
  /-- The layout of times. -/
  layout : Token.isDotted i.layout.toList = true
  /-- The declared type of the member. -/
  concrete : ∀ name ∈ i.concrete, Token.isWord name.toList = true

/-- What a legible member carries suits the holes for it. -/
theorem MemberInput.IsLegible.suits {i : MemberInput} (h : i.IsLegible) {b : Builder} {var : Var}
    (hvar : var ∈ b.supplied i.slot) : var.Suits (i.value var) := by
  have htype : Token.isWord (i.concrete.getD i.owner).toList = true := by
    cases hconcrete : i.concrete with
    | none => exact h.owner
    | some name => exact h.concrete name hconcrete
  rcases List.mem_append.mp hvar with hvar | hvar
  · by_cases hslot : i.slot = .field
    · rw [if_pos hslot] at hvar
      simp only [List.mem_cons, List.not_mem_nil, or_false] at hvar
      rcases hvar with rfl | rfl | rfl
      · exact Var.suits_field (h.field hslot)
      · exact Var.suits_key (h.key hslot)
      · exact Var.suits_omitEmpty h.omitEmpty
    · rw [if_neg hslot] at hvar
      obtain rfl : var = .owner := List.mem_singleton.mp hvar
      exact Var.suits_owner h.owner
  · cases b with
    | basic => cases hvar
    | time =>
      obtain rfl : var = .format := List.mem_singleton.mp hvar
      exact Var.suits_format h.layout
    | named =>
      obtain rfl : var = .typeName := List.mem_singleton.mp hvar
      exact Var.suits_typeName htype

/-- The code for a member leads back to where it began. -/
theorem Fragment.leads_member {i : MemberInput} (h : i.IsLegible) (k : EntryKey) (d : Direction)
    (n : Nat) :
    Leads ⟨n, some (i.slot.depth d)⟩ ⟨n, some (i.slot.depth d)⟩ [member k d i] := by
  have hleads := leads_of_body (f := member k d i) (k.leads?_template i.slot d)
    (isSupplied_member k d i) (fun var hvar => h.suits hvar) n
  rwa [Nat.zero_add] at hleads

/-! ## Declarations whose names and tags are legible -/

/-- The names in a setting are words: the declared ones, and the layout of times. -/
structure Setting.IsLegible (s : Setting) : Prop where
  /-- Names that are looked up. -/
  table : ∀ name, (s.table.kind? name).isSome = true → Token.isWord name.toList = true
  /-- The layout of fields whose tags give none. -/
  layout : Token.isDotted s.rules.defaultLayout.toList = true

/-- The tag of a field gives a plain name or none, and a layout that is a dotted identifier. -/
structure TagRules.IsLegible (r : TagRules) (tag : Option String) : Prop where
  /-- The name. -/
  keyName : Tag.isPlainText (r.policy tag).keyName = true
  /-- The layout. -/
  layout : Token.isDotted (r.policy tag).layout.toList = true

/-- The names under which declared types are found are words. -/
theorem Signature.concrete_of_resolve? {s : Setting} (hs : s.IsLegible) {signature : Signature}
    {r : Resolved} (h : signature.resolve? s.table = some r) :
    ∀ name ∈ r.concrete, Token.isWord name.toList = true := by
  unfold resolve? at h
  cases hprimitive : signature.primitiveKey? with
  | some key =>
    rw [hprimitive] at h
    cases h
    intro name hname
    cases hname
  | none =>
    rw [hprimitive] at h
    obtain ⟨kind, hkind, rfl⟩ := Option.map_eq_some_iff.mp h
    intro name hname
    obtain rfl : signature.name = name := Option.some.inj hname
    exact hs.table _ (by rw [hkind]; rfl)

/-- What may be in a word stands for itself between double quotes. -/
theorem Tag.isPlainChar_of_isIdentPart {c : Char} (h : Token.isIdentPart c = true) :
    isPlainChar c = true := by
  have hquote : c ≠ '"' := Token.ne_of_class h (by decide)
  have hslash : c ≠ '\\' := Token.ne_of_class h (by decide)
  have hline : c ≠ '\n' := Token.ne_of_class h (by decide)
  simp [isPlainChar, hquote, hslash, hline]

/-- The key of a field is plain, whether its tag gives it or its name. -/
theorem Policy.isPlainText_keyFor {p : Policy} {name : String}
    (hkey : Tag.isPlainText p.keyName = true) (hname : Token.isWord name.toList = true) :
    Tag.isPlainText (p.keyFor name) = true := by
  unfold keyFor
  split
  · unfold uncapitalize
    cases hlist : name.toList with
    | nil => rfl
    | cons c cs =>
      rw [hlist, Token.isWord_cons, Bool.and_eq_true] at hname
      obtain ⟨hc, hcs⟩ := hname
      have hfirst : Token.isIdentPart c = true := by
        unfold Token.isIdentStart at hc
        unfold Token.isIdentPart
        rw [hc, Bool.true_or]
      unfold Tag.isPlainText
      dsimp only
      rw [String.toList_ofList, List.all_append, Bool.and_eq_true]
      refine ⟨Text.all_isPlainChar_lowerCase (Tag.isPlainChar_of_isIdentPart hfirst), ?_⟩
      exact List.all_eq_true.mpr fun d hd =>
        Tag.isPlainChar_of_isIdentPart (List.all_eq_true.mp hcs d hd)
  · exact hkey

/-- The end of the name of a method goes on with a word. -/
theorem Policy.omitEmptySuffix_isWord (p : Policy) :
    p.omitEmptySuffix.toList.all Token.isIdentPart = true := by
  unfold omitEmptySuffix
  split <;> decide

/-- The fields of a struct have names that are words, and legible tags. -/
def FieldsLegible (r : TagRules) (fields : List Field) : Prop :=
  ∀ f ∈ fields, r.IsLegible f.tag ∧ ∀ name ∈ f.names, Token.isWord name.toList = true

section

variable {s : Setting} {owner : String} {fields : List Field}

/-- Every member of a struct with legible fields is legible. -/
theorem FieldMember.isLegible_input (hs : s.IsLegible) (howner : Token.isWord owner.toList = true)
    (hfields : FieldsLegible s.rules fields) {d : Direction} {m : FieldMember}
    (hm : m ∈ convertible s d fields) : (m.input owner).IsLegible := by
  obtain ⟨field, hfield, name, hname, hof⟩ := exists_of?_of_mem_convertible hm
  obtain ⟨htag, hnames⟩ := hfields field hfield
  unfold FieldMember.of? at hof
  cases hsignature : Signature.ofField field.type with
  | error e =>
    rw [hsignature] at hof
    cases hof
  | ok signature =>
    rw [hsignature] at hof
    obtain ⟨r, hr, rfl⟩ := Option.map_eq_some_iff.mp hof
    exact {
      field := fun _ => hnames name hname
      key := fun _ => Policy.isPlainText_keyFor htag.keyName (hnames name hname)
      omitEmpty := Policy.omitEmptySuffix_isWord _
      owner := howner
      layout := htag.layout
      concrete := Signature.concrete_of_resolve? hs hr }

/-- The case of a field leads from inside the switch to inside the switch. -/
theorem FieldMember.leads_decoding {m : FieldMember} (h : (m.input owner).IsLegible) (n : Nat) :
    Fragment.Leads ⟨n, some 2⟩ ⟨n, some 2⟩ (m.decoding owner) := by
  have hkey : Var.Suits .key (Value.text m.key).render := by
    rw [Value.render]
    exact Var.suits_key (h.key rfl)
  have hlabel : Fragment.Leads ⟨n, some 2⟩ ⟨0 + n, some 2⟩ [m.label owner] :=
    Fragment.leads_frame (f := .case) (by decide) rfl (List.forall_mem_cons.mpr
      ⟨⟨rfl, Fragment.suits_typeName_render h.owner⟩, List.forall_mem_singleton.mpr ⟨rfl, hkey⟩⟩) n
  rw [Nat.zero_add] at hlabel
  exact Fragment.Leads.cons hlabel (Fragment.leads_member h m.resolved.key .unmarshal n)

/-- The statement that encodes a field leads from inside a method to inside it. -/
theorem FieldMember.leads_encoding {m : FieldMember} (h : (m.input owner).IsLegible) (n : Nat) :
    Fragment.Leads ⟨n, some 1⟩ ⟨n, some 1⟩ (m.encoding owner) :=
  Fragment.leads_member h m.resolved.key .marshal n

/-- The body of a method of an array or a map leads from inside the method to inside it. -/
theorem leads_containerBody (hs : s.IsLegible) (howner : Token.isWord owner.toList = true)
    {slot : Slot} (hslot : slot ≠ .field) (signature : Signature) (d : Direction) (n : Nat) :
    Fragment.Leads ⟨n, some 1⟩ ⟨n, some 1⟩
      (containerBody s slot owner (signature.resolve? s.table) d) := by
  cases hr : signature.resolve? s.table with
  | none => exact Fragment.leads_nil _
  | some r =>
    have hlegible : (containerInput s slot owner r).IsLegible := {
      field := fun hfield => absurd hfield hslot
      key := fun hfield => absurd hfield hslot
      omitEmpty := rfl
      owner := howner
      layout := hs.layout
      concrete := Signature.concrete_of_resolve? hs hr }
    have hleads := Fragment.leads_member hlegible r.key d n
    have hdepth : slot.depth d = 1 := if_neg fun hboth => hslot hboth.1
    have hdepth : (containerInput s slot owner r).slot.depth d = 1 := hdepth
    rwa [hdepth] at hleads

end

/-! ## Methods -/

/-- The text has no line end. -/
def isLine (cs : List Char) : Bool :=
  cs.all (· ≠ '\n')

/-- The text begins a method, after a line of comment. -/
def BeginsMethod (text : String) : Prop :=
  ∃ comment rest, isLine comment.toList = true ∧
    text = "\n// " ++ comment ++ "\nfunc " ++ rest

/-- The code is one statement, which begins like a method. -/
structure IsMethodCode (fs : List Fragment) : Prop where
  /-- The machine goes through one statement. -/
  leads : Fragment.Leads ⟨0, none⟩ ⟨1, none⟩ fs
  /-- The statement is a method. -/
  begins : BeginsMethod (textOf fs)

/-- A text that begins a method does so with more text after it. -/
theorem BeginsMethod.append {text : String} (h : BeginsMethod text) (more : String) :
    BeginsMethod (text ++ more) := by
  obtain ⟨comment, rest, hcomment, rfl⟩ := h
  exact ⟨comment, rest ++ more, hcomment, by simp only [String.append_assoc]⟩

/-- The head of a method begins one. -/
theorem beginsMethod_headText {comment : String} (hcomment : isLine comment.toList = true)
    (receiver signature typeName : String) :
    BeginsMethod (headText comment receiver signature typeName) := by
  refine ⟨comment, "(v " ++ receiver ++ typeName ++ ") " ++ signature, hcomment, ?_⟩
  have hopen : "\nfunc (v " = "\nfunc " ++ "(v " := rfl
  unfold headText
  rw [hopen]
  simp only [String.append_assoc]

/-- The frame is the head of a method. -/
def Frame.IsHead (f : Frame) : Prop :=
  ∃ comment receiver signature, f.template = methodHead comment receiver signature ∧
    isLine comment.toList = true

/-- A frame that stands at the beginning of a method and speaks of a type only is its head. -/
theorem Frame.isHead_of_before {f : Frame} (hname : f.supplied = [.typeName])
    (hbefore : f.before = none) : f.IsHead := by
  cases f with
  | header | structNKeys => cases hname
  | switchOpen | case | switchClose | unmarshalClose | marshalClose => cases hbefore
  | _ => exact ⟨_, _, _, rfl, rfl⟩

/-- Code with a head in front begins a method. -/
theorem beginsMethod_named {f : Frame} (hf : f.IsHead) (owner : String) (fs : List Fragment) :
    BeginsMethod (textOf (.named f owner :: fs)) := by
  obtain ⟨comment, receiver, signature, htemplate, hcomment⟩ := hf
  rw [Fragment.textOf_cons,
    Fragment.text_of_render (Fragment.render_named_head htemplate owner)]
  exact (beginsMethod_headText hcomment receiver signature owner).append _

section

variable {owner : String}

/-- A method from its head, its body and its tail. -/
def methodCode (owner : String) (head close : Frame) (body : List Fragment) : List Fragment :=
  .named head owner :: (body ++ [.named close owner])

/-- A head, a body and a tail are a method, if the body leads from inside the method to inside it.
-/
theorem isMethodCode_methodCode (head close : Frame)
    (hnames : head.supplied = [.typeName] ∧ close.supplied = [.typeName])
    (hopens : head.before = none ∧ head.after = some 1)
    (hcloses : close.before = some 1 ∧ close.after = none)
    (howner : Token.isWord owner.toList = true) {body : List Fragment}
    (hbody : Fragment.Leads ⟨1, some 1⟩ ⟨1, some 1⟩ body) :
    IsMethodCode (methodCode owner head close body) := by
  have hneHead : head ≠ .header := by
    rintro rfl
    cases hnames.1
  have hneClose : close ≠ .header := by
    rintro rfl
    cases hnames.2
  have hopen := Fragment.leads_named hneHead hnames.1 howner 0
  have hclose := Fragment.leads_named hneClose hnames.2 howner 1
  unfold Frame.begun at hopen hclose
  rw [hopens.1, hopens.2] at hopen
  rw [hcloses.1, hcloses.2] at hclose
  exact ⟨hopen.cons (hbody.append hclose),
    beginsMethod_named (Frame.isHead_of_before hnames.1 hopens.1) owner _⟩

/-- A method that is its head. -/
theorem isMethodCode_of_head {f : Frame} (hname : f.supplied = [.typeName])
    (hbefore : f.before = none) (hafter : f.after = none)
    (howner : Token.isWord owner.toList = true) : IsMethodCode [.named f owner] := by
  have hne : f ≠ .header := by
    rintro rfl
    cases hname
  have hleads := Fragment.leads_named hne hname howner 0
  unfold Frame.begun at hleads
  rw [hbefore, hafter] at hleads
  exact ⟨hleads, beginsMethod_named (Frame.isHead_of_before hname hbefore) owner []⟩

/-- The method that counts keys is one. -/
theorem isMethodCode_keyCount (howner : Token.isWord owner.toList = true) (keys : Nat) :
    IsMethodCode [keyCount owner keys] := by
  constructor
  · have hkeys : Var.Suits .nKeys (Value.number keys).render := by
      rw [Value.render]
      exact Var.suits_nKeys keys
    exact Fragment.leads_frame (f := .structNKeys) (by decide) rfl (List.forall_mem_cons.mpr
      ⟨⟨rfl, Fragment.suits_typeName_render howner⟩,
        List.forall_mem_singleton.mpr ⟨rfl, hkeys⟩⟩) 0
  · rw [Fragment.textOf_cons, Fragment.textOf_nil, String.append_empty,
      Fragment.text_of_render (render_keyCount owner keys)]
    refine ⟨Frame.nKeysComment,
      "(v *" ++ owner ++ ") NKeys() int \x7b return " ++ toString keys ++ " \x7d\n",
      rfl, ?_⟩
    have hopen : "\n// NKeys returns the number of keys to unmarshal\nfunc (v *" =
        "\n// " ++ Frame.nKeysComment ++ "\nfunc " ++ "(v *" := rfl
    rw [hopen]
    simp only [String.append_assoc]

end

/-! ## Declarations -/

/-- The code is that of methods in a row. -/
inductive IsMethodsCode : List Fragment → Prop
  | nil : IsMethodsCode []
  | cons {m fs : List Fragment} (hm : IsMethodCode m) (hfs : IsMethodsCode fs) :
      IsMethodsCode (m ++ fs)

/-- Methods after methods are methods in a row. -/
theorem IsMethodsCode.append {fs gs : List Fragment} (hf : IsMethodsCode fs)
    (hg : IsMethodsCode gs) : IsMethodsCode (fs ++ gs) := by
  induction hf with
  | nil => exact hg
  | cons hm _ ih =>
    rw [List.append_assoc]
    exact .cons hm ih

/-- What follows some methods is one more method. -/
theorem IsMethodsCode.concat {fs m : List Fragment} (hf : IsMethodsCode fs)
    (hm : IsMethodCode m) : IsMethodsCode (fs ++ m) := by
  have hone : IsMethodsCode (m ++ []) := .cons hm .nil
  rw [List.append_nil] at hone
  exact hf.append hone

/-- Methods for several things are methods in a row if those for each are. -/
theorem IsMethodsCode.flatMap {α : Type} {code : α → List Fragment} {as : List α}
    (h : ∀ a ∈ as, IsMethodsCode (code a)) : IsMethodsCode (as.flatMap code) := by
  induction as with
  | nil => exact .nil
  | cons a as ih =>
    rw [List.flatMap_cons]
    exact (h a List.mem_cons_self).append (ih fun b hb => h b (List.mem_cons_of_mem _ hb))

section

variable {s : Setting} {owner : String}

/-- The four methods of a struct. -/
theorem isMethodsCode_structCode (hs : s.IsLegible) (howner : Token.isWord owner.toList = true)
    {fields : List Field} (hfields : FieldsLegible s.rules fields) :
    IsMethodsCode
      (structCode owner fields (decodedMembers s fields) (encodedMembers s fields)) := by
  have hswitch : Fragment.Leads ⟨1, some 1⟩ ⟨1, some 1⟩
      (switchCode owner fields (decodedMembers s fields)) := by
    unfold switchCode
    split
    · exact Fragment.leads_nil _
    · have hopen := Fragment.leads_named (f := .switchOpen) (by decide) rfl howner 1
      have hclose := Fragment.leads_named (f := .switchClose) (by decide) rfl howner 1
      have hcases : Fragment.Leads ⟨1, some 2⟩ ⟨1, some 2⟩
          ((decodedMembers s fields).flatMap (FieldMember.decoding owner)) :=
        Fragment.leads_flatMap fun m hm =>
          FieldMember.leads_decoding (FieldMember.isLegible_input hs howner hfields
            ((firstPerKey_sublist [] _).subset hm)) 1
      exact (hopen.append hcases).append hclose
  have hcalls : Fragment.Leads ⟨1, some 1⟩ ⟨1, some 1⟩
      ((encodedMembers s fields).flatMap (FieldMember.encoding owner)) :=
    Fragment.leads_flatMap fun m hm =>
      FieldMember.leads_encoding (FieldMember.isLegible_input hs howner hfields hm) 1
  -- every case and every call leaves the brackets as it finds them, so the methods close
  have hdecode : IsMethodCode (decodeCode owner fields (decodedMembers s fields)) :=
    isMethodCode_methodCode .structUnmarshal .unmarshalClose
      ⟨rfl, rfl⟩ ⟨rfl, rfl⟩ ⟨rfl, rfl⟩ howner hswitch
  have hencode : IsMethodCode (encodeCode owner (encodedMembers s fields)) :=
    isMethodCode_methodCode .structMarshal .marshalClose
      ⟨rfl, rfl⟩ ⟨rfl, rfl⟩ ⟨rfl, rfl⟩ howner hcalls
  have hnil : IsMethodCode [.named .structIsNil owner] :=
    isMethodCode_of_head rfl rfl rfl howner
  exact (((IsMethodsCode.nil.concat hdecode).concat (isMethodCode_keyCount howner _)).concat
    hencode).concat hnil

/-- The three methods of an array. -/
theorem isMethodsCode_arrayCode (hs : s.IsLegible) (howner : Token.isWord owner.toList = true)
    (signature : Signature) : IsMethodsCode (arrayCode s owner (signature.resolve? s.table)) := by
  have hbody := fun d => leads_containerBody hs howner (by decide : Slot.element ≠ .field)
    signature d 1
  have hdecode := isMethodCode_methodCode .arrayUnmarshal .unmarshalClose
    ⟨rfl, rfl⟩ ⟨rfl, rfl⟩ ⟨rfl, rfl⟩ howner (hbody .unmarshal)
  have hencode := isMethodCode_methodCode .arrayMarshal .marshalClose
    ⟨rfl, rfl⟩ ⟨rfl, rfl⟩ ⟨rfl, rfl⟩ howner (hbody .marshal)
  have hnil : IsMethodCode [.named .arrayIsNil owner] :=
    isMethodCode_of_head rfl rfl rfl howner
  have hmethods := ((IsMethodsCode.nil.concat hdecode).concat hencode).concat hnil
  simpa only [arrayCode, methodCode, List.nil_append, List.append_assoc, List.cons_append]
    using hmethods

/-- The four methods of a map. -/
theorem isMethodsCode_mapCode (hs : s.IsLegible) (howner : Token.isWord owner.toList = true)
    (signature : Signature) : IsMethodsCode (mapCode s owner (signature.resolve? s.table)) := by
  have hbody := fun d => leads_containerBody hs howner (by decide : Slot.entry ≠ .field)
    signature d 1
  have hdecode := isMethodCode_methodCode .mapUnmarshal .unmarshalClose
    ⟨rfl, rfl⟩ ⟨rfl, rfl⟩ ⟨rfl, rfl⟩ howner (hbody .unmarshal)
  have hencode := isMethodCode_methodCode .mapMarshal .marshalClose
    ⟨rfl, rfl⟩ ⟨rfl, rfl⟩ ⟨rfl, rfl⟩ howner (hbody .marshal)
  have hcount : IsMethodCode [.named .mapNKeys owner] :=
    isMethodCode_of_head rfl rfl rfl howner
  have hnil : IsMethodCode [.named .mapIsNil owner] :=
    isMethodCode_of_head rfl rfl rfl howner
  have hmethods := (((IsMethodsCode.nil.concat hdecode).concat hcount).concat hencode).concat hnil
  simpa only [mapCode, methodCode, List.nil_append, List.append_assoc, List.cons_append]
    using hmethods

end

/-- A declaration is legible: its name is a word, and so are the names of its fields, whose tags are
legible. -/
structure TypeDecl.IsLegible (r : TagRules) (d : TypeDecl) : Prop where
  /-- The name of the declaration. -/
  name : Token.isWord d.name.toList = true
  /-- The fields of a struct. -/
  fields : ∀ fields, d.type = .struct fields → FieldsLegible r fields

/-- The code that is kept for a declaration is that of methods. -/
theorem TypeDecl.isMethodsCode_written {s : Setting} (hs : s.IsLegible) {d : TypeDecl}
    (hd : d.IsLegible s.rules) (filter : TypeFilter) : IsMethodsCode (d.written s filter) := by
  obtain ⟨_, hwritten⟩ | ⟨_, keys, _, hemitted⟩ := d.silent_or_emitted s filter
  · rw [hwritten]
    exact .nil
  · generalize d.written s filter = code at hemitted
    cases hemitted with
    | struct owner fields => exact isMethodsCode_structCode hs hd.name (hd.fields fields rfl)
    | @array elem signature hsigned owner len =>
      exact isMethodsCode_arrayCode hs hd.name signature
    | @map value signature hsigned owner key => exact isMethodsCode_mapCode hs hd.name signature

/-! ## Texts of methods -/

/-- The text is one statement that begins with the keyword of functions. -/
def IsMethodText (text : String) : Prop :=
  ∃ ts, Token.scan text.toList = .ok ts ∧ Package.IsStatement ts ∧
    Package.next? (Package.skipSeparators ts) = some (.keyword .func)

/-- A line of comment is skipped. -/
theorem front?_lineComment {comment : List Char} (hcomment : isLine comment = true)
    (rest : List Char) : Token.front? ('/' :: '/' :: (comment ++ '\n' :: rest)) =
      some (none, '/' :: '/' :: comment, '\n' :: rest) := by
  have hline : ∀ c ∈ '/' :: comment, (decide (c ≠ '\n')) = true :=
    List.forall_mem_cons.mpr ⟨rfl, List.all_eq_true.mp hcomment⟩
  have hstop : Token.StopsAt (fun c => decide (c ≠ '\n')) ('\n' :: rest) := by
    intro c hc
    cases hc
    rfl
  exact congrArg some (Token.runOf_append hline hstop)

/-- A word before a space is read as it stands. -/
theorem front?_word_space {c : Char} {cs : List Char} (hword : Token.isWord (c :: cs) = true)
    (rest : List Char) : Token.front? (c :: (cs ++ ' ' :: rest)) =
      some (some (Token.wordKind (c :: cs)), c :: cs, ' ' :: rest) := by
  rw [Token.isWord_cons, Bool.and_eq_true] at hword
  refine Token.front?_word hword.1 (List.all_eq_true.mp hword.2) ?_
  intro d hd
  cases hd
  decide

/-- The code of a method is read as one statement that begins with the keyword of functions. -/
theorem isMethodText_textOf {fs : List Fragment} (h : IsMethodCode fs) :
    IsMethodText (textOf fs) := by
  obtain ⟨ts, hscan, hall⟩ := Token.reads_of_run? h.leads 1 []
  refine ⟨ts, hscan, Package.isStatement_of_afterAll? hall, ?_⟩
  -- the first tokens are a line end, the line end after the comment, and the keyword
  obtain ⟨comment, rest, hcomment, htext⟩ := h.begins
  have hlist : (textOf fs).toList = '\n' :: '/' :: '/' :: ((' ' :: comment.toList) ++
      '\n' :: ('f' :: (['u', 'n', 'c'] ++ ' ' :: rest.toList))) := by
    have hopen : "\n// ".toList = ['\n', '/', '/', ' '] := by decide
    have hfunc : "\nfunc ".toList = ['\n', 'f', 'u', 'n', 'c', ' '] := by decide
    rw [htext]
    simp only [String.toList_append, hopen, hfunc, List.cons_append, List.nil_append,
      List.append_assoc]
  rw [hlist] at hscan
  obtain ⟨us, rfl, hus⟩ := Token.exists_of_scanFrom (Token.front?_newline _) hscan
  have hline : isLine (' ' :: comment.toList) = true := hcomment
  rw [Token.scanFrom_skip (front?_lineComment hline _)] at hus
  obtain ⟨vs, rfl, hvs⟩ := Token.exists_of_scanFrom (Token.front?_newline _) hus
  obtain ⟨ws, rfl, _⟩ := Token.exists_of_scanFrom (front?_word_space (by decide) _) hvs
  rfl

/-! ## The header -/

/-- What follows the package clause in the header of a file. -/
def importsText (importPath : String) (imports : List StdPackage) : String :=
  "\n\nimport (\n" ++ String.join (imports.map fun p => "\t\"" ++ p.path ++ "\"\n") ++
    (if imports.isEmpty then "" else "\n") ++ "\t\"" ++ importPath ++ "\"\n)\n"

/-- The header is the marker, the package clause and the imports. -/
theorem headerText_eq (package importPath : String) (imports : List StdPackage) :
    headerText package importPath imports =
      Frame.markerLine ++ "\npackage " ++ package ++ importsText importPath imports := by
  unfold headerText importsText
  simp only [String.append_assoc]

/-- The imports are one statement. -/
theorem run?_importsText {importPath : String} (hpath : Tag.isPlainText importPath = true)
    (imports : List StdPackage) :
    run? (.between, ⟨0, none⟩) (importsText importPath imports).toList =
      some (.between, ⟨1, none⟩) := by
  have hopen : run? (.between, ⟨0, none⟩) "\n\nimport (\n".toList =
      some (.between, ⟨1, some 1⟩) := rfl
  have hlines : run? (.between, ⟨1, some 1⟩)
      (String.join (imports.map fun p => "\t\"" ++ p.path ++ "\"\n")).toList =
        some (.between, ⟨1, some 1⟩) := by
    induction imports with
    | nil => rfl
    | cons p imports ih =>
      have hline : run? (.between, ⟨1, some 1⟩) ("\t\"" ++ p.path ++ "\"\n").toList =
          some (.between, ⟨1, some 1⟩) := by
        cases p <;> rfl
      rw [List.map_cons, String.join_cons]
      exact run?_concat hline ih
  have hblank : run? (.between, ⟨1, some 1⟩) (if imports.isEmpty then "" else "\n").toList =
      some (.between, ⟨1, some 1⟩) := by
    split <;> rfl
  have hquote : run? (.between, ⟨1, some 1⟩) "\t\"".toList = some (.quoted, ⟨1, some 1⟩) := rfl
  have hclose : run? (.quoted, ⟨1, some 1⟩) "\"\n)\n".toList = some (.between, ⟨1, none⟩) := rfl
  exact run?_concat (run?_concat (run?_concat (run?_concat
    (run?_concat hopen hlines) hblank) hquote) (Token.run?_quoted hpath)) hclose

/-- Separators, a package clause and statements without declarations of types are read as a package
without declarations. -/
theorem ofTokens_of_clause {first second clause name : Token} {ts : List Token}
    (hfirst : first.kind.isSeparator = true) (hsecond : second.kind.isSeparator = true)
    (hclause : clause.kind = .keyword .package) (hname : name.kind = .ident)
    (hts : (Package.statements (ts.length + 1) ts).result = .ok []) :
    (Package.ofTokens (first :: second :: clause :: name :: ts)).result =
      .ok ⟨name.lexeme, []⟩ := by
  have hskip : Package.skipSeparators (first :: second :: clause :: name :: ts) =
      clause :: name :: ts := by
    have hword : clause.kind.isSeparator = false := by
      rw [hclause]
      rfl
    simp [Package.skipSeparators, hfirst, hsecond, hword]
  unfold Package.ofTokens
  rw [hskip, Package.expectKind, if_pos hclause]
  simp only [Logged.result_bind, Logged.result_pure, Except.bind, Package.identifier, if_pos hname,
    hts, Logged.result_note]

/-- The tokens of a header: two line ends, the marker in the gap before the first of them, and the
package clause. -/
def headerTokens (package : String) : List Token :=
  [⟨.newline, '/' :: '/' :: " Code generated by gojay-gen. DO NOT EDIT.".toList, ['\n'], 1⟩,
    ⟨.newline, [], ['\n'], 2⟩, ⟨.keyword .package, [], "package".toList, 3⟩,
    ⟨.ident, [' '], package.toList, 3⟩]

/-- A text that begins with a header, and goes on with a line end, has the tokens of the header and
those of the rest. -/
theorem scan_header {package : String} (hpackage : Token.Lexes .ident package.toList)
    {rest : String} {tail : List Char} (htail : rest.toList = '\n' :: tail) {ts : List Token}
    (hts : Token.scanFrom (3 + package.toList.count '\n') [] ('\n' :: tail) = .ok ts) :
    Token.scan (Frame.markerLine ++ "\npackage " ++ package ++ rest).toList =
      .ok (headerTokens package ++ ts) := by
  have hlist : (Frame.markerLine ++ "\npackage " ++ package ++ rest).toList =
      '/' :: '/' :: (" Code generated by gojay-gen. DO NOT EDIT.".toList ++ '\n' :: '\n' :: 'p' ::
        (['a', 'c', 'k', 'a', 'g', 'e'] ++ ' ' :: (package.toList ++ '\n' :: tail))) := by
    have hmarker : Frame.markerLine.toList =
        '/' :: '/' :: (" Code generated by gojay-gen. DO NOT EDIT.".toList ++ ['\n']) := rfl
    have hword : "\npackage ".toList = ['\n', 'p', 'a', 'c', 'k', 'a', 'g', 'e', ' '] := by decide
    simp only [String.toList_append, hmarker, hword, htail, List.cons_append, List.nil_append,
      List.append_assoc]
  have hname : Token.front? (package.toList ++ '\n' :: tail) =
      some (some .ident, package.toList, '\n' :: tail) := by
    refine Token.front?_append hpackage ?_
    intro c hc
    cases hc
    show Token.isIdentPart '\n' = false
    decide
  have hspace : Token.front? (' ' :: ([] ++ (package.toList ++ '\n' :: tail))) =
      some (none, [' '], package.toList ++ '\n' :: tail) :=
    Token.front?_gap (List.forall_mem_singleton.mpr rfl)
      (Token.stopsAt_gap_of_lexes hpackage _)
  -- the pieces in order: the marker, two line ends, the word, the space and the name
  rw [hlist, Token.scan, Token.scanFrom_skip (front?_lineComment (by rfl) _),
    Token.scanFrom_token (Token.front?_newline _), Token.scanFrom_token (Token.front?_newline _),
    Token.scanFrom_token (front?_word_space (by decide) _),
    ← List.nil_append (package.toList ++ _), Token.scanFrom_skip hspace,
    Token.scanFrom_token hname]
  show Except.map _ (Except.map _ (Except.map _ (Except.map _
    (Token.scanFrom (3 + package.toList.count '\n') [] ('\n' :: tail))))) = _
  rw [hts]
  rfl

/-- A text that begins with a header, and goes on with statements, is read as a package without
declarations. -/
theorem parse_of_header {package rest : String} (hpackage : Token.Lexes .ident package.toList)
    {n : Nat} (hstart : rest.toList.head? = some '\n')
    (hrest : run? (.between, ⟨0, none⟩) rest.toList = some (.between, ⟨n, none⟩)) :
    (Package.parse (Frame.markerLine ++ "\npackage " ++ package ++ rest)).result =
      .ok ⟨package, []⟩ := by
  obtain ⟨tail, htail⟩ : ∃ tail, rest.toList = '\n' :: tail := by
    cases hlist : rest.toList with
    | nil =>
      rw [hlist] at hstart
      cases hstart
    | cons c tail =>
      rw [hlist] at hstart
      cases hstart
      exact ⟨tail, rfl⟩
  -- what follows the header is statements in which no type is declared
  obtain ⟨ts, hts, hall⟩ := Token.reads_of_run? hrest (3 + package.toList.count '\n') []
  rw [htail] at hts
  have hend : ∀ d ∈ (⟨n, none⟩ : Standing).depth, d = 0 := fun d hd => by cases hd
  rw [Package.parse_of_scan (scan_header hpackage htail hts), headerTokens,
    List.cons_append, List.cons_append, List.cons_append, List.cons_append, List.nil_append,
    ofTokens_of_clause rfl rfl rfl rfl (Package.statements_of_afterAll? hall hend)]
  unfold Token.lexeme
  dsimp only
  rw [String.ofList_toList]
  rfl

/-! ## Generated files -/

/-- The tags of the fields of declared structs give plain names, if any, and layouts that are dotted
identifiers. -/
def Package.HasLegibleTags (r : TagRules) (p : Package) : Prop :=
  ∀ d ∈ p.decls, ∀ fields, d.type = .struct fields → ∀ f ∈ fields, r.IsLegible f.tag

/-- A file is read as the source of a package without declarations of types, in which methods follow
each other. -/
structure ReadsBack (package file : String) : Prop where
  /-- It is read as the package. -/
  parsed : (Package.parse file).result = .ok ⟨package, []⟩
  /-- After the header it consists of methods, and each is one complete statement. -/
  methods : ∃ imports, ∃ methods : List String,
    file = headerText package "github.com/francoispqt/gojay" imports ++ String.join methods ∧
      ∀ m ∈ methods, IsMethodText m

/-- The names of a package that is read from a source are legible. -/
theorem isLegible_ofPackage {p : Package} (hnames : p.HasNames) :
    Setting.IsLegible ⟨GenConfig.tagRules {}, .ofPackage p⟩ := by
  constructor
  · intro name hname
    dsimp only at hname
    rw [TypeTable.kind?_ofPackage, Option.isSome_map] at hname
    obtain ⟨d, hd⟩ := Option.isSome_iff_exists.mp hname
    obtain ⟨hmem, rfl⟩ := Package.mem_of_lastDecl? hd
    exact Token.isWord_of_lexes (hnames.decls d hmem) rfl
  · show Token.isDotted "time.RFC3339".toList = true
    rfl

/-- Methods lead from between two statements to between two statements. -/
theorem IsMethodsCode.leads {fs : List Fragment} (h : IsMethodsCode fs) (n : Nat) :
    ∃ m, Fragment.Leads ⟨n, none⟩ ⟨m, none⟩ fs := by
  induction h generalizing n with
  | nil => exact ⟨n, Fragment.leads_nil _⟩
  | @cons fs gs hm _ ih =>
    have hlater : run? (.between, ⟨0 + n, none⟩) (textOf fs).toList =
        some (.between, ⟨1 + n, none⟩) := Token.run?_later hm.leads n
    rw [Nat.zero_add] at hlater
    obtain ⟨m, hrest⟩ := ih (1 + n)
    exact ⟨m, Fragment.Leads.append hlater hrest⟩

/-- The text of methods in a row is that of each, one after another. -/
theorem IsMethodsCode.texts {fs : List Fragment} (h : IsMethodsCode fs) :
    ∃ methods : List String, textOf fs = String.join methods ∧ ∀ m ∈ methods, IsMethodText m := by
  induction h with
  | nil => exact ⟨[], rfl, fun m hm => by cases hm⟩
  | cons hm _ ih =>
    obtain ⟨methods, htext, hmethods⟩ := ih
    refine ⟨_ :: methods, ?_, List.forall_mem_cons.mpr ⟨isMethodText_textOf hm, hmethods⟩⟩
    rw [Fragment.textOf_append, htext, String.join_cons]

/-- A file with methods after the header reads back. -/
theorem readsBack_of_isMethodsCode {package : String}
    (hpackage : Token.Lexes .ident package.toList) {fs : List Fragment} (hfs : IsMethodsCode fs)
    (imports : List StdPackage) :
    ReadsBack package
      (headerText package "github.com/francoispqt/gojay" imports ++ textOf fs) := by
  obtain ⟨n, hleads⟩ := hfs.leads 1
  obtain ⟨methods, htext, hmethods⟩ := hfs.texts
  constructor
  · have hrest : run? (.between, ⟨0, none⟩)
        (importsText "github.com/francoispqt/gojay" imports ++ textOf fs).toList =
          some (.between, ⟨n, none⟩) :=
      run?_concat (run?_importsText rfl imports) hleads
    rw [headerText_eq, String.append_assoc]
    refine parse_of_header hpackage ?_ hrest
    have hopen : "\n\nimport (\n".toList = '\n' :: "\nimport (\n".toList := rfl
    unfold importsText
    simp only [String.toList_append, hopen, List.cons_append, List.head?_cons]
  · exact ⟨imports, methods, by rw [htext], hmethods⟩

/-- Whatever is generated with the default configuration from a source whose tags give plain names
and layouts that are dotted identifiers is read back as the source of the same package. -/
theorem generate_readsBack {source : String} {p : Package}
    (hparse : (Package.parse source).result = .ok p)
    (htags : p.HasLegibleTags (GenConfig.tagRules {})) (filter : TypeFilter) :
    ∃ r, (generate {} filter p).result = .ok r ∧ (r.output ≠ "" → ReadsBack p.name r.output) := by
  have hnames := Package.parse_names hparse
  have hs := isLegible_ofPackage hnames
  have hcode : IsMethodsCode (p.written ⟨GenConfig.tagRules {}, .ofPackage p⟩ filter) := by
    refine IsMethodsCode.flatMap fun d hd => TypeDecl.isMethodsCode_written hs ?_ filter
    refine ⟨Token.isWord_of_lexes (hnames.decls d hd) rfl, ?_⟩
    intro fields hfields f hf
    exact ⟨htags d hd fields hfields f hf, fun name hname =>
      Token.isWord_of_lexes (hnames.fields d hd fields hfields f hf name hname) rfl⟩
  refine ⟨_, generateWith_result {} filter (.ofPackage p) p, ?_⟩
  intro hne
  rw [reportOf_written] at hne ⊢
  unfold fileText at hne ⊢
  split at hne
  · exact absurd rfl hne
  · rename_i hgenerated
    rw [if_neg hgenerated]
    exact readsBack_of_isMethodsCode hnames.package hcode _

/-- The words of a source with a struct, an array and a map. -/
def pointWords : List Token.Word :=
  [(.keyword .package, "package"), (.ident, "p"), (.newline, "\n"),
    (.keyword .typeDecl, "type"), (.ident, "Point"), (.keyword .struct, "struct"),
    (.lbrace, "\x7b"), (.newline, "\n"),
    (.ident, "X"), (.ident, "int"), (.rawString, "\x60gojay:\"x y,omitempty\"\x60"),
    (.newline, "\n"),
    (.ident, "At"), (.star, "*"), (.ident, "time"), (.dot, "."), (.ident, "Time"),
    (.rawString, "\x60fmt:\"time.RFC822\"\x60"), (.newline, "\n"),
    (.ident, "Next"), (.star, "*"), (.ident, "Point"), (.newline, "\n"), (.rbrace, "\x7d"),
    (.newline, "\n"),
    (.keyword .typeDecl, "type"), (.ident, "Points"), (.lbracket, "["), (.rbracket, "]"),
    (.star, "*"), (.ident, "Point"), (.newline, "\n"),
    (.keyword .typeDecl, "type"), (.ident, "Index"), (.keyword .map, "map"), (.lbracket, "["),
    (.ident, "string"), (.rbracket, "]"), (.ident, "Point"), (.newline, "\n")]

/-- The package of this source. -/
def pointPackage : Package :=
  ⟨"p", [
    ⟨"Point", .struct [
      ⟨["X"], .ident "int", some "\x60gojay:\"x y,omitempty\"\x60"⟩,
      ⟨["At"], .pointer (.qualified "time" "Time"), some "\x60fmt:\"time.RFC822\"\x60"⟩,
      ⟨["Next"], .pointer (.ident "Point"), none⟩]⟩,
    ⟨"Points", .array none (.pointer (.ident "Point"))⟩,
    ⟨"Index", .map (.ident "string") (.ident "Point")⟩]⟩

set_option maxRecDepth 4000 in
/-- The file generated for a source with a struct, an array and a map is read back. -/
theorem generate_readsBack_pointPackage :
    let source := String.ofList (Token.source (Token.row 1 pointWords))
    (Package.parse source).result = .ok pointPackage ∧
      pointPackage.HasLegibleTags (GenConfig.tagRules {}) ∧
      ∃ r, (generate {} .all pointPackage).result = .ok r ∧ r.output ≠ "" ∧
        ReadsBack "p" r.output := by
  intro source
  have hparse : (Package.parse source).result = .ok pointPackage := by
    have hscan : Token.scan source.toList = .ok (Token.row 1 pointWords) := by
      have hlex : ∀ w ∈ pointWords, Token.Lexes w.1 w.2.toList := by decide +kernel
      have hlaid := Token.laid_row hlex 1
      have hscan := Token.scan_source hlaid
      rw [List.append_nil] at hscan
      rwa [String.toList_ofList]
    rw [Package.parse_of_scan hscan]
    rfl
  have htags : pointPackage.HasLegibleTags (GenConfig.tagRules {}) := by
    intro d hd fields hfields
    simp only [pointPackage, List.mem_cons, List.not_mem_nil, or_false] at hd
    rcases hd with rfl | rfl | rfl <;> cases hfields
    refine List.forall_mem_cons.mpr ⟨?_, List.forall_mem_cons.mpr ⟨?_,
      List.forall_mem_singleton.mpr ?_⟩⟩ <;> exact ⟨by decide +kernel, by decide +kernel⟩
  obtain ⟨r, hr, hback⟩ := generate_readsBack hparse htags .all
  have hgenerated : (generate {} .all pointPackage).result.toOption.map
      (fun r => r.generated.map Summary.name) = some ["Point", "Points", "Index"] := by
    decide +kernel
  have hne : r.output ≠ "" := by
    intro hempty
    rw [hr] at hgenerated
    obtain rfl := Except.ok.inj ((generateWith_result {} .all _ pointPackage).symm.trans hr)
    rw [output_reportOf_eq_empty_iff] at hempty
    simp [Except.toOption, hempty] at hgenerated
  exact ⟨hparse, htags, r, hr, hne, hback hne⟩

end CodecGen
