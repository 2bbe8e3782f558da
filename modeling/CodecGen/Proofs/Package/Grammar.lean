import CodecGen.Package.Parser
import CodecGen.Proofs.Token.Layout

/-!
# The grammar of declarations

Which tokens spell what, without reference to the readers: type expressions, fields, declarations
and whole sources. The other statements of a source are only required to be balanced.
-/

namespace CodecGen.Package

/-! ## Brackets and separators -/

/-- The brackets of some tokens pair up; their shapes are not told apart. A `flat` row has no
separators outside of its brackets. -/
inductive Balanced : Bool → List Token → Prop where
  | nil {flat : Bool} : Balanced flat []
  | cons {flat : Bool} {t : Token} {ts : List Token} (hopen : t.kind.opens = false)
      (hclose : t.kind.closes = false) (hflat : flat = true → t.kind.isSeparator = false)
      (hts : Balanced flat ts) : Balanced flat (t :: ts)
  | group {flat : Bool} {l r : Token} {inside ts : List Token} (hl : l.kind.opens = true)
      (hr : r.kind.closes = true) (hinside : Balanced false inside) (hts : Balanced flat ts) :
      Balanced flat (l :: (inside ++ r :: ts))

/-- Tokens that are all separators. -/
def Separators (ts : List Token) : Prop :=
  ∀ t ∈ ts, t.kind.isSeparator = true

/-- Items in a row, with separators between any two of them, and possibly before the first and after
the last. -/
inductive Separated {α : Type} (item : α → List Token → Prop) : List α → List Token → Prop where
  | nil {seps : List Token} (hseps : Separators seps) : Separated item [] seps
  | last {seps ts : List Token} {x : α} (hseps : Separators seps) (hx : item x ts) :
      Separated item [x] (seps ++ ts)
  | cons {seps ts us : List Token} {sep : Token} {x : α} {xs : List α} (hseps : Separators seps)
      (hx : item x ts) (hsep : sep.kind.isSeparator = true) (hxs : Separated item xs us) :
      Separated item (x :: xs) (seps ++ (ts ++ sep :: us))

/-! ## Fields -/

/-- The further names of a field line, each after a comma and possibly line ends. -/
inductive MoreNames : List String → List Token → Prop where
  | nil : MoreNames [] []
  | cons {comma name : Token} {lines ts : List Token} {names : List String}
      (hcomma : comma.kind = .comma) (hlines : ∀ t ∈ lines, t.kind.isNewline = true)
      (hname : name.kind = .ident) (hts : MoreNames names ts) :
      MoreNames (name.lexeme :: names) (comma :: (lines ++ name :: ts))

/-- The tag of a field line, if any. -/
inductive TagSpells : Option String → List Token → Prop where
  | none : TagSpells none []
  | some {t : Token} (ht : t.kind.isStringLiteral = true) : TagSpells (some t.lexeme) [t]

section

variable (inner : GoType → List Token → Prop)

/-- A field line, over what spells its type. An embedded type is a name, qualified or not, or begins
with a pointer mark. -/
inductive FieldSpells : Field → List Token → Prop where
  | named {name : Token} {names : List String} {type : GoType} {tag : Option String}
      {ns ts gs : List Token} (hname : name.kind = .ident) (hnames : MoreNames names ns)
      (htype : inner type ts) (htag : TagSpells tag gs) :
      FieldSpells ⟨name.lexeme :: names, type, tag⟩ (name :: (ns ++ (ts ++ gs)))
  | embedded {first : Token} {type : GoType} {tag : Option String} {ts gs : List Token}
      (hfirst : first.kind = .ident ∨ first.kind = .star) (htype : inner type (first :: ts))
      (htag : TagSpells tag gs) : FieldSpells ⟨[], type, tag⟩ (first :: (ts ++ gs))

/-! ## Type expressions -/

/-- The results of a function type: none, a list in parentheses, or one type without them. -/
inductive Results : List Token → Prop where
  | none : Results []
  | list {l r : Token} {ts : List Token} (hl : l.kind = .lparen) (hr : r.kind = .rparen)
      (hts : Balanced false ts) : Results (l :: (ts ++ [r]))
  | single {first : Token} {type : GoType} {ts : List Token} (hfirst : first.kind ≠ .lparen)
      (htype : inner type (first :: ts)) : Results (first :: ts)

/-- The forms of type expressions, over what spells the expressions inside. -/
inductive Form : GoType → List Token → Prop where
  | ident {t : Token} (ht : t.kind = .ident) : Form (.ident t.lexeme) [t]
  | selector {q dot t : Token} (hq : q.kind = .ident) (hdot : dot.kind = .dot)
      (ht : t.kind = .ident) : Form (.qualified q.lexeme t.lexeme) [q, dot, t]
  | pointer {star : Token} {elem : GoType} {ts : List Token} (hstar : star.kind = .star)
      (helem : inner elem ts) : Form (.pointer elem) (star :: ts)
  | slice {l r : Token} {elem : GoType} {ts : List Token} (hl : l.kind = .lbracket)
      (hr : r.kind = .rbracket) (helem : inner elem ts) : Form (.array none elem) (l :: r :: ts)
  /-- The length of an array is one number or name. -/
  | array {l len r : Token} {elem : GoType} {ts : List Token} (hl : l.kind = .lbracket)
      (hlen : len.kind = .number ∨ len.kind = .ident) (htext : Token.Lexes len.kind len.text)
      (hr : r.kind = .rbracket) (helem : inner elem ts) :
      Form (.array (some len.lexeme) elem) (l :: len :: r :: ts)
  | map {word l r : Token} {key value : GoType} {ks vs : List Token}
      (hword : word.kind = .keyword .map) (hl : l.kind = .lbracket) (hkey : inner key ks)
      (hr : r.kind = .rbracket) (hvalue : inner value vs) :
      Form (.map key value) (word :: l :: (ks ++ r :: vs))
  | struct {word l r : Token} {fields : List Field} {ts : List Token}
      (hword : word.kind = .keyword .struct) (hl : l.kind = .lbrace)
      (hfields : Separated (FieldSpells inner) fields ts) (hr : r.kind = .rbrace) :
      Form (.struct fields) (word :: l :: (ts ++ [r]))
  | interface {word l r : Token} {ts : List Token} (hword : word.kind = .keyword .interface)
      (hl : l.kind = .lbrace) (hts : Balanced false ts) (hr : r.kind = .rbrace) :
      Form .interface (word :: l :: (ts ++ [r]))
  | func {word l r : Token} {ps rs : List Token} (hword : word.kind = .keyword .func)
      (hl : l.kind = .lparen) (hps : Balanced false ps) (hr : r.kind = .rparen)
      (hrs : Results inner rs) : Form .func (word :: l :: (ps ++ r :: rs))
  | chan {word : Token} {elem : GoType} {ts : List Token} (hword : word.kind = .keyword .chan)
      (helem : inner elem ts) : Form (.chan elem) (word :: ts)
  /-- A channel that is only sent to. -/
  | sending {word arrow : Token} {elem : GoType} {ts : List Token}
      (hword : word.kind = .keyword .chan) (harrow : arrow.kind = .arrow) (helem : inner elem ts) :
      Form (.chan elem) (word :: arrow :: ts)
  /-- A channel that is only received from. -/
  | receiving {arrow word : Token} {elem : GoType} {ts : List Token} (harrow : arrow.kind = .arrow)
      (hword : word.kind = .keyword .chan) (helem : inner elem ts) :
      Form (.chan elem) (arrow :: word :: ts)
  | paren {l r : Token} {type : GoType} {ts : List Token} (hl : l.kind = .lparen)
      (htype : inner type ts) (hr : r.kind = .rparen) : Form type (l :: (ts ++ [r]))

end

/-- The tokens spell a type expression of at most the given nesting. -/
def Spells : Nat → GoType → List Token → Prop
  | 0 => fun _ _ => False
  | depth + 1 => Form (Spells depth)

/-! ## Declarations -/

/-- What may stand before the type of a declaration: an equality sign, which makes it an alias. -/
def Assigns (ts : List Token) : Prop :=
  ts = [] ∨ ∃ t : Token, t.kind = .assign ∧ ts = [t]

/-- A declaration, from its name on. -/
inductive SpecSpells : TypeDecl → List Token → Prop where
  | intro {name : Token} {type : GoType} {eqs ts : List Token} (hname : name.kind = .ident)
      (heqs : Assigns eqs) (htype : Spells maxTypeDepth type ts) :
      SpecSpells ⟨name.lexeme, type⟩ (name :: (eqs ++ ts))

/-- What stands at the top of a source, with the declarations that it makes. -/
inductive ItemSpells : List TypeDecl → List Token → Prop where
  | single {word : Token} {d : TypeDecl} {ts : List Token} (hword : word.kind = .keyword .typeDecl)
      (hts : SpecSpells d ts) : ItemSpells [d] (word :: ts)
  | group {word l r : Token} {ds : List TypeDecl} {ts : List Token}
      (hword : word.kind = .keyword .typeDecl) (hl : l.kind = .lparen)
      (hts : Separated SpecSpells ds ts) (hr : r.kind = .rparen) :
      ItemSpells ds (word :: l :: (ts ++ [r]))
  /-- A generic declaration makes none. Its parameters begin with a name and, after it, a name, a
  comma or an interface. -/
  | generic {word name l param next r : Token} {type : GoType} {ps eqs ts : List Token}
      (hword : word.kind = .keyword .typeDecl) (hname : name.kind = .ident)
      (hl : l.kind = .lbracket) (hparam : param.kind = .ident)
      (hnext : next.kind = .ident ∨ next.kind = .comma ∨ next.kind = .keyword .interface)
      (hps : Balanced false ps) (hr : r.kind = .rbracket) (heqs : Assigns eqs)
      (htype : Spells maxTypeDepth type ts) :
      ItemSpells [] (word :: name :: l :: param :: next :: (ps ++ r :: (eqs ++ ts)))
  /-- Any other statement makes no declaration. -/
  | other {first : Token} {ts : List Token} (hfirst : first.kind ≠ .keyword .typeDecl)
      (hts : Balanced true (first :: ts)) : ItemSpells [] (first :: ts)

/-- A source: the package clause, and items with separators between them. -/
inductive SourceSpells : Package → List Token → Prop where
  | intro {word name : Token} {items : List (List TypeDecl)} {seps ts : List Token}
      (hseps : Separators seps) (hword : word.kind = .keyword .package)
      (hname : name.kind = .ident) (hitems : Separated ItemSpells items ts) :
      SourceSpells ⟨name.lexeme, items.flatten⟩ (seps ++ word :: name :: ts)

end CodecGen.Package
