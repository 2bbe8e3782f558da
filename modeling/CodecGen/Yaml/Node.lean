import CodecGen.Yaml.Token
import Std.Data.HashMap

/-!
# YAML documents

The tree that a YAML text writes: scalars, lists and maps, with the tags they are marked with. Nodes
with an anchor are numbered, and an alias refers to such a number, so that a node may contain an
alias of itself. `Document.ofText?` reads a text that holds exactly one document.
-/

namespace CodecGen.Yaml

/-- A node of a document. -/
inductive Node where
  | scalar (style : Style) (tag : Option Tag) (text : String)
  | list (tag : Option Tag) (items : List Node)
  | map (tag : Option Tag) (pairs : List (Node × Node))
  /-- A node with an anchor. -/
  | anchored (number : Nat) (n : Node)
  | aliasOf (number : Nat)
  deriving Repr, Inhabited

/-- What is left to read, and the anchors met. -/
structure Reading where
  /-- The tokens ahead. -/
  tokens : List Token
  /-- The names of the anchors met, with the number that each has got last. -/
  anchors : List (List Char × Nat)
  deriving Repr, Inhabited

namespace Node

/-- The scalar that stands where nothing is written. -/
def missing : Node :=
  scalar .plain none ""

/-- The anchor and the tag before a node, and what follows them. -/
def properties : List Token → Option (List Char) × Option (List Char × Tag) × List Token
  | .anchor name :: .tag handle suffix :: rest => (some name, some (handle, suffix), rest)
  | .tag handle suffix :: .anchor name :: rest => (some name, some (handle, suffix), rest)
  | .anchor name :: rest => (some name, none, rest)
  | .tag handle suffix :: rest => (none, some (handle, suffix), rest)
  | rest => (none, none, rest)

/-- Number the anchor of a node that begins. The number is that of the different names before it,
so that a name which is given again takes a number that the next new name takes too. -/
def number (r : Reading) (name : List Char) : Nat × Reading :=
  let n := r.anchors.length
  (n, { r with anchors := (name, n) :: r.anchors.filter (·.1 ≠ name) })

/-- The next token is one of some that no node begins with. -/
def isNext (r : Reading) (ts : List Token) : Bool :=
  match r.tokens with
  | [] => true
  | t :: _ => ts.contains t

/-- Pass over the next token. -/
def next (r : Reading) : Reading :=
  { r with tokens := r.tokens.tail }

mutual

/-- A node. `block` allows blocks, and `indentless` a list that is not indented. The first argument
bounds the number of steps, of which there are at most four for each token. -/
def read? (handles : Handles) (block indentless : Bool) :
    Nat → Reading → Option (Node × Reading)
  | 0, _ => none
  | steps + 1, r =>
    match r.tokens with
    | .aliasOf name :: _ => (r.anchors.lookup name).map (aliasOf ·, next r)
    | tokens => do
      let (anchor, tag, rest) := properties tokens
      let tag ← tag.mapM fun (handle, suffix) => fullTag? handles handle suffix
      let r := { r with tokens := rest }
      let (mark, r) :=
        match anchor with
        | none => (id, r)
        | some name => let (n, r) := number r name; (anchored n, r)
      let (n, r) ←
        match rest with
        | .blockEntry :: _ =>
          if indentless then do
            let (items, r) ← entries? handles true steps r
            pure (list tag items, r)
          else if anchor.isSome ∨ tag.isSome then pure (scalar .plain tag "", r)
          else none
        | .scalar style text :: _ =>
          pure (scalar style tag (String.ofList text), next r)
        | .flowSequenceStart :: _ => do
          let (items, r) ← flowItems? handles true steps (next r)
          pure (list tag items, r)
        | .flowMappingStart :: _ => do
          let (pairs, r) ← flowPairs? handles true steps (next r)
          pure (map tag pairs, r)
        | t :: _ =>
          if block ∧ t = .sequenceStart then do
            let (items, r) ← entries? handles false steps (next r)
            pure (list tag items, r)
          else if block ∧ t = .mappingStart then do
            let (pairs, r) ← pairs? handles steps (next r)
            pure (map tag pairs, r)
          else if anchor.isSome ∨ tag.isSome then pure (scalar .plain tag "", r)
          else none
        | [] => if anchor.isSome ∨ tag.isSome then pure (scalar .plain tag "", r) else none
      pure (mark n, r)

/-- A node, or nothing where one of the given tokens is next. -/
def readOrMissing? (handles : Handles) (block : Bool) (ends : List Token) :
    Nat → Reading → Option (Node × Reading)
  | 0, _ => none
  | steps + 1, r =>
    if isNext r ends then some (missing, r)
    else read? handles block (block && ends.contains .value) steps r

/-- The items of a list, one a line. A list that is not indented ends where no item follows. -/
def entries? (handles : Handles) (indentless : Bool) :
    Nat → Reading → Option (List Node × Reading)
  | 0, _ => none
  | steps + 1, r =>
    match r.tokens with
    | .blockEntry :: _ => do
      let ends := if indentless then [.blockEntry, .key, .value, .blockEnd]
        else [.blockEntry, .blockEnd]
      let r := next r
      let (n, r) ←
        if isNext r ends then some (missing, r) else read? handles true false steps r
      let (ns, r) ← entries? handles indentless steps r
      pure (n :: ns, r)
    | t :: _ =>
      if indentless then some ([], r) else if t = .blockEnd then some ([], next r) else none
    | [] => if indentless then some ([], r) else none

/-- The pairs of a map, one a line. -/
def pairs? (handles : Handles) : Nat → Reading → Option (List (Node × Node) × Reading)
  | 0, _ => none
  | steps + 1, r =>
    match r.tokens with
    | .key :: _ => do
      let ends := [.key, .value, .blockEnd]
      let (k, r) ← readOrMissing? handles true ends steps (next r)
      let (v, r) ←
        if r.tokens.head? = some .value then readOrMissing? handles true ends steps (next r)
        else some (missing, r)
      let (ps, r) ← pairs? handles steps r
      pure ((k, v) :: ps, r)
    | .blockEnd :: _ => some ([], next r)
    | _ => none

/-- The items of a list in brackets. An item can be a pair by itself, which is a map of one pair. -/
def flowItems? (handles : Handles) (first : Bool) :
    Nat → Reading → Option (List Node × Reading)
  | 0, _ => none
  | steps + 1, r =>
    if r.tokens.head? = some .flowSequenceEnd then some ([], next r)
    else do
      let r ← if first then some r
        else if r.tokens.head? = some .flowEntry then some (next r) else none
      match r.tokens with
      | .flowSequenceEnd :: _ => pure ([], next r)
      | .key :: _ =>
        let r := next r
        let (k, r) ←
          if isNext r [.value, .flowEntry, .flowSequenceEnd] then some (missing, next r)
          else read? handles false false steps r
        let (v, r) ←
          if r.tokens.head? = some .value then
            readOrMissing? handles false [.flowEntry, .flowSequenceEnd] steps (next r)
          else some (missing, r)
        let (ns, r) ← flowItems? handles false steps r
        pure (map none [(k, v)] :: ns, r)
      | _ =>
        let (n, r) ← read? handles false false steps r
        let (ns, r) ← flowItems? handles false steps r
        pure (n :: ns, r)

/-- The pairs of a map in braces. -/
def flowPairs? (handles : Handles) (first : Bool) :
    Nat → Reading → Option (List (Node × Node) × Reading)
  | 0, _ => none
  | steps + 1, r =>
    if r.tokens.head? = some .flowMappingEnd then some ([], next r)
    else do
      let r ← if first then some r
        else if r.tokens.head? = some .flowEntry then some (next r) else none
      match r.tokens with
      | .flowMappingEnd :: _ => pure ([], next r)
      | .key :: _ =>
        let ends := [.value, .flowEntry, .flowMappingEnd]
        let (k, r) ← readOrMissing? handles false ends steps (next r)
        let (v, r) ←
          if r.tokens.head? = some .value then
            readOrMissing? handles false [.flowEntry, .flowMappingEnd] steps (next r)
          else some (missing, r)
        let (ps, r) ← flowPairs? handles false steps r
        pure ((k, v) :: ps, r)
      | _ =>
        let (k, r) ← read? handles false false steps r
        let (ps, r) ← flowPairs? handles false steps r
        pure ((k, missing) :: ps, r)

end

/-- The directives before a document: whether a version was given, the handles, and what follows
them. Neither may be given twice. -/
def directives? (version : Bool) (handles : Handles) :
    List Token → Option (Handles × List Token)
  | .versionDirective major minor :: rest =>
    if version ∨ major ≠ 1 ∨ (minor ≠ 1 ∧ minor ≠ 2) then none
    else directives? true handles rest
  | .tagDirective handle uri :: rest =>
    if (handles.lookup handle).isSome then none
    else directives? version ((handle, uri) :: handles) rest
  | rest => some (handles, rest)

/-- A document from the line that begins it on, or from its start where there is no such line. -/
def content? (handles : Handles) (tokens : List Token) : Option (Node × Reading) :=
  read? handles true false (4 * tokens.length + 1) ⟨tokens, []⟩

/-- The document that some tokens write, and what follows it. -/
def document? (tokens : List Token) : Option (Node × List Token) := do
  let (handles, rest) ← directives? false [] tokens
  let handles := handles ++ defaultHandles
  let (n, r) ←
    match rest with
    | .documentStart :: rest =>
      match rest with
      | [] | .documentStart :: _ | .documentEnd :: _ | .versionDirective _ _ :: _
      | .tagDirective _ _ :: _ => some (missing, ⟨rest, []⟩)
      | _ => content? handles rest
    | _ => if rest.length = tokens.length then content? handles rest else none
  pure (n, r.tokens)

mutual

/-- The number of marks in a document that a node takes: one for a scalar or an alias, and two
around what a list or a map holds. -/
def size : Node → Nat
  | scalar _ _ _ => 1
  | aliasOf _ => 1
  | anchored _ n => n.size
  | list _ items => sizes items + 2
  | map _ pairs => pairSizes pairs + 2

/-- The size of some nodes together. -/
def sizes : List Node → Nat
  | [] => 0
  | n :: ns => n.size + sizes ns

/-- The size of some pairs of nodes together. -/
def pairSizes : List (Node × Node) → Nat
  | [] => 0
  | (k, v) :: ps => k.size + v.size + pairSizes ps

end

mutual

/-- The nodes with anchors in a node, by their numbers, in the order in which they begin. -/
def anchors : Node → List (Nat × Node)
  | scalar _ _ _ => []
  | aliasOf _ => []
  | anchored number n => (number, n) :: n.anchors
  | list _ items => anchorsOfAll items
  | map _ pairs => anchorsOfPairs pairs

/-- The nodes with anchors in some nodes. -/
def anchorsOfAll : List Node → List (Nat × Node)
  | [] => []
  | n :: ns => n.anchors ++ anchorsOfAll ns

/-- The nodes with anchors in some pairs of nodes. -/
def anchorsOfPairs : List (Node × Node) → List (Nat × Node)
  | [] => []
  | (k, v) :: ps => k.anchors ++ v.anchors ++ anchorsOfPairs ps

end

end Node

/-- A document. -/
structure Document where
  /-- The node it consists of. -/
  root : Node
  /-- The nodes that aliases refer to by number. -/
  anchors : Std.HashMap Nat Node

namespace Document

/-- The document of a node. Of the nodes with the same number, the last is referred to. -/
def ofNode (root : Node) : Document :=
  ⟨root, Std.HashMap.ofList root.anchors⟩

/-- The only document in a text. -/
def ofText? (text : String) : Option Document := do
  let (n, rest) ← Node.document? (← tokens? text)
  if (rest.dropWhile (· = .documentEnd)).isEmpty then some (ofNode n) else none

end Document

end CodecGen.Yaml
