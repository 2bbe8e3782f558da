import CodecGen.Pattern.Normal
import CodecGen.Text.RangeSet
import Std.Data.HashMap

/-!
# The automata of a pattern

A pattern is searched for by an automaton that reads the bytes of a text, and by another one that
reads them backwards. Neither may be larger than `maxSize`; `Pattern.isBuildable` says whether both
fit. Only the sizes are reckoned here: a `Draft` counts the states that have been added and the room
for what they list, piece after piece of the pattern.
-/

namespace CodecGen.Pattern

open CodecGen.Text

/-! ## Drafts -/

/-- What is known of an automaton that is being made. -/
structure Draft where
  /-- The states that have been added. They are numbered in order. -/
  states : Nat
  /-- The room for the transitions and alternatives that states list. -/
  listed : Nat
  /-- The latest piece ends in a state with a list of alternatives, to which what follows is added;
  the other states have one successor. -/
  forks : Bool
  deriving DecidableEq, Repr, Inhabited

/-- The room for a state without what it lists. -/
def stateSize : Nat := 32

/-- The room for a transition by a range of bytes. -/
def transitionSize : Nat := 8

/-- The room for an alternative. -/
def alternativeSize : Nat := 4

/-- The greatest size of an automaton. -/
def maxSize : Nat := 10485760

namespace Draft

/-- The automaton without states. -/
def empty : Draft :=
  ⟨0, 0, false⟩

/-- The draft, unless it is too large. -/
def checked (d : Draft) : Option Draft :=
  if d.states * stateSize + d.listed ≤ maxSize then some d else none

/-- Add some states that list nothing. -/
def add (d : Draft) (states : Nat) : Option Draft :=
  checked ⟨d.states + states, d.listed, false⟩

/-- Add a state with some transitions. -/
def addBranching (d : Draft) (transitions : Nat) : Option Draft :=
  checked ⟨d.states + 1, d.listed + transitions * transitionSize, false⟩

/-- Add some alternatives to states. -/
def listMore (d : Draft) (alternatives : Nat) : Option Draft :=
  checked { d with listed := d.listed + alternatives * alternativeSize }

/-- Go on from the end of the latest piece. -/
def goOn (d : Draft) : Option Draft :=
  if d.forks then d.listMore 1 else some d

/-- The latest piece ends in a state with alternatives. -/
def forking (d : Draft) : Draft :=
  { d with forks := true }

/-- Some more copies of a piece after the latest. -/
def moreCopies (piece : Draft → Option Draft) : Nat → Draft → Option Draft
  | 0, d => some d
  | n + 1, d => do
    let d ← d.goOn
    let d ← piece d
    moreCopies piece n d

/-- Some copies of a piece, one after the other. -/
def copies (piece : Draft → Option Draft) : Nat → Draft → Option Draft
  | 0, d => d.add 1
  | n + 1, d => do
    let d ← piece d
    moreCopies piece n d

/-- Some further copies of a piece, each of which may be left out with those after it. -/
def optionalCopies (piece : Draft → Option Draft) : Nat → Draft → Option Draft
  | 0, d => d.goOn
  | n + 1, d => do
    let d ← d.goOn
    let d ← d.add 1
    let d ← piece d
    let d ← d.listMore 2
    optionalCopies piece n d

end Draft

/-! ## Sets of characters

The states of a set are shared: a state with the same transitions as an earlier one is not added
again. Only so many states are remembered as there are slots, one in each slot.
-/

/-- A draft with the states of a set that are remembered, as what they were made from and their
numbers. -/
structure SharedDraft where
  /-- The draft. -/
  draft : Draft
  /-- The state in each slot. -/
  slots : Std.HashMap Nat (List Nat × Nat)

/-- The slot of a state that is made from the given numbers. -/
def slotOf (slots : Nat) (numbers : List Nat) : Nat :=
  let hash := numbers.foldl (fun (h : UInt64) n => (h ^^^ n.toUInt64) * 1099511628211)
    14695981039346656037
  hash.toNat % slots

namespace SharedDraft

/-- The number of a state that is made from the given numbers, which is added unless it is
remembered. -/
def share (d : SharedDraft) (slots transitions : Nat) (numbers : List Nat) :
    Option (Nat × SharedDraft) :=
  let slot := slotOf slots numbers
  match (d.slots[slot]?).filter fun s => s.1 = numbers with
  | some (_, state) => some (state, d)
  | none => do
    let state := d.draft.states
    let draft ← d.draft.addBranching transitions
    return (state, ⟨draft, d.slots.insert slot (numbers, state)⟩)

/-- The state that reads some rows, which end in a given state. Rows that begin with the same range
are read by one transition. -/
def addRows (last : Nat) : Nat → List (List ByteRange) → SharedDraft → Option (Nat × SharedDraft)
  | 0, _, d => some (last, d)
  | bytes + 1, rows, d =>
    if rows.all List.isEmpty then some (last, d)
    else do
      let groups := rows.splitBy fun a b => a.head? == b.head?
      let (numbers, d) ← groups.foldlM (fun (numbers, d) group => do
        let (next, d) ← addRows last bytes (group.map List.tail) d
        let (lo, hi) := (group.head?.bind List.head?).getD (0, 0)
        return (numbers ++ [lo, hi, next], d)) ([], d)
      d.share 10000 groups.length numbers

/-- The states that read a row backwards, from a given state on; its last byte is read first, and
the states that read the bytes before it are shared. -/
def addRowBackwards (last : Nat) (row : List ByteRange) (d : SharedDraft) : Option SharedDraft := do
  let (_, d) ← row.foldlM (fun (before, d) range =>
    d.share 1000 0 [before, range.1, range.2]) (last, d)
  return { d with draft := ← d.draft.listMore 1 }

end SharedDraft

/-- A piece that reads one character of a set. -/
def Draft.addSet (backwards : Bool) (s : RangeSet) (d : Draft) : Option Draft := do
  if s.isAscii then
    let d ← d.add 1
    d.addBranching s.ranges.length
  else if backwards then
    let last := d.states + 1
    let d ← d.add 2
    let d ← s.encodedRows.foldlM (fun d row => d.addRowBackwards last row) (⟨d, ∅⟩ : SharedDraft)
    return d.draft
  else
    let last := d.states
    let d ← d.add 1
    let (_, d) ← SharedDraft.addRows last 4 s.encodedRows ⟨d, ∅⟩
    return d.draft

/-! ## Alternative texts

Texts that begin alike are read together, as long as no text ends between them: the end of a text
comes before the texts that stand after it.
-/

/-- Cut a list of texts at those that are empty. -/
def cutAtEmpty : List (List UInt8) → List (List (List UInt8))
  | [] => [[]]
  | [] :: rest => [] :: cutAtEmpty rest
  | text :: rest =>
    match cutAtEmpty rest with
    | [] => [[text]]
    | part :: parts => (text :: part) :: parts

/-- Leave out all but one of the empty texts at the front, which are all the same end. -/
def dropSameEnds : List (List (List UInt8)) → List (List (List UInt8))
  | [] :: [] :: parts => dropSameEnds ([] :: parts)
  | parts => parts

/-- The rests of the texts that begin with each byte. -/
def restsByByte (texts : List (List UInt8)) : List (List (List UInt8)) :=
  ((texts.filterMap List.head?).eraseDups).map fun b =>
    (texts.filter fun t => t.head? = some b).map List.tail

/-- The states that read one of some texts, no longer than the given number. -/
def Draft.addTexts : Nat → List (List UInt8) → Draft → Option Draft
  | 0, _, d => some d
  | length + 1, texts, d =>
    if texts.all List.isEmpty then some d
    else do
      let parts := dropSameEnds (cutAtEmpty texts)
      let d ← parts.foldlM (fun d part => do
        let rests := restsByByte part
        let d ← rests.foldlM (fun d rest => addTexts length rest d) d
        match rests.length with
        | 0 => pure d
        | 1 => d.add 1
        | n => d.addBranching n) d
      let d ← d.add 1
      d.listMore ((parts.filter fun part => !part.isEmpty).length + (parts.length - 1))

/-- The text of a pattern that matches one text only. -/
def text? : Pattern → Option (List Char)
  | literal cs => some cs
  | _ => none

/-- The encoding of a text in the order in which its bytes are read. -/
def encode (backwards : Bool) (text : List Char) : List UInt8 :=
  let bytes := text.flatMap String.utf8EncodeChar
  if backwards then bytes.reverse else bytes

/-! ## Patterns -/

/-- The pattern is a choice. -/
def isChoice : Pattern → Bool
  | alt _ _ => true
  | _ => false

/-- Add a pattern. `inChoice` says that it is the first alternatives of a choice that goes on; the
end of a choice is one state, where all alternatives go on. -/
def addTo (backwards : Bool) : Bool → Pattern → Draft → Option Draft
  | _, empty, d => d.add 1
  | _, look _, d => d.add 1
  | _, literal cs, d => d.add (encode backwards cs).length
  | _, chars s, d => d.addSet backwards s
  | _, group _ p, d => do
    if backwards then addTo backwards false p d
    else
      let d ← d.add 1
      let d ← addTo backwards false p d
      let d ← d.goOn
      d.add 1
  | _, seq p q, d => do
    if backwards then
      let d ← addTo backwards false q d
      let d ← d.goOn
      addTo backwards false p d
    else
      let d ← addTo backwards false p d
      let d ← d.goOn
      addTo backwards false q d
  | inChoice, alt p q, d =>
    match if inChoice then none else (branches (alt p q)).mapM text? with
    | some texts => do
      let texts := texts.map (encode backwards)
      let d ← d.add 1
      d.addTexts ((texts.map List.length).foldl max 0 + 1) texts
    | none => do
      let d ← addTo backwards true p d
      if p.isChoice then
        let d ← addTo backwards false q d
        let d ← d.goOn
        return { ← d.listMore 1 with forks := false }
      else
        let d ← d.goOn
        let d ← addTo backwards false q d
        let d ← d.goOn
        let d ← d.add 2
        d.listMore 2
  | _, times p least most _, d =>
    let piece := addTo backwards false p
    match least, most with
    | 0, some 1 => do
      let d ← d.add 1
      let d ← piece d
      let d ← d.goOn
      let d ← d.add 1
      d.listMore 2
    | 0, none => do
      if p.extent.least.any (0 < ·) then
        let d ← d.add 1
        let d ← piece d
        let d ← d.goOn
        return (← d.listMore 1).forking
      else
        let d ← piece d
        let d ← d.goOn
        let d ← d.add 3
        d.listMore 4
    | least, none => do
      let d ← d.copies piece least
      let d ← d.goOn
      let d ← d.add 1
      return (← d.listMore 1).forking
    | least, some most => do
      let d ← d.copies piece least
      if least = most then return d
      else
        let forks := d.forks
        let d ← d.add 1
        let d ← Draft.optionalCopies piece (most - least) { d with forks }
        return { d with forks := false }

/-- The automaton of a pattern, if it is not too large. Matches may begin anywhere, unless they all
begin where the automaton does; the whole match is a counted group. -/
def automaton? (backwards : Bool) (p : Pattern) : Option Draft := do
  let d ←
    if if backwards then p.extent.toEnd else p.extent.fromStart then Draft.empty.add 1
    else do
      let d ← Draft.empty.add 2
      let d ← d.addBranching 1
      d.listMore 2
  let d ← addTo backwards false (group 0 p) d
  let d ← d.goOn
  d.add 1

/-- The pattern is a choice of so many texts that these are searched for by other means. -/
def isLongList (p : Pattern) : Bool :=
  let texts := branches p
  texts.length ≥ 3000 && texts.all fun q => q.text?.isSome

/-- The pattern can be searched for. -/
def isBuildable (p : Pattern) : Bool :=
  p.isLongList || ((p.automaton? false).isSome && (p.automaton? true).isSome)

end CodecGen.Pattern
