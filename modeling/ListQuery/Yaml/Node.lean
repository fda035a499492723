import ListQuery.Yaml.Lexer

/-!
# The tree of a document

* `Node` — scalars, sequences and mappings with their tags. An alias holds the node it stands for.
* `Node.ofTokens?` — the tree of a text with at most one document.
* `Node.depth`, `Node.aliases` — how deep a tree is, and how often aliases are followed in it.
-/

set_option autoImplicit false
namespace ListQuery
namespace Yaml

/-- A node of a document. -/
inductive Node where
  | scalar (tag : Option Tag) (text : String) (plain : Bool)
  | sequence (tag : Option Tag) (items : List Node)
  | mapping (tag : Option Tag) (entries : List (Node × Node))
  /-- Another mention of a node, with that node's own depth and number of aliases. -/
  | alias (target : Node) (depth aliases : Nat)

namespace Node

/-- A scalar without text. -/
def empty : Node := .scalar none "" true

mutual

/-- The number of collections around the innermost node. -/
def depth : Node → Nat
  | .scalar _ _ _ => 0
  | .sequence _ items => 1 + depthItems items
  | .mapping _ entries => 1 + depthEntries entries
  | .alias _ d _ => d

/-- The greatest depth of nodes. -/
def depthItems : List Node → Nat
  | [] => 0
  | n :: rest => max n.depth (depthItems rest)

/-- The greatest depth of keys and values. -/
def depthEntries : List (Node × Node) → Nat
  | [] => 0
  | (k, v) :: rest => max (max k.depth v.depth) (depthEntries rest)

end

mutual

/-- How often an alias is followed when the whole tree is read. -/
def aliases : Node → Nat
  | .scalar _ _ _ => 0
  | .sequence _ items => aliasesItems items
  | .mapping _ entries => aliasesEntries entries
  | .alias _ _ n => n + 1

/-- The number of aliases followed in nodes. -/
def aliasesItems : List Node → Nat
  | [] => 0
  | n :: rest => n.aliases + aliasesItems rest

/-- The number of aliases followed in keys and values. -/
def aliasesEntries : List (Node × Node) → Nat
  | [] => 0
  | (k, v) :: rest => k.aliases + v.aliases + aliasesEntries rest

end

mutual

/-- The number of events a node is written with: one for a scalar or an alias, two around the
contents of a collection. -/
def size : Node → Nat
  | .scalar _ _ _ => 1
  | .sequence _ items => 2 + sizeItems items
  | .mapping _ entries => 2 + sizeEntries entries
  | .alias _ _ _ => 1

/-- The number of events of nodes. -/
def sizeItems : List Node → Nat
  | [] => 0
  | n :: rest => n.size + sizeItems rest

/-- The number of events of keys and values. -/
def sizeEntries : List (Node × Node) → Nat
  | [] => 0
  | (k, v) :: rest => k.size + v.size + sizeEntries rest

end

end Node

/-! ## From tokens to a tree -/

/-- The tokens ahead, and the nodes that have a name. A name whose node is not complete has none. -/
structure Reader where
  tokens : List Token
  named : List (String × Option Node) := []

namespace Reader

/-- The next token. -/
def next? (r : Reader) : Option Token :=
  r.tokens.head?

/-- Passes a token. -/
def skip (r : Reader) : Reader :=
  { r with tokens := r.tokens.drop 1 }

/-- Whether the next token is one of those given. -/
def isAt (r : Reader) (tokens : List Token) : Bool :=
  r.next?.any tokens.contains

/-- Gives a name to a node that is about to be read. -/
def announce (r : Reader) (name : Option String) : Reader :=
  match name with
  | some n => { r with named := (n, none) :: r.named }
  | none => r

/-- Sets the node of the name that was announced last. -/
def fill (name : String) (node : Node) : List (String × Option Node) → List (String × Option Node)
  | [] => []
  | (n, none) :: rest =>
    if n = name then (n, some node) :: rest else (n, none) :: fill name node rest
  | (n, some old) :: rest => (n, some old) :: fill name node rest

/-- Completes the node of a name. -/
def complete (r : Reader) (name : Option String) (node : Node) : Reader :=
  match name with
  | some n => { r with named := fill n node r.named }
  | none => r

/-- The node that an alias stands for. -/
def named? (r : Reader) (name : String) : Option Node :=
  ((r.named.lookup name).join).map fun n =>
    .alias n n.depth n.aliases

end Reader

/-- Expansions of tag handles. -/
abbrev TagHandles := List (String × List UInt8)

/-- The handles that every document knows. -/
def standardHandles : TagHandles :=
  [("!", Tag.mark), ("!!", Tag.standardLead)]

/-- The anchor and the tag in front of a node. -/
structure Properties where
  anchor : Option String := none
  tag : Option Tag := none

/-- A tag with its handle expanded; a handle that is not declared is refused. -/
def expandTag? (handles : TagHandles) (handle : String) (suffix : List UInt8) : Option Tag :=
  if handle = "" then some (Tag.ofBytes suffix)
  else (handles.lookup handle).map fun expansion => Tag.ofBytes (expansion ++ suffix)

/-- Reads the anchor and the tag of a node, in either order. -/
def readProperties (handles : TagHandles) (r : Reader) : Option (Properties × Reader) :=
  match r.tokens with
  | .anchor a :: .tag h s :: rest =>
    (expandTag? handles h s).map fun t => (⟨some a, some t⟩, { r with tokens := rest })
  | .tag h s :: .anchor a :: rest =>
    (expandTag? handles h s).map fun t => (⟨some a, some t⟩, { r with tokens := rest })
  | .anchor a :: rest => some (⟨some a, none⟩, { r with tokens := rest })
  | .tag h s :: rest =>
    (expandTag? handles h s).map fun t => (⟨none, some t⟩, { r with tokens := rest })
  | _ => some ({}, r)

/-- A node to come may be left out where one of these tokens follows. -/
def Reader.readUnless (r : Reader) (ends : List Token) (read : Reader → Option (Node × Reader)) :
    Option (Node × Reader) :=
  if r.isAt ends then some (.empty, r) else read r

mutual

/-- Reads a node. `block` says whether blocks may begin, and `hyphens` whether elements may stand
in the column of the surrounding mapping. -/
def readNode (handles : TagHandles) : (fuel : Nat) → (block hyphens : Bool) → Reader →
    Option (Node × Reader)
  | 0, _, _, _ => none
  | fuel + 1, block, hyphens, r =>
    match r.next? with
    | some (.alias name) => (r.named? name).map fun n => (n, r.skip)
    | _ => do
      let (p, r) ← readProperties handles r
      let r := r.announce p.anchor
      let (node, r) ← readContent handles fuel block hyphens p.tag p.anchor.isSome r
      some (node, r.complete p.anchor node)

/-- Reads a node behind its properties. It may be empty if it has any. -/
def readContent (handles : TagHandles) : (fuel : Nat) → (block hyphens : Bool) →
    (tag : Option Tag) → (anchored : Bool) → Reader → Option (Node × Reader)
  | 0, _, _, _, _, _ => none
  | fuel + 1, block, hyphens, tag, anchored, r =>
    match r.next? with
    | some (.scalar text plain) => some (.scalar tag text plain, r.skip)
    | some .flowSequence =>
      (readFlowItems handles fuel true [] r.skip).map fun p => (.sequence tag p.1, p.2)
    | some .flowMapping =>
      (readFlowEntries handles fuel true [] r.skip).map fun p => (.mapping tag p.1, p.2)
    | token =>
      if hyphens && token == some .entry then
        (readHyphens handles fuel [] r).map fun p => (.sequence tag p.1, p.2)
      else if block && token == some .blockSequence then
        (readBlockItems handles fuel [] r.skip).map fun p => (.sequence tag p.1, p.2)
      else if block && token == some .blockMapping then
        (readBlockEntries handles fuel [] r.skip).map fun p => (.mapping tag p.1, p.2)
      else if anchored || tag.isSome then some (.scalar tag "" true, r)
      else none

/-- Reads the elements of a block, which its end concludes. -/
def readBlockItems (handles : TagHandles) : (fuel : Nat) → List Node → Reader →
    Option (List Node × Reader)
  | 0, _, _ => none
  | fuel + 1, items, r =>
    match r.next? with
    | some .entry => do
      let (item, r) ← r.skip.readUnless [.entry, .blockEnd] (readNode handles fuel true false)
      readBlockItems handles fuel (item :: items) r
    | some .blockEnd => some (items.reverse, r.skip)
    | _ => none

/-- Reads elements in the column of the surrounding mapping; the first other token concludes
them. -/
def readHyphens (handles : TagHandles) : (fuel : Nat) → List Node → Reader →
    Option (List Node × Reader)
  | 0, _, _ => none
  | fuel + 1, items, r =>
    match r.next? with
    | some .entry => do
      let (item, r) ←
        r.skip.readUnless [.entry, .key, .value, .blockEnd] (readNode handles fuel true false)
      readHyphens handles fuel (item :: items) r
    | _ => some (items.reverse, r)

/-- Reads the entries of a block, which its end concludes. A key or a value may be empty. -/
def readBlockEntries (handles : TagHandles) : (fuel : Nat) → List (Node × Node) → Reader →
    Option (List (Node × Node) × Reader)
  | 0, _, _ => none
  | fuel + 1, entries, r =>
    match r.next? with
    | some .key => do
      let (key, r) ←
        r.skip.readUnless [.key, .value, .blockEnd] (readNode handles fuel true true)
      if r.isAt [.value] then do
        let (value, r) ←
          r.skip.readUnless [.key, .value, .blockEnd] (readNode handles fuel true true)
        readBlockEntries handles fuel ((key, value) :: entries) r
      else readBlockEntries handles fuel ((key, .empty) :: entries) r
    | some .blockEnd => some (entries.reverse, r.skip)
    | _ => none

/-- Reads the elements of a sequence in brackets. An element may be a mapping of one entry. -/
def readFlowItems (handles : TagHandles) : (fuel : Nat) → (first : Bool) → List Node → Reader →
    Option (List Node × Reader)
  | 0, _, _, _ => none
  | fuel + 1, first, items, r =>
    if r.isAt [.flowSequenceEnd] then some (items.reverse, r.skip)
    else if !first && !r.isAt [.comma] then none
    else
      let r := if first then r else r.skip
      if r.isAt [.flowSequenceEnd] then some (items.reverse, r.skip)
      else if r.isAt [.key] then do
        let r := r.skip
        let (key, r) ←
          if r.isAt [.value, .comma, .flowSequenceEnd] then some (Node.empty, r.skip)
          else readNode handles fuel false false r
        let (value, r) ←
          if r.isAt [.value] then
            r.skip.readUnless [.comma, .flowSequenceEnd] (readNode handles fuel false false)
          else some (Node.empty, r)
        readFlowItems handles fuel false (.mapping none [(key, value)] :: items) r
      else do
        let (item, r) ← readNode handles fuel false false r
        readFlowItems handles fuel false (item :: items) r

/-- Reads the entries of a mapping in braces. An entry without a colon has an empty value. -/
def readFlowEntries (handles : TagHandles) : (fuel : Nat) → (first : Bool) →
    List (Node × Node) → Reader → Option (List (Node × Node) × Reader)
  | 0, _, _, _ => none
  | fuel + 1, first, entries, r =>
    if r.isAt [.flowMappingEnd] then some (entries.reverse, r.skip)
    else if !first && !r.isAt [.comma] then none
    else
      let r := if first then r else r.skip
      if r.isAt [.flowMappingEnd] then some (entries.reverse, r.skip)
      else if r.isAt [.key] then do
        let (key, r) ←
          r.skip.readUnless [.value, .comma, .flowMappingEnd] (readNode handles fuel false false)
        let (value, r) ←
          if r.isAt [.value] then
            r.skip.readUnless [.comma, .flowMappingEnd] (readNode handles fuel false false)
          else some (Node.empty, r)
        readFlowEntries handles fuel false ((key, value) :: entries) r
      else do
        let (key, r) ← readNode handles fuel false false r
        readFlowEntries handles fuel false ((key, .empty) :: entries) r

end

/-- Reads directives: at most one version, which has to be 1.1 or 1.2, and handles that differ. -/
def readDirectives : (version : Bool) → TagHandles → List Token → Option (TagHandles × List Token)
  | seen, handles, .version major minor :: rest =>
    if seen || major ≠ 1 || (minor ≠ 1 && minor ≠ 2) then none
    else readDirectives true handles rest
  | seen, handles, .tagHandle handle expansion :: rest =>
    if (handles.lookup handle).isSome then none
    else readDirectives seen ((handle, expansion) :: handles) rest
  | _, handles, tokens => some (handles, tokens)

/-- Whether a token can only stand between documents. -/
def Token.isBetween : Token → Bool
  | .version _ _ | .tagHandle _ _ | .documentStart | .documentEnd => true
  | _ => false

/-- Reads the only document of a text: directives and a start mark, or neither, a node, and end
marks. A text without tokens has no document. -/
def Node.ofTokens? (tokens : List Token) : Option (Option Node) := do
  let (handles, rest) ← readDirectives false [] tokens
  if tokens.isEmpty then some none
  else
    let explicit := rest.head? == some .documentStart
    let directives := rest.length < tokens.length
    let body := if explicit then rest.drop 1 else rest
    if directives && !explicit then none
    else
      let reader : Reader := { tokens := body }
      let blank := explicit && body.head?.all Token.isBetween
      let (node, r) ←
        if blank then some (Node.empty, reader)
        else readNode (handles ++ standardHandles) (3 * tokens.length + 10) true false reader
      if r.tokens.all (· == .documentEnd) then some (some node) else none

end Yaml
end ListQuery
