import FluentAssist.Yaml.Token

/-!
# YAML nodes

The tokens of a document make a tree of scalars, sequences and mappings. A node with an anchor can
be referred to by aliases after it. Anchors are numbered: an anchor gets the count of the names that
are known before it, and of two anchors with one number the one that is written later counts, even
if it stands inside the other's node.
-/

set_option autoImplicit false

namespace FluentAssist.Yaml

/-- A node of a document. -/
inductive Node
  | scalar (text : Text) (style : ScalarStyle) (tag : Option Text)
  | sequence (items : List Node)
  | mapping (entries : List (Node × Node))
  | alias (number : Nat)
  deriving Repr

/-- The node that stands where nothing is written. -/
def Node.nothing : Node := .scalar [] .plain none

/-- How far a document is read. -/
structure Reading where
  tokens : List Token
  /-- The start of the addresses of every tag handle. -/
  handles : List (Text × Text)
  /-- The numbers of the known anchors. -/
  numbers : List (Text × Nat) := []
  /-- How many anchors were met. -/
  met : Nat := 0
  /-- Which of the met anchors was the last one of a number. -/
  latest : List (Nat × Nat) := []
  /-- The nodes with anchors by their numbers. -/
  anchored : List (Nat × Node) := []
  deriving Repr

/-- An anchor: its number, and how many anchors were met before it. -/
structure Anchor where
  number : Nat
  place : Nat
  deriving DecidableEq, Repr

namespace Reading

/-- The next token. -/
def peek? (reading : Reading) : Option Token := reading.tokens.head?

/-- The reading after the next token. -/
def drop (reading : Reading) : Reading := { reading with tokens := reading.tokens.drop 1 }

/-- Whether the next token is one of some tokens. -/
def isAt (reading : Reading) (tokens : List Token) : Bool := reading.peek?.any tokens.contains

/-- Gives an anchor a number. -/
def number (reading : Reading) (name : Text) : Reading × Anchor :=
  let known := reading.numbers.filter (·.1 ≠ name)
  let next := reading.numbers.length
  ({ reading with
      numbers := (name, next) :: known
      met := reading.met + 1
      latest := (next, reading.met) :: reading.latest },
    ⟨next, reading.met⟩)

/-- Keeps a node for the aliases of its anchor, unless its number was given again since. -/
def keep (reading : Reading) (anchor : Option Anchor) (node : Node) : Reading × Node :=
  match anchor with
  | none => (reading, node)
  | some anchor =>
    if reading.latest.lookup anchor.number = some anchor.place then
      ({ reading with anchored := (anchor.number, node) :: reading.anchored }, node)
    else (reading, node)

/-- The address of a tag. -/
def address? (reading : Reading) (handle suffix : Text) : Option Text :=
  if handle.isEmpty then some suffix
  else (reading.handles.lookup handle).map (· ++ suffix)

/-- Reads the anchor and the tag before a node, in either order. -/
def properties (reading : Reading) : Option (Reading × Option Anchor × Option Text) :=
  match reading.tokens with
  | .anchor name :: .tag handle suffix :: _ => do
    let tag ← reading.address? handle suffix
    let (numbered, number) := reading.drop.drop.number name
    return (numbered, some number, some tag)
  | .tag handle suffix :: .anchor name :: _ => do
    let tag ← reading.address? handle suffix
    let (numbered, number) := reading.drop.drop.number name
    return (numbered, some number, some tag)
  | .anchor name :: _ =>
    let (numbered, number) := reading.drop.number name
    some (numbered, some number, none)
  | .tag handle suffix :: _ => do
    return (reading.drop, none, some (← reading.address? handle suffix))
  | _ => some (reading, none, none)

/-- How the items of a sequence without a block of its own end. -/
def endsIndentless : List Token := [.blockEntry, .key, .value, .blockEnd]

/-- What ends a key or value of a block mapping. -/
def endsBlockPart : List Token := [.key, .value, .blockEnd]

mutual

/-- Reads a node. `block` tells whether blocks may stand here, and `indentless` whether a sequence
may stand here without a block of its own. -/
def node (block indentless : Bool) : Nat → Reading → Option (Reading × Node)
  | 0, _ => none
  | fuel + 1, reading =>
    match reading.peek? with
    | some (.alias name) =>
      (reading.numbers.lookup name).map fun number => (reading.drop, .alias number)
    | _ =>
      match reading.properties with
      | none => none
      | some (start, anchor, tag) =>
        match start.peek? with
        | some (.scalar text style) => some (start.drop.keep anchor (.scalar text style tag))
        | some .flowSequenceStart =>
          (flowItems true fuel start.drop).map fun (after, items) =>
            after.keep anchor (.sequence items)
        | some .flowMappingStart =>
          (flowEntries true fuel start.drop).map fun (after, entries) =>
            after.keep anchor (.mapping entries)
        | some .blockEntry =>
          if indentless then
            (indentlessItems fuel start).map fun (after, items) =>
              after.keep anchor (.sequence items)
          else if anchor.isSome || tag.isSome then some (start.keep anchor (.scalar [] .plain tag))
          else none
        | some .blockSequenceStart =>
          if block then
            (blockItems fuel start.drop).map fun (after, items) =>
              after.keep anchor (.sequence items)
          else if anchor.isSome || tag.isSome then some (start.keep anchor (.scalar [] .plain tag))
          else none
        | some .blockMappingStart =>
          if block then
            (blockEntries fuel start.drop).map fun (after, entries) =>
              after.keep anchor (.mapping entries)
          else if anchor.isSome || tag.isSome then some (start.keep anchor (.scalar [] .plain tag))
          else none
        | _ =>
          if anchor.isSome || tag.isSome then some (start.keep anchor (.scalar [] .plain tag))
          else none

/-- Reads a node, or nothing where one of some tokens follows. -/
def nodeUnless (stops : List Token) (block indentless : Bool) :
    Nat → Reading → Option (Reading × Node)
  | 0, _ => none
  | fuel + 1, reading =>
    if reading.isAt stops then some (reading, .nothing) else node block indentless fuel reading

/-- Reads the items of a block sequence and its end. -/
def blockItems : Nat → Reading → Option (Reading × List Node)
  | 0, _ => none
  | fuel + 1, reading =>
    match reading.peek? with
    | some .blockEntry =>
      match nodeUnless [.blockEntry, .blockEnd] true false fuel reading.drop with
      | none => none
      | some (after, item) =>
        (blockItems fuel after).map fun (last, items) => (last, item :: items)
    | some .blockEnd => some (reading.drop, [])
    | _ => none

/-- Reads the items of a sequence that has no block of its own. -/
def indentlessItems : Nat → Reading → Option (Reading × List Node)
  | 0, _ => none
  | fuel + 1, reading =>
    match reading.peek? with
    | some .blockEntry =>
      match nodeUnless endsIndentless true false fuel reading.drop with
      | none => none
      | some (after, item) =>
        (indentlessItems fuel after).map fun (last, items) => (last, item :: items)
    | _ => some (reading, [])

/-- Reads the entries of a block mapping and its end. -/
def blockEntries : Nat → Reading → Option (Reading × List (Node × Node))
  | 0, _ => none
  | fuel + 1, reading =>
    match reading.peek? with
    | some .key =>
      match nodeUnless endsBlockPart true true fuel reading.drop with
      | none => none
      | some (after, key) =>
        match blockValue fuel after with
        | none => none
        | some (next, value) =>
          (blockEntries fuel next).map fun (last, entries) => (last, (key, value) :: entries)
    | some .blockEnd => some (reading.drop, [])
    | _ => none

/-- Reads the value of a block mapping's key; it may be left out. -/
def blockValue : Nat → Reading → Option (Reading × Node)
  | 0, _ => none
  | fuel + 1, reading =>
    match reading.peek? with
    | some .value => nodeUnless endsBlockPart true true fuel reading.drop
    | _ => some (reading, .nothing)

/-- Reads the items of a flow sequence and its end. A key among the items makes a mapping of one
entry. -/
def flowItems (first : Bool) : Nat → Reading → Option (Reading × List Node)
  | 0, _ => none
  | fuel + 1, reading =>
    if reading.isAt [.flowSequenceEnd] then some (reading.drop, [])
    else if !first && !reading.isAt [.flowEntry] then none
    else
      let start := if first then reading else reading.drop
      match start.peek? with
      | some .flowSequenceEnd => some (start.drop, [])
      | some .key =>
        match flowPair fuel start.drop with
        | none => none
        | some (after, item) =>
          (flowItems false fuel after).map fun (last, items) => (last, item :: items)
      | _ =>
        match node false false fuel start with
        | none => none
        | some (after, item) =>
          (flowItems false fuel after).map fun (last, items) => (last, item :: items)

/-- Reads a mapping of one entry among the items of a flow sequence. -/
def flowPair : Nat → Reading → Option (Reading × Node)
  | 0, _ => none
  | fuel + 1, reading =>
    let read := if reading.isAt [.value, .flowEntry, .flowSequenceEnd] then
        some (reading.drop, Node.nothing)
      else node false false fuel reading
    match read with
    | none => none
    | some (after, key) =>
      match after.peek? with
      | some .value =>
        (nodeUnless [.flowEntry, .flowSequenceEnd] false false fuel after.drop).map
          fun (last, value) => (last, .mapping [(key, value)])
      | _ => some (after, .mapping [(key, .nothing)])

/-- Reads the entries of a flow mapping and its end. -/
def flowEntries (first : Bool) : Nat → Reading → Option (Reading × List (Node × Node))
  | 0, _ => none
  | fuel + 1, reading =>
    if reading.isAt [.flowMappingEnd] then some (reading.drop, [])
    else if !first && !reading.isAt [.flowEntry] then none
    else
      let start := if first then reading else reading.drop
      match start.peek? with
      | some .flowMappingEnd => some (start.drop, [])
      | some .key =>
        match nodeUnless [.value, .flowEntry, .flowMappingEnd] false false fuel start.drop with
        | none => none
        | some (after, key) =>
          match flowValue fuel after with
          | none => none
          | some (next, value) =>
            (flowEntries false fuel next).map fun (last, entries) => (last, (key, value) :: entries)
      | _ =>
        match node false false fuel start with
        | none => none
        | some (after, key) =>
          (flowEntries false fuel after).map
            fun (last, entries) => (last, (key, .nothing) :: entries)

/-- Reads the value of a flow mapping's key; it may be left out. -/
def flowValue : Nat → Reading → Option (Reading × Node)
  | 0, _ => none
  | fuel + 1, reading =>
    match reading.peek? with
    | some .value => nodeUnless [.flowEntry, .flowMappingEnd] false false fuel reading.drop
    | _ => some (reading, .nothing)

end

end Reading

/-- A document: its root, and the nodes that aliases refer to. -/
structure Document where
  root : Node
  anchored : List (Nat × Node)
  deriving Repr

/-- The node that an alias refers to, and any other node itself. -/
def Document.resolve (document : Document) : Node → Option Node
  | .alias number => document.anchored.lookup number
  | node => some node

/-- The tag handles that every document knows. -/
def standardHandles : List (Text × Text) :=
  [(['!'], ['!']), (['!', '!'], "tag:yaml.org,2002:".toList)]

/-- Whether a token is a directive. -/
def Token.isDirective : Token → Bool
  | .version _ _ => true
  | .tagHandle _ _ => true
  | _ => false

/-- The tag handles after the directives of a document. At most one version, which has to be known,
and every handle at most once. -/
def handlesOf? (directives : List Token) : Option (List (Text × Text)) :=
  let versions := directives.filterMap fun
    | .version major minor => some (major, minor)
    | _ => none
  let handles := directives.filterMap fun
    | .tagHandle handle start => some (handle, start)
    | _ => none
  let names := handles.map Prod.fst
  if versions.length ≤ 1 && versions.all (fun v => v == (1, 1) || v == (1, 2)) &&
      names.eraseDups.length == names.length then
    some (handles ++ standardHandles)
  else none

/-- Reads the content of a document up to its end. -/
def contentOf? (reading : Reading) : Option (Reading × Node) :=
  match reading.peek? with
  | none => some (reading, .nothing)
  | some .documentEnd => some (reading, .nothing)
  | some .documentStart => some (reading, .nothing)
  | some token =>
    if token.isDirective then some (reading, .nothing)
    else Reading.node true false (reading.tokens.length * 4 + 4) reading

/-- The only document of a text; none if the text has no document, and an error, which is the outer
none, if it has several or is not well-formed. -/
def document? (text : Text) : Option (Option Document) := do
  let tokens ← tokens? text
  if tokens.isEmpty then return none
  let directives := tokens.takeWhile Token.isDirective
  let body := tokens.dropWhile Token.isDirective
  let handles ← handlesOf? directives
  let (after, root) ← match body with
    | .documentStart :: rest => contentOf? { tokens := rest, handles := handles }
    | _ =>
      if directives.isEmpty then
        Reading.node true false (body.length * 4 + 4) { tokens := body, handles := handles }
      else none
  if after.tokens.all (· == .documentEnd) then return some ⟨root, after.anchored⟩ else none

end FluentAssist.Yaml
