/-
The graph of a YAML document, built from its tokens. A node has its number before its parts are
read, so that an alias inside of it can name it. A token that says that the text cannot be read on
is looked at only where the grammar needs the token after all those before it.
-/
import Routewright.Document.Yaml.Graph
import Routewright.Document.Yaml.Token

namespace Routewright.Document.Yaml

/-- The tag handles of a document. -/
abbrev Handles := List (Text × Text)

/-- The tokens ahead, the nodes of the anchors so far, and all nodes so far. -/
structure Composer where
  tokens : List Token
  anchors : List (Text × Nat)
  graph : Graph

namespace Composer

/-- Collections nested deeper than this are not followed. -/
def maxDepth : Nat := 489

/-- Whether the next token is one of some. -/
def meets (s : Composer) (ts : List Token) : Bool :=
  match s.tokens with
  | [] => false
  | t :: _ => ts.contains t

def next (s : Composer) : Token := s.tokens.headD .streamEnd

def advance (s : Composer) : Composer := { s with tokens := s.tokens.tail }

/-- A new node, and its number. -/
def add (n : Node) (s : Composer) : Nat × Composer :=
  (s.graph.size, { s with graph := s.graph.push n })

/-- Gives an anchor's name to a node. -/
def bind (anchor : Option Text) (id : Nat) (s : Composer) : Composer :=
  match anchor with
  | some name => { s with anchors := (name, id) :: s.anchors }
  | none => s

/-- Puts the parts of a node into the graph once they are read. -/
def fill (id : Nat) (c : Content) (s : Composer) : Composer :=
  { s with graph := s.graph.setContent id c }

/-- The tag that a handle and a suffix write. -/
def fullTag (handles : Handles) (handle : Option Text) (suffix : Text) : Except Refusal Text :=
  match handle with
  | none => .ok suffix
  | some h =>
    match handles.lookup h with
    | some target => .ok (target ++ suffix)
    | none => .error .malformed

/-- The anchor and the tag in front of a node, in either order. The handle of a tag that comes first
is looked up after the token that follows the tag. -/
def properties (handles : Handles) (s : Composer) :
    Except Refusal (Option Text × Option Text × Composer) :=
  match s.tokens with
  | .anchor name :: .tag handle suffix :: rest => do
    .ok (some name, some (← fullTag handles handle suffix), { s with tokens := rest })
  | .tag _ _ :: .refused r :: _ => .error r
  | .tag handle suffix :: .anchor name :: rest => do
    .ok (some name, some (← fullTag handles handle suffix), { s with tokens := rest })
  | .anchor name :: rest => .ok (some name, none, { s with tokens := rest })
  | .tag handle suffix :: rest => do
    .ok (none, some (← fullTag handles handle suffix), { s with tokens := rest })
  | _ => .ok (none, none, s)

/-- The tag that leaves a node's type to its text. -/
def bareTag : Text := "!"

/-- The type of a scalar. -/
def scalarTag (tag : Option Text) (text : Text) (plain : Bool) : Tag :=
  match tag with
  | none => if plain then .ofPlain text else .str
  | some name => if name = bareTag then .ofPlain text else .ofName name

/-- The type of a collection. -/
def collectionTag (tag : Option Text) (default : Tag) : Tag :=
  match tag with
  | none => default
  | some name => if name = bareTag then default else .ofName name

/-- The node of nothing. -/
def empty (s : Composer) : Nat × Composer := s.add ⟨.null, .scalar []⟩

/-- Why the token ahead is not the one that the grammar asks for. -/
def refusal (s : Composer) : Refusal :=
  match s.next with
  | .refused r => r
  | _ => .malformed

/-- The end of a sequence or mapping. -/
def expect (t : Token) (s : Composer) : Except Refusal Composer :=
  if s.next = t then .ok s.advance else .error s.refusal

mutual

/-- The node ahead, inside of some collections. Collections of blocks are nodes only where `inBlock`
holds, and sequences without indentation only where `unindented` does. -/
def node (handles : Handles) :
    Nat → (inBlock unindented : Bool) → (depth : Nat) → Composer → Except Refusal (Nat × Composer)
  | 0, _, _, _, _ => .error .malformed
  | fuel + 1, inBlock, unindented, depth, s =>
    match s.tokens with
    | .alias name :: rest =>
      match s.anchors.lookup name with
      | some id => .ok (id, { s with tokens := rest })
      | none => .error .malformed
    | _ => do
      let (anchor, tag, s) ← properties handles s
      let isKnown := anchor.any fun name => (s.anchors.lookup name).isSome
      let asScalar (tag : Tag) (text : Text) (s : Composer) : Nat × Composer :=
        let (id, s) := s.add ⟨tag, .scalar text⟩
        (id, bind anchor id s)
      let asSequence (items : Composer → Except Refusal (List Nat × Composer))
          (s : Composer) : Except Refusal (Nat × Composer) := do
        let (id, s) := s.add ⟨collectionTag tag .seq, .sequence []⟩
        let (items, s) ← items (bind anchor id s)
        .ok (id, fill id (.sequence items) s)
      let asMapping (entries : Composer → Except Refusal (List (Nat × Nat) × Composer))
          (s : Composer) : Except Refusal (Nat × Composer) := do
        let (id, s) := s.add ⟨collectionTag tag .map, .mapping []⟩
        let (entries, s) ← entries (bind anchor id s)
        .ok (id, fill id (.mapping entries) s)
      match s.next with
      | .refused r => .error r
      | t =>
        if isKnown then .error .malformed
        else if depth ≥ maxDepth ∧ t.startsCollection then .error .nestedTooDeep
        else
          match t with
          | .scalar text plain => .ok (asScalar (scalarTag tag text plain) text s.advance)
          | .flowSequenceStart => asSequence (flowItems handles fuel true (depth + 1)) s.advance
          | .flowMappingStart => asMapping (flowEntries handles fuel true (depth + 1)) s.advance
          | t =>
            if unindented ∧ t = .blockEntry then asSequence (unindentedItems handles fuel (depth + 1)) s
            else if inBlock ∧ t = .blockSequenceStart then
              asSequence (blockItems handles fuel (depth + 1)) s.advance
            else if inBlock ∧ t = .blockMappingStart then
              asMapping (blockEntries handles fuel (depth + 1)) s.advance
            else if anchor.isSome ∨ tag.isSome then .ok (asScalar (scalarTag tag [] true) [] s)
            else .error .malformed

/-- The items of a block sequence. -/
def blockItems (handles : Handles) :
    Nat → Nat → Composer → Except Refusal (List Nat × Composer)
  | 0, _, _ => .error .malformed
  | fuel + 1, depth, s =>
    if s.next = .blockEntry then do
      let s := s.advance
      let (item, s) ←
        if s.meets [.blockEntry, .blockEnd] then .ok s.empty
        else node handles fuel true false depth s
      let (items, s) ← blockItems handles fuel depth s
      .ok (item :: items, s)
    else do
      let s ← s.expect .blockEnd
      .ok ([], s)

/-- The items of a sequence that is indented no more than the mapping it is a value of. -/
def unindentedItems (handles : Handles) :
    Nat → Nat → Composer → Except Refusal (List Nat × Composer)
  | 0, _, _ => .error .malformed
  | fuel + 1, depth, s =>
    if s.next = .blockEntry then do
      let s := s.advance
      let (item, s) ←
        if s.meets [.blockEntry, .key, .value, .blockEnd] then .ok s.empty
        else node handles fuel true false depth s
      let (items, s) ← unindentedItems handles fuel depth s
      .ok (item :: items, s)
    else .ok ([], s)

/-- The entries of a block mapping. -/
def blockEntries (handles : Handles) :
    Nat → Nat → Composer → Except Refusal (List (Nat × Nat) × Composer)
  | 0, _, _ => .error .malformed
  | fuel + 1, depth, s =>
    if s.next = .key then do
      let s := s.advance
      let (key, s) ←
        if s.meets [.key, .value, .blockEnd] then .ok s.empty
        else node handles fuel true true depth s
      let (value, s) ← blockValue handles fuel depth s
      let (entries, s) ← blockEntries handles fuel depth s
      .ok ((key, value) :: entries, s)
    else do
      let s ← s.expect .blockEnd
      .ok ([], s)

/-- The value of a block mapping's entry. -/
def blockValue (handles : Handles) : Nat → Nat → Composer → Except Refusal (Nat × Composer)
  | 0, _, _ => .error .malformed
  | fuel + 1, depth, s =>
    if s.next = .value then
      let s := s.advance
      if s.meets [.key, .value, .blockEnd] then .ok s.empty
      else node handles fuel true true depth s
    else .ok s.empty

/-- The items of a flow sequence. An entry of a mapping may stand for a mapping of its own. -/
def flowItems (handles : Handles) :
    Nat → (first : Bool) → (depth : Nat) → Composer → Except Refusal (List Nat × Composer)
  | 0, _, _, _ => .error .malformed
  | fuel + 1, first, depth, s =>
    if s.next = .flowSequenceEnd then .ok ([], s.advance)
    else do
      let s ← if first then .ok s else s.expect .flowEntry
      if s.next = .flowSequenceEnd then .ok ([], s.advance)
      else do
        let (item, s) ←
          if s.next = .key then do
            let s := s.advance
            let (id, s) := s.add ⟨.map, .mapping []⟩
            let (key, s) ←
              if s.meets [.value, .flowEntry, .flowSequenceEnd] then .ok s.empty
              else node handles fuel false false (depth + 1) s
            let (value, s) ← flowValue handles fuel .flowSequenceEnd (depth + 1) s
            .ok (id, fill id (.mapping [(key, value)]) s)
          else node handles fuel false false depth s
        let (items, s) ← flowItems handles fuel false depth s
        .ok (item :: items, s)

/-- The entries of a flow mapping. -/
def flowEntries (handles : Handles) :
    Nat → (first : Bool) → (depth : Nat) → Composer → Except Refusal (List (Nat × Nat) × Composer)
  | 0, _, _, _ => .error .malformed
  | fuel + 1, first, depth, s =>
    if s.next = .flowMappingEnd then .ok ([], s.advance)
    else do
      let s ← if first then .ok s else s.expect .flowEntry
      if s.next = .flowMappingEnd then .ok ([], s.advance)
      else do
        let (entry, s) ←
          if s.next = .key then do
            let s := s.advance
            let (key, s) ←
              if s.meets [.value, .flowEntry, .flowMappingEnd] then .ok s.empty
              else node handles fuel false false depth s
            let (value, s) ← flowValue handles fuel .flowMappingEnd depth s
            .ok ((key, value), s)
          else do
            let (key, s) ← node handles fuel false false depth s
            let (value, s) := s.empty
            .ok ((key, value), s)
        let (entries, s) ← flowEntries handles fuel false depth s
        .ok (entry :: entries, s)

/-- The value of an entry in a flow collection. -/
def flowValue (handles : Handles) :
    Nat → (close : Token) → (depth : Nat) → Composer → Except Refusal (Nat × Composer)
  | 0, _, _, _ => .error .malformed
  | fuel + 1, close, depth, s =>
    if s.next = .value then
      let s := s.advance
      if s.meets [.flowEntry, close] then .ok s.empty else node handles fuel false false depth s
    else .ok s.empty

end

/-! ## Documents -/

/-- The tag handles that every document has. -/
def standardHandles : Handles := [("!", "!"), ("!!", Tag.standardSpace)]

/-- The handles that directives declare, before the standard ones, and the tokens after them. -/
def directives : Bool → Handles → List Token → Except Refusal (Handles × List Token)
  | versioned, handles, .directive d :: rest =>
    match d with
    | .version major =>
      if versioned ∨ major ≠ 1 then .error .malformed else directives true handles rest
    | .tagHandle handle target =>
      if (handles.lookup handle).isSome then .error .malformed
      else directives versioned ((handle, target) :: handles) rest
    | .other => directives versioned handles rest
  | _, handles, rest => .ok (handles ++ standardHandles, rest)

/-- The tokens after the ends of documents. -/
def skipEnds : List Token → List Token
  | .documentEnd :: rest => skipEnds rest
  | rest => rest

/-- Nothing but ends of documents may follow a document. -/
def finish (s : Composer) : Except Refusal Unit := do
  let rest := skipEnds s.tokens
  if rest.head? = some .streamEnd then .ok ()
  else
    let (_, rest) ← directives false [] rest
    .error { s with tokens := rest }.refusal

/-- The graph of the only document and the number of its outermost node, or nothing if there is no
document. -/
def document (tokens : List Token) : Except Refusal (Option (Graph × Nat)) := do
  let fuel := 4 * tokens.length + 8
  match tokens with
  | [] | .streamEnd :: _ => .ok none
  | .directive _ :: _ | .documentStart :: _ =>
    let (handles, rest) ← directives false [] tokens
    let s ← expect .documentStart ⟨rest, [], #[]⟩
    let bare := match s.next with
      | .directive _ | .documentStart | .documentEnd | .streamEnd => true
      | _ => false
    let (id, s) ← if bare then .ok s.empty else node handles fuel true false 0 s
    s.finish
    .ok (some (s.graph, id))
  | _ =>
    let (id, s) ← node standardHandles fuel true false 0 ⟨tokens, [], #[]⟩
    s.finish
    .ok (some (s.graph, id))

end Composer

end Routewright.Document.Yaml
