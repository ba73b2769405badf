/-
The nodes of a YAML document as a graph. A node is known by its number, and an alias is the number of
the node it names, so that a node may have several places and may even contain itself.
-/
import Routewright.Document.Yaml.Tag

namespace Routewright.Document.Yaml

/-- What a node holds; its parts are given by their numbers. -/
inductive Content where
  | scalar (text : Text)
  | sequence (items : List Nat)
  | mapping (entries : List (Nat × Nat))
deriving Inhabited

structure Node where
  tag : Tag
  content : Content
deriving Inhabited

/-- The nodes of a document by their numbers. -/
abbrev Graph := Array Node

namespace Graph

/-- The node with a number. -/
def node (g : Graph) (id : Nat) : Node := g.getD id default

def tag (g : Graph) (id : Nat) : Tag := (g.node id).tag

def content (g : Graph) (id : Nat) : Content := (g.node id).content

/-- Gives a node another type. -/
def setTag (g : Graph) (id : Nat) (t : Tag) : Graph := g.setIfInBounds id ⟨t, g.content id⟩

/-- Gives a node another content. -/
def setContent (g : Graph) (id : Nat) (c : Content) : Graph := g.setIfInBounds id ⟨g.tag id, c⟩

/-- The entries of a mapping. -/
def entries (g : Graph) (id : Nat) : List (Nat × Nat) :=
  match g.content id with
  | .mapping es => es
  | _ => []

/-- The number of all entries of mappings. -/
def entryCount (g : Graph) : Nat := g.foldl (fun count n =>
  match n.content with
  | .mapping es => count + es.length
  | _ => count) 0

/-- The text of a node of a scalar type: a mapping may have a value of its own. -/
def textFrom (g : Graph) : Nat → Nat → Except Refusal Text
  | 0, _ => .error .nestedTooDeep
  | fuel + 1, id =>
    match g.content id with
    | .scalar t => .ok t
    | .sequence _ => .error .malformed
    | .mapping es =>
      match es.find? fun e => g.tag e.1 = .value with
      | some e => textFrom g fuel e.2
      | none => .error .malformed

/-- The text of a node. Only a node that is its own value leads through more nodes than there are. -/
def text (g : Graph) (id : Nat) : Except Refusal Text := g.textFrom (g.size + 1) id

/-! ## Merging -/

/-- One mapping of a sequence that is merged, in front of the ones before it. -/
def mergeItem (prepare : Nat → Graph → Except Refusal Graph)
    (state : List (List (Nat × Nat)) × Graph) (item : Nat) :
    Except Refusal (List (List (Nat × Nat)) × Graph) :=
  match state.2.content item with
  | .mapping _ => do
    let g ← prepare item state.2
    .ok (g.entries item :: state.1, g)
  | _ => .error .malformed

/-- One entry of a mapping, after the entries that were merged before it. An entry that merges is
taken out first, so that a mapping that merges itself finds it gone. The mappings that are merged
are prepared by a function. -/
def mergeEntry (prepare : Nat → Graph → Except Refusal Graph) (id : Nat)
    (state : List (Nat × Nat) × Graph) (entry : Nat × Nat) :
    Except Refusal (List (Nat × Nat) × Graph) :=
  let (merged, g) := state
  if g.tag entry.1 = .merge then
    if !(g.entries id).contains entry then .ok (merged, g)
    else
      let g := g.setContent id (.mapping ((g.entries id).erase entry))
      match g.content entry.2 with
      | .scalar _ => .error .malformed
      | .mapping _ => do
        let g ← prepare entry.2 g
        .ok (merged ++ g.entries entry.2, g)
      | .sequence items => do
        let (groups, g) ← items.foldlM (mergeItem prepare) ([], g)
        .ok (merged ++ groups.flatten, g)
  else if g.tag entry.1 = .value then .ok (merged, g.setTag entry.1 .str)
  else .ok (merged, g)

/-- Puts the entries that a mapping merges in front of its own ones, and makes its keys that are
spelt as a value strings. Each mapping in turn merges what it asks for; every step inwards takes an
entry out, so their number bounds the steps. -/
def merge : Nat → Nat → Graph → Except Refusal Graph
  | 0, _, g => .ok g
  | fuel + 1, id, g => do
    let (merged, g) ← (g.entries id).foldlM (mergeEntry (merge fuel) id) ([], g)
    .ok (if merged.isEmpty then g else g.setContent id (.mapping (merged ++ g.entries id)))

end Graph

end Routewright.Document.Yaml
