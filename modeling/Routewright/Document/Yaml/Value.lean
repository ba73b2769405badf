/-
Values of YAML nodes. Collections are made empty first and filled in the order in which they were
made, so that of several faults the one that is met first in that order counts. A value may then
contain itself; it is followed for some levels and cut off below them.
-/
import Routewright.Document.Yaml.Node
import Routewright.Document.Yaml.Number

namespace Routewright.Document.Yaml

/-! ## Timestamps -/

/-- The microseconds that the digits of a fraction write; later digits are dropped. -/
def microseconds (fraction : Text) : Nat :=
  let digits := fraction.take 6
  Text.digitsValue (digits ++ List.replicate (6 - digits.length) (CodePoint.ofChar '0'))

/-- The moment that a timestamp denotes, if its parts are in range. -/
def Stamp.moment? (s : Stamp) : Option Moment :=
  if !Moment.isDate s.year s.month s.day then none
  else
    match s.time with
    | none => some (.day s.year s.month s.day)
    | some (hour, minute, second, fraction, offset) =>
      if hour < 24 ∧ minute < 60 ∧ second < 60 ∧ (offset.getD 0).natAbs < Moment.daySeconds then
        some (.instant s.year s.month s.day hour minute second (microseconds fraction) offset)
      else none

def timestamp (t : Text) : Except Refusal Moment :=
  match Stamp.ofText? ((Text.dropEnd? "\n" t).getD t) with
  | none => .error .notTimestamp
  | some s =>
    match s.moment? with
    | some m => .ok m
    | none => .error .valueOutOfRange

/-! ## Binary data -/

/-- The six bits of a code point of base 64. -/
def sixBits? (c : CodePoint) : Option Nat :=
  if c.isUpper then some (c.val - 65)
  else if c.isLower then some (c.val - 71)
  else if c.isDigit then some (c.val + 4)
  else if c = '+' then some 62
  else if c = '/' then some 63
  else none

/-- The bytes of base 64 text whose last `held` code points have left some bits over, after some
padding. What is not of the alphabet is passed over; padding that completes a group of four ends the
data. -/
def bytesFrom (held bits padding : Nat) : Text → Option (List Nat)
  | [] => if held = 0 then some [] else none
  | c :: rest =>
    if c = '=' then
      if 2 ≤ held ∧ 4 ≤ held + padding + 1 then some []
      else bytesFrom held bits (if 2 ≤ held then padding + 1 else padding) rest
    else
      match sixBits? c, held with
      | none, _ => bytesFrom held bits padding rest
      | some b, 0 => bytesFrom 1 b 0 rest
      | some b, 1 => (bytesFrom 2 (b % 16) 0 rest).map ((bits * 4 + b / 16) :: ·)
      | some b, 2 => (bytesFrom 3 (b % 4) 0 rest).map ((bits * 16 + b / 4) :: ·)
      | some b, _ => (bytesFrom 0 0 0 rest).map ((bits * 64 + b) :: ·)

def binary (t : Text) : Except Refusal (List Nat) :=
  match if t.all (·.val < 128) then bytesFrom 0 0 0 t else none with
  | some bytes => .ok bytes
  | none => .error .malformed

/-! ## Scalars -/

def truthWords : List (Text × Bool) := [
  ("yes", true), ("no", false), ("true", true), ("false", false), ("on", true), ("off", false)]

def truth (t : Text) : Except Refusal Bool :=
  match truthWords.lookup t.lower with
  | some b => .ok b
  | none => .error .unknownWord

/-- The value of a text as a type of scalars. -/
def scalarValue (tag : Tag) (t : Text) : Except Refusal Value :=
  match tag with
  | .null => .ok .null
  | .bool => (truth t).map .bool
  | .int => (integer t).map .int
  | .float => (float t).map .float
  | .timestamp => (timestamp t).map .moment
  | .binary => (binary t).map .bytes
  | .str => .ok (.str t)
  | _ => .error .malformed

/-! ## Construction -/

/-- Whether nodes of a type are collections, which are no keys. -/
def Tag.isCollection : Tag → Bool
  | .seq | .map | .set | .omap | .pairs => true
  | _ => false

/-- Whether nodes of a type are read from a text. -/
def Tag.isScalar : Tag → Bool
  | .null | .bool | .int | .float | .timestamp | .binary | .str => true
  | _ => false

/-- What a node stands for; its parts are given by their nodes. -/
inductive Part where
  | leaf (v : Value)
  /-- The one value of all floats that are written as the word for what is no number. -/
  | nan
  | list (items : List Nat)
  | map (entries : List (Nat × Nat))
  | set (keys : List Nat)
  | pairs (entries : List (Nat × Nat))

/-- What the nodes of a graph stand for so far, and the collections that are still to be filled, the
last one first. Mappings merge each other in no more steps than there were entries. -/
structure Construction where
  graph : Graph
  mergeSteps : Nat
  parts : Array (Option Part)
  unfilled : List Nat

namespace Construction

def start (g : Graph) : Construction := 
  ⟨g, g.entryCount + 1, Array.replicate g.size none, []⟩

/-- What a node stands for, if it was made. -/
def part? (c : Construction) (id : Nat) : Option Part := c.parts.getD id none

def put (c : Construction) (id : Nat) (p : Part) : Construction :=
  { c with parts := c.parts.setIfInBounds id (some p) }

/-- What a node of a scalar type stands for. A mapping may have a text, but is no timestamp. -/
def scalar (g : Graph) (id : Nat) : Except Refusal Part := do
  let tag := g.tag id
  if !tag.isScalar then .error .malformed
  else
    let t ← g.text id
    match tag, g.content id with
    | .timestamp, .mapping _ => .error .timestampMapping
    | .float, _ => if isNanWord t then .ok .nan else (scalarValue tag t).map .leaf
    | _, _ => (scalarValue tag t).map .leaf

/-- Makes a node, if it was not made before; a collection is empty at first. -/
def make (c : Construction) (id : Nat) : Except Refusal Construction :=
  if (c.part? id).isSome then .ok c
  else if (c.graph.tag id).isCollection then
    .ok { c.put id (.list []) with unfilled := id :: c.unfilled }
  else do
    .ok (c.put id (← scalar c.graph id))

/-- Makes the key and the value of an entry of a mapping. -/
def makeEntry (c : Construction) (entry : Nat × Nat) : Except Refusal Construction := do
  let c ← c.make entry.1
  if (c.graph.tag entry.1).isCollection then .error .malformed else c.make entry.2

/-- Makes the entry of a mapping that has no other one. -/
def makePair (state : List (Nat × Nat) × Construction) (id : Nat) :
    Except Refusal (List (Nat × Nat) × Construction) :=
  let (pairs, c) := state
  match c.graph.content id with
  | .mapping [entry] => do
    let c ← c.make entry.1
    .ok (entry :: pairs, ← c.make entry.2)
  | _ => .error .malformed

/-- Fills a collection. -/
def fill (c : Construction) (id : Nat) : Except Refusal Construction :=
  match c.graph.tag id, c.graph.content id with
  | .seq, .sequence items => do
    .ok ((← items.foldlM make c).put id (.list items))
  | .map, .mapping _ => do
    let g ← c.graph.merge c.mergeSteps id
    let c ← (g.entries id).foldlM makeEntry { c with graph := g }
    .ok (c.put id (.map (g.entries id)))
  | .set, .mapping _ => do
    let g ← c.graph.merge c.mergeSteps id
    let c ← (g.entries id).foldlM makeEntry { c with graph := g }
    .ok (c.put id (.set ((g.entries id).map Prod.fst)))
  | .omap, .sequence items | .pairs, .sequence items => do
    let (pairs, c) ← items.foldlM makePair ([], c)
    .ok (c.put id (.pairs pairs.reverse))
  | _, _ => .error .malformed

/-- Fills all collections that were made, and those made meanwhile, and so on. -/
def fillAll : Nat → Construction → Except Refusal Construction
  | 0, c => .ok c
  | fuel + 1, c =>
    if c.unfilled.isEmpty then .ok c
    else do
      fillAll fuel (← c.unfilled.reverse.foldlM fill { c with unfilled := [] })

/-- What the nodes of a graph stand for that a node leads to. Each round makes a collection, so the
number of nodes bounds the rounds. -/
def run (g : Graph) (id : Nat) : Except Refusal (Nat → Part) := do
  let c ← fillAll (g.size + 1) (← (start g).make id)
  .ok fun id => (c.part? id).getD (.list [])

end Construction

/-! ## Values -/

/-- A mapping being put together: each key has its node beside it. -/
abbrev KeyedEntries := List ((Nat × Value) × Value)

/-- Puts a value under a key. A node is one key, whatever it is equal to. -/
def insertKeyed (id : Nat) (key value : Value) : KeyedEntries → KeyedEntries
  | [] => [((id, key), value)]
  | entry :: rest =>
    if entry.1.1 = id ∨ entry.1.2.sameKey key then (entry.1, value) :: rest
    else entry :: insertKeyed id key value rest

/-- Entries in writing order as the entries of a mapping. -/
def keyedEntries (entries : KeyedEntries) : List (Value × Value) :=
  (entries.foldl (fun m e => insertKeyed e.1.1 e.1.2 e.2 m) []).map fun e => (e.1.2, e.2)

/-- The values of nodes so far that do not contain themselves. -/
abbrev KnownValues := Array (Option Value)

/-- Inside of fewer nodes than this, a node inside of itself is followed again. -/
def followedLevels : Nat := 8

/-- The value of a node inside of some nodes, and whether all of it was followed. -/
def unfold (parts : Nat → Part) (size : Nat) :
    Nat → List Nat → Nat → StateM KnownValues (Value × Bool)
  | 0, _, _ => return (.endless, false)
  | fuel + 1, path, id => do
    if let some v := (← get).getD id none then return (v, true)
    if followedLevels ≤ path.length ∧ path.contains id then return (.endless, false)
    let inner (ids : List Nat) : StateM KnownValues (List Value × Bool) := do
      let vs ← ids.mapM (unfold parts size fuel (id :: path))
      return (vs.map Prod.fst, vs.all Prod.snd)
    let keyNode (key : Nat) : Nat :=
      match parts key with
      | .nan => size
      | _ => key
    let (v, whole) ← match parts id with
      | .leaf v => pure (v, true)
      | .nan => pure (.float .nan, true)
      | .list items => do
        let (vs, whole) ← inner items
        pure (.list vs, whole)
      | .pairs entries => do
        let (keys, whole) ← inner (entries.map Prod.fst)
        let (vs, whole') ← inner (entries.map Prod.snd)
        pure (.list (List.zipWith Value.pair keys vs), whole && whole')
      | .map entries => do
        let (keys, _) ← inner (entries.map Prod.fst)
        let (vs, whole) ← inner (entries.map Prod.snd)
        let nodes := entries.map fun e => keyNode e.1
        pure (.map (keyedEntries ((nodes.zip keys).zip vs)), whole)
      | .set ids => do
        let (keys, whole) ← inner ids
        let entries := (ids.map keyNode).zip keys
        pure (.set ((keyedEntries (entries.map fun e => (e, .null))).map Prod.fst), whole)
    if whole then modify fun known => known.setIfInBounds id (some v)
    return (v, whole)

/-- The value of a node of a graph. Nodes inside of each other differ from each other below the
levels that are followed again, so the number of nodes bounds the rest. -/
def valueOf (g : Graph) (id : Nat) : Except Refusal Value := do
  let parts ← Construction.run g id
  let known : KnownValues := Array.replicate g.size none
  .ok ((unfold parts g.size (g.size + followedLevels + 1) [] id).run known).1.1

end Routewright.Document.Yaml
