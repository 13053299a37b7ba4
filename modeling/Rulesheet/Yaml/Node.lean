import Rulesheet.Yaml.Tag
import Rulesheet.Yaml.Token

/- The nodes of a YAML document. Every node has a number, and collections name their parts by it: an
   alias repeats a number, and a collection may be a part of itself. A text holds one document at
   most. -/
namespace Rulesheet.Yaml

inductive Shape where
  | scalar (text : String)
  | sequence (items : List Nat)
  | mapping (entries : List (Nat × Nat))
  deriving DecidableEq, Repr

structure Node where
  tag : Tag
  shape : Shape
  deriving DecidableEq, Repr

namespace Node

/-- A tag that says nothing leaves the kind to the form, even for quoted text. -/
def ofScalar (tag : Option String) (isPlain : Bool) (text : String) : Node :=
  match tag with
  | none => ⟨if isPlain then .ofForm text else .str, .scalar text⟩
  | some "!" => ⟨.ofForm text, .scalar text⟩
  | some uri => ⟨.ofUri uri, .scalar text⟩

def tagOr (tag : Option String) (default : Tag) : Tag :=
  match tag with
  | none | some "!" => default
  | some uri => .ofUri uri

end Node

/-- The tokens still to come, the nodes so far, the anchored ones, the handles of tags, and how many
    collections are open. -/
structure Reader where
  tokens : List Token
  nodes : Array Node := #[]
  anchors : List (String × Nat) := []
  handles : List (String × String) := []
  depth : Nat := 0

def defaultHandles : List (String × String) := [("!", "!"), ("!!", Tag.namespaceUri)]

namespace Reader

def peek (r : Reader) : Scan (Option Token) :=
  match r.tokens.head? with
  | some (.broken fault) => .error fault
  | t => .ok t

def rest (r : Reader) : Reader := { r with tokens := r.tokens.drop 1 }

def at_ (r : Reader) (ts : List Token) : Scan Bool := do
  match ← r.peek with
  | some t => .ok (ts.contains t)
  | none => .ok false

def insert (r : Reader) (n : Node) : Nat × Reader :=
  (r.nodes.size, { r with nodes := r.nodes.push n })

def emptyNode (r : Reader) : Nat × Reader := r.insert (.ofScalar none true "")

structure Properties where
  anchor : Option String := none
  tag : Option String := none

def Properties.isNone (p : Properties) : Bool := p.anchor.isNone && p.tag.isNone

def anchor? (r : Reader) : Scan (Option String × Reader) := do
  match ← r.peek with
  | some (.anchor a) => .ok (some a, r.rest)
  | _ => .ok (none, r)

def tag? (r : Reader) : Scan (Option (Option String × String) × Reader) := do
  match ← r.peek with
  | some (.tag h s) => .ok (some (h, s), r.rest)
  | _ => .ok (none, r)

def resolveTag (r : Reader) (tag : Option (Option String × String)) : Scan (Option String) :=
  match tag with
  | none => .ok none
  | some (none, suffix) => .ok (some suffix)
  | some (some h, suffix) => match r.handles.find? (·.1 = h) with
    | some (_, p) => .ok (some (p ++ suffix))
    | none => refused

def properties (r : Reader) : Scan (Properties × Reader) := do
  let (before, r) ← r.anchor?
  let (tag, r) ← r.tag?
  let (after, r) ← if before.isNone && tag.isSome then r.anchor? else .ok (none, r)
  .ok (⟨before <|> after, ← r.resolveTag tag⟩, r)

def bind (r : Reader) (p : Properties) (n : Node) : Scan (Nat × Reader) :=
  let (i, after) := r.insert n
  match p.anchor with
  | none => .ok (i, after)
  | some a =>
    if r.anchors.any (·.1 = a) then refused
    else .ok (i, { after with anchors := (a, i) :: r.anchors })

def setShape (r : Reader) (i : Nat) (shape : Shape) : Reader :=
  match r.nodes[i]? with
  | some n => { r with nodes := r.nodes.setIfInBounds i { n with shape := shape } }
  | none => r

def maxDepth : Nat := 490

def enter (r : Reader) : Scan Reader :=
  if maxDepth ≤ r.depth then .error (.value .deep) else .ok { r with depth := r.depth + 1 }

def leave (r : Reader) : Reader := { r with depth := r.depth - 1 }

def entriesEnd : List Token := [.key, .value, .blockEnd]

def aliased (r : Reader) (name : String) : Scan (Nat × Reader) :=
  match r.anchors.find? (·.1 = name) with
  | some (_, i) => .ok (i, r.rest)
  | none => refused

mutual

/-- `block` admits block collections, `indentless` a sequence without an indentation of its own. A
    collection has its number before its parts have theirs. -/
def node (block indentless : Bool) : Nat → Reader → Scan (Nat × Reader)
  | 0, _ => refused
  | fuel + 1, r => do
    match ← r.peek with
    | some (.alias name) => r.aliased name
    | _ =>
      let (p, r) ← r.properties
      let sequence := ({ tag := Node.tagOr p.tag .seq, shape := .sequence [] } : Node)
      let mapping := ({ tag := Node.tagOr p.tag .map, shape := .mapping [] } : Node)
      let withItems := fun (i : Nat) (read : Reader → Scan (List Nat × Reader)) (r : Reader) => do
        let (items, r) ← read (← r.enter)
        Except.ok (i, r.leave.setShape i (.sequence items))
      let withEntries := fun (i : Nat) (read : Reader → Scan (List (Nat × Nat) × Reader))
          (r : Reader) => do
        let (entries, r) ← read (← r.enter)
        Except.ok (i, r.leave.setShape i (.mapping entries))
      let absent := fun (_ : Unit) =>
        if p.isNone then refused else r.bind p (.ofScalar p.tag true "")
      match ← r.peek, block, indentless with
      | some .blockEntry, _, true => do
        let (i, r) ← r.bind p sequence
        withItems i (indentlessItems fuel []) r
      | some (.scalar isPlain text), _, _ => r.rest.bind p (.ofScalar p.tag isPlain text)
      | some .flowSequenceStart, _, _ => do
        let (i, r) ← r.rest.bind p sequence
        withItems i (flowItems fuel true []) r
      | some .flowMappingStart, _, _ => do
        let (i, r) ← r.rest.bind p mapping
        withEntries i (flowEntries fuel true []) r
      | some .blockSequenceStart, true, _ => do
        let (i, r) ← r.rest.bind p sequence
        withItems i (blockItems fuel []) r
      | some .blockMappingStart, true, _ => do
        let (i, r) ← r.rest.bind p mapping
        withEntries i (blockEntries fuel []) r
      | _, _, _ => absent ()

def nodeUnless (ends : List Token) (block indentless : Bool) : Nat → Reader → Scan (Nat × Reader)
  | 0, _ => refused
  | fuel + 1, r => do
    if ← r.at_ ends then .ok r.emptyNode else node block indentless fuel r

def valueUnless (ends : List Token) (block indentless : Bool) :
    Nat → Reader → Scan (Nat × Reader)
  | 0, _ => refused
  | fuel + 1, r => do
    if ← r.at_ [.value] then nodeUnless ends block indentless fuel r.rest else .ok r.emptyNode

def blockItems : Nat → List Nat → Reader → Scan (List Nat × Reader)
  | 0, _, _ => refused
  | fuel + 1, acc, r => do
    match ← r.peek with
    | some .blockEntry =>
      let (n, r) ← nodeUnless [.blockEntry, .blockEnd] true false fuel r.rest
      blockItems fuel (n :: acc) r
    | some .blockEnd => .ok (acc.reverse, r.rest)
    | _ => refused

def indentlessItems : Nat → List Nat → Reader → Scan (List Nat × Reader)
  | 0, _, _ => refused
  | fuel + 1, acc, r => do
    match ← r.peek with
    | some .blockEntry =>
      let (n, r) ← nodeUnless (.blockEntry :: entriesEnd) true false fuel r.rest
      indentlessItems fuel (n :: acc) r
    | _ => .ok (acc.reverse, r)

def blockEntries : Nat → List (Nat × Nat) → Reader → Scan (List (Nat × Nat) × Reader)
  | 0, _, _ => refused
  | fuel + 1, acc, r => do
    match ← r.peek with
    | some .key =>
      let (k, r) ← nodeUnless entriesEnd true true fuel r.rest
      let (v, r) ← valueUnless entriesEnd true true fuel r
      blockEntries fuel ((k, v) :: acc) r
    | some .blockEnd => .ok (acc.reverse, r.rest)
    | _ => refused

def flowItems : Nat → Bool → List Nat → Reader → Scan (List Nat × Reader)
  | 0, _, _, _ => refused
  | fuel + 1, first, acc, r => do
    if ← r.at_ [.flowSequenceEnd] then .ok (acc.reverse, r.rest)
    else
      let r ← if first then .ok r else if ← r.at_ [.flowEntry] then .ok r.rest else refused
      match ← r.peek with
      | some .key =>
        let ends : List Token := [.flowEntry, .flowSequenceEnd]
        let (i, r) := r.rest.insert ⟨.map, .mapping []⟩
        let (k, r) ← nodeUnless (.value :: ends) false false fuel r
        let (v, r) ← valueUnless ends false false fuel r
        flowItems fuel false (i :: acc) (r.setShape i (.mapping [(k, v)]))
      | some .flowSequenceEnd => .ok (acc.reverse, r.rest)
      | _ =>
        let (n, r) ← node false false fuel r
        flowItems fuel false (n :: acc) r

def flowEntries : Nat → Bool → List (Nat × Nat) → Reader → Scan (List (Nat × Nat) × Reader)
  | 0, _, _, _ => refused
  | fuel + 1, first, acc, r => do
    if ← r.at_ [.flowMappingEnd] then .ok (acc.reverse, r.rest)
    else
      let r ← if first then .ok r else if ← r.at_ [.flowEntry] then .ok r.rest else refused
      let ends : List Token := [.flowEntry, .flowMappingEnd]
      match ← r.peek with
      | some .key =>
        let (k, r) ← nodeUnless (.value :: ends) false false fuel r.rest
        let (v, r) ← valueUnless ends false false fuel r
        flowEntries fuel false ((k, v) :: acc) r
      | some .flowMappingEnd => .ok (acc.reverse, r.rest)
      | _ =>
        let (k, r) ← node false false fuel r
        let (v, r) := r.emptyNode
        flowEntries fuel false ((k, v) :: acc) r

end

/-- Directives at the head of a document: one version, the first number of which is 1, and one
    replacement a handle. -/
def directives : List Token → Bool → List (String × String) →
    Scan (List (String × String) × List Token)
  | .directive (.version major) :: rest, versioned, handles =>
    if versioned ∨ major ≠ 1 then refused else directives rest true handles
  | .directive (.tag handle uri) :: rest, versioned, handles =>
    if handles.any (·.1 = handle) then refused
    else directives rest versioned (handles ++ [(handle, uri)])
  | .directive .other :: rest, versioned, handles => directives rest versioned handles
  | rest, _, handles => .ok (handles, rest)

def content (fuel : Nat) (r : Reader) : Scan (Nat × Reader) := do
  match ← r.peek with
  | some (.directive _) | some .documentStart | some .documentEnd | none => .ok r.emptyNode
  | _ => node true false fuel r

/-- Behind the document there may be ends of documents. Anything else is refused, once the
    directives have been read. -/
def finish (r : Reader) : Scan Unit := do
  let tail := { r with tokens := r.tokens.dropWhile (· = Token.documentEnd) }
  match ← tail.peek with
  | none => .ok ()
  | _ =>
    let (_, rest) ← directives tail.tokens false []
    let _ ← { tail with tokens := rest }.peek
    refused

def withDefaults (handles : List (String × String)) : List (String × String) :=
  handles ++ defaultHandles.filter fun (h, _) => !handles.any (·.1 = h)

def document (tokens : List Token) : Scan (Option (Nat × Array Node)) := do
  let fuel := 4 * tokens.length + 4
  let start : Reader := { tokens := tokens, handles := defaultHandles }
  match ← start.peek with
  | none => .ok none
  | some (.directive _) | some .documentStart =>
    let (handles, rest) ← directives tokens false []
    let r : Reader := { tokens := rest, handles := withDefaults handles }
    match ← r.peek with
    | some .documentStart =>
      let (i, r) ← content fuel r.rest
      r.finish
      .ok (some (i, r.nodes))
    | _ => refused
  | _ =>
    let (i, r) ← node true false fuel start
    r.finish
    .ok (some (i, r.nodes))

end Reader

def Node.graph? (text : String) : Scan (Option (Nat × Array Node)) :=
  Reader.document (Token.scan text)

end Rulesheet.Yaml
