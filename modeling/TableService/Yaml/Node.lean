/-
  The nodes of a YAML document.

  * `Node.parse?` reads a text that holds exactly one document.  An alias stands for the node of
    its anchor; an anchor may be given again and then stands for the later node.
  * The tree grows token by token, with the open collections as frames.  A node may be left out
    where a mark or an end shows that none comes; it is then an empty plain scalar.
-/
import TableService.Yaml.Token

namespace TableService.Yaml

/-- A node with its tag, if it has one. -/
inductive Node where
  | scalar (text : String) (plain : Bool) (tag : Option String)
  | sequence (items : List Node) (tag : Option String)
  | mapping (entries : List (Node × Node)) (tag : Option String)
  deriving Inhabited

namespace Node

/-- The node that is left out. -/
def absent : Node := .scalar "" true none

/-- The anchor and the tag of a node. -/
structure Properties where
  anchor : Option String
  tag : Option String

/-- No properties. -/
def Properties.none : Properties := ⟨.none, .none⟩

/-- There is a property. -/
def Properties.any (p : Properties) : Bool := p.anchor.isSome || p.tag.isSome

/-- The kinds of open collections. -/
inductive Kind where
  | blockItems
  /-- A sequence indented no further than the keys around it. -/
  | looseItems
  | blockEntries
  | flowItems
  | flowEntries
  /-- An item of a flow sequence that is a mapping of one entry. -/
  | flowPair
  deriving DecidableEq

/-- What is due in a collection. -/
inductive Due where
  /-- A mark or the end. -/
  | mark
  /-- In a flow collection, an element or the end. -/
  | elementOrEnd
  /-- An item, or a key after its mark. -/
  | element
  /-- The mark of the value of a key. -/
  | colon (key : Node)
  | value (key : Node)

/-- An open collection, its elements in reverse; an item is the value of an absent key. -/
structure Frame where
  kind : Kind
  properties : Properties
  elements : List (Node × Node)
  due : Due

/-- The state of a tree under construction. -/
structure Growth where
  frames : List Frame
  /-- The properties read for the node that is due. -/
  pending : Properties
  anchors : List (String × Node)
  done : Option Node

namespace Growth

/-- No collection is open. -/
def start : Growth := ⟨[], .none, [], none⟩

/-- Adds an element to a frame. -/
def Frame.add (f : Frame) (key value : Node) : Frame :=
  { f with elements := (key, value) :: f.elements, due := .mark }

/-- The collection of a frame. -/
def Frame.close (f : Frame) : Node :=
  match f.kind with
  | .blockItems | .looseItems | .flowItems =>
    .sequence (f.elements.reverse.map Prod.snd) f.properties.tag
  | .blockEntries | .flowEntries | .flowPair => .mapping f.elements.reverse f.properties.tag

/-- Puts a node where it is due: the remaining frames, or the finished node.  The entry of a flow
sequence ends with its value. -/
def place (n : Node) : List Frame → List Frame × Option Node
  | [] => ([], some n)
  | f :: outer =>
    match f.kind, f.due with
    | .blockEntries, .value k | .flowEntries, .value k => (Frame.add f k n :: outer, none)
    | .flowPair, .value k => place (Frame.close (Frame.add f k n)) outer
    | .blockEntries, _ | .flowPair, _ | .flowEntries, .element =>
      ({ f with due := .colon n } :: outer, none)
    | .flowEntries, _ => (Frame.add f n absent :: outer, none)
    | .blockItems, _ | .looseItems, _ | .flowItems, _ => (Frame.add f absent n :: outer, none)

/-- Keeps a node under its anchor and puts it where it is due. -/
def give (g : Growth) (anchor : Option String) (n : Node) : Growth :=
  let (frames, done) := place n g.frames
  { frames, done, pending := .none
    anchors := match anchor with
      | some a => (a, n) :: g.anchors
      | none => g.anchors }

/-- Opens a collection with the properties read for it. -/
def openFrame (g : Growth) (kind : Kind) (due : Due) : Growth :=
  { g with frames := ⟨kind, g.pending, [], due⟩ :: g.frames, pending := .none }

/-- Changes what is due in the innermost collection. -/
def turn (g : Growth) (f : Frame) (outer : List Frame) (due : Due) : Growth :=
  { g with frames := { f with due := due } :: outer }

/-- Closes the innermost collection. -/
def shut (g : Growth) (f : Frame) (outer : List Frame) : Growth :=
  { g with frames := outer }.give f.properties.anchor (Frame.close f)

/-- Going on at a token: it is used up, or looked at again after something was left out. -/
inductive Move where
  | taken (g : Growth)
  | again (g : Growth)

/-- The handles that need no directive. -/
def defaultHandles : List (String × String) := [("!", "!"), ("!!", "tag:yaml.org,2002:")]

/-- The full tag of a handle and a suffix. -/
def fullTag (handles : List (String × String)) (handle suffix : String) : Option String :=
  if handle.isEmpty then some suffix
  else ((handles ++ defaultHandles).lookup handle).map (· ++ suffix)

/-- The scalar of a token; a lone exclamation mark makes it a plain one. -/
def scalarNode (p : Properties) (text : String) (plain : Bool) : Node :=
  if p.tag = some "!" then .scalar text true none else .scalar text plain p.tag

/-- Goes on at a node; `block` and `loose` say whether a block collection or a sequence without
indentation may begin.  None if the token begins no node. -/
def node (handles : List (String × String)) (g : Growth) (block loose : Bool) (t : Token) :
    Option Growth :=
  match t with
  | .scalar text plain => some (g.give g.pending.anchor (scalarNode g.pending text plain))
  | .alias name => do
    if g.pending.any then none
    let n ← g.anchors.lookup name
    return g.give none n
  | .anchor name =>
    if g.pending.anchor.isSome then none
    else some { g with pending := { g.pending with anchor := some name } }
  | .tag handle suffix => do
    if g.pending.tag.isSome then none
    let tag ← fullTag handles handle suffix
    return { g with pending := { g.pending with tag := some tag } }
  | .flowSequence => some (g.openFrame .flowItems .elementOrEnd)
  | .flowMapping => some (g.openFrame .flowEntries .elementOrEnd)
  | .blockSequence => if block then some (g.openFrame .blockItems .mark) else none
  | .blockMapping => if block then some (g.openFrame .blockEntries .mark) else none
  | .blockEntry => if loose then some (g.openFrame .looseItems .element) else none
  | _ => none

/-- A node may be left out before the token. -/
def mayOmit (kind : Kind) (due : Due) (t : Token) : Bool :=
  match kind, due, t with
  | .blockItems, _, .blockEntry | .blockItems, _, .blockEnd => true
  | .looseItems, _, .blockEntry | .looseItems, _, .key | .looseItems, _, .value
  | .looseItems, _, .blockEnd => true
  | .blockEntries, _, .key | .blockEntries, _, .value | .blockEntries, _, .blockEnd => true
  | .flowEntries, .element, .value => true
  | .flowEntries, .element, .flowEntry | .flowEntries, .value _, .flowEntry => true
  | .flowEntries, .element, .flowMappingEnd | .flowEntries, .value _, .flowMappingEnd => true
  | .flowPair, .element, .value => true
  | .flowPair, _, .flowEntry | .flowPair, _, .flowSequenceEnd => true
  | _, _, _ => false

/-- Goes on where a node is due. -/
def atNode (handles : List (String × String)) (g : Growth) (kind : Kind) (due : Due) (t : Token) :
    Option Move :=
  let block := match kind with
    | .blockItems | .looseItems | .blockEntries => true
    | .flowItems | .flowEntries | .flowPair => false
  match node handles g block (kind == .blockEntries) t with
  | some h => some (.taken h)
  | none =>
    -- properties without a node stand for an empty one
    if g.pending.any then
      some (.again (g.give g.pending.anchor (scalarNode g.pending "" true)))
    else if mayOmit kind due t then some (.again (g.give none absent))
    else none

/-- Goes on at a token. -/
def move (handles : List (String × String)) (g : Growth) (t : Token) : Option Move :=
  match g.frames with
  | [] =>
    if g.done.isSome then none
    else match node handles g true false t with
      | some h => some (.taken h)
      | none =>
        if g.pending.any then
          some (.again (g.give g.pending.anchor (scalarNode g.pending "" true)))
        else none
  | f :: outer =>
    match f.kind, f.due, t with
    | .blockItems, .mark, .blockEntry => some (.taken (g.turn f outer .element))
    | .blockItems, .mark, .blockEnd => some (.taken (g.shut f outer))
    | .looseItems, .mark, .blockEntry => some (.taken (g.turn f outer .element))
    | .looseItems, .mark, _ => some (.again (g.shut f outer))
    | .blockEntries, .mark, .key => some (.taken (g.turn f outer .element))
    | .blockEntries, .mark, .blockEnd => some (.taken (g.shut f outer))
    | .flowItems, .mark, .flowEntry | .flowEntries, .mark, .flowEntry =>
      some (.taken (g.turn f outer .elementOrEnd))
    | .flowItems, .mark, .flowSequenceEnd => some (.taken (g.shut f outer))
    | .flowEntries, .mark, .flowMappingEnd => some (.taken (g.shut f outer))
    | _, .mark, _ => none
    | _, .colon k, .value => some (.taken (g.turn f outer (.value k)))
    | .flowPair, .colon k, _ =>
      some (.again (g.shut (Frame.add f k absent) outer))
    | _, .colon k, _ => some (.again { g with frames := Frame.add f k absent :: outer })
    | kind, .elementOrEnd, t =>
      if g.pending.any then atNode handles g kind .elementOrEnd t
      else match kind, t with
        | .flowItems, .flowSequenceEnd | .flowEntries, .flowMappingEnd =>
          some (.taken (g.shut f outer))
        | .flowItems, .key => some (.taken (g.openFrame .flowPair .element))
        | .flowEntries, .key => some (.taken (g.turn f outer .element))
        | kind, t => atNode handles g kind .elementOrEnd t
    | kind, due, t => atNode handles g kind due t

/-- How much may still be left out before a token is used. -/
def slack (g : Growth) : Nat :=
  4 * g.frames.length + match g.frames with
    | f :: _ =>
      match f.due with
      | .mark => 0
      | .colon _ => 1
      | .value _ => 2
      | .element | .elementOrEnd => 3
    | [] => if g.done.isSome then 0 else 1

/-- Goes on until a token is used. -/
def feed (handles : List (String × String)) (g : Growth) (t : Token) : Option Growth :=
  match move handles g t with
  | some (.taken h) => some h
  | some (.again h) => if h.slack < g.slack then feed handles h t else none
  | none => none
termination_by g.slack

/-- The node of the tokens of a document. -/
def run (handles : List (String × String)) (g : Growth) : List Token → Option Node
  | [] =>
    match g.done with
    | some n => some n
    | none =>
      if g.frames.isEmpty && g.pending.any then some (scalarNode g.pending "" true) else none
  | t :: ts => do run handles (← feed handles g t) ts

end Growth

/-- The directives in front of a document: the tag handles, and the tokens after them. -/
def directives (version : Bool) (handles : List (String × String)) :
    List Token → Option (List (String × String) × List Token)
  | .yamlDirective major minor :: ts =>
    if version || major ≠ 1 || (minor ≠ 1 && minor ≠ 2) then none else directives true handles ts
  | .tagDirective handle uri :: ts =>
    if (handles.lookup handle).isSome then none
    else directives version ((handle, uri) :: handles) ts
  | ts => some (handles, ts)

/-- The node of the only document of a text. -/
def parse? (text : String) : Option Node := do
  let ts ← tokens? text
  let (handles, body) ← directives false [] ts
  let directed := match ts with
    | .yamlDirective .. :: _ | .tagDirective .. :: _ => true
    | _ => false
  let (started, body) := match body with
    | .documentStart :: rest => (true, rest)
    | body => (false, body)
  if directed && !started then none
  let content := body.takeWhile (· ≠ .documentEnd)
  if (body.dropWhile (· ≠ .documentEnd)).any (· ≠ .documentEnd) then none
  if content.isEmpty then (if started then some absent else none)
  else Growth.run handles .start content

end Node

end TableService.Yaml
