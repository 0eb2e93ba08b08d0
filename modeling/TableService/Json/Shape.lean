/-
  Shapes: what a JSON text must look like to be read as a value of some type.

  A shape reads the tree of a text in the order of the text, so of several faults the first one
  counts.  A list or object may be nested at most `maxDepth` levels deep where it is wanted;
  what is passed over may be nested at will.

  * `Shape.json`, `Shape.string`, `Shape.bool`, `Shape.whole` are the shapes of values.
  * `Shape.list`, `Shape.optional`, `Shape.keyword` and `Shape.record` build shapes.
  * A record is an object with known names, each at most once, among unknown ones that are passed
    over; or the list of all its values in the order of the names.
  * `Reading.decode` reads a whole text by a shape.
-/
import TableService.Json.Source

namespace TableService

/-- The nesting that is allowed for wanted values. -/
def maxDepth : Nat := 127

/-- Reads a tree, given how many further levels may be entered. -/
abbrev Shape (α : Type) := Nat → Source → Except Fault α

namespace Shape

/-- Fails at what stops a list or object. -/
def orStop (stop : Option Fault) : Except Fault Unit :=
  match stop with
  | some f => .error f
  | none => .ok ()

/-- The fault of a value of the wrong shape: a scalar is read before it is refused. -/
def mismatch {α : Type} : Source → Except Fault α
  | .number n => n.wanted.bind fun _ => .error .shape
  | .string s => s.wanted.bind fun _ => .error .shape
  | .broken f => .error f
  | _ => .error .shape

/-- Enters a list or object. -/
def enter {α : Type} (depth : Nat) (inside : Nat → Except Fault α) : Except Fault α :=
  match depth with
  | 0 => .error .malformed
  | d + 1 => inside d

mutual

/-- Any value. -/
def json (depth : Nat) : Source → Except Fault Json
  | .null => .ok .null
  | .bool b => .ok (.bool b)
  | .number n => n.wanted.map .number
  | .string s => s.wanted.map .string
  | .broken f => .error f
  | .array items stop =>
    match depth with
    | 0 => .error .malformed
    | d + 1 => do
      let vs ← jsonItems d items
      orStop stop
      return .array vs
  | .object members stop =>
    match depth with
    | 0 => .error .malformed
    | d + 1 => do
      let ms ← jsonMembers d members
      orStop stop
      return Json.ofMembers ms

/-- The items of a list of any values. -/
def jsonItems (depth : Nat) : List Source → Except Fault (List Json)
  | [] => .ok []
  | v :: vs => do
    let j ← json depth v
    return j :: (← jsonItems depth vs)

/-- The members of an object of any values, in the order of the text. -/
def jsonMembers (depth : Nat) : List (Scalar String × Source) →
    Except Fault (List (String × Json))
  | [] => .ok []
  | (name, v) :: ms => do
    let n ← name.wanted
    let j ← json depth v
    return (n, j) :: (← jsonMembers depth ms)

end

/-- A string. -/
def string : Shape String
  | _, .string s => s.wanted
  | _, v => mismatch v

/-- A truth value. -/
def bool : Shape Bool
  | _, .bool b => .ok b
  | _, v => mismatch v

/-- An integer literal from 0 up to below `bound`. -/
def whole (bound : Nat) : Shape Nat
  | _, .number n => do
    match ← n.wanted with
    | .int i _ _ => if 0 ≤ i ∧ i < bound then return i.toNat else .error .shape
    | .double .. => .error .shape
  | _, v => mismatch v

/-- `null`, or a value of the shape. -/
def optional {α : Type} (shape : Shape α) : Shape (Option α)
  | _, .null => .ok none
  | d, v => (shape d v).map some

/-- A list of values of the shape. -/
def list {α : Type} (shape : Shape α) : Shape (List α)
  | depth, .array items stop =>
    enter depth fun d => do
      let vs ← items.mapM (shape d)
      orStop stop
      return vs
  | _, v => mismatch v

/-- An object whose values have the shape, in the order of the text. -/
def object {α : Type} (shape : Shape α) : Shape (List (String × α))
  | depth, .object members stop =>
    enter depth fun d => do
      let ms ← members.mapM fun (name, v) => do
        let n ← name.wanted
        return (n, ← shape d v)
      orStop stop
      return ms
  | _, v => mismatch v

/-- An object as a row; the last value of a repeated name is kept. -/
def row : Shape Row := fun depth v => (object json depth v).map Record.ofList

/-- One of the keywords, as a string or as the only name of an object whose value is `null`. -/
def keyword {α : Type} (keywords : List (String × α)) : Shape α
  | _, .string s => do
    match keywords.lookup (← s.wanted) with
    | some a => return a
    | none => .error .shape
  | depth, .object members stop =>
    enter depth fun _ => do
      match members with
      | [] =>
        orStop stop
        .error .malformed
      | (name, v) :: others =>
        match keywords.lookup (← name.wanted) with
        | none => .error .shape
        | some a =>
          match v with
          | .null =>
            if others.isEmpty then
              orStop stop
              return a
            else .error .malformed
          | v => mismatch v
  | _, .broken f => .error f
  | _, _ => .error .malformed

/-- A known name of a record of type `σ`: how its value is stored. -/
structure Slot (σ : Type) where
  name : String
  store : Nat → Source → σ → Except Fault σ

/-- A slot for values of a shape. -/
def Slot.of {σ α : Type} (name : String) (shape : Shape α) (set : α → σ → σ) : Slot σ :=
  ⟨name, fun d v s => (shape d v).map fun a => set a s⟩

/-- Stores the members of an object; `seen` are the known names met before. -/
def storeMembers {σ : Type} (slots : List (Slot σ)) (depth : Nat) (seen : List String) (s : σ) :
    List (Scalar String × Source) → Except Fault σ
  | [] => .ok s
  | (name, v) :: ms => do
    let n ← name.wanted
    match slots.find? fun slot => slot.name == n with
    | some slot =>
      if seen.contains n then .error .shape
      else storeMembers slots depth (n :: seen) (← slot.store depth v s) ms
    | none =>
      match v.fault? with
      | some f => .error f
      | none => storeMembers slots depth seen s ms

/-- Stores the items of a list, one for each slot. -/
def storeItems {σ : Type} (stop : Option Fault) (depth : Nat) (s : σ) :
    List (Slot σ) → List Source → Except Fault σ
  | [], [] => do
    orStop stop
    return s
  | [], _ :: _ => .error .malformed
  | _ :: _, [] => do
    orStop stop
    .error .shape
  | slot :: slots, v :: vs => do
    storeItems stop depth (← slot.store depth v s) slots vs

/-- A record with the slots, starting from `start`; `finish` checks that nothing is missing. -/
def record {σ α : Type} (slots : List (Slot σ)) (start : σ) (finish : σ → Option α) : Shape α
  | depth, .object members stop =>
    enter depth fun d => do
      let s ← storeMembers slots d [] start members
      orStop stop
      match finish s with
      | some a => return a
      | none => .error .shape
  | depth, .array items stop =>
    enter depth fun d => do
      let s ← storeItems stop d start slots items
      match finish s with
      | some a => return a
      | none => .error .shape
  | _, v => mismatch v

/-- One string or a list of strings.  The value is read as a whole before it is judged. -/
def stringOrList : Shape (List String) := fun depth v => do
  match ← json depth v with
  | .string s => return [s]
  | .array items =>
    items.mapM fun
      | .string s => .ok s
      | _ => .error .shape
  | _ => .error .shape

end Shape

/-- Reads a whole text by a shape. -/
def Source.Reading.decode {α : Type} (r : Source.Reading) (shape : Shape α) : Except Fault α := do
  let a ← shape maxDepth r.source
  Shape.orStop r.rest
  return a

/-- Reads a text by a shape. -/
def Shape.read {α : Type} (shape : Shape α) (text : String) : Except Fault α :=
  (Source.ofText text).decode shape

/-- Reads a JSON text. -/
def Json.parse (text : String) : Except Fault Json := Shape.read Shape.json text

end TableService
