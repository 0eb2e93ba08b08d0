/-
  What stands under the keys of a TOML document.

  * `descend?` walks along the keys of a header, making the tables that are not there.
  * `assign?` puts a value under a dotted key: `assign?_eq_none_of_mem` says that no key is given
    twice.
-/
import TableService.Toml.Scalar

namespace TableService.Toml

/-- How a table came to be. -/
inductive Origin where
  /-- On the way of a header. -/
  | implied
  /-- By its own header. -/
  | header
  /-- On the way of a dotted key. -/
  | dotted
  deriving DecidableEq

/-- What stands under a key. -/
inductive Item where
  | scalar (s : Scalar)
  | list (items : List Item)
  /-- A table in braces, to which nothing is added. -/
  | inline (entries : List (String × Item))
  | table (origin : Origin) (entries : List (String × Item))
  /-- Tables with one header each. -/
  | tables (elements : List (List (String × Item)))
  deriving Inhabited

/-- Keys with what stands under them. -/
abbrev Entries := List (String × Item)

/-- One or more keys. -/
structure Path where
  first : String
  more : List String

namespace Entries

/-- Changes what stands under a key; a new key goes to the end. -/
def update? (key : String) (f : Option Item → Option Item) : Entries → Option Entries
  | [] => (f none).map fun i => [(key, i)]
  | (k, i) :: es =>
    if k = key then (f (some i)).map fun j => (k, j) :: es
    else (update? key f es).map ((k, i) :: ·)

/-- Changes the last of some tables. -/
def updateLast? (f : Entries → Option Entries) : List Entries → Option (List Entries)
  | [] => none
  | [es] => (f es).map fun es => [es]
  | e :: es => (updateLast? f es).map (e :: ·)

/-! ## Headers -/

/-- Walks along the keys of a header and changes what stands under the last one. -/
def descend? (f : Option Item → Option Item) : String → List String → Entries → Option Entries
  | key, [], es => update? key f es
  | key, next :: more, es =>
    es.update? key fun
      | none => (descend? f next more []).map (.table .implied)
      | some (.table origin inner) => (descend? f next more inner).map (.table origin)
      | some (.tables elements) => (updateLast? (descend? f next more) elements).map .tables
      | _ => none

/-- Opens the table of a header, which none may have opened before. -/
def openTable? (path : Path) : Entries → Option Entries :=
  descend? (fun
    | none => some (.table .header [])
    | some (.table .implied es) => some (.table .header es)
    | _ => none) path.first path.more

/-- Opens a further table of a header for several. -/
def openElement? (path : Path) : Entries → Option Entries :=
  descend? (fun
    | none => some (.tables [[]])
    | some (.tables elements) => some (.tables (elements ++ [[]]))
    | _ => none) path.first path.more

/-! ## Keys -/

/-- Puts a value under a dotted key.  Tables on its way must not have headers, and the last one
must come from dotted keys. -/
def assign? (value : Item) : String → List String → Entries → Option Entries
  | key, [], es => es.update? key fun
    | none => some value
    | some _ => none
  | key, next :: more, es =>
    es.update? key fun
      | none => (assign? value next more []).map (.table .dotted)
      | some (.table origin inner) =>
        if origin = .header ∨ (more = [] ∧ origin ≠ .dotted) then none
        else (assign? value next more inner).map (.table origin)
      | some (.tables elements) =>
        if more = [] then none
        else (updateLast? (assign? value next more) elements).map .tables
      | _ => none

/-- Puts a value under a dotted key in the table of a header, or the last of its tables. -/
def assignIn? (header : List String) (key : Path) (value : Item) (es : Entries) : Option Entries :=
  match header with
  | [] => assign? value key.first key.more es
  | h :: more =>
    es.update? h fun
      | some (.table origin inner) => (assignIn? more key value inner).map (.table origin)
      | some (.tables elements) => (updateLast? (assignIn? more key value) elements).map .tables
      | _ => none

theorem update?_eq_none_of_mem {key : String} {f : Option Item → Option Item} {es : Entries}
    (hf : ∀ i, f (some i) = none) (h : key ∈ es.map Prod.fst) : update? key f es = none := by
  induction es with
  | nil => simp at h
  | cons e es ih =>
    obtain ⟨k, i⟩ := e
    by_cases hk : k = key
    · simp [update?, hk, hf]
    · have : key ∈ es.map Prod.fst := by
        rcases List.mem_cons.1 h with rfl | h
        · exact absurd rfl hk
        · exact h
      simp [update?, hk, ih this]

theorem assign?_eq_none_of_mem {key : String} {es : Entries} (value : Item)
    (h : key ∈ es.map Prod.fst) : assign? value key [] es = none :=
  update?_eq_none_of_mem (fun _ => rfl) h

end Entries

end TableService.Toml
