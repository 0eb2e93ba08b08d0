/-
  The rows of a table, by ascending key.

  * That no key is used twice is part of the type.
  * `Entries.put` adds a row in place of one with the same key, `Entries.erase` removes one;
    `get?_put` and `get?_erase` say what is found afterwards.
-/
import TableService.Store.Cell

namespace TableService.Store

/-- A row: its key and its other cells, in the order of the columns. -/
structure Entry where
  id : Int64
  cells : List Cell
  deriving DecidableEq, Inhabited

/-- Rows by ascending key. -/
structure Entries where
  list : List Entry
  ascending : list.Pairwise fun a b => a.id < b.id

namespace Entries

/-- No rows. -/
def empty : Entries := ⟨[], .nil⟩

instance : Inhabited Entries := ⟨empty⟩

/-- Puts a row into an ascending list. -/
def putEntry (e : Entry) : List Entry → List Entry
  | [] => [e]
  | x :: rest =>
    if e.id < x.id then e :: x :: rest
    else if e.id = x.id then e :: rest
    else x :: putEntry e rest

theorem mem_putEntry {e x : Entry} {l : List Entry} (h : x ∈ putEntry e l) : x = e ∨ x ∈ l := by
  induction l with
  | nil => simpa [putEntry] using h
  | cons y rest ih =>
    simp only [putEntry] at h
    split at h
    · simpa using h
    · split at h
      · rcases List.mem_cons.1 h with h | h
        · exact .inl h
        · exact .inr (List.mem_cons_of_mem _ h)
      · rcases List.mem_cons.1 h with h | h
        · exact .inr (h ▸ List.mem_cons_self)
        · exact (ih h).imp_right (List.mem_cons_of_mem _)

theorem ascending_putEntry {e : Entry} {l : List Entry} (h : l.Pairwise fun a b => a.id < b.id) :
    (putEntry e l).Pairwise fun a b => a.id < b.id := by
  induction l with
  | nil => simp [putEntry]
  | cons y rest ih =>
    obtain ⟨first, others⟩ := List.pairwise_cons.1 h
    simp only [putEntry]
    split
    · rename_i lt
      refine List.pairwise_cons.2 ⟨fun x hx => ?_, h⟩
      rcases List.mem_cons.1 hx with rfl | hx
      · exact lt
      · exact Int64.lt_trans lt (first x hx)
    · split
      · rename_i eq
        exact List.pairwise_cons.2 ⟨fun x hx => eq ▸ first x hx, others⟩
      · rename_i nlt ne
        refine List.pairwise_cons.2 ⟨fun x hx => ?_, ih others⟩
        rcases mem_putEntry hx with rfl | hx
        · exact Int64.lt_of_le_of_ne (Int64.not_lt.1 nlt) (Ne.symm ne)
        · exact first x hx

/-- Adds a row, in place of one with the same key. -/
def put (s : Entries) (e : Entry) : Entries := ⟨putEntry e s.list, ascending_putEntry s.ascending⟩

/-- Removes the row with a key. -/
def erase (s : Entries) (id : Int64) : Entries :=
  ⟨s.list.filter (·.id ≠ id), s.ascending.filter _⟩

/-- The row with a key. -/
def get? (s : Entries) (id : Int64) : Option Entry := s.list.find? (·.id == id)

/-- The greatest key. -/
def last? (s : Entries) : Option Int64 := s.list.getLast?.map Entry.id

theorem get?_put (s : Entries) (e : Entry) (id : Int64) :
    (s.put e).get? id = if e.id = id then some e else s.get? id := by
  obtain ⟨l, asc⟩ := s
  simp only [put, get?]
  induction l with
  | nil => by_cases h : e.id = id <;> simp [putEntry, h]
  | cons y rest ih =>
    obtain ⟨first, others⟩ := List.pairwise_cons.1 asc
    simp only [putEntry]
    split
    · by_cases h : e.id = id <;> simp [h]
    · split
      · rename_i eq
        by_cases h : e.id = id
        · simp [h]
        · simp [h, ← eq]
      · rename_i nlt ne
        by_cases h : y.id = id
        · have : e.id ≠ id := fun h' => ne (h'.trans h.symm)
          simp [h, this]
        · simp [h, ih others]

theorem get?_erase (s : Entries) (gone id : Int64) :
    (s.erase gone).get? id = if gone = id then none else s.get? id := by
  simp only [erase, get?]
  induction s.list with
  | nil => simp
  | cons y rest ih =>
    by_cases h : y.id = gone
    · by_cases h' : gone = id
      · simp_all
      · have : y.id ≠ id := fun e => h' (h.symm.trans e)
        simp_all
    · by_cases h' : y.id = id
      · have : gone ≠ id := fun e => h (h'.trans e.symm)
        simp_all
      · simp_all

end Entries

end TableService.Store
