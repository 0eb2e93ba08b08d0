/-
  Records: finite maps from names to values, with the names in ascending order.

  * The order is that of the code points of the names, which is also that of their UTF-8 bytes.
  * `Record.insert` puts a value under a name; of several values for one name the last is kept,
    so `Record.ofList` of a list with repeated names takes the last value of each.
-/

namespace TableService

universe u

/-- Names with a value each, ascending. -/
structure Record (α : Type u) where
  entries : List (String × α)
  ascending : entries.Pairwise fun a b => a.1 < b.1

namespace Record

variable {α : Type u}

/-- The record without names. -/
def empty : Record α := ⟨[], .nil⟩

instance : Inhabited (Record α) := ⟨empty⟩

/-- Puts a value into an ascending list, in place of a value of the same name. -/
def insertEntry (name : String) (value : α) : List (String × α) → List (String × α)
  | [] => [(name, value)]
  | (n, v) :: rest =>
    if name < n then (name, value) :: (n, v) :: rest
    else if name = n then (name, value) :: rest
    else (n, v) :: insertEntry name value rest

theorem mem_insertEntry {name : String} {value : α} {e : String × α} {l : List (String × α)}
    (h : e ∈ insertEntry name value l) : e = (name, value) ∨ e ∈ l := by
  induction l with
  | nil => simpa [insertEntry] using h
  | cons x rest ih =>
    obtain ⟨n, v⟩ := x
    simp only [insertEntry] at h
    split at h
    · simpa using h
    · split at h
      · rcases List.mem_cons.1 h with h | h
        · exact .inl h
        · exact .inr (List.mem_cons_of_mem _ h)
      · rcases List.mem_cons.1 h with h | h
        · exact .inr (h ▸ List.mem_cons_self)
        · exact (ih h).imp_right (List.mem_cons_of_mem _)

theorem ascending_insertEntry {name : String} {value : α} {l : List (String × α)}
    (h : l.Pairwise fun a b => a.1 < b.1) :
    (insertEntry name value l).Pairwise fun a b => a.1 < b.1 := by
  induction l with
  | nil => simp [insertEntry]
  | cons x rest ih =>
    obtain ⟨n, v⟩ := x
    obtain ⟨first, others⟩ := List.pairwise_cons.1 h
    simp only [insertEntry]
    split
    · rename_i lt
      refine List.pairwise_cons.2 ⟨fun e he => ?_, h⟩
      rcases List.mem_cons.1 he with rfl | he
      · exact lt
      · exact String.lt_trans lt (first e he)
    · split
      · rename_i eq
        exact List.pairwise_cons.2 ⟨fun e he => eq ▸ first e he, others⟩
      · rename_i nlt ne
        refine List.pairwise_cons.2 ⟨fun e he => ?_, ih others⟩
        rcases mem_insertEntry he with rfl | he
        · exact Std.lt_of_le_of_ne (String.not_lt.1 nlt) (Ne.symm ne)
        · exact first e he

/-- Puts a value under a name. -/
def insert (r : Record α) (name : String) (value : α) : Record α :=
  ⟨insertEntry name value r.entries, ascending_insertEntry r.ascending⟩

/-- The record of a list of named values, the last value of a name winning. -/
def ofList (l : List (String × α)) : Record α :=
  l.foldl (fun r e => r.insert e.1 e.2) empty

/-- The value under a name. -/
def get? (r : Record α) (name : String) : Option α := r.entries.lookup name

/-- The names, ascending. -/
def names (r : Record α) : List String := r.entries.map Prod.fst

/-- No names. -/
def isEmpty (r : Record α) : Bool := r.entries.isEmpty

theorem lookup_entry (m n : String) (v : α) (rest : List (String × α)) :
    ((m, v) :: rest).lookup n = if n = m then some v else rest.lookup n := by
  rw [List.lookup_cons]
  by_cases h : n = m
  · rw [if_pos h, beq_iff_eq.2 h]
  · rw [if_neg h, beq_false_of_ne h]

theorem lookup_insertEntry {name n : String} {value : α} {l : List (String × α)} :
    (insertEntry name value l).lookup n = if n = name then some value else l.lookup n := by
  induction l with
  | nil => exact lookup_entry name n value []
  | cons x rest ih =>
    obtain ⟨m, v⟩ := x
    simp only [insertEntry]
    split
    · exact lookup_entry name n value _
    · split
      · rename_i eq
        subst eq
        simp only [lookup_entry]
        split <;> rfl
      · rename_i ne
        simp only [lookup_entry, ih]
        by_cases h : n = m
        · rw [if_pos h, if_pos h, if_neg fun hn => ne (hn.symm.trans h)]
        · rw [if_neg h, if_neg h]

theorem mem_names_of_get? {r : Record α} {name : String} {value : α}
    (h : r.get? name = some value) : name ∈ r.names := by
  have hsome : (r.entries.lookup name).isSome = true := by
    rw [← get?, h]
    rfl
  obtain ⟨e, he, hname⟩ := List.lookup_isSome_iff.1 hsome
  exact List.mem_map.2 ⟨e, he, (beq_iff_eq.1 hname).symm⟩

/-- The value under a name is the one that was put there last. -/
theorem get?_insert {r : Record α} {name n : String} {value : α} :
    (r.insert name value).get? n = if n = name then some value else r.get? n :=
  lookup_insertEntry

theorem mem_names_insertEntry {name n : String} {value : α} {l : List (String × α)} :
    n ∈ (insertEntry name value l).map Prod.fst ↔ n = name ∨ n ∈ l.map Prod.fst := by
  induction l with
  | nil => simp [insertEntry]
  | cons x rest ih =>
    obtain ⟨m, v⟩ := x
    simp only [insertEntry]
    split
    · simp
    · split
      · rename_i eq
        simp [eq]
      · simp only [List.map_cons, List.mem_cons, ih]
        exact or_left_comm

theorem mem_names_insert {r : Record α} {name n : String} {value : α} :
    n ∈ (r.insert name value).names ↔ n = name ∨ n ∈ r.names :=
  mem_names_insertEntry

theorem mem_names_foldl_insert {n : String} : ∀ {l : List (String × α)} {r : Record α},
    n ∈ (l.foldl (fun r e => r.insert e.1 e.2) r).names ↔ n ∈ r.names ∨ n ∈ l.map Prod.fst
  | [], r => by simp
  | e :: l, r => by
    rw [List.foldl_cons, mem_names_foldl_insert, mem_names_insert, List.map_cons, List.mem_cons,
      ← or_assoc]
    exact or_congr_left or_comm

/-- The names of a record made of a list are those of the list. -/
theorem mem_names_ofList {l : List (String × α)} {n : String} :
    n ∈ (ofList l).names ↔ n ∈ l.map Prod.fst := by
  rw [ofList, mem_names_foldl_insert]
  simp [empty, names]

end Record

end TableService
