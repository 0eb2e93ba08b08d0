/-
  Values under distinct names, in the order in which the names were first mentioned.

  * That the names are distinct is part of the type.
  * `Named.change` replaces the value of a name in place, or puts a new name at the end;
    `names_change` says what this does to the names.
  * `Named.ofList` keeps a list under distinct names as it is (`entries_ofList`), and no
    values but those of the list (`forall_ofList`).
-/

namespace TableService

universe u

/-- Values under distinct names. -/
structure Named (α : Type u) where
  entries : List (String × α)
  distinct : (entries.map Prod.fst).Nodup

namespace Named

variable {α : Type u}

/-- No names. -/
def empty : Named α := ⟨[], .nil⟩

instance : Inhabited (Named α) := ⟨empty⟩

/-- Changes the first value of a name, or adds the name at the end. -/
def changeEntries (name : String) (f : Option α → α) : List (String × α) → List (String × α)
  | [] => [(name, f none)]
  | (n, a) :: rest =>
    if n = name then (n, f (some a)) :: rest else (n, a) :: changeEntries name f rest

theorem names_changeEntries (name : String) (f : Option α → α) (l : List (String × α)) :
    (changeEntries name f l).map Prod.fst =
      if name ∈ l.map Prod.fst then l.map Prod.fst else l.map Prod.fst ++ [name] := by
  induction l with
  | nil => simp [changeEntries]
  | cons x rest ih =>
    obtain ⟨n, a⟩ := x
    by_cases h : n = name
    · simp [changeEntries, h]
    · have h' : name ≠ n := Ne.symm h
      simp only [changeEntries, h, if_false, List.map_cons, ih, List.mem_cons, h', false_or]
      split <;> simp_all

theorem distinct_changeEntries {name : String} {f : Option α → α} {l : List (String × α)}
    (h : (l.map Prod.fst).Nodup) : ((changeEntries name f l).map Prod.fst).Nodup := by
  rw [names_changeEntries]
  split
  · exact h
  · rename_i new
    refine List.nodup_append.2 ⟨h, by simp, fun a ha b hb => ?_⟩
    obtain rfl := List.mem_singleton.1 hb
    rintro rfl
    exact new ha

/-- Replaces the value of a name by the result of `f`, which is given the value that the name has;
a new name goes to the end. -/
def change (l : Named α) (name : String) (f : Option α → α) : Named α :=
  ⟨changeEntries name f l.entries, distinct_changeEntries l.distinct⟩

/-- Puts a value under a name. -/
def put (l : Named α) (name : String) (value : α) : Named α := l.change name fun _ => value

/-- Puts values under their names, in order. -/
def ofList (l : List (String × α)) : Named α := l.foldl (fun n e => n.put e.1 e.2) empty

/-- The value of a name. -/
def get? (l : Named α) (name : String) : Option α := l.entries.lookup name

/-- The name has a value. -/
def contains (l : Named α) (name : String) : Bool := (l.get? name).isSome

/-- The names, in order. -/
def names (l : Named α) : List String := l.entries.map Prod.fst

/-- The number of names. -/
def size (l : Named α) : Nat := l.entries.length

/-- No name has a value. -/
def isEmpty (l : Named α) : Bool := l.entries.isEmpty

theorem contains_iff_mem {l : Named α} {name : String} :
    l.contains name = true ↔ name ∈ l.names := by
  simp [contains, get?, names, List.lookup_isSome_iff]

theorem names_change (l : Named α) (name : String) (f : Option α → α) :
    (l.change name f).names = if name ∈ l.names then l.names else l.names ++ [name] :=
  names_changeEntries name f l.entries

theorem changeEntries_of_not_mem {name : String} {f : Option α → α} {l : List (String × α)}
    (h : name ∉ l.map Prod.fst) : changeEntries name f l = l ++ [(name, f none)] := by
  induction l with
  | nil => rfl
  | cons x rest ih =>
    obtain ⟨n, a⟩ := x
    rw [List.map_cons, List.mem_cons, not_or] at h
    rw [changeEntries, if_neg (Ne.symm h.1), ih h.2, List.cons_append]

/-- A change adds at most the changed value. -/
theorem mem_changeEntries {name : String} {f : Option α → α} {e : String × α} :
    ∀ {l : List (String × α)}, e ∈ changeEntries name f l → e ∈ l ∨ ∃ a, e.2 = f a
  | [], h => by
    obtain rfl := List.mem_singleton.1 h
    exact .inr ⟨none, rfl⟩
  | (n, a) :: rest, h => by
    rw [changeEntries] at h
    split at h
    · rcases List.mem_cons.1 h with rfl | h
      · exact .inr ⟨some a, rfl⟩
      · exact .inl (List.mem_cons_of_mem _ h)
    · rcases List.mem_cons.1 h with rfl | h
      · exact .inl List.mem_cons_self
      · exact (mem_changeEntries h).imp_left (List.mem_cons_of_mem _)

theorem entries_foldl_put : ∀ (l : List (String × α)) (n : Named α),
    (n.names ++ l.map Prod.fst).Nodup →
      (l.foldl (fun n e => n.put e.1 e.2) n).entries = n.entries ++ l
  | [], n, _ => (List.append_nil _).symm
  | e :: l, n, h => by
    have hnew : e.1 ∉ n.names := fun he =>
      (List.nodup_append.1 h).2.2 e.1 he e.1 (by simp) rfl
    have hput : (n.put e.1 e.2).entries = n.entries ++ [e] := changeEntries_of_not_mem hnew
    rw [List.foldl_cons, entries_foldl_put l _ (by simpa [names, hput] using h), hput,
      List.append_assoc, List.singleton_append]

theorem forall_foldl_put {P : α → Prop} : ∀ {l : List (String × α)} {n : Named α},
    (∀ e ∈ n.entries, P e.2) → (∀ e ∈ l, P e.2) →
      ∀ e ∈ (l.foldl (fun n e => n.put e.1 e.2) n).entries, P e.2
  | [], _, hn, _ => hn
  | x :: l, n, hn, hl => by
    have hput : ∀ e ∈ (n.put x.1 x.2).entries, P e.2 := by
      intro e he
      rcases mem_changeEntries he with he | ⟨_, he⟩
      · exact hn e he
      · rw [he]
        exact hl x List.mem_cons_self
    rw [List.foldl_cons]
    exact forall_foldl_put hput fun e he => hl e (List.mem_cons_of_mem _ he)

/-- What holds of all values of a list holds of those that are kept. -/
theorem forall_ofList {P : α → Prop} {l : List (String × α)} (h : ∀ e ∈ l, P e.2) :
    ∀ e ∈ (ofList l).entries, P e.2 :=
  forall_foldl_put (fun _ he => absurd he List.not_mem_nil) h

/-- Values under distinct names are kept as they are. -/
theorem entries_ofList {l : List (String × α)} (h : (l.map Prod.fst).Nodup) :
    (ofList l).entries = l :=
  entries_foldl_put l empty h

end Named

end TableService
