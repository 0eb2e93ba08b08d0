/-
  What is written as JSON is read back.

  * `Json.Legible d v`: a reader that may enter `d` levels can follow the text of `v`.  Of the
    doubles in it this asks that their own texts are read exactly (`JsonNumber.ReadsBack`), for a
    reader rounds more than once; integers always are (`readsBack_int`).
  * `parse_render`: the text of a legible value is read as this value.
-/
import TableService.Json.Shape
import TableService.Proofs.Json.Tree
import TableService.Proofs.Results

namespace TableService

open Source (Writes WritesMember)

/-- A written tree is read by its shape alone, for nothing follows it. -/
theorem read_of_writes {α : Type} {shape : Shape α} {cs : List Char} {t : Source}
    (h : Writes cs t) : shape.read (String.ofList cs) = shape maxDepth t := by
  rw [Shape.read, Source.ofText_of_writes h, Source.Reading.decode]
  cases shape maxDepth t <;> rfl

/-! ## Numbers -/

/-- The text of the number is read as the number. -/
def JsonNumber.ReadsBack (n : JsonNumber) : Prop :=
  Json.parse (String.ofList n.text) = .ok (.number n)

theorem parse_literal {l : Source.Literal} (hl : l.Proper) :
    Json.parse (String.ofList l.text) = l.value.map .number := by
  rw [Json.parse, read_of_writes (Source.writes_literal hl), Shape.json]

/-- The text of every number is a literal. -/
theorem JsonNumber.exists_literal : ∀ n : JsonNumber, ∃ l : Source.Literal, l.Proper ∧ l.text = n.text
  | .int i _ _ => ⟨Source.intLiteral i, Source.proper_intLiteral i, Source.text_intLiteral i⟩
  | .double _ h => Source.exists_literal h

theorem readsBack_int {i : Int} (lower : -0x8000000000000000 ≤ i) (upper : i < 0x10000000000000000) :
    (JsonNumber.int i lower upper).ReadsBack := by
  rw [JsonNumber.ReadsBack, JsonNumber.text, ← Source.text_intLiteral,
    parse_literal (Source.proper_intLiteral i), Source.value_intLiteral lower upper]
  rfl

theorem JsonNumber.ReadsBack.writes {n : JsonNumber} (h : n.ReadsBack) :
    Writes n.text (.number ⟨.ok n, none⟩) := by
  obtain ⟨l, hl, htext⟩ := n.exists_literal
  have hvalue : l.value = .ok n := by
    rw [JsonNumber.ReadsBack, ← htext, parse_literal hl] at h
    cases hl : l.value with
    | ok m =>
      rw [hl] at h
      cases h
      rfl
    | error f =>
      rw [hl] at h
      cases h
  rw [← htext, ← hvalue]
  exact Source.writes_literal hl

/-! ## Objects -/

namespace Shape
variable {α : Type} {shape : Shape α}

/-- A member is read as a name with a value. -/
structure ReadsMember (shape : Shape α) (depth : Nat) (m : Scalar String × Source)
    (e : String × α) : Prop where
  name : m.1.wanted = .ok e.1
  value : shape depth m.2 = .ok e.2

theorem jsonMembers_eq {depth : Nat} {ms : List (Scalar String × Source)}
    {members : List (String × Json)} (h : List.Forall₂ (ReadsMember json depth) ms members) :
    jsonMembers depth ms = .ok members := by
  induction h with
  | nil => rfl
  | cons h _ ih =>
    rw [jsonMembers, h.name, h.value, ih]
    rfl

/-- Only an object is read from an object. -/
theorem json_object {depth : Nat} {ms : List (Scalar String × Source)} {stop : Option Fault}
    {value : Json} (h : json depth (.object ms stop) = .ok value) :
    ∃ members, value = .object members := by
  cases depth with
  | zero => cases h
  | succ d =>
    rw [json] at h
    obtain ⟨members, -, h⟩ := bind_eq_ok.1 h
    obtain ⟨_, -, h⟩ := bind_eq_ok.1 h
    cases h
    exact ⟨_, rfl⟩

/-- **An object is read exactly if it is complete and each of its members is read**, and then its
members are kept in the order of the text. -/
theorem object_ok_iff {depth : Nat} {v : Source} {l : List (String × α)} :
    object shape depth v = .ok l ↔ ∃ d ms, depth = d + 1 ∧ v = .object ms none ∧
      List.Forall₂ (ReadsMember shape d) ms l := by
  constructor
  · intro h
    cases v with
    | object ms stop =>
      cases depth with
      | zero => cases h
      | succ d =>
        obtain ⟨l', hms, h⟩ := bind_eq_ok.1 h
        obtain ⟨_, hstop, h⟩ := bind_eq_ok.1 h
        cases h
        cases stop with
        | some f => cases hstop
        | none =>
          refine ⟨d, ms, rfl, rfl, (mapM_eq_ok.1 hms).imp fun m e he => ?_⟩
          obtain ⟨name, hname, he⟩ := bind_eq_ok.1 he
          obtain ⟨a, ha, he⟩ := bind_eq_ok.1 he
          cases he
          exact ⟨hname, ha⟩
    | number n =>
      obtain ⟨_, -, h⟩ := bind_eq_ok.1 h
      cases h
    | string s =>
      obtain ⟨_, -, h⟩ := bind_eq_ok.1 h
      cases h
    | null | bool b | broken f | array items stop => cases h
  · rintro ⟨d, ms, rfl, rfl, h⟩
    refine bind_eq_ok.2 ⟨l, mapM_eq_ok.2 (h.imp fun m e he => ?_), rfl⟩
    exact bind_eq_ok.2 ⟨e.1, he.name, bind_eq_ok.2 ⟨e.2, he.value, rfl⟩⟩

end Shape

namespace Record

universe u
variable {α : Type u}

theorem insertEntry_append {name : String} {value : α} : ∀ {l : List (String × α)},
    (∀ e ∈ l, e.1 < name) → insertEntry name value l = l ++ [(name, value)]
  | [], _ => rfl
  | (n, v) :: l, h => by
    have hn : n < name := h (n, v) List.mem_cons_self
    have hne : ¬ name = n := by
      rintro rfl
      exact String.lt_irrefl _ hn
    rw [insertEntry, if_neg (String.lt_asymm hn), if_neg hne,
      insertEntry_append fun e he => h e (List.mem_cons_of_mem _ he), List.cons_append]

theorem entries_foldl_insert : ∀ {l : List (String × α)} {r : Record α},
    (r.entries ++ l).Pairwise (fun a b => a.1 < b.1) →
      (l.foldl (fun r e => r.insert e.1 e.2) r).entries = r.entries ++ l
  | [], r, _ => (List.append_nil _).symm
  | e :: l, r, h => by
    have hput : (r.insert e.1 e.2).entries = r.entries ++ [e] :=
      insertEntry_append fun x hx => (List.pairwise_append.1 h).2.2 x hx e List.mem_cons_self
    rw [List.foldl_cons, entries_foldl_insert (by rwa [hput, List.append_assoc]), hput,
      List.append_assoc, List.singleton_append]

/-- Ascending names are kept as they are. -/
theorem entries_ofList {l : List (String × α)} (h : l.Pairwise fun a b => a.1 < b.1) :
    (ofList l).entries = l :=
  entries_foldl_insert h

theorem mem_entries_foldl_insert {x : String × α} : ∀ {l : List (String × α)} {r : Record α},
    x ∈ (l.foldl (fun r e => r.insert e.1 e.2) r).entries → x ∈ r.entries ∨ x ∈ l
  | [], _, h => .inl h
  | e :: l, r, h => by
    rcases mem_entries_foldl_insert (l := l) (r := r.insert e.1 e.2) h with h | h
    · rcases mem_insertEntry h with rfl | h
      · exact .inr List.mem_cons_self
      · exact .inl h
    · exact .inr (List.mem_cons_of_mem _ h)

/-- No entries are kept but those of the list. -/
theorem mem_entries_ofList {x : String × α} {l : List (String × α)} (h : x ∈ (ofList l).entries) :
    x ∈ l :=
  (mem_entries_foldl_insert h).resolve_left List.not_mem_nil

end Record

/-! ## Values -/

namespace Json

/-- A reader that may enter `d` levels can follow the text of the value. -/
inductive Legible : Nat → Json → Prop
  | null {d : Nat} : Legible d .null
  | bool {d : Nat} (b : Bool) : Legible d (.bool b)
  | number {d : Nat} {n : JsonNumber} (h : n.ReadsBack) : Legible d (.number n)
  | string {d : Nat} (s : String) : Legible d (.string s)
  | array {d : Nat} {items : List Json} (h : ∀ v ∈ items, Legible d v) :
    Legible (d + 1) (.array items)
  | object {d : Nat} {members : List (String × Json)}
    (ascending : members.Pairwise fun a b => a.1 < b.1) (h : ∀ e ∈ members, Legible d e.2) :
    Legible (d + 1) (.object members)

theorem exists_items {d : Nat} : ∀ {items : List Json},
    (∀ v ∈ items, ∃ t, Writes v.chars t ∧ Shape.json d t = .ok v) →
      ∃ ts, List.Forall₂ Writes (itemChars items) ts ∧ Shape.jsonItems d ts = .ok items
  | [], _ => ⟨[], .nil, rfl⟩
  | v :: items, h => by
    obtain ⟨t, hwrites, hread⟩ := h v List.mem_cons_self
    obtain ⟨ts, hwritten, hall⟩ := exists_items fun v hv => h v (List.mem_cons_of_mem _ hv)
    refine ⟨t :: ts, .cons hwrites hwritten, ?_⟩
    rw [Shape.jsonItems, hread, hall]
    rfl

/-- Members whose values are written and read back are so themselves. -/
theorem exists_members {α : Type} {shape : Shape α} {d : Nat} {f : α → Json} :
    ∀ {members : List (String × α)},
      (∀ e ∈ members, ∃ t, Writes (f e.2).chars t ∧ shape d t = .ok e.2) →
        ∃ ms, List.Forall₂ WritesMember (memberChars (members.map fun e => (e.1, f e.2))) ms ∧
          List.Forall₂ (shape.ReadsMember d) ms members
  | [], _ => ⟨[], .nil, .nil⟩
  | (name, a) :: members, h => by
    obtain ⟨t, hwrites, hread⟩ := h (name, a) List.mem_cons_self
    obtain ⟨ms, hwritten, hall⟩ := exists_members fun e he => h e (List.mem_cons_of_mem _ he)
    exact ⟨(Source.plain name, t) :: ms, .cons (.mk name hwrites) hwritten,
      .cons ⟨rfl, hread⟩ hall⟩

theorem exists_jsonMembers {d : Nat} {members : List (String × Json)}
    (h : ∀ e ∈ members, ∃ t, Writes e.2.chars t ∧ Shape.json d t = .ok e.2) :
    ∃ ms, List.Forall₂ WritesMember (memberChars members) ms ∧
      List.Forall₂ (Shape.ReadsMember Shape.json d) ms members := by
  simpa using exists_members (f := id) h

/-- A legible value has a text, and the tree of this text has the value. -/
theorem Legible.exists_tree {d : Nat} {v : Json} (h : Legible d v) :
    ∃ t, Writes v.chars t ∧ Shape.json d t = .ok v := by
  induction h with
  | null => exact ⟨.null, Source.writes_null, rfl⟩
  | bool b => exact ⟨.bool b, Source.writes_bool b, rfl⟩
  | number h => exact ⟨_, h.writes, rfl⟩
  | string s => exact ⟨_, Source.writes_string s, rfl⟩
  | array _ ih =>
    obtain ⟨ts, hwritten, hread⟩ := exists_items ih
    refine ⟨.array ts none, Source.writes_array hwritten, ?_⟩
    rw [Shape.json, hread]
    rfl
  | object ascending _ ih =>
    obtain ⟨ms, hwritten, hread⟩ := exists_jsonMembers ih
    refine ⟨.object ms none, Source.writes_object hwritten, ?_⟩
    rw [Shape.json, Shape.jsonMembers_eq hread]
    exact congrArg (fun entries => Except.ok (Json.object entries)) (Record.entries_ofList ascending)

/-- **The text of a legible value is read as the value.** -/
theorem parse_render {v : Json} (h : Legible maxDepth v) : parse v.render = .ok v := by
  obtain ⟨t, hwrites, hread⟩ := h.exists_tree
  rw [parse, render, read_of_writes hwrites, hread]

/-- The list of bytes is legible. -/
theorem legible_ofBytes {d : Nat} (bytes : List UInt8) : Legible (d + 1) (ofBytes bytes) := by
  refine .array fun v hv => ?_
  obtain ⟨b, -, rfl⟩ := List.mem_map.1 hv
  exact .number (readsBack_int _ _)

end Json

end TableService
