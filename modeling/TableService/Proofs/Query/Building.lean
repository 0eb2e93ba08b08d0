/-
  What a filter is built of.

  * `names_build`: a filter that is built has its fields in the order in which the steps first
    mention them.
  * `get?_build`: the condition of a field is what the steps that mention the field make of it, one
    after the other; `Step.condition` is what one step makes of it.
  * `read_iff`: a text is read as a filter exactly if it is an object whose members are read one
    by one, and the filter is the one built by setting each in the order of the text.
  * `filter_built` puts these together, and adds that the text of any conditions is such a text.
-/
import Mathlib.Data.List.Induction
import TableService.Proofs.Json.RoundTrip
import TableService.Proofs.Query.Restriction

namespace TableService

/-! ## Changes -/

namespace Named

universe u
variable {α : Type u}

theorem lookup_changeEntries {name n : String} {f : Option α → α} : ∀ {l : List (String × α)},
    (changeEntries name f l).lookup n =
      if n = name then some (f (l.lookup name)) else l.lookup n
  | [] => Record.lookup_entry name n (f none) []
  | (m, a) :: l => by
    rw [changeEntries]
    split
    · rename_i hm
      subst hm
      simp only [Record.lookup_entry, if_true]
      split <;> rfl
    · rename_i hm
      simp only [Record.lookup_entry, lookup_changeEntries, if_neg (Ne.symm hm)]
      by_cases hn : n = name
      · rw [if_pos hn, if_pos hn, if_neg fun h => hm (h.symm.trans hn)]
      · rw [if_neg hn, if_neg hn]

/-- A change makes a new value of the one that the name had, and leaves those of other names. -/
theorem get?_change (l : Named α) (name n : String) (f : Option α → α) :
    (l.change name f).get? n = if n = name then some (f (l.get? name)) else l.get? n :=
  lookup_changeEntries

/-- **Names that changes add are in the order of their first mention.** -/
theorem names_foldl_change {β : Type} (key : β → String) (f : β → Option α → α) (l : List β) :
    (l.foldl (fun n b => n.change (key b) (f b)) empty).names = (l.map key).eraseDups := by
  induction l using List.reverseRecOn with
  | nil => rfl
  | append_singleton l b ih =>
    rw [List.foldl_concat, names_change, ih, List.map_append, List.map_singleton,
      List.eraseDups_append]
    by_cases hb : key b ∈ (l.map key).eraseDups
    · have hmem := List.mem_eraseDups.1 hb
      rw [if_pos hb, List.removeAll, List.filter_singleton, List.elem_eq_mem, decide_eq_true hmem]
      exact (List.append_nil _).symm
    · have hmem := mt List.mem_eraseDups.2 hb
      rw [if_neg hb, List.removeAll, List.filter_singleton, List.elem_eq_mem,
        decide_eq_false hmem]
      rfl

end Named

/-! ## Steps -/

namespace Filter
variable {filter : Filter}

/-- The field that a step mentions. -/
def Step.field : Step → String
  | .eq field _ | .add field _ _ | .set field _ => field

/-- The condition that a step makes of the one that the field has. -/
def Step.condition : Step → Option Condition → Condition
  | .eq _ value, _ => .literal value
  | .add _ op operand, some (.operators entries) => .operators (entries ++ [(op.key, operand)])
  | .add _ op operand, _ => .operators [(op.key, operand)]
  | .set _ condition, _ => condition

/-- The condition of a field after steps that all mention it. -/
def Step.conditions (steps : List Step) : Option Condition :=
  steps.foldl (fun c s => some (s.condition c)) none

theorem step_eq_change (s : Step) : filter.step s = Named.change filter s.field s.condition := by
  cases s with
  | eq field value => rfl
  | add field op operand =>
    refine congrArg (Named.change filter field) (funext fun c => ?_)
    rcases c with _ | _ | _ <;> rfl
  | set field condition => rfl

theorem build_concat (steps : List Step) (s : Step) :
    build (steps ++ [s]) = (build steps).step s := by
  rw [build, List.foldl_append]
  rfl

/-- **The fields of a filter are in the order of their first mention.** -/
theorem names_build (steps : List Step) :
    (build steps).names = (steps.map Step.field).eraseDups := by
  have hsteps : step = fun filter s => Named.change filter s.field s.condition :=
    funext fun _ => funext step_eq_change
  rw [build, hsteps]
  exact Named.names_foldl_change Step.field Step.condition steps

/-- **The condition of a field is what the steps that mention it make of it.** -/
theorem get?_build (steps : List Step) (field : String) :
    (build steps).get? field = Step.conditions (steps.filter (·.field = field)) := by
  induction steps using List.reverseRecOn with
  | nil => rfl
  | append_singleton steps s ih =>
    rw [build_concat, step_eq_change, Named.get?_change, List.filter_append]
    by_cases hs : s.field = field
    · rw [if_pos hs.symm, hs, ih, List.filter_singleton, decide_eq_true hs, Step.conditions,
        Step.conditions, List.foldl_append]
      rfl
    · rw [if_neg (Ne.symm hs), ih, List.filter_singleton, decide_eq_false hs]
      exact congrArg _ (List.append_nil _).symm

theorem build_set (conditions : List (String × Condition)) :
    build (conditions.map fun e => .set e.1 e.2) = ofList conditions := by
  rw [build, List.foldl_map]
  rfl

end Filter

/-! ## Reading -/

/-- An object is a condition with the operators that its members name, in the order of the text and
with those that are repeated; any other value is a literal. -/
inductive Condition.Reads : Nat → Source → Condition → Prop
  | operators {d : Nat} {ms : List (Scalar String × Source)} {entries : List (String × Json)}
    (h : List.Forall₂ (Shape.ReadsMember Shape.json d) ms entries) :
    Reads (d + 1) (.object ms none) (.operators entries)
  | literal {d : Nat} {v : Source} {value : Json} (hv : ∀ ms stop, v ≠ .object ms stop)
    (h : Shape.json d v = .ok value) : Reads d v (.literal value)

theorem Condition.shape_literal {depth : Nat} {v : Source} (hv : ∀ ms stop, v ≠ .object ms stop) :
    Condition.shape depth v = (Shape.json depth v).map .literal := by
  cases v with
  | object ms stop => exact absurd rfl (hv ms stop)
  | _ => rfl

theorem Condition.shape_ok_iff {depth : Nat} {v : Source} {c : Condition} :
    Condition.shape depth v = .ok c ↔ Condition.Reads depth v c := by
  constructor
  · intro h
    cases v with
    | object ms stop =>
      obtain ⟨entries, hentries, rfl⟩ := map_eq_ok.1 h
      obtain ⟨d, _, rfl, hobject, hall⟩ := Shape.object_ok_iff.1 hentries
      cases hobject
      exact .operators hall
    | null | bool b | broken f | number n | string s | array items stop =>
      rw [shape_literal fun _ _ hv => by cases hv] at h
      obtain ⟨value, hvalue, rfl⟩ := map_eq_ok.1 h
      exact .literal (fun _ _ hv => by cases hv) hvalue
  · intro h
    cases h with
    | operators h => exact map_eq_ok.2 ⟨_, Shape.object_ok_iff.2 ⟨_, _, rfl, rfl, h⟩, rfl⟩
    | literal hv h =>
      rw [shape_literal hv]
      exact map_eq_ok.2 ⟨_, h, rfl⟩

/-- The members of a text, read one by one, are these conditions of fields. -/
def Filter.Reads (text : String) (conditions : List (String × Condition)) : Prop :=
  ∃ ms, Source.ofText text = ⟨.object ms none, none⟩ ∧
    List.Forall₂ (fun m e => m.1.wanted = .ok e.1 ∧ Condition.Reads (maxDepth - 1) m.2 e.2)
      ms conditions

/-- **A text is read as the filter that sets the condition of each of its members**, in the order of
the text. -/
theorem Filter.read_iff {text : String} {filter : Filter} :
    Filter.shape.read text = .ok filter ↔ ∃ conditions, Filter.Reads text conditions ∧
      filter = Filter.build (conditions.map fun e => .set e.1 e.2) := by
  constructor
  · intro h
    obtain ⟨f, hf, h⟩ := bind_eq_ok.1 h
    obtain ⟨_, hrest, h⟩ := bind_eq_ok.1 h
    cases h
    obtain ⟨conditions, hc, rfl⟩ := map_eq_ok.1 hf
    obtain ⟨d, ms, hd, hv, hall⟩ := Shape.object_ok_iff.1 hc
    cases hd
    refine ⟨conditions, ⟨ms, ?_, hall.imp fun m e he => ?_⟩, (Filter.build_set _).symm⟩
    · generalize Source.ofText text = reading at hv hrest
      obtain ⟨source, rest⟩ := reading
      cases hv
      cases rest with
      | none => rfl
      | some f => cases hrest
    · exact ⟨he.name, Condition.shape_ok_iff.1 he.value⟩
  · rintro ⟨conditions, ⟨ms, htext, hall⟩, rfl⟩
    have hobject : Shape.object Condition.shape maxDepth (.object ms none) = .ok conditions :=
      Shape.object_ok_iff.2 ⟨_, ms, rfl, rfl, hall.imp fun m e he =>
        ⟨he.1, Condition.shape_ok_iff.2 he.2⟩⟩
    rw [Shape.read, htext, Source.Reading.decode, Filter.shape, hobject, Filter.build_set]
    rfl

/-! ## Writing -/

/-- The value that stands for a condition. -/
def Condition.json : Condition → Json
  | .literal value => value
  | .operators entries => .object entries

/-- A reader that may enter `d` levels can follow the text of the condition, and tells a literal
from operators. -/
inductive Condition.Legible : Nat → Condition → Prop
  | literal {d : Nat} {value : Json} (hv : ∀ members, value ≠ .object members)
    (h : value.Legible d) : Legible d (.literal value)
  | operators {d : Nat} {entries : List (String × Json)} (h : ∀ e ∈ entries, e.2.Legible d) :
    Legible (d + 1) (.operators entries)

theorem Condition.Legible.exists_tree {d : Nat} {c : Condition} (h : c.Legible d) :
    ∃ t, Source.Writes c.json.chars t ∧ Condition.shape d t = .ok c := by
  cases h with
  | literal hv h =>
    obtain ⟨t, hwrites, hread⟩ := h.exists_tree
    refine ⟨t, hwrites, Condition.shape_ok_iff.2 (.literal ?_ hread)⟩
    rintro ms stop rfl
    obtain ⟨members, rfl⟩ := Shape.json_object hread
    exact hv members rfl
  | operators h =>
    obtain ⟨ms, hwritten, hread⟩ := Json.exists_jsonMembers fun e he => (h e he).exists_tree
    exact ⟨.object ms none, Source.writes_object hwritten,
      Condition.shape_ok_iff.2 (.operators hread)⟩

/-- **The text of conditions is read as the filter that sets each of them.** -/
theorem Filter.read_renderMembers {conditions : List (String × Condition)}
    (h : ∀ e ∈ conditions, e.2.Legible (maxDepth - 1)) :
    Filter.shape.read (Json.renderMembers (conditions.map fun e => (e.1, e.2.json))) =
      .ok (Filter.build (conditions.map fun e => .set e.1 e.2)) := by
  obtain ⟨ms, hwritten, hread⟩ := Json.exists_members fun e he => (h e he).exists_tree
  have hobject : Shape.object Condition.shape maxDepth (.object ms none) = .ok conditions :=
    Shape.object_ok_iff.2 ⟨_, ms, rfl, rfl, hread⟩
  rw [Json.renderMembers, Json.render, Json.chars, read_of_writes (Source.writes_object hwritten),
    Filter.shape, hobject, Filter.build_set]
  rfl

/-- **A filter is what its steps make of it.**  Its fields are distinct, in the order in which the
steps first mention them, and the condition of each is what the steps that mention this field make of
it, one after the other.  A text is read as a filter exactly if it is an object whose members are read
one by one, and then as the filter that sets the condition of each in the order of the text; of the
operators of a condition none is lost, also if they are repeated.  The text of any conditions that a
reader can follow is such a text. -/
theorem filter_built (steps : List Filter.Step) :
    (Filter.build steps).names = (steps.map Filter.Step.field).eraseDups ∧
    (Filter.build steps).names.Nodup ∧
    (∀ field, (Filter.build steps).get? field =
      Filter.Step.conditions (steps.filter (·.field = field))) ∧
    (∀ text filter, Filter.shape.read text = .ok filter ↔ ∃ conditions,
      Filter.Reads text conditions ∧
        filter = Filter.build (conditions.map fun e => .set e.1 e.2)) ∧
    (∀ conditions : List (String × Condition), (∀ e ∈ conditions, e.2.Legible (maxDepth - 1)) →
      Filter.shape.read (Json.renderMembers (conditions.map fun e => (e.1, e.2.json))) =
        .ok (Filter.build (conditions.map fun e => .set e.1 e.2))) :=
  ⟨Filter.names_build steps, (Filter.build steps).distinct, Filter.get?_build steps,
    fun _ _ => Filter.read_iff, fun _ => Filter.read_renderMembers⟩

/-- Steps of which the second and the last add to what an earlier one made. -/
def agesSteps : List Filter.Step :=
  [.add "age" (.compare .gte) (.ofByte 18), .add "age" (.compare .lt) (.ofByte 65),
    .eq "name" (.string "bob"), .add "name" (.compare .ne) .null]

/-- Conditions of which the last takes the place of the first, which has an operator twice. -/
def agesConditions : List (String × Condition) :=
  [("age", .operators [("$gt", .null), ("$gt", .bool true)]), ("name", .literal (.array [])),
    ("age", .operators [("$lt", .string "9"), ("$lt", .null)])]

/-- The text of these conditions. -/
def agesText : String :=
  "\x7b\"age\":\x7b\"$gt\":null,\"$gt\":true\x7d,\"name\":[]," ++
    "\"age\":\x7b\"$lt\":\"9\",\"$lt\":null\x7d\x7d"

/-- The ages are kept, whether they are built or read. -/
theorem ages_built :
    (Filter.build agesSteps).names = ["age", "name"] ∧
    (Filter.build agesSteps).get? "age" =
      some (.operators [("$gte", .ofByte 18), ("$lt", .ofByte 65)]) ∧
    (Filter.build agesSteps).get? "name" = some (.operators [("$ne", .null)]) ∧
    ∃ filter, Filter.shape.read agesText = .ok filter ∧
      filter.entries = [("age", .operators [("$lt", .string "9"), ("$lt", .null)]),
        ("name", .literal (.array []))] := by
  obtain ⟨hnames, -, hget, -, hread⟩ := filter_built agesSteps
  have hlegible : ∀ e ∈ agesConditions, e.2.Legible (maxDepth - 1) := by
    intro e he
    simp only [agesConditions, List.mem_cons, List.not_mem_nil, or_false] at he
    rcases he with rfl | rfl | rfl
    · refine .operators fun e he => ?_
      simp only [List.mem_cons, List.not_mem_nil, or_false] at he
      rcases he with rfl | rfl
      · exact .null
      · exact .bool true
    · exact .literal (fun _ h => by cases h) (.array fun _ h => absurd h List.not_mem_nil)
    · refine .operators fun e he => ?_
      simp only [List.mem_cons, List.not_mem_nil, or_false] at he
      rcases he with rfl | rfl
      · exact .string "9"
      · exact .null
  exact ⟨hnames.trans (by decide), (hget "age").trans rfl, (hget "name").trans rfl, _,
    hread agesConditions hlegible, rfl⟩

end TableService
