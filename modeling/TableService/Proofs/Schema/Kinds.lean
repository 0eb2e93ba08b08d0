/-
  The kind of a declared type, and its column type.

  * `FieldKind.Reads`: the kind of a form is that of the longest word at its beginning, and text if
    there is none; nothing is said of the order of the words.
  * `FieldKind.ofFirst` looks for the first word at the beginning of a form.  `ofFirst_eq_iff`: this
    gives the kind of the longest, if no word stands before a longer one of another kind that it
    begins (`InOrder`).
  * `FieldDescription.Settled`: a column type that is described by itself.
  * `kind_by_longest_word`: how a declared type is read and described.
-/
import Mathlib.Data.List.MinMax
import TableService.Proofs.Schema.Dialects
import TableService.Proofs.Schema.Locales

namespace TableService

namespace FieldKind

/-! ## Words -/

/-- The words of all kinds, each with its kind. -/
def wordsOf (families : List (FieldKind × List String)) : List (String × FieldKind) :=
  families.flatMap fun f => f.2.map fun word => (word, f.1)

/-- The words by which a type may begin. -/
def words : List (String × FieldKind) := wordsOf beginnings

variable {ws ws' : List (String × FieldKind)} {form : List Char}

/-- The word is one of those given, it begins the form, and no longer one does. -/
structure IsLongest (ws : List (String × FieldKind)) (form : List Char)
    (w : String × FieldKind) : Prop where
  mem : w ∈ ws
  begins : w.1.toList <+: form
  longest : ∀ v ∈ ws, v.1.toList <+: form → v.1.length ≤ w.1.length

/-- A form has the kind of the longest word that begins it, or is text if there is no such word. -/
inductive Reads (ws : List (String × FieldKind)) (form : List Char) : FieldKind → Prop where
  | longest {w} : IsLongest ws form w → Reads ws form w.2
  | text : (∀ w ∈ ws, ¬w.1.toList <+: form) → Reads ws form .text

theorem exists_isLongest {w : String × FieldKind} (hw : w ∈ ws) (hbegins : w.1.toList <+: form) :
    ∃ v, IsLongest ws form v := by
  have hmem : ∀ v, v ∈ ws.filter (fun v => v.1.toList <+: form) ↔ v ∈ ws ∧ v.1.toList <+: form := by
    simp
  cases hmax : (ws.filter fun v => v.1.toList <+: form).argmax fun v => v.1.length with
  | none => exact absurd ((hmem w).2 ⟨hw, hbegins⟩) (by simp [List.argmax_eq_none.1 hmax])
  | some v =>
    obtain ⟨hv, hvbegins⟩ := (hmem v).1 (List.argmax_mem hmax)
    refine ⟨v, hv, hvbegins, fun u hu hubegins => ?_⟩
    exact List.le_of_mem_argmax (f := fun v => v.1.length) ((hmem u).2 ⟨hu, hubegins⟩) hmax

/-- The order of the words does not matter, nor how often they are there. -/
theorem Reads.of_mem_iff {kind : FieldKind} (h : Reads ws form kind)
    (hmem : ∀ w, w ∈ ws ↔ w ∈ ws') : Reads ws' form kind := by
  cases h with
  | longest hw =>
    exact .longest ⟨(hmem _).1 hw.mem, hw.begins, fun v hv => hw.longest v ((hmem v).2 hv)⟩
  | text hnone => exact .text fun w hw => hnone w ((hmem w).2 hw)

/-! ## The first word -/

/-- The kind of the first word that begins the form; text if none does. -/
def ofFirst (ws : List (String × FieldKind)) (form : List Char) : FieldKind :=
  ((ws.find? fun w => w.1.toList <+: form).map Prod.snd).getD .text

/-- No word stands before a longer one of another kind that it begins. -/
def InOrder (ws : List (String × FieldKind)) : Prop :=
  ws.Pairwise fun v w => v.1.toList <+: w.1.toList → v.2 = w.2

instance : Decidable (InOrder ws) :=
  inferInstanceAs (Decidable (List.Pairwise _ ws))

/-- The first word that begins a form has the kind of the longest. -/
theorem InOrder.kind_eq (h : InOrder ws) {v w : String × FieldKind}
    (hfirst : ws.find? (fun w => w.1.toList <+: form) = some v) (hw : IsLongest ws form w) :
    v.2 = w.2 := by
  obtain ⟨hv, front, back, rfl, hfront⟩ := List.find?_eq_some_iff_append.1 hfirst
  have hbegins : v.1.toList <+: form := of_decide_eq_true hv
  have hlonger : v.1.toList <+: w.1.toList := by
    refine List.prefix_of_prefix_length_le hbegins hw.begins ?_
    rw [String.length_toList, String.length_toList]
    exact hw.longest v (by simp) hbegins
  rcases List.mem_append.1 hw.mem with hin | hin
  · exact absurd hw.begins (by simpa using hfront w hin)
  · rcases List.mem_cons.1 hin with rfl | hin
    · rfl
    · have hafter := (List.pairwise_cons.1 (List.pairwise_append.1 h).2.1).1
      exact hafter w hin hlonger

/-- **The first word is as good as the longest**, if the words are in order. -/
theorem ofFirst_eq_iff (h : InOrder ws) {kind : FieldKind} :
    ofFirst ws form = kind ↔ Reads ws form kind := by
  unfold ofFirst
  cases hfirst : ws.find? fun w => w.1.toList <+: form with
  | none =>
    have hnone : ∀ w ∈ ws, ¬w.1.toList <+: form := by simpa using hfirst
    constructor
    · rintro rfl
      exact .text hnone
    · rintro (hw | -)
      · exact absurd hw.begins (hnone _ hw.mem)
      · rfl
  | some v =>
    have hmem := List.mem_of_find?_eq_some hfirst
    have hbegins : v.1.toList <+: form := by simpa using List.find?_some hfirst
    constructor
    · rintro rfl
      obtain ⟨w, hw⟩ := exists_isLongest hmem hbegins
      rw [Option.map_some, Option.getD_some, h.kind_eq hfirst hw]
      exact .longest hw
    · rintro (hw | hnone)
      · exact h.kind_eq hfirst hw
      · exact absurd hbegins (hnone v hmem)

/-- To look for a family with a word that is wanted is to look for that word. -/
theorem find_wordsOf (p : String → Bool) (families : List (FieldKind × List String)) :
    ((wordsOf families).find? fun w => p w.1).map Prod.snd =
      (families.find? fun f => f.2.any p).map Prod.fst := by
  induction families with
  | nil => rfl
  | cons f families ih =>
    have hwords : (f.2.map fun word => (word, f.1)).find? (fun w => p w.1) =
        (f.2.find? p).map fun word => (word, f.1) := List.find?_map
    rw [wordsOf, List.flatMap_cons, ← wordsOf, List.find?_append, hwords, List.find?_cons]
    cases hfound : f.2.find? p with
    | none =>
      have hany : f.2.any p = false := by simpa using hfound
      rw [hany]
      exact ih
    | some word =>
      have hany : f.2.any p = true :=
        List.any_eq_true.2 ⟨word, List.mem_of_find?_eq_some hfound, List.find?_some hfound⟩
      rw [hany]
      rfl

theorem ofType_eq_ofFirst (type : String) :
    ofType type = ofFirst words (normalForm type).toList := by
  have hbegins : ∀ w : String, w.toList.isPrefixOf (normalForm type).toList =
      decide (w.toList <+: (normalForm type).toList) := fun w => Bool.eq_iff_iff.2 (by simp)
  have hfamily := find_wordsOf (fun w => w.toList <+: (normalForm type).toList) beginnings
  rw [ofFirst, words, hfamily]
  -- the equation of `ofType` would compare all the words
  delta ofType
  simp only [hbegins]
  cases beginnings.find? _ <;> rfl

theorem inOrder_words : InOrder words := by decide +kernel

/-- **The kind of a type** is that of the longest word at its beginning. -/
theorem ofType_eq_iff {type : String} {kind : FieldKind} :
    ofType type = kind ↔ Reads words (normalForm type).toList kind := by
  rw [ofType_eq_ofFirst, ofFirst_eq_iff inOrder_words]

/-- A type is of no kind that is declared by a word of its own. -/
theorem ofType_mem (type : String) : ofType type ∈ [.boolean, .number, .binary, .text] := by
  have hwords : ∀ w ∈ words, w.2 ∈ [FieldKind.boolean, .number, .binary, .text] := by decide
  have hreads : Reads words (normalForm type).toList (ofType type) := ofType_eq_iff.1 rfl
  generalize ofType type = kind at hreads ⊢
  cases hreads with
  | longest hw => exact hwords _ hw.mem
  | text => decide

/-! ## Words of their own -/

theorem ofWord_eq_some_iff {type : String} {kind : FieldKind} : ofWord? type = some kind ↔
    kind ∈ [.markdown, .json, .datetime] ∧ normalForm type = kind.name := by
  constructor
  · intro h
    dsimp only [ofWord?] at h
    split_ifs at h with hmarkdown hjson hdatetime <;> cases h
    · exact ⟨by simp, hmarkdown⟩
    · exact ⟨by simp, hjson⟩
    · exact ⟨by simp, hdatetime⟩
  · rintro ⟨hmem, hname⟩
    simp only [List.mem_cons, List.not_mem_nil, or_false] at hmem
    rcases hmem with rfl | rfl | rfl <;> simp [ofWord?, hname, name]

theorem ofWord_eq_none_iff {type : String} :
    ofWord? type = none ↔ normalForm type ∉ ["markdown", "json", "datetime"] := by
  dsimp only [ofWord?]
  split_ifs <;> simp [*]

theorem normalForm_trim (type : String) : normalForm (Text.trim type) = normalForm type := by
  rw [normalForm, Text.trim_trim, normalForm]

end FieldKind

namespace FieldDescription

/-! ## Column types -/

/-- The column type has no blanks at its ends and is no word of its own. -/
structure Settled (columnType : String) : Prop where
  trimmed : Text.trim columnType = columnType
  plain : FieldKind.ofWord? columnType = none

theorem ofDeclaration_plain {type : String} (h : FieldKind.ofWord? type = none) (d : Dialect) :
    ofDeclaration d type = ⟨Text.trim type, FieldKind.ofType type⟩ := by
  rw [ofDeclaration, h]

/-- A settled type is its own column type. -/
theorem Settled.columnType_eq {type : String} (h : Settled type) (d : Dialect) :
    (ofDeclaration d type).columnType = type := by
  rw [ofDeclaration_plain h.plain]
  exact h.trimmed

/-- Every column type is settled. -/
theorem settled_columnType (d : Dialect) (type : String) :
    Settled (ofDeclaration d type).columnType := by
  have hlong : Settled d.longText := by
    cases d <;> exact ⟨by decide +kernel, by decide +kernel⟩
  have hdatetime : Settled "VARCHAR(30)" := ⟨by decide +kernel, by decide +kernel⟩
  unfold ofDeclaration
  cases hword : FieldKind.ofWord? type with
  | none =>
    refine ⟨Text.trim_trim type, ?_⟩
    rw [FieldKind.ofWord?, FieldKind.normalForm_trim]
    exact hword
  | some kind =>
    cases kind with
    | markdown | json => exact hlong
    | _ => exact hdatetime

/-- A word of its own gives its kind. -/
theorem kind_of_word {type : String} {kind : FieldKind} (h : FieldKind.ofWord? type = some kind)
    (d : Dialect) : (ofDeclaration d type).kind = kind := by
  unfold ofDeclaration
  rw [h]
  cases kind <;> rfl

/-- A declaration is described by itself and the kind of its beginning exactly if it is no word of
its own. -/
theorem ofDeclaration_eq_iff {d : Dialect} {type : String} :
    ofDeclaration d type = ⟨Text.trim type, FieldKind.ofType type⟩ ↔
      FieldKind.normalForm type ∉ ["markdown", "json", "datetime"] := by
  rw [← FieldKind.ofWord_eq_none_iff]
  constructor
  · intro h
    cases hword : FieldKind.ofWord? type with
    | none => rfl
    | some kind =>
      have hkind : FieldKind.ofType type = kind := by rw [← kind_of_word hword d, h]
      have htype := FieldKind.ofType_mem type
      have hown := (FieldKind.ofWord_eq_some_iff.1 hword).1
      rw [hkind] at htype
      cases kind <;> simp at htype hown
  · exact fun h => ofDeclaration_plain h d

end FieldDescription

open FieldKind FieldDescription

/-- **A declared type has the kind of the longest word at its beginning**, so any order of the words
gives this kind in which none stands before a longer one of another kind that it begins.  It is
described by that kind and by itself without blanks at its ends, unless it is a word of its own.
What kind it is does not depend on the dialect, and its column type is described by itself. -/
theorem kind_by_longest_word (type : String) :
    (∀ kind, ofType type = kind ↔ Reads words (normalForm type).toList kind) ∧
    (∀ ws, ws.Perm words → InOrder ws → ofFirst ws (normalForm type).toList = ofType type) ∧
    (∀ d, ofDeclaration d type = ⟨Text.trim type, ofType type⟩ ↔
      normalForm type ∉ ["markdown", "json", "datetime"]) ∧
    (∀ d d', (ofDeclaration d type).kind = (ofDeclaration d' type).kind) ∧
    ∀ d d', (ofDeclaration d' (ofDeclaration d type).columnType).columnType =
      (ofDeclaration d type).columnType := by
  refine ⟨fun _ => ofType_eq_iff, fun ws hperm horder => ?_, fun _ => ofDeclaration_eq_iff,
    fun d d' => kind_ofDeclaration d d' type,
    fun d d' => (settled_columnType d type).columnType_eq d'⟩
  have hreads : Reads words (normalForm type).toList (ofType type) := ofType_eq_iff.1 rfl
  exact (ofFirst_eq_iff horder).2 (hreads.of_mem_iff fun _ => hperm.symm.mem_iff)

/-- The families in another order, and a type that two words of different kinds begin. -/
theorem truth_value_by_longest_word :
    (wordsOf (beginnings.rotate 2)).Perm words ∧ InOrder (wordsOf (beginnings.rotate 2)) ∧
    ofFirst (wordsOf (beginnings.rotate 2)) (normalForm " TinyInt(1)").toList = .boolean ∧
    ofFirst words.reverse (normalForm " TinyInt(1)").toList = .number ∧
    ofDeclaration .mysql " TinyInt(1)" = ⟨"TinyInt(1)", .boolean⟩ := by
  have hperm : (wordsOf (beginnings.rotate 2)).Perm words := by decide +kernel
  have horder : InOrder (wordsOf (beginnings.rotate 2)) := by decide +kernel
  have hkind : ofType " TinyInt(1)" = .boolean := by decide +kernel
  obtain ⟨-, hany, hplain, -⟩ := kind_by_longest_word " TinyInt(1)"
  refine ⟨hperm, horder, (hany _ hperm horder).trans hkind, by decide +kernel, ?_⟩
  rw [(hplain .mysql).2 (by decide +kernel), hkind]
  decide +kernel

end TableService
