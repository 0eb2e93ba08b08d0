/-
  What all definitions of tables keep.

  * `Draft.Stable`: what every part of a definition keeps, and so does its reading (`Stable.read`).
  * `Table.Named`: the names of the columns are distinct, so each of them is found under its own
    name (`Table.Named.place?`).
  * `Draft.stable_blank`: a definition leads to a table with such names, and without rows.
-/
import Mathlib.Data.List.Nodup
import TableService.Proofs.Store.Creation

namespace TableService.Store

/-! ## Definitions -/

namespace Draft

/-- All that a definition may do to a draft keeps the property. -/
structure Stable (P : Draft → Prop) : Prop where
  addColumn : ∀ {d d' : Draft} {name type : String}, P d → d.addColumn name type = .ok d' → P d'
  changeLast : ∀ {d : Draft} {f : Column → Column}, P d → (∀ c, (f c).name = c.name) →
    P (d.changeLast f)
  addUnique : ∀ {d : Draft} (places : List Place), P d → P (d.addUnique places)
  resolveUnique : ∀ {d d' : Draft} {r : Resolution}, P d → d.resolveUnique r = .ok d' → P d'
  addForeignKey : ∀ {d : Draft} (place : Place) (target : String) (column : Option String), P d →
    P (d.addForeignKey place target column)
  setAction : ∀ {d : Draft} (onDelete : Bool) (a : KeyAction), P d → P (d.setAction onDelete a)

section
variable {P : Draft → Prop} (hP : Stable P) {d : Draft} {t : Token}
include hP

theorem Stable.columnConstraint (hd : P d) {y : Draft × Expected}
    (h : columnConstraint? d t = some y) : P y.1 := by
  unfold columnConstraint? at h
  split_ifs at h <;> cases h <;> first | exact hd | exact hP.addUnique _ hd

theorem Stable.afterConstraint (hd : P d) (owner : Owner) (supplement : Supplement) :
    Ensures (fun x => P x.1) (d.afterConstraint owner supplement t) := by
  unfold Draft.afterConstraint
  split_ifs
  · exact ensures_ok hd
  · exact ensures_ok hd
  · cases supplement with
    | event => exact ensures_ok hd
    | conflict => exact ensures_ok hd
    | none => exact ensures_misfit
  · dsimp only
    split
    · rename_i y hy
      cases owner with
      | column => exact ensures_ok (hP.columnConstraint hd hy)
      | table =>
        obtain ⟨e, -, rfl⟩ := Option.map_eq_some_iff.1 hy
        exact ensures_ok hd
    · exact ensures_misfit

theorem Stable.afterType (hd : P d) (name : String) (type : List Token) :
    Ensures (fun x => P x.1) (d.afterType name type t) := by
  unfold Draft.afterType
  split
  · rename_i d' hadd
    exact hP.afterConstraint (hP.addColumn hd hadd) .column .none
  · rename_i f _
    rintro y hy
    obtain ⟨-, -, hy⟩ := bind_eq_ok.1 hy
    cases hy

theorem Stable.resolve (hd : P d) (demand : Demand) (r : Resolution) :
    Ensures P (d.resolve demand r) := by
  cases demand with
  | nothing => exact ensures_ok hd
  | value => exact ensures_ok (hP.changeLast hd fun _ => rfl)
  | unique => exact fun _ h => hP.resolveUnique hd h

/-- What is covered keeps what all parts of a definition keep. -/
theorem Stable.advance (hd : P d) (e : Expected) :
    Ensures (fun x => P x.1) (Draft.advance (d, e) t) := by
  cases e with
  | item columnsDone =>
    unfold Draft.advance
    dsimp only
    split
    · exact ensures_ok hd
    · split_ifs
      · exact ensures_misfit
      · exact ensures_named fun _ _ => ensures_ok hd
  | type name type =>
    unfold Draft.advance
    dsimp only
    split_ifs
    · exact ensures_ok hd
    · exact ensures_ok hd
    · exact hP.afterType hd name type
  | size name type further =>
    unfold Draft.advance
    dsimp only
    split_ifs
    · exact ensures_ok hd
    · exact ensures_require fun _ => hd
  | sizeEnd name type further =>
    unfold Draft.advance
    dsimp only
    split_ifs
    · exact ensures_ok hd
    · exact ensures_require fun _ => hd
  | typed name type => exact hP.afterType hd name type
  | constraint owner supplement => exact hP.afterConstraint hd owner supplement
  | signedSize | conflict | namesOpen | foreignKey | foreignOpen | references | event =>
    exact ensures_require fun _ => hd
  | resolution owner demand =>
    unfold Draft.advance
    dsimp only
    split
    · rename_i r _
      exact (hP.resolve hd demand r).bind fun _ h => ensures_ok h
    · exact ensures_misfit
  | notNull => exact ensures_require fun _ => hP.changeLast hd fun _ => rfl
  | primaryKey owner =>
    unfold Draft.advance
    dsimp only
    split_ifs
    · exact ensures_misfit
    · exact ensures_ok hd
    · exact ensures_ok hd
    · exact ensures_error _
  | default =>
    unfold Draft.advance
    dsimp only
    split
    · exact ensures_ok (hP.changeLast hd fun _ => rfl)
    · exact ensures_require fun _ => hd
  | defaultNumber negative =>
    unfold Draft.advance
    dsimp only
    split
    · exact ensures_ok (hP.changeLast hd fun _ => rfl)
    · exact ensures_misfit
  | constraintName | nextName | foreignName | target | targetColumn | option =>
    exact ensures_named fun _ _ => ensures_ok hd
  | namesNext isKey names =>
    unfold Draft.advance
    dsimp only
    split_ifs
    · exact ensures_ok hd
    · exact ensures_misfit
    · exact ensures_error _
    · exact ensures_ok hd
    · refine Ensures.bind (P := fun _ => True) (fun _ _ => trivial) fun places _ => ?_
      exact ensures_ok (hP.addUnique places hd)
  | foreignClose name =>
    unfold Draft.advance
    dsimp only
    split_ifs
    · refine Ensures.bind (P := fun _ => True) (fun _ _ => trivial) fun places _ => ?_
      exact ensures_ok hd
    · exact ensures_misfit
  | targetOpen owner place target =>
    unfold Draft.advance
    dsimp only
    split_ifs
    · exact ensures_ok hd
    · exact hP.afterConstraint (hP.addForeignKey place target none hd) owner .event
  | targetClose owner place target column =>
    exact ensures_require fun _ => hP.addForeignKey place target (some column) hd
  | action owner onDelete =>
    unfold Draft.advance
    dsimp only
    split_ifs
    · exact ensures_ok (hP.setAction onDelete _ hd)
    · exact ensures_ok (hP.setAction onDelete _ hd)
    · exact ensures_ok hd
    · exact ensures_require fun _ => hd
  | setAction owner onDelete =>
    unfold Draft.advance
    dsimp only
    split_ifs
    · exact ensures_ok (hP.setAction onDelete _ hd)
    · exact ensures_ok (hP.setAction onDelete _ hd)
    · exact ensures_misfit
  | noAction owner onDelete => exact ensures_require fun _ => hP.setAction onDelete _ hd
  | afterOption name =>
    unfold Draft.advance
    dsimp only
    split_ifs
    · exact ensures_error _
    · exact ensures_misfit
  | nothing =>
    unfold Draft.advance
    dsimp only
    split_ifs
    · exact ensures_ok hd
    · exact ensures_ok hd
    · exact ensures_named fun _ _ => ensures_ok hd

/-- **A step of reading keeps what all parts of a definition keep.** -/
theorem Stable.step (hd : P d) (e : Expected) : Ensures (fun x => P x.1) (Draft.step (d, e) t) := by
  unfold Draft.step
  split_ifs
  · exact ensures_error _
  · exact hP.advance hd e

theorem Stable.read {d' : Draft} {ts : List Token} (hd : P d) (h : d.read ts = .ok d') : P d' :=
  foldlM_keeps (P := fun x : Draft × Expected => P x.1) (fun _ _ _ _ hx h => hP.step hx _ _ h) hd
    (read_eq_ok.1 h)

end

end Draft

/-! ## Columns -/

/-- No two columns have the same name, the key included. -/
def Table.Named (t : Table) : Prop := (t.names.map Text.lowerAscii).Nodup

theorem Table.declared?_isSome {t : Table} {name : String} :
    (t.declared? name).isSome = true ↔ Text.lowerAscii name ∈ t.names.map Text.lowerAscii := by
  have hkey : sameName name keyName = true ↔ Text.lowerAscii name = Text.lowerAscii keyName :=
    beq_iff_eq
  rw [Table.declared?, Table.names, List.map_cons, List.mem_cons, List.map_map, List.mem_map]
  split_ifs with h
  · exact ⟨fun _ => .inl (hkey.1 h), fun _ => rfl⟩
  · rw [Option.isSome_map, List.findIdx?_isSome, List.any_eq_true]
    constructor
    · rintro ⟨c, hc, hsame⟩
      exact .inr ⟨c, hc, (beq_iff_eq.1 hsame).symm⟩
    · rintro (hname | ⟨c, hc, hname⟩)
      · exact absurd (hkey.2 hname) h
      · exact ⟨c, hc, beq_iff_eq.2 hname.symm⟩

/-- **A column is found under its own name.** -/
theorem Table.Named.place? {t : Table} (h : t.Named) {p : Place} (hp : p ∈ t.places) :
    t.place? (t.nameAt p) = some p := by
  have hdeclared : t.declared? (t.nameAt p) = some p := by
    cases p with
    | key => exact if_pos (sameName_refl _)
    | cell i =>
      rw [Table.Named, Table.names, List.map_cons, List.nodup_cons, List.map_map] at h
      obtain ⟨hkey, hcolumns⟩ := h
      have hi : i < t.columns.length := by simpa [Table.places] using hp
      have hname : t.nameAt (.cell i) = t.columns[i].name := by
        rw [Table.nameAt, List.getElem?_eq_getElem hi]
        rfl
      have hnot : ¬ sameName t.columns[i].name keyName = true := fun hsame =>
        hkey (List.mem_map.2 ⟨t.columns[i], List.getElem_mem hi, beq_iff_eq.1 hsame⟩)
      rw [hname, Table.declared?, if_neg hnot]
      have hfind : t.columns.findIdx? (fun c => sameName t.columns[i].name c.name) = some i := by
        refine List.findIdx?_eq_some_iff_getElem.2 ⟨hi, sameName_refl _, fun j hj hsame => ?_⟩
        refine List.pairwise_iff_getElem.1 hcolumns j i (by simpa using Nat.lt_trans hj hi)
          (by simpa using hi) hj ?_
        simpa using (beq_iff_eq.1 hsame).symm
      rw [hfind]
      rfl
  rw [Table.place?, hdeclared]
  rfl

/-- A draft whose columns have distinct names, and without rows. -/
structure Draft.Blank (d : Draft) : Prop where
  named : d.table.Named
  rows : d.table.entries = .empty

theorem Draft.stable_blank : Draft.Stable Draft.Blank where
  addColumn := by
    intro d d' name type hd h
    unfold addColumn at h
    split_ifs at h with hknown hdeclared
    · cases h
      exact hd
    · cases h
      refine ⟨?_, hd.rows⟩
      have hnew : Text.lowerAscii name ∉ d.table.names.map Text.lowerAscii :=
        fun hmem => hdeclared (Table.declared?_isSome.2 hmem)
      have hnamed : (d.table.names.map Text.lowerAscii ++ [Text.lowerAscii name]).Nodup :=
        List.nodup_append.2 ⟨hd.named, List.nodup_singleton _, by
          rintro a ha b hb rfl
          exact hnew (List.mem_singleton.1 hb ▸ ha)⟩
      simpa [Table.Named, Table.names] using hnamed
  changeLast := by
    intro d f hd hf
    refine ⟨?_, hd.rows⟩
    have hcolumns : (d.changeLast f).table.columns.map Column.name = d.table.columns.map Column.name :=
      (keeps_changeLast d hf).columns
    rw [Table.Named, Table.names, hcolumns]
    exact hd.named
  addUnique _ hd := ⟨hd.named, hd.rows⟩
  resolveUnique hd h := by
    obtain ⟨unique, rfl⟩ := eq_of_resolveUnique h
    exact ⟨hd.named, hd.rows⟩
  addForeignKey _ _ _ hd := ⟨hd.named, hd.rows⟩
  setAction _ _ hd := ⟨hd.named, hd.rows⟩

end TableService.Store
