/-
  The tables that a start leaves in an empty embedded database.

  * `BareType`: a declared type of words, with sizes in brackets.
  * `Reflects`: the tables of a store are those of plans, each with the columns of its plan, and for
    every plan there is one that the engine finds under its name; `reflects_createEach`: creating
    plans keeps this.
  * `actual_columns`: the registered tables have their own columns exactly if those whose names differ
    only in the case of letters have the same ones; the registry tells such names apart, and the
    engine does not.
-/
import TableService.Proofs.Schema.Registration
import TableService.Proofs.Store.Change
import TableService.Proofs.Store.Declared

namespace TableService

namespace Store

/-! ## Names -/

theorem sameName_iff {a b : String} :
    sameName a b = true ↔ Text.lowerAscii a = Text.lowerAscii b := beq_iff_eq

theorem sameName_symm {a b : String} (h : sameName a b = true) : sameName b a = true :=
  sameName_iff.2 (sameName_iff.1 h).symm

theorem sameName_trans {a b c : String} (h : sameName a b = true) (h' : sameName b c = true) :
    sameName a c = true :=
  sameName_iff.2 ((sameName_iff.1 h).trans (sameName_iff.1 h'))

/-- A table has the name under which it is found. -/
theorem sameName_of_find? {s : Contents} {name : String} {t : Table} (h : s.find? name = some t) :
    sameName name t.name = true :=
  List.find?_some (p := fun u : Table => sameName name u.name) h

/-- A table is found under any name that is the same to the engine. -/
theorem find?_sameName {a b : String} (h : sameName a b = true) (s : Contents) :
    s.find? a = s.find? b := by
  have hlower : Text.lowerAscii a = Text.lowerAscii b := sameName_iff.1 h
  have hsame : (fun t : Table => sameName a t.name) = fun t => sameName b t.name := by
    funext t
    rw [sameName, sameName, hlower]
  rw [Contents.find?, Contents.find?, hsame]

/-- Creating a table succeeds on a store, which has the table afterwards. -/
theorem createTable_ok {name : String} {definitions : List String} {w w' : Logged Connection}
    (h : (database.createTable name definitions).outcome w = (.ok (), w')) :
    ∃ table s s', table.name = name ∧ w.state = .open s ∧ w'.state = .open s' ∧
      s.create table definitions = .ok s' := by
  obtain ⟨table, hcheck, h⟩ := Action.outcome_ofQuery_bind_eq_ok.1 h
  obtain ⟨s, s', hs, hcreate, rfl⟩ := changing_eq_ok.1 h
  obtain ⟨s'', hs'', hcreate⟩ := bind_eq_ok.1 hcreate
  cases hcreate
  exact ⟨table, s, s', Identifier.name_of_ofName hcheck, hs, rfl, hs''⟩

end Store

namespace Schema

open Store (Bare HasBareType sameName)

/-! ## Types -/

/-- The declared type, without blanks around it, is words, with sizes in brackets. -/
def BareType (type : String) : Prop := Bare false (Text.trim type).toList

/-- A single word is a bare type. -/
theorem bare_word {w : List Char} (h : Store.Token.isWordText w = true) : Bare false w := by
  rw [← List.append_nil w]
  exact .word h Store.Token.ends_nil .nil

theorem bare_longText : Bare false Dialect.sqlite.longText.toList := bare_word (by decide)

theorem bare_datetime : Bare false Dialect.sqlite.datetime.toList := by
  have hwhole : Dialect.sqlite.datetime.toList = "VARCHAR".toList ++ '(' :: ("30".toList ++ [')']) := by
    decide
  have hnumber : Bare true ("30".toList ++ [')']) :=
    .number (by decide) (Store.Token.ends_cons _ (by decide)) (.leave .nil)
  rw [hwhole]
  exact .word (by decide) (Store.Token.ends_cons _ (by decide)) (.enter hnumber)

theorem hasBareType {x : Field × String} {c : PhysicalColumn} (h : Realizes x c)
    (hx : BareType x.1.type) : HasBareType c := by
  unfold HasBareType PhysicalColumn.description FieldDescription.ofDeclaration
  rw [h.type]
  split
  · exact bare_longText
  · exact bare_longText
  · exact bare_datetime
  · exact hx

/-- The plans of a document with bare types have columns with bare types. -/
theorem hasBareType_plans {ctx : Context} {doc : Document} {plans : List Plan}
    (hp : doc.plans ctx = .ok plans) (h : ∀ t ∈ doc.tables, ∀ f ∈ t.fields, BareType f.type) :
    ∀ p ∈ plans, ∀ c ∈ p.columns, HasBareType c := by
  intro p hmem c hc
  obtain ⟨t, ht, hplan⟩ := forall₂_mem_right (Document.plans_eq_ok.1 hp).2 p hmem
  obtain ⟨x, hx, hrealizes⟩ := forall₂_mem_right (planTable_columns hplan) c hc
  obtain ⟨f, hf, hfield⟩ := List.mem_flatMap.1 hx
  obtain ⟨n, -, rfl⟩ := List.mem_map.1 hfield
  exact hasBareType hrealizes (h t ht f hf)

/-! ## Creation -/

/-- The tables of a store are those of plans, each with the columns of its plan, and there is one for
every plan that the engine finds under its name. -/
structure Reflects (s : Store.Contents) (plans : List Plan) : Prop where
  found : ∀ p ∈ plans, ∃ t, s.find? p.name = some t
  planned : ∀ t ∈ s.tables, ∃ p ∈ plans, t.name = p.name ∧
    t.names = Store.keyName :: names p.columns

theorem reflects_nil : Reflects ⟨[]⟩ [] := ⟨nofun, nofun⟩

/-- **Creating a plan keeps this**, whether or not there is a table of its name. -/
theorem Reflects.create {s s' : Store.Contents} {plans : List Plan} {p : Plan} {table : Identifier}
    (h : Reflects s plans) (hbare : ∀ c ∈ p.columns, HasBareType c) (hname : table.name = p.name)
    (hs : s.create table (p.definitions .sqlite) = .ok s') : Reflects s' (plans ++ [p]) := by
  obtain ⟨hextends, hfound⟩ := Store.create_extends hs
  constructor
  · intro q hq
    rcases List.mem_append.1 hq with hq | hq
    · obtain ⟨t, ht⟩ := h.found q hq
      exact ⟨t, hextends.find? ht⟩
    · obtain rfl := List.mem_singleton.1 hq
      rw [← hname]
      exact Option.isSome_iff_exists.1 hfound
  · have hplanned : ∀ t ∈ s.tables, ∃ q ∈ plans ++ [p], t.name = q.name ∧
        t.names = Store.keyName :: names q.columns := by
      intro t ht
      obtain ⟨q, hq, hqt⟩ := h.planned t ht
      exact ⟨q, List.mem_append_left _ hq, hqt⟩
    cases hnone : s.find? table.name with
    | some t =>
      obtain rfl : s' = s := by
        obtain ⟨-, d, -, rfl⟩ := Store.create_eq_ok.1 hs
        rw [hnone]
        rfl
      exact hplanned
    | none =>
      obtain ⟨t, htables, htname, htnames⟩ := Store.create_columns hbare hnone hs
      intro u hu
      rw [htables] at hu
      rcases List.mem_append.1 hu with hu | hu
      · exact hplanned u hu
      · obtain rfl := List.mem_singleton.1 hu
        exact ⟨p, by simp, htname.trans hname, htnames⟩

theorem reflects_createEach {order plans : List Plan} {s : Store.Contents} {w w' : Logged Store.Connection}
    (hbare : ∀ p ∈ order, ∀ c ∈ p.columns, HasBareType c) (hw : w.state = .open s)
    (h : Reflects s plans) (hrun : (createEach Store.database order).outcome w = (.ok (), w')) :
    ∃ s', w'.state = .open s' ∧ Reflects s' (plans ++ order) := by
  induction order generalizing plans s w with
  | nil =>
    cases hrun
    exact ⟨s, hw, by rwa [List.append_nil]⟩
  | cons p order ih =>
    obtain ⟨hp, horder⟩ := List.forall_mem_cons.1 hbare
    obtain ⟨_, w₁, hcreate, hrun⟩ := Action.outcome_bind_eq_ok.1 hrun
    rw [Action.outcome_bind_ok (Action.outcome_info _ _)] at hrun
    obtain ⟨table, s₀, s₁, hname, hs₀, hs₁, hs⟩ := Store.createTable_ok hcreate
    obtain rfl : s = s₀ := by
      cases hw.symm.trans hs₀
      rfl
    have hlogged : (Logged.mk w₁.state (w₁.log ++ [⟨.info, "Created table " ++ p.name⟩])).state =
        .open s₁ := hs₁
    obtain ⟨s', hs', hreflects⟩ := ih horder hlogged (h.create hp hname hs) hrun
    exact ⟨s', hs', by rwa [List.append_assoc] at hreflects⟩

/-! ## Starts -/

theorem names_description {ctx : Context} {doc : Document} {plans : List Plan}
    (hp : doc.plans ctx = .ok plans) {p : Plan} (hmem : p ∈ plans) (d : Dialect) :
    (p.description d).names = keyName :: names p.columns := by
  obtain ⟨t, -, hplan⟩ := forall₂_mem_right (Document.plans_eq_ok.1 hp).2 p hmem
  rw [Named.names, description_entries hplan, List.map_cons, List.map_map]
  rfl

/-- A start on an empty database that succeeds leaves tables that reflect what it registers. -/
theorem reflects_start {ctx : Context} {doc : Document} {registry : Registry} {log : List LogLine}
    {w' : Logged Store.Connection} (hexempt : ctx.exempt = [])
    (hbare : ∀ t ∈ doc.tables, ∀ f ∈ t.fields, BareType f.type)
    (h : (start Store.database ctx doc).outcome ⟨.open ⟨[]⟩, log⟩ = (.ok registry, w')) :
    ∃ s plans, w'.state = .open s ∧ Reflects s plans ∧
      (∀ p ∈ plans, (p.description .sqlite).names = keyName :: names p.columns) ∧
      ∀ name d, registry.get? name = some d ↔
        ∃ p ∈ plans, p.name = name ∧ p.description .sqlite = d := by
  obtain ⟨plans, order, w₁, w₂, hp, hem, hrequire, hcreate, hstate, -⟩ := start_ok h
  have hw₁ : w₁.state = .open ⟨[]⟩ := by
    rw [hexempt] at hrequire
    cases hrequire
    rfl
  have horder : ∀ p, p ∈ order ↔ p ∈ plans := fun p => by
    rw [← hem.perm.mem_iff, List.append_nil]
  have hbare := hasBareType_plans hp hbare
  obtain ⟨s, hs, hreflects⟩ :=
    reflects_createEach (fun p hmem => hbare p ((horder p).1 hmem)) hw₁ reflects_nil hcreate
  refine ⟨s, order, hstate.trans hs, hreflects,
    fun p hmem => names_description hp ((horder p).1 hmem) .sqlite, fun name d => ?_⟩
  rw [get?_start h]
  constructor
  · rintro ⟨plans', hp', p, hmem, hname, hd⟩
    obtain rfl : plans = plans' := Except.ok.inj (hp.symm.trans hp')
    exact ⟨p, (horder p).2 hmem, hname, hd⟩
  · rintro ⟨p, hmem, hname, hd⟩
    exact ⟨plans, hp, p, (horder p).1 hmem, hname, hd⟩

/-- **The tables after a start on an empty database.**  Under every registered name there is a table,
and every table has the columns that are registered under its own name.  All registered tables have
their own columns exactly if those whose names the engine does not tell apart have the same ones. -/
theorem actual_columns {ctx : Context} {doc : Document} {registry : Registry} {log : List LogLine}
    {w' : Logged Store.Connection} (hexempt : ctx.exempt = [])
    (hbare : ∀ t ∈ doc.tables, ∀ f ∈ t.fields, BareType f.type)
    (h : (start Store.database ctx doc).outcome ⟨.open ⟨[]⟩, log⟩ = (.ok registry, w')) :
    ∃ s, w'.state = .open s ∧
      (∀ name d, registry.get? name = some d → ∃ t, s.find? name = some t) ∧
      (∀ t ∈ s.tables, ∃ d, registry.get? t.name = some d ∧ t.names = d.names) ∧
      ((∀ name d t, registry.get? name = some d → s.find? name = some t → t.names = d.names) ↔
        ∀ a b d e, registry.get? a = some d → registry.get? b = some e → sameName a b = true →
          d.names = e.names) := by
  obtain ⟨s, plans, hs, hreflects, hnames, hregistry⟩ := reflects_start hexempt hbare h
  have hfound : ∀ name d, registry.get? name = some d → ∃ t, s.find? name = some t := by
    intro name d hd
    obtain ⟨p, hp, rfl, -⟩ := (hregistry name d).1 hd
    exact hreflects.found p hp
  have hown : ∀ t ∈ s.tables, ∃ d, registry.get? t.name = some d ∧ t.names = d.names := by
    intro t ht
    obtain ⟨p, hp, hname, hcolumns⟩ := hreflects.planned t ht
    exact ⟨p.description .sqlite, (hregistry _ _).2 ⟨p, hp, hname.symm, rfl⟩,
      hcolumns.trans (hnames p hp).symm⟩
  refine ⟨s, hs, hfound, hown, ?_, ?_⟩
  · intro hactual a b d e ha hb hab
    obtain ⟨t, ht⟩ := hfound a d ha
    have htb : s.find? b = some t := by
      rw [← Store.find?_sameName hab, ht]
    exact (hactual a d t ha ht).symm.trans (hactual b e t hb htb)
  · intro hsame name d t hd ht
    have hname : sameName name t.name = true :=
      List.find?_some (p := fun u : Store.Table => sameName name u.name) ht
    obtain ⟨e, he, hcolumns⟩ := hown t (List.mem_of_find?_eq_some ht)
    exact hcolumns.trans (hsame name t.name d e hd he hname).symm

/-- Notes with their titles, and pages with their numbers. -/
def diary : Document :=
  ⟨[⟨"notes", [.column ⟨"title", "TEXT", false, false, false⟩]⟩,
    ⟨"pages", [.column ⟨"number", "INTEGER", false, false, false⟩]⟩]⟩

theorem bareType_text : BareType "TEXT" := by
  have htrim : (Text.trim "TEXT").toList = "TEXT".toList := by decide +kernel
  rw [BareType, htrim]
  exact bare_word (by decide)

theorem bareType_integer : BareType "INTEGER" := by
  have htrim : (Text.trim "INTEGER").toList = "INTEGER".toList := by decide +kernel
  rw [BareType, htrim]
  exact bare_word (by decide)

/-- The notes and the pages of a diary have their own columns. -/
theorem diary_actual : ∃ registry s log,
    (start Store.database ⟨[], none⟩ diary).outcome ⟨.open ⟨[]⟩, []⟩ =
        (.ok registry, ⟨.open s, log⟩) ∧ registry.names = ["notes", "pages"] ∧
      ∀ name d t, registry.get? name = some d → s.find? name = some t → t.names = d.names := by
  have hbare : ∀ t ∈ diary.tables, ∀ f ∈ t.fields, BareType f.type := by
    simp only [diary, List.forall_mem_cons, List.not_mem_nil, false_implies, implies_true, and_true]
    exact ⟨bareType_text, bareType_integer⟩
  rcases hrun : (start Store.database ⟨[], none⟩ diary).outcome ⟨.open ⟨[]⟩, []⟩ with ⟨r, c, log⟩
  have hok : ((start Store.database ⟨[], none⟩ diary).outcome ⟨.open ⟨[]⟩, []⟩).1.toOption.map
      Record.names = some ["notes", "pages"] := by decide +kernel
  rw [hrun] at hok
  cases r with
  | error e => cases hok
  | ok registry =>
    have hnames : registry.names = ["notes", "pages"] := Option.some.inj hok
    obtain ⟨s, hs, -, -, hactual⟩ := actual_columns rfl hbare hrun
    obtain rfl : c = .open s := hs
    refine ⟨registry, s, log, rfl, hnames, hactual.2 ?_⟩
    have hmem : ∀ {n d}, registry.get? n = some d → n = "notes" ∨ n = "pages" := by
      intro n d hd
      have hn := Record.mem_names_of_get? hd
      simpa [hnames] using hn
    have happart : sameName "notes" "pages" = false ∧ sameName "pages" "notes" = false := by
      decide +kernel
    intro a b d e ha hb hab
    have hsame : a = b := by
      rcases hmem ha with rfl | rfl <;> rcases hmem hb with rfl | rfl
      · rfl
      · cases happart.1.symm.trans hab
      · cases happart.2.symm.trans hab
      · rfl
    subst hsame
    rw [Option.some.inj (ha.symm.trans hb)]

/-- Two tables whose names differ only in the case of a letter. -/
def notebooks : Document :=
  ⟨[⟨"Notes", [.column ⟨"a", "TEXT", false, false, false⟩]⟩,
    ⟨"notes", [.column ⟨"b", "TEXT", false, false, false⟩]⟩]⟩

/-- A start that succeeds leaves one table for both, with the columns of the first, though the second is
registered with its own. -/
theorem notebooks_share_table : (∀ t ∈ notebooks.tables, ∀ f ∈ t.fields, BareType f.type) ∧
    ∃ registry s log, (start Store.database ⟨[], none⟩ notebooks).outcome ⟨.open ⟨[]⟩, []⟩ =
        (.ok registry, ⟨.open s, log⟩) ∧
      (registry.get? "notes").map Named.names = some ["id", "b"] ∧
      (s.find? "notes").map Store.Table.names = some ["id", "a"] := by
  constructor
  · simp only [notebooks, List.forall_mem_cons, List.not_mem_nil, false_implies, implies_true,
      and_true]
    exact ⟨bareType_text, bareType_text⟩
  · have hregistered : ((start Store.database ⟨[], none⟩ notebooks).outcome
        ⟨.open ⟨[]⟩, []⟩).1.toOption.map (fun registry => (registry.get? "notes").map Named.names) =
          some (some ["id", "b"]) := by decide +kernel
    have hactual : ((start Store.database ⟨[], none⟩ notebooks >>= fun _ => Store.opened).outcome
        ⟨.open ⟨[]⟩, []⟩).1.toOption.map (fun s => (s.find? "notes").map Store.Table.names) =
          some (some ["id", "a"]) := by decide +kernel
    rcases hrun : (start Store.database ⟨[], none⟩ notebooks).outcome ⟨.open ⟨[]⟩, []⟩ with
      ⟨e | registry, c, log⟩
    case error =>
      rw [hrun] at hregistered
      cases hregistered
    case ok =>
      rw [hrun] at hregistered
      rw [Action.outcome_bind_ok hrun] at hactual
      cases c with
      | «open» s => exact ⟨registry, s, log, rfl, Option.some.inj hregistered, Option.some.inj hactual⟩
      | closed => cases hactual
      | unreadable => cases hactual

end Schema

end TableService
