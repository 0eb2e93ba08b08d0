/-
  Which tables can be reached by a path.

  * `segments_pathOf`: a path of segments has these; `Spells`: a segment is the encoded name of a
    table, as `segmentOf` is (`spells_segmentOf`).
  * `Route.ofPath?_table`, `Route.ofPath?_newRow`, `Route.ofPath?_row`: the routes of a table.  The
    segment `schema` is a route of its own, but only where nothing follows it.
  * `HandsTo`: a request is answered by a task on a table, once its body is read.
  * `reached_unless_schema`: so every registered table is reached by every request on it, except
    that the rows of a table under the segment `schema` cannot be read.
-/
import TableService.Proofs.Http.Vocabulary
import TableService.Proofs.Schema.Naming
import TableService.Proofs.Text.Percent

namespace TableService.Http

variable {σ : Type}

/-! ## Segments -/

/-- The path of segments. -/
def path : List String → String
  | [] => ""
  | e :: es => "/" ++ e ++ path es

/-- A text that is a segment of a path as it stands. -/
def IsSegment (e : String) : Prop := ∀ c ∈ e.toList, c ≠ '/' ∧ c ≠ '?' ∧ c ≠ '#'

instance (e : String) : Decidable (IsSegment e) := List.decidableBAll _ _

theorem toList_path_cons (e : String) (es : List String) :
    (path (e :: es)).toList = '/' :: (e.toList ++ (path es).toList) := by
  simp [path]

/-- A text without a slash stays together, and what follows it is cut as before. -/
theorem segments_append {cs rest : List Char} {head : String} {tail : List String}
    (h : ∀ c ∈ cs, c ≠ '/') (hrest : segments rest = head :: tail) :
    segments (cs ++ rest) = String.ofList (cs ++ head.toList) :: tail := by
  induction cs with
  | nil => rw [List.nil_append, List.nil_append, String.ofList_toList, hrest]
  | cons c cs ih =>
    rw [List.forall_mem_cons] at h
    rw [List.cons_append, segments, ih h.2]
    simp only [if_neg h.1, String.toList_ofList, List.cons_append]

theorem segments_path {es : List String} (h : ∀ e ∈ es, IsSegment e) :
    segments (path es).toList = "" :: es := by
  induction es with
  | nil => rfl
  | cons e es ih =>
    rw [List.forall_mem_cons] at h
    rw [toList_path_cons, segments, segments_append (fun c hc => (h.1 c hc).1) (ih h.2)]
    simp

theorem pathOf_path {es : List String} (h : ∀ e ∈ es, IsSegment e) :
    pathOf (path es) = (path es).toList := by
  rw [pathOf, List.takeWhile_eq_self_iff]
  induction es with
  | nil => exact List.forall_mem_nil _
  | cons e es ih =>
    rw [List.forall_mem_cons] at h
    rw [toList_path_cons, List.forall_mem_cons, List.forall_mem_append]
    exact ⟨by decide, fun c hc => by simpa using (h.1 c hc).2, ih h.2⟩

/-- **A path of segments has these segments.** -/
theorem segments_pathOf {es : List String} (h : ∀ e ∈ es, IsSegment e) :
    segments (pathOf (path es)) = "" :: es := by
  rw [pathOf_path h, segments_path h]

/-! ## Names -/

/-- A segment is the name of a table, percent-encoded. -/
structure Spells (e name : String) : Prop where
  isSegment : IsSegment e
  reads : Text.ofPercent? e = some name

/-- A character that stands for itself in every part of a path. -/
def isUnreserved (c : Char) : Bool := c.isAlphanum || "-._~".toList.contains c

/-- The segment of a name, with as much encoded as may be. -/
def segmentOf (name : String) : String :=
  String.ofList (Text.percentEncoded (fun c => !isUnreserved c) name.toList)

/-- **Every name is spelled by a segment.** -/
theorem spells_segmentOf (name : String) : Spells (segmentOf name) name := by
  refine ⟨fun c hc => ?_, Text.ofPercent?_percentEncoded (by decide) name⟩
  rw [segmentOf, String.toList_ofList] at hc
  have hne : ∀ d, ¬ (d = '%' ∨ d.isAlphanum = true ∨ (!isUnreserved d) = false) → c ≠ d := by
    rintro d hd rfl
    exact hd (Text.mem_percentEncoded hc)
  exact ⟨hne _ (by decide), hne _ (by decide), hne _ (by decide)⟩

theorem spells_schema : Spells "schema" "schema" := ⟨by decide, by decide +kernel⟩

/-- The segment of a name is `schema` exactly for this name. -/
theorem segmentOf_eq_schema_iff {name : String} : segmentOf name = "schema" ↔ name = "schema" := by
  constructor
  · intro h
    have hreads := (spells_segmentOf name).reads
    rw [h, spells_schema.reads] at hreads
    exact (Option.some.inj hreads).symm
  · rintro rfl
    decide +kernel

theorem Spells.ne_empty {e name : String} (h : Spells e name) (hname : name ≠ "") : e ≠ "" := by
  rintro rfl
  exact hname (Option.some.inj (h.reads.symm.trans (Text.ofPercent?_eq_empty_iff.2 rfl)))

theorem Spells.parameter {e name : String} (h : Spells e name) : parameter e = .ok name := by
  rw [Http.parameter, h.reads]

theorem idParameter_eq {text t : String} {i : Int} (ht : parameter text = .ok t)
    (hi : integerOf t.toList = some i)
    (hrange : -0x8000000000000000 ≤ i ∧ i < 0x8000000000000000) :
    idParameter text = .ok (Int64.ofInt i) := by
  unfold idParameter
  rw [ht]
  simp only [bind, Except.bind, hi, if_pos hrange]
  rfl

/-- A segment is the key of a row. -/
structure SpellsKey (i : String) (id : Int64) : Prop where
  isSegment : IsSegment i
  reads : idParameter i = .ok id

/-- The digits of a key are its segment. -/
theorem spellsKey_intText (id : Int64) : SpellsKey (String.ofList (intText id.toInt)) id := by
  have hplain : ∀ c ∈ intText id.toInt, c ≠ '/' ∧ c ≠ '?' ∧ c ≠ '#' ∧ c ≠ '%' := by
    intro c hc
    have hne : ∀ d, ¬ (d = '-' ∨ d.isDigit = true) → c ≠ d := by
      rintro d hd rfl
      exact hd (mem_intText hc)
    exact ⟨hne _ (by decide), hne _ (by decide), hne _ (by decide), hne _ (by decide)⟩
  refine ⟨fun c hc => ?_, ?_⟩
  · rw [String.toList_ofList] at hc
    exact ⟨(hplain c hc).1, (hplain c hc).2.1, (hplain c hc).2.2.1⟩
  · have hread : parameter (String.ofList (intText id.toInt)) =
        .ok (String.ofList (intText id.toInt)) := by
      rw [parameter, Text.ofPercent?_plain]
      intro c hc
      rw [String.toList_ofList] at hc
      exact (hplain c hc).2.2.2
    have hrange : -0x8000000000000000 ≤ id.toInt ∧ id.toInt < 0x8000000000000000 :=
      ⟨id.le_toInt, id.toInt_lt⟩
    rw [idParameter_eq hread (by rw [String.toList_ofList, integerOf_intText]) hrange,
      Int64.ofInt_toInt]

theorem SpellsKey.ne_empty {i : String} {id : Int64} (h : SpellsKey i id) : i ≠ "" := by
  rintro rfl
  have hempty : idParameter "" = .error (.rejected 400) := by decide +kernel
  cases hempty.symm.trans h.reads

theorem SpellsKey.ne_new {i : String} {id : Int64} (h : SpellsKey i id) : i ≠ "new" := by
  rintro rfl
  have hnew : idParameter "new" = .error (.rejected 400) := by decide +kernel
  cases hnew.symm.trans h.reads

/-! ## Routes -/

section
variable {e : String} (he : IsSegment e) (hne : e ≠ "")
include he hne

theorem Route.ofPath?_table (hschema : e ≠ "schema") :
    Route.ofPath? (path ["api", e]) = some (.table e) := by
  have hsegments : segments (pathOf (path ["api", e])) = ["", "api", e] :=
    segments_pathOf (by simpa [he] using by decide)
  unfold Route.ofPath?
  rw [hsegments]
  simp [hne]

theorem Route.ofPath?_newRow : Route.ofPath? (path ["api", e, "new"]) = some (.newRow e) := by
  have hsegments : segments (pathOf (path ["api", e, "new"])) = ["", "api", e, "new"] :=
    segments_pathOf (by simpa [he] using by decide)
  unfold Route.ofPath?
  rw [hsegments]
  simp [hne]

theorem Route.ofPath?_row {i : String} {id : Int64} (hi : SpellsKey i id) :
    Route.ofPath? (path ["api", e, i]) = some (.row e i) := by
  have hsegments : segments (pathOf (path ["api", e, i])) = ["", "api", e, i] :=
    segments_pathOf (by simpa [he, hi.isSegment] using by decide)
  unfold Route.ofPath?
  rw [hsegments]
  simp [hne, hi.ne_empty, hi.ne_new]

end

theorem Route.ofPath?_schema : Route.ofPath? (path ["api", "schema"]) = some .schema := by decide

/-! ## Requests on a table -/

/-- A request is handed to a task on a table: once the task is read, it is the answer. -/
def HandsTo (s : Service σ) (r : Request) (table : String) (t : Except Response Task) : Prop :=
  ∀ w, (respond s r).run w = match t with
    | .error x => (x, w)
    | .ok t => (r.finish ((t.perform s table).outcome w).1, ((t.perform s table).outcome w).2)

/-- A request is handed to the task that it asks of an endpoint. -/
theorem handsTo_of_route {r : Request} {route : Route} {endpoint : Endpoint} {table : String}
    {t : Except Response Task} (hroute : Route.ofPath? r.target = some route)
    (hendpoint : Endpoint.of? r.method route = some endpoint) (hmethod : r.method ≠ .options)
    (h : endpoint.asked r = t.map (Asked.rows table)) (s : Service σ) : HandsTo s r table t := by
  have hasked : r.asked = t.map (Asked.rows table) := by
    rw [Request.asked, if_neg hmethod, hroute]
    simp only [hendpoint, h]
  intro w
  rw [respond_eq, hasked]
  cases t <;> rfl

section
variable {e name : String} (he : Spells e name) (r : Request)
include he

theorem Spells.asked_readRows : (Endpoint.readRows e).asked r =
    ((bodyAs ReadOptions.shape r).map Task.read).map (Asked.rows name) := by
  rw [Endpoint.asked, he.parameter]
  cases bodyAs ReadOptions.shape r <;> rfl

theorem Spells.asked_createRow : (Endpoint.createRow e).asked r =
    ((bodyAs Shape.row r).map Task.create).map (Asked.rows name) := by
  rw [Endpoint.asked, he.parameter]
  cases bodyAs Shape.row r <;> rfl

variable {i : String} {id : Int64} (hi : SpellsKey i id)
include hi

theorem Spells.asked_getRow : (Endpoint.getRow e i).asked r =
    (Except.ok (Task.get id)).map (Asked.rows name) := by
  rw [Endpoint.asked, he.parameter, hi.reads]
  rfl

theorem Spells.asked_updateRow : (Endpoint.updateRow e i).asked r =
    ((bodyAs Shape.row r).map (Task.update id)).map (Asked.rows name) := by
  rw [Endpoint.asked, he.parameter, hi.reads]
  cases bodyAs Shape.row r <;> rfl

theorem Spells.asked_deleteRow : (Endpoint.deleteRow e i).asked r =
    (Except.ok (Task.delete id)).map (Asked.rows name) := by
  rw [Endpoint.asked, he.parameter, hi.reads]
  rfl

end

/-- The requests on the rows of a table under a segment are handed to their tasks, reads apart. -/
structure ServesRows (s : Service σ) (e name : String) : Prop where
  create : ∀ r : Request, r.method = .post → r.target = path ["api", e, "new"] →
    HandsTo s r name ((bodyAs Shape.row r).map .create)
  get : ∀ (r : Request) i id, SpellsKey i id → r.method = .get → r.target = path ["api", e, i] →
    HandsTo s r name (.ok (.get id))
  update : ∀ (r : Request) i id, SpellsKey i id → r.method = .put → r.target = path ["api", e, i] →
    HandsTo s r name ((bodyAs Shape.row r).map (.update id))
  delete : ∀ (r : Request) i id, SpellsKey i id → r.method = .delete →
    r.target = path ["api", e, i] → HandsTo s r name (.ok (.delete id))

/-- The reads of a table under a segment are handed to their tasks. -/
def ServesReads (s : Service σ) (e name : String) : Prop :=
  ∀ r : Request, r.method = .post → r.target = path ["api", e] →
    HandsTo s r name ((bodyAs ReadOptions.shape r).map .read)

/-- The reads of a table under a segment are refused, as the method is not one of the route. -/
def RefusesReads (s : Service σ) (e : String) : Prop :=
  ∀ r : Request, r.method = .post → r.target = path ["api", e] →
    ∀ w, (respond s r).run w = (.rejected 405, w)

section
variable {e name : String} (he : Spells e name) (hname : name ≠ "") (s : Service σ)
include he hname

theorem Spells.servesRows : ServesRows s e name where
  create r hmethod htarget :=
    handsTo_of_route (htarget ▸ Route.ofPath?_newRow he.isSegment (he.ne_empty hname))
      (by rw [hmethod]; rfl) (by rw [hmethod]; decide) (he.asked_createRow r) s
  get r i id hi hmethod htarget :=
    handsTo_of_route (htarget ▸ Route.ofPath?_row he.isSegment (he.ne_empty hname) hi)
      (by rw [hmethod]; rfl) (by rw [hmethod]; decide) (he.asked_getRow r hi) s
  update r i id hi hmethod htarget :=
    handsTo_of_route (htarget ▸ Route.ofPath?_row he.isSegment (he.ne_empty hname) hi)
      (by rw [hmethod]; rfl) (by rw [hmethod]; decide) (he.asked_updateRow r hi) s
  delete r i id hi hmethod htarget :=
    handsTo_of_route (htarget ▸ Route.ofPath?_row he.isSegment (he.ne_empty hname) hi)
      (by rw [hmethod]; rfl) (by rw [hmethod]; decide) (he.asked_deleteRow r hi) s

theorem Spells.servesReads (hschema : e ≠ "schema") : ServesReads s e name := by
  intro r hmethod htarget
  exact handsTo_of_route (htarget ▸ Route.ofPath?_table he.isSegment (he.ne_empty hname) hschema)
    (by rw [hmethod]; rfl) (by rw [hmethod]; decide) (he.asked_readRows r) s

end

theorem refusesReads_schema (s : Service σ) : RefusesReads s "schema" := by
  intro r hmethod htarget w
  have hasked : r.asked = .error (.rejected 405) := by
    rw [Request.asked, if_neg (by rw [hmethod]; decide), htarget, Route.ofPath?_schema]
    simp only [hmethod, Endpoint.of?]
  exact respond_refused hasked

/-- **Every registered table is reached by every request on it, except for the reads of one under the
segment `schema`.**  A service has been started on a database that creates tables under valid names
only, as all drivers do.  Then each of its tables has a segment that spells its name, and each key has
one of its digits.  Under every segment of a table the requests that create a row, and those that get,
update or delete the row with a key, are handed to their tasks on this table.  So are the reads, unless
the segment is `schema`, which it is for no other table than the one of this name: these reads are
refused with the status 405. -/
theorem reached_unless_schema {db : Database σ} (hdb : db.ChecksNames) {ctx : Schema.Context}
    {doc : Schema.Document} {w w' : Logged σ} {registry : Registry}
    (h : (Schema.start db ctx doc).outcome w = (.ok registry, w')) {name : String}
    {t : TableDescription} (ht : registry.get? name = some t) :
    (Spells (segmentOf name) name ∧ (segmentOf name = "schema" ↔ name = "schema")) ∧
    (∀ id : Int64, SpellsKey (String.ofList (intText id.toInt)) id) ∧
    ∀ e, Spells e name → ServesRows ⟨db, registry⟩ e name ∧
      (e ≠ "schema" → ServesReads ⟨db, registry⟩ e name) ∧
      (e = "schema" → name = "schema" ∧ RefusesReads ⟨db, registry⟩ e) := by
  have hname : name ≠ "" := (Schema.valid_registered hdb h ht).1
  refine ⟨⟨spells_segmentOf name, segmentOf_eq_schema_iff⟩, spellsKey_intText, fun e he =>
    ⟨he.servesRows hname _, he.servesReads hname _, ?_⟩⟩
  rintro rfl
  exact ⟨Option.some.inj (he.reads.symm.trans spells_schema.reads), refusesReads_schema _⟩

/-! ## A table with the name of a route -/

/-- Rooms and their schema. -/
def floors : Schema.Document := ⟨[⟨"rooms", []⟩, ⟨"schema", []⟩]⟩

def floorPlans : List Schema.Plan := [⟨"rooms", [], []⟩, ⟨"schema", [], []⟩]

theorem floors_plans : floors.plans ⟨[], none⟩ = .ok floorPlans := by decide +kernel

theorem floors_emission : Schema.Emission [] floorPlans floorPlans [] :=
  @Schema.Emission.emit [] [] ⟨"rooms", [], []⟩ [⟨"schema", [], []⟩] _ _ (by decide) (by decide)
    (@Schema.Emission.emit ["rooms"] [] ⟨"schema", [], []⟩ [] _ _ (by decide) (by decide)
      (.done (by decide)))

/-- The registry of the floors. -/
def floorRegistry : Registry := Schema.register .sqlite floorPlans .empty

theorem floors_start : ∃ w, (Schema.start (.script .sqlite) ⟨[], none⟩ floors).outcome ⟨[], []⟩ =
    (.ok floorRegistry, w) := by
  rw [Schema.start_eq, Schema.compile_eq floors_plans, floors_emission.createAll_eq]
  exact ⟨_, rfl⟩

/-- The rooms are read and changed, the schema only changed. -/
theorem floors_reached : (∃ t, floorRegistry.get? "rooms" = some t) ∧
    ServesReads ⟨.script .sqlite, floorRegistry⟩ "rooms" "rooms" ∧
    ServesRows ⟨.script .sqlite, floorRegistry⟩ "schema" "schema" ∧
    RefusesReads ⟨.script .sqlite, floorRegistry⟩ "schema" := by
  obtain ⟨w, hstart⟩ := floors_start
  obtain ⟨rooms, hrooms⟩ : ∃ t, floorRegistry.get? "rooms" = some t :=
    Option.isSome_iff_exists.1 (by decide +kernel)
  obtain ⟨schema, hschema⟩ : ∃ t, floorRegistry.get? "schema" = some t :=
    Option.isSome_iff_exists.1 (by decide +kernel)
  obtain ⟨-, -, hr⟩ := reached_unless_schema (checksNames_script _) hstart hrooms
  obtain ⟨-, -, hs⟩ := reached_unless_schema (checksNames_script _) hstart hschema
  obtain ⟨hrows, -, hrefused⟩ := hs "schema" spells_schema
  exact ⟨⟨rooms, hrooms⟩, (hr "rooms" ⟨by decide, by decide +kernel⟩).2.1 (by decide), hrows,
    (hrefused rfl).2⟩

/-- The schema is registered under the segment of its name, but a read of it is refused although its
body is right, and not answered by what the service reads. -/
theorem schema_not_read : (∃ w, (Schema.start (.script .sqlite) ⟨[], none⟩ floors).outcome ⟨[], []⟩ =
      (.ok floorRegistry, w)) ∧ "schema" ∈ floorRegistry.names ∧ segmentOf "schema" = "schema" ∧
    (bodyAs ReadOptions.shape (shopRequest .post "/api/schema" "{}")).isOk = true ∧
    ((respond ⟨.script .sqlite, floorRegistry⟩ (shopRequest .post "/api/schema" "{}")).run
      ⟨[], []⟩).1 = .rejected 405 ∧
    ¬ ServesReads (⟨.script .sqlite, floorRegistry⟩ : Service (List String)) "schema" "schema" := by
  have hanswer : ((respond ⟨.script .sqlite, floorRegistry⟩
      (shopRequest .post "/api/schema" "{}")).run ⟨[], []⟩).1 = .rejected 405 := by
    decide +kernel
  refine ⟨floors_start, by decide +kernel, by decide +kernel, by decide +kernel, hanswer,
    fun h => ?_⟩
  have hread := congrArg Prod.fst (h (shopRequest .post "/api/schema" "{}") rfl (by decide)
    ⟨[], []⟩)
  rw [hanswer] at hread
  revert hread
  decide +kernel

end TableService.Http
