/-
  Starting again on the embedded database.

  * `Repeats`: an action that is taken again, on what it has left or, if it succeeded, on anything
    later, comes to the same without changing anything; `composes_repeats`: so it is with actions
    put together.
  * `repeats_createTable` is so since a table that exists is not created, `repeats_requireTable`
    since tables stay.
  * `start_again`: a start that is repeated results in the same and leaves the database as it is.
-/
import TableService.Proofs.Schema.Start
import TableService.Proofs.Store.Change
import TableService.Proofs.Store.Creation

namespace TableService

variable {σ α β : Type}

/-! ## Repetition -/

/-- What an action on the watched state results in, the state that it leaves, the calls it makes and
the lines that it writes. -/
structure Leaves (b : Action (Watched σ) α) (w : Logged (Watched σ)) (r : Except Error α) (c : σ)
    (calls : List Call) (lines : List LogLine) : Prop where
  result : (b.outcome w).1 = r
  state : (b.outcome w).2.state.state = c
  calls : (b.outcome w).2.state.events.map Event.call = w.state.events.map Event.call ++ calls
  log : (b.outcome w).2.log = w.log ++ lines

/-- An action that is taken again comes to the same and changes nothing: on the state that it has
left, or if it succeeded, on any later one. -/
def Repeats (Later : σ → σ → Prop) (b : Action (Watched σ) α) : Prop :=
  ∀ w, ∃ r c calls lines, Leaves b w r c calls lines ∧ Later w.state.state c ∧
    ∀ w' : Logged (Watched σ), (r.isOk = true ∧ Later c w'.state.state ∨ w'.state.state = c) →
      Leaves b w' r w'.state.state calls lines

section
variable {b : Action (Watched σ) α} {g : α → Action (Watched σ) β} {w : Logged (Watched σ)}
  {c c' : σ} {calls calls' : List Call} {lines lines' : List LogLine}

theorem leaves_bind_ok {x : α} {r : Except Error β} (h : Leaves b w (.ok x) c calls lines)
    (hg : Leaves (g x) (b.outcome w).2 r c' calls' lines') :
    Leaves (b >>= g) w r c' (calls ++ calls') (lines ++ lines') := by
  have hbind : (b >>= g).outcome w = (g x).outcome (b.outcome w).2 :=
    Action.outcome_bind_ok (Prod.ext h.result rfl)
  constructor
  all_goals rw [hbind]
  · exact hg.result
  · exact hg.state
  · rw [hg.calls, h.calls, List.append_assoc]
  · rw [hg.log, h.log, List.append_assoc]

theorem leaves_bind_error {e : Error} (h : Leaves b w (.error e) c calls lines) :
    Leaves (b >>= g) w (.error e) c calls lines := by
  have hbind : (b >>= g).outcome w = (.error e, (b.outcome w).2) :=
    Action.outcome_bind_error (Prod.ext h.result rfl)
  constructor
  all_goals rw [hbind]
  · exact h.state
  · exact h.calls
  · exact h.log

end

section
variable {Later : σ → σ → Prop} (hrefl : ∀ c, Later c c)
  (htrans : ∀ c c' c'', Later c c' → Later c' c'' → Later c c'')

include hrefl in
theorem repeats_of_leaves {b : Action (Watched σ) α} {r : Except Error α} {lines : List LogLine}
    (h : ∀ w, Leaves b w r w.state.state [] lines) : Repeats Later b :=
  fun w => ⟨r, w.state.state, [], lines, h w, hrefl _, fun w' _ => h w'⟩

include htrans in
theorem Repeats.bind {b : Action (Watched σ) α} {g : α → Action (Watched σ) β}
    (h : Repeats Later b) (hg : ∀ x, Repeats Later (g x)) : Repeats Later (b >>= g) := by
  intro w
  obtain ⟨r, c, calls, lines, hleaves, hlater, hagain⟩ := h w
  cases r with
  | error e =>
    refine ⟨.error e, c, calls, lines, leaves_bind_error hleaves, hlater, fun w' hw' => ?_⟩
    exact leaves_bind_error (hagain w' hw')
  | ok x =>
    obtain ⟨r', c', calls', lines', hleaves', hlater', hagain'⟩ := hg x (b.outcome w).2
    rw [hleaves.state] at hlater'
    refine ⟨r', c', calls ++ calls', lines ++ lines', leaves_bind_ok hleaves hleaves',
      htrans _ _ _ hlater hlater', fun w' hw' => ?_⟩
    have hlater'' : Later c w'.state.state := by
      rcases hw' with ⟨-, h⟩ | h
      · exact htrans _ _ _ hlater' h
      · rwa [h]
    have hfirst := hagain w' (.inl ⟨rfl, hlater''⟩)
    have hsecond := hagain' (b.outcome w').2 (by rwa [hfirst.state])
    rw [hfirst.state] at hsecond
    exact leaves_bind_ok hfirst hsecond

include hrefl htrans in
/-- **What repeats is kept when actions are put together.** -/
theorem composes_repeats : Composes fun _ b (_ : Action σ _) => Repeats Later b where
  pure _ := repeats_of_leaves hrefl fun _ =>
    ⟨rfl, rfl, (List.append_nil _).symm, (List.append_nil _).symm⟩
  throw _ := repeats_of_leaves hrefl fun _ =>
    ⟨rfl, rfl, (List.append_nil _).symm, (List.append_nil _).symm⟩
  log _ _ := repeats_of_leaves hrefl fun _ => ⟨rfl, rfl, (List.append_nil _).symm, rfl⟩
  bind := Repeats.bind htrans

end

/-- A call that writes no line: what it results in, and the state that it leaves. -/
theorem leaves_watching {call : Call} {a : Action σ α} {w : Logged (Watched σ)}
    {r : Except Error α} {c : σ} (h : a.outcome w.unwatched = (r, ⟨c, w.log⟩)) :
    Leaves (watching call a) w r c [call] [] := by
  have hwatching := outcome_watching (c := call) h
  constructor
  all_goals rw [hwatching]
  · rw [List.map_append]
    rfl
  · exact (List.append_nil _).symm

namespace Store

/-! ## The embedded database -/

/-- The second connection is the first one, with more tables perhaps. -/
inductive Grown : Connection → Connection → Prop
  | refl (c : Connection) : Grown c c
  | tables {s s' : Contents} : Extends s s' → Grown (.open s) (.open s')

theorem grown_trans (c c' c'' : Connection) (h : Grown c c') (h' : Grown c' c'') :
    Grown c c'' := by
  cases h with
  | refl => exact h'
  | tables h =>
    cases h' with
    | refl => exact .tables h
    | tables h' => exact .tables (h.trans h')

theorem grown_open {s : Contents} {c : Connection} (h : Grown (.open s) c) :
    ∃ s', c = .open s' ∧ Extends s s' := by
  cases h with
  | refl => exact ⟨s, rfl, .refl s⟩
  | tables h => exact ⟨_, rfl, h⟩

/-- A statement repeats if a store on which it has succeeded, with more tables perhaps, is left as it
is by it. -/
theorem repeats_changing {α : Type} (call : Call) {f : Contents → Except Fault (Contents × α)}
    (hf : ∀ {s s' a}, f s = .ok (s', a) →
      Extends s s' ∧ ∀ {s''}, Extends s' s'' → f s'' = .ok (s'', a)) :
    Repeats Grown (watching call (changing f)) := by
  rintro ⟨⟨c, es⟩, log⟩
  rcases changing_outcome f c with ⟨e, h⟩ | ⟨s, s', a, rfl, hs⟩
  · refine ⟨.error e, c, [call], [], leaves_watching (h log), .refl c, ?_⟩
    rintro ⟨⟨c', es'⟩, log'⟩ (⟨hok, -⟩ | hsame)
    · cases hok
    · obtain rfl : c' = c := hsame
      exact leaves_watching (h log')
  · obtain ⟨hextends, hagain⟩ := hf hs
    refine ⟨.ok a, .open s', [call], [], leaves_watching (changing_ok hs log), .tables hextends, ?_⟩
    rintro ⟨⟨c', es'⟩, log'⟩ hlater
    have hgrown : Grown (.open s') c' := by
      rcases hlater with ⟨-, h⟩ | h
      · exact h
      · obtain rfl : c' = .open s' := h
        exact .refl _
    obtain ⟨s'', rfl, hs''⟩ := grown_open hgrown
    exact leaves_watching (changing_ok (hagain hs'') log')

/-- **A table that was created is not created again.** -/
theorem repeats_createTable (name : String) (definitions : List String) :
    Repeats Grown (database.watched.createTable name definitions) := by
  show Repeats Grown (watching _ (Action.ofQuery (Identifier.ofName name) >>= fun table =>
    changing fun s => return (← s.create table definitions, ())))
  cases Identifier.ofName name with
  | error e =>
    intro w
    exact ⟨.error e.toError, w.state.state, _, [], leaves_watching rfl, .refl _,
      fun w' _ => leaves_watching rfl⟩
  | ok table =>
    refine repeats_changing _ ?_
    rintro s s' _ h
    obtain ⟨t, hcreate, h⟩ := bind_eq_ok.1 h
    cases h
    refine ⟨(create_extends hcreate).1, fun hs => ?_⟩
    rw [create_again hcreate hs]
    rfl

theorem hasTable_extends {s s' : Contents} (h : Extends s s') {name : String}
    (hs : hasTable s name = true) : hasTable s' name = true := by
  obtain ⟨t, ht, hname⟩ := List.any_eq_true.1 hs
  exact List.any_eq_true.2 ⟨t, h.subset ht, hname⟩

end Store

namespace Schema

/-- Fails unless the table exists. -/
def requireTable {σ : Type} (db : Database σ) (t : String) : Action σ Unit :=
  db.tableExists t >>= fun b =>
    if b then pure ()
    else throw (.schema ("Table " ++ t ++ " belongs to an enabled subsystem but does not exist"))

theorem requireTables_eq {σ : Type} (db : Database σ) (t : String) (ts : List String) :
    requireTables db (t :: ts) = requireTable db t >>= fun _ => requireTables db ts := by
  rw [requireTables_cons, requireTable, bind_assoc]
  refine bind_congr fun b => ?_
  cases b <;> rfl

section
open Store

/-- What comes of asking for a table on a connection. -/
def asked (t : String) (c : Connection) : Except Error Unit :=
  ((requireTable database t).runOn c).1

theorem asked_eq (t : String) (s : Contents) : asked t (.open s) = if hasTable s t then .ok ()
    else .error (.schema ("Table " ++ t ++
      " belongs to an enabled subsystem but does not exist")) := by
  show ((if hasTable s t then pure () else throw (.schema ("Table " ++ t ++
    " belongs to an enabled subsystem but does not exist")) : Action Connection Unit).runOn
      (.open s)).1 = _
  cases hasTable s t <;> rfl

theorem asked_open {t : String} {s : Contents} : asked t (.open s) = .ok () ↔ hasTable s t = true := by
  rw [asked_eq]
  cases hasTable s t
  · exact ⟨nofun, nofun⟩
  · exact ⟨fun _ => rfl, fun _ => rfl⟩

/-- Asking for a table leaves the connection as it is. -/
theorem leaves_requireTable (t : String) (w : Logged (Watched Connection)) :
    Leaves (requireTable database.watched t) w (asked t w.state.state) w.state.state
      [.tableExists t] [] := by
  obtain ⟨⟨c, es⟩, log⟩ := w
  cases c with
  | closed => exact leaves_bind_error (leaves_watching rfl)
  | unreadable => exact leaves_bind_error (leaves_watching rfl)
  | «open» s =>
    have hexists : Leaves (database.watched.tableExists t) ⟨⟨.open s, es⟩, log⟩
        (.ok (hasTable s t)) (.open s) [.tableExists t] [] := leaves_watching rfl
    have hnext : ∀ w' : Logged (Watched Connection), w'.state.state = .open s →
        Leaves (if hasTable s t then pure () else throw (.schema ("Table " ++ t ++
          " belongs to an enabled subsystem but does not exist"))) w' (asked t (.open s)) (.open s)
          [] [] := by
      intro w' hw'
      rw [asked_eq]
      cases hasTable s t
      all_goals exact ⟨rfl, hw', (List.append_nil _).symm, (List.append_nil _).symm⟩
    exact leaves_bind_ok hexists (hnext _ rfl)

/-- **A table that was found is found again.** -/
theorem repeats_requireTable (t : String) : Repeats Grown (requireTable database.watched t) := by
  intro w
  refine ⟨_, _, _, _, leaves_requireTable t w, .refl _, fun w' hw' => ?_⟩
  have hasked : asked t w'.state.state = asked t w.state.state := by
    rcases hw' with ⟨hok, hgrown⟩ | hsame
    · generalize w'.state.state = c' at hgrown ⊢
      generalize w.state.state = c at hok hgrown ⊢
      cases hgrown with
      | refl => rfl
      | @tables s s' hextends =>
        have hs : asked t (.open s) = .ok () := by
          cases h : asked t (.open s) with
          | ok => rfl
          | error e =>
            rw [h] at hok
            cases hok
        rw [hs, asked_open.2 (hasTable_extends hextends (asked_open.1 hs))]
    · rw [hsame]
  rw [← hasked]
  exact leaves_requireTable t w'

theorem repeats_requireTables (ts : List String) :
    Repeats Grown (requireTables database.watched ts) := by
  induction ts with
  | nil => exact (composes_repeats Grown.refl grown_trans).pure ()
  | cons t ts ih =>
    rw [requireTables_eq]
    exact .bind grown_trans (repeats_requireTable t) fun _ => ih

/-- **A start repeats.** -/
theorem repeats_start (ctx : Context) (doc : Document) :
    Repeats Grown (start database.watched ctx doc) := by
  have hcomposes := composes_repeats Grown.refl grown_trans
  rw [start_eq]
  refine .bind grown_trans (repeats_requireTables _) fun _ => ?_
  refine .bind grown_trans ?_ fun order => ?_
  · exact composes_compile hcomposes repeats_createTable ctx doc .empty
  · exact .bind grown_trans (hcomposes.log _ _) fun _ => hcomposes.pure _

/-- **Starting again does nothing.**  Whatever a start has come to, and whatever it has left, another
one with the same document right after it comes to the same and leaves the database as it is; it makes
the same calls, in the same order, and writes the same lines to the log. -/
theorem start_again (ctx : Context) (doc : Document) (w : Logged Connection)
    (log : List LogLine) :
    let first := (start database ctx doc).outcome w
    let again : Logged Connection := ⟨first.2.state, log⟩
    let second := (start database ctx doc).outcome again
    second.1 = first.1 ∧ second.2.state = first.2.state ∧
      (eventsOf (start database.watched ctx doc) again).map Event.call =
        (eventsOf (start database.watched ctx doc) w).map Event.call ∧
      ∃ lines, first.2.log = w.log ++ lines ∧ second.2.log = log ++ lines := by
  intro first again second
  obtain ⟨r, c, calls, lines, hfirst, -, hagain⟩ := repeats_start ctx doc w.watched
  obtain ⟨hresult, houtcome⟩ := mirrors_start database ctx doc w.watched
  obtain ⟨hresult', houtcome'⟩ := mirrors_start database ctx doc again.watched
  have hstate : first.2.state = c := by
    rw [← hfirst.state]
    exact (congrArg Logged.state houtcome).symm
  have hsecond := hagain again.watched (.inr hstate)
  refine ⟨?_, ?_, ?_, lines, ?_, ?_⟩
  · exact (hresult'.symm.trans hsecond.result).trans (hfirst.result.symm.trans hresult)
  · exact (congrArg Logged.state houtcome').symm.trans hsecond.state
  · exact hsecond.calls.trans hfirst.calls.symm
  · exact (congrArg Logged.log houtcome).symm.trans hfirst.log
  · exact (congrArg Logged.log houtcome').symm.trans hsecond.log

end

end Schema

end TableService
