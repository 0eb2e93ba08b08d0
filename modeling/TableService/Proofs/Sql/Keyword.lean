/-
  Keywords and marks among tokens.

  * `marksIn` are the marks among tokens; what is `Plain` has no keyword.
  * A statement is a list of clauses, each begun by a keyword: `clauses_flatten` tells them apart.
  * `Follows`: characters that may follow others, and are read as certain clauses.
-/
import TableService.Proofs.Sql.Token

namespace TableService.Sql

/-- Tokens with commas between them. -/
def commaTokens (items : List (List Token)) : List Token := [.sign ','].intercalate items

/-- What is not in a separator is found in the parts between them only. -/
theorem filterMap_intercalate {β : Type} {f : Token → Option β} {sep : Token} (h : f sep = none) :
    ∀ parts : List (List Token),
      ([sep].intercalate parts).filterMap f = parts.flatMap (List.filterMap f)
  | [] => rfl
  | [part] => by simp
  | part :: part' :: parts => by
    rw [List.intercalate_cons_cons, List.filterMap_append, List.filterMap_append,
      filterMap_intercalate h (part' :: parts), List.filterMap_cons_none h, List.filterMap_nil,
      List.append_nil, ← List.flatMap_cons]

/-! ## Marks -/

/-- The number of the mark that a token is. -/
def Token.mark? : Token → Option (Option Nat)
  | .mark m => some m
  | _ => none

/-- The marks among tokens, in order. -/
def marksIn (ts : List Token) : List (Option Nat) := ts.filterMap Token.mark?

@[simp] theorem marksIn_nil : marksIn [] = [] := rfl

@[simp] theorem marksIn_cons (t : Token) (ts : List Token) :
    marksIn (t :: ts) = t.mark?.toList ++ marksIn ts := by
  cases t <;> rfl

@[simp] theorem marksIn_append (ts ts' : List Token) :
    marksIn (ts ++ ts') = marksIn ts ++ marksIn ts' :=
  List.filterMap_append

theorem marksIn_intercalate {sep : Token} (h : sep.mark? = none) (parts : List (List Token)) :
    marksIn ([sep].intercalate parts) = parts.flatMap marksIn :=
  filterMap_intercalate h parts

@[simp] theorem marksIn_commaTokens (items : List (List Token)) :
    marksIn (commaTokens items) = items.flatMap marksIn :=
  marksIn_intercalate rfl items

@[simp] theorem mark_name (n : String) : (Token.name n).mark? = none := rfl

@[simp] theorem mark_word (w : String) : (Token.word w).mark? = none := rfl

@[simp] theorem mark_sign (c : Char) : (Token.sign c).mark? = none := rfl

@[simp] theorem mark_mark (m : Option Nat) : (Token.mark m).mark? = some m := rfl

/-! ## Keywords -/

/-- The words that begin a clause. -/
def keywords : List String :=
  ["INSERT", "VALUES", "SELECT", "FROM", "WHERE", "ORDER", "LIMIT", "OFFSET", "UPDATE", "SET",
    "DELETE"]

/-- The keyword that a token is. -/
def Token.keyword? : Token → Option String
  | .word w => if w ∈ keywords then some w else none
  | _ => none

/-- There is no keyword among the tokens. -/
def Plain (ts : List Token) : Prop := ts.filterMap Token.keyword? = []

@[simp] theorem plain_nil : Plain [] := rfl

@[simp] theorem plain_cons {t : Token} {ts : List Token} :
    Plain (t :: ts) ↔ t.keyword? = none ∧ Plain ts := by
  rw [Plain, Plain, List.filterMap_eq_nil_iff, List.filterMap_eq_nil_iff, List.forall_mem_cons]

@[simp] theorem plain_append {ts ts' : List Token} : Plain (ts ++ ts') ↔ Plain ts ∧ Plain ts' := by
  rw [Plain, List.filterMap_append, List.append_eq_nil_iff, Plain, Plain]

theorem plain_intercalate {sep : Token} {parts : List (List Token)} (h : sep.keyword? = none) :
    Plain ([sep].intercalate parts) ↔ ∀ part ∈ parts, Plain part := by
  rw [Plain, filterMap_intercalate h, List.flatMap_eq_nil_iff]
  rfl

@[simp] theorem plain_commaTokens {items : List (List Token)} :
    Plain (commaTokens items) ↔ ∀ item ∈ items, Plain item :=
  plain_intercalate rfl

@[simp] theorem keyword_name (n : String) : (Token.name n).keyword? = none := rfl

@[simp] theorem keyword_mark (m : Option Nat) : (Token.mark m).keyword? = none := rfl

@[simp] theorem keyword_sign (c : Char) : (Token.sign c).keyword? = none := rfl

/-! ## Clauses -/

/-- A keyword with the tokens up to the next one. -/
abbrev Clause := String × List Token

/-- The tokens before the first keyword, and the clauses after them. -/
def clauses : List Token → List Token × List Clause
  | [] => ([], [])
  | t :: ts =>
    match t.keyword? with
    | some w => ([], (w, (clauses ts).1) :: (clauses ts).2)
    | none => (t :: (clauses ts).1, (clauses ts).2)

/-- The tokens of clauses. -/
def flatten (cs : List Clause) : List Token := cs.flatMap fun c => .word c.1 :: c.2

theorem clauses_plain {ts : List Token} (h : Plain ts) (rest : List Token) :
    clauses (ts ++ rest) = (ts ++ (clauses rest).1, (clauses rest).2) := by
  induction ts with
  | nil => rfl
  | cons t ts ih =>
    obtain ⟨ht, hts⟩ := plain_cons.1 h
    rw [List.cons_append, clauses, ht, ih hts]
    rfl

@[simp] theorem marksIn_flatten (cs : List Clause) :
    marksIn (flatten cs) = cs.flatMap fun c => marksIn c.2 := by
  induction cs with
  | nil => rfl
  | cons c cs ih =>
    rw [flatten, List.flatMap_cons, ← flatten, marksIn_append, ih, List.flatMap_cons]
    rfl

/-- **Clauses are told apart by their keywords.** -/
theorem clauses_flatten : ∀ {cs : List Clause}, (∀ c ∈ cs, c.1 ∈ keywords ∧ Plain c.2) →
    clauses (flatten cs) = ([], cs)
  | [], _ => rfl
  | (w, ts) :: cs, h => by
    obtain ⟨⟨hw, hts⟩, hcs⟩ := List.forall_mem_cons.1 h
    have hk : (Token.word w).keyword? = some w := if_pos hw
    rw [flatten, List.flatMap_cons, ← flatten, List.cons_append, clauses, hk,
      clauses_plain hts, clauses_flatten hcs]
    simp

/-- A keyword stands among the tokens of clauses only where it begins one. -/
theorem word_mem_flatten {w : String} (hw : w ∈ keywords) {cs : List Clause}
    (h : ∀ c ∈ cs, Plain c.2) : .word w ∈ flatten cs ↔ w ∈ cs.map Prod.fst := by
  have hplain : ∀ {ts}, Plain ts → .word w ∉ ts := fun hts hmem => by
    have hnone := List.filterMap_eq_nil_iff.1 hts _ hmem
    rw [Token.keyword?, if_pos hw] at hnone
    cases hnone
  induction cs with
  | nil => simp [flatten]
  | cons c cs ih =>
    obtain ⟨hc, hcs⟩ := List.forall_mem_cons.1 h
    have ih : .word w ∈ flatten cs ↔ w ∈ cs.map Prod.fst := ih hcs
    rw [flatten, List.flatMap_cons, ← flatten, List.mem_append, ih, List.mem_cons,
      or_iff_left (hplain hc), List.map_cons, List.mem_cons, Token.word.injEq]

/-- The clause of a keyword, if it is there. -/
def clause? (w : String) (ts : Option (List Token)) : List Clause := (ts.map (w, ·)).toList

theorem forall_mem_clause {p : Clause → Prop} {w : String} {ts : Option (List Token)} :
    (∀ c ∈ clause? w ts, p c) ↔ ∀ us, ts = some us → p (w, us) := by
  cases ts <;> simp [clause?]

theorem marksIn_clause (w : String) (ts : Option (List Token)) :
    ((clause? w ts).flatMap fun c => marksIn c.2) = ts.toList.flatMap marksIn := by
  cases ts <;> rfl

/-- Takes the clause of a keyword from the front, if it is there. -/
def take? (w : String) : List Clause → Option (List Token) × List Clause
  | [] => (none, [])
  | c :: cs => if c.1 = w then (some c.2, cs) else (none, c :: cs)

theorem take_clause {w : String} {ts : Option (List Token)} {cs : List Clause}
    (h : ∀ c ∈ cs.head?, c.1 ≠ w) : take? w (clause? w ts ++ cs) = (ts, cs) := by
  cases ts with
  | some ts => simp [clause?, take?]
  | none =>
    cases cs with
    | nil => rfl
    | cons c cs => exact if_neg (h c rfl)

theorem take_clause_nil {w : String} {ts : Option (List Token)} :
    take? w (clause? w ts) = (ts, []) := by
  cases ts <;> simp [clause?, take?]

/-! ## Texts of clauses -/

/-- The characters may follow others, and are read as these clauses. -/
structure Follows (d : Dialect) (cs : List Char) (clauses : List Clause) : Prop where
  ends : Ends cs
  lexes : Lexes d cs (flatten clauses)

namespace Follows
variable {d : Dialect} {cs cs' : List Char} {clauses clauses' : List Clause}

theorem nil : Follows d [] [] := ⟨.nil, .nil⟩

theorem append (h : Follows d cs clauses) (h' : Follows d cs' clauses') :
    Follows d (cs ++ cs') (clauses ++ clauses') :=
  ⟨h.ends.append h'.ends, by
    rw [flatten, List.flatMap_append]
    exact h.lexes.append h'.lexes h'.ends⟩

theorem clause {w : String} {ts : List Token} (hw : isWord w.toList = true) (h : Lexes d cs ts) :
    Follows d (' ' :: (w.toList ++ ' ' :: cs)) [(w, ts)] :=
  ⟨.space _, by
    rw [flatten, List.flatMap_singleton]
    exact (Lexes.keyword hw h).space⟩

end Follows

end TableService.Sql
