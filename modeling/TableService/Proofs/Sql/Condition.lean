/-
  Conditions as they stand in a statement.

  * A `Fragment` is a comparison, a membership or a truth value, with operands of some kind: the
    marks of parameters as it is read, values once these are bound.
  * `readFragment_tokens`: the tokens of a fragment are read as that fragment;
    `readParts_intercalate`: what is joined by a separator is told apart, if that is in no part, as
    AND is in no fragment.
  * `bind?` puts the values of parameters in the place of their marks.
-/
import TableService.Proofs.Sql.Token
import TableService.Query.Filter

namespace TableService.Sql

/-- A condition in a statement. -/
inductive Fragment (α : Type) where
  | compare (field : String) (c : Comparison) (operand : α)
  /-- The field is one of the operands, or none of them when `negated`; there is an operand. -/
  | member (field : String) (negated : Bool) (first : α) (others : List α)
  | constant (holds : Bool)

namespace Fragment
variable {α β : Type}

/-- The operands, in order. -/
def operands : Fragment α → List α
  | .compare _ _ operand => [operand]
  | .member _ _ first others => first :: others
  | .constant _ => []

/-- The fragment with other operands, of the same number. -/
def refill? : Fragment α → List β → Option (Fragment β)
  | .compare field c _, [operand] => some (.compare field c operand)
  | .member field negated _ old, first :: others =>
    if others.length = old.length then some (.member field negated first others) else none
  | .constant holds, [] => some (.constant holds)
  | _, _ => none

end Fragment

/-! ## Reading -/

/-- The tokens of a comparison. -/
def comparisonTokens : Comparison → List Token
  | .eq => [.sign '=']
  | .ne => [.sign '!', .sign '=']
  | .gt => [.sign '>']
  | .gte => [.sign '>', .sign '=']
  | .lt => [.sign '<']
  | .lte => [.sign '<', .sign '=']
  | .like => [.word "LIKE"]

/-- The tokens before the list of a membership. -/
def memberTokens (negated : Bool) : List Token :=
  if negated then [.word "NOT", .word "IN", .sign '('] else [.word "IN", .sign '(']

/-- The tokens of marks with commas between them. -/
def markTokens (ms : List (Option Nat)) : List Token :=
  [.sign ','].intercalate (ms.map fun m => [.mark m])

/-- The tokens of a fragment. -/
def Fragment.tokens (d : Dialect) : Fragment (Option Nat) → List Token
  | .compare field c m => .name field :: comparisonTokens c ++ [.mark m]
  | .member field negated m ms =>
    .name field :: memberTokens negated ++ (markTokens (m :: ms) ++ [.sign ')'])
  | .constant holds => [.word (d.constant holds)]

/-- Reads a comparison. -/
def readComparison? (ts : List Token) : Option Comparison :=
  [.eq, .ne, .gt, .gte, .lt, .lte, .like].find? fun c => comparisonTokens c = ts

/-- Reads marks with commas between them, up to a closing bracket at the end. -/
def readMarks? : List Token → Option (Option Nat × List (Option Nat))
  | [.mark m, .sign ')'] => some (m, [])
  | .mark m :: .sign ',' :: rest => (readMarks? rest).map fun (m', ms) => (m, m' :: ms)
  | _ => none

/-- Reads a fragment. -/
def readFragment? (d : Dialect) : List Token → Option (Fragment (Option Nat))
  | [.word w] =>
    if w = d.constant false then some (.constant false)
    else if w = d.constant true then some (.constant true)
    else none
  | .name field :: .word "IN" :: .sign '(' :: rest =>
    (readMarks? rest).map fun (m, ms) => .member field false m ms
  | .name field :: .word "NOT" :: .word "IN" :: .sign '(' :: rest =>
    (readMarks? rest).map fun (m, ms) => .member field true m ms
  | .name field :: rest =>
    match rest.getLast? with
    | some (.mark m) => (readComparison? rest.dropLast).map (.compare field · m)
    | _ => none
  | _ => none

/-- Reads the parts between separators. -/
def readParts? {β : Type} (sep : Token) (part : List Token → Option β) (ts : List Token) :
    Option (List β) :=
  (ts.splitOn sep).mapM part

/-- The parts of a condition, between which there is AND. -/
def conjuncts (ts : List Token) : List (List Token) :=
  if ts = [] then [] else ts.splitOn (.word "AND")

/-- Reads a condition. -/
def readCondition? (d : Dialect) (text : String) : Option (List (Fragment (Option Nat))) := do
  (conjuncts (← tokens d text.toList)).mapM (readFragment? d)

/-- **Parts with a separator between them are told apart**, if there is one and the separator is in
none of them. -/
theorem readParts_intercalate {β : Type} {sep : Token} {part : List Token → Option β}
    {print : β → List Token} (hpart : ∀ x, part (print x) = some x) (hsep : ∀ x, sep ∉ print x)
    {xs : List β} (hne : xs ≠ []) :
    readParts? sep part ([sep].intercalate (xs.map print)) = some xs := by
  have hsplit : ([sep].intercalate (xs.map print)).splitOn sep = xs.map print := by
    refine List.splitOn_intercalate _ (fun l hl => ?_) (by simpa using hne)
    obtain ⟨x, -, rfl⟩ := List.mem_map.1 hl
    exact hsep x
  rw [readParts?, hsplit]
  clear hne hsplit
  induction xs with
  | nil => rfl
  | cons x xs ih =>
    rw [List.map_cons, List.mapM_cons, hpart, ih]
    rfl

theorem markTokens_cons_cons (m m' : Option Nat) (ms : List (Option Nat)) :
    markTokens (m :: m' :: ms) = .mark m :: .sign ',' :: markTokens (m' :: ms) := by
  rw [markTokens, List.map_cons, List.map_cons, List.intercalate_cons_cons]
  rfl

theorem readMarks_markTokens : ∀ (m : Option Nat) (ms : List (Option Nat)),
    readMarks? (markTokens (m :: ms) ++ [.sign ')']) = some (m, ms)
  | _, [] => rfl
  | m, m' :: ms => by
    rw [markTokens_cons_cons, List.cons_append, List.cons_append, readMarks?,
      readMarks_markTokens m' ms]
    rfl

/-- **The tokens of a fragment are read as that fragment.** -/
theorem readFragment_tokens (d : Dialect) (f : Fragment (Option Nat)) :
    readFragment? d (f.tokens d) = some f := by
  cases f with
  | compare field c m => cases c <;> rfl
  | member field negated m ms =>
    cases negated <;>
      simp [Fragment.tokens, memberTokens, readFragment?, readMarks_markTokens m ms]
  | constant holds => cases d <;> cases holds <;> rfl

/-! ## Conjunctions -/

theorem and_not_mem_markTokens : ∀ (m : Option Nat) (ms : List (Option Nat)),
    .word "AND" ∉ markTokens (m :: ms)
  | m, [] => by simp [markTokens]
  | m, m' :: ms => by
    rw [markTokens_cons_cons]
    simpa using and_not_mem_markTokens m' ms

theorem and_not_mem (d : Dialect) (f : Fragment (Option Nat)) : .word "AND" ∉ f.tokens d := by
  cases f with
  | compare field c m => cases c <;> simp [Fragment.tokens, comparisonTokens]
  | member field negated m ms =>
    cases negated <;> simp [Fragment.tokens, memberTokens, and_not_mem_markTokens]
  | constant holds => cases d <;> cases holds <;> simp [Fragment.tokens, Dialect.constant]

theorem tokens_ne_nil (d : Dialect) (f : Fragment (Option Nat)) : f.tokens d ≠ [] := by
  cases f <;> simp [Fragment.tokens]

theorem conjunction_ne_nil (d : Dialect) {fs : List (Fragment (Option Nat))} (h : fs ≠ []) :
    [.word "AND"].intercalate (fs.map (·.tokens d)) ≠ [] := by
  obtain ⟨f, fs, rfl⟩ := List.exists_cons_of_ne_nil h
  cases fs with
  | nil => simpa using tokens_ne_nil d f
  | cons g fs => simp

/-- The text of fragments joined by AND is read as these. -/
theorem readCondition_of_lexes {d : Dialect} {text : String} {fs : List (Fragment (Option Nat))}
    (h : Lexes d text.toList ([.word "AND"].intercalate (fs.map (·.tokens d)))) :
    readCondition? d text = some fs := by
  rw [readCondition?, h.tokens_eq]
  by_cases hfs : fs = []
  · subst hfs
    rfl
  · show (conjuncts _).mapM (readFragment? d) = _
    rw [conjuncts, if_neg (conjunction_ne_nil d hfs)]
    exact readParts_intercalate (readFragment_tokens d) (and_not_mem d) hfs

/-! ## Binding -/

section
variable {α : Type} (used : Nat) (params : List α)

/-- The value of the mark at position `i` of a clause, when `used` marks were numbered before. -/
def value? (i : Nat) : Option Nat → Option α
  | none => params[i]?
  | some n => if used < n then params[n - used - 1]? else none

/-- The values of marks from position `i` on. -/
def values? : Nat → List (Option Nat) → Option (List α)
  | _, [] => some []
  | i, m :: ms => do return (← value? used params i m) :: (← values? (i + 1) ms)

end

/-- Distributes values over fragments, in order. -/
def fill? {α β : Type} : List (Fragment α) → List β → Option (List (Fragment β))
  | [], [] => some []
  | [], _ :: _ => none
  | f :: fs, values => do
    let g ← f.refill? (values.take f.operands.length)
    return g :: (← fill? fs (values.drop f.operands.length))

/-- Puts the values of parameters in the place of their marks. -/
def bind? {α : Type} (used : Nat) (params : List α) (fs : List (Fragment (Option Nat))) :
    Option (List (Fragment α)) := do
  fill? fs (← values? used params 0 (fs.flatMap Fragment.operands))

/-- The marks of `count` parameters after `used` others. -/
def marksAfter (d : Dialect) (used count : Nat) : List (Option Nat) :=
  (List.range' (used + 1) count).map (markNumber d)

theorem length_marksAfter (d : Dialect) (used count : Nat) :
    (marksAfter d used count).length = count := by
  rw [marksAfter, List.length_map, List.length_range']

theorem marksAfter_append (d : Dialect) (used m n : Nat) :
    marksAfter d used m ++ marksAfter d (used + m) n = marksAfter d used (m + n) := by
  rw [marksAfter, marksAfter, marksAfter, ← List.map_append, Nat.add_right_comm,
    List.range'_append_1]

/-- **The marks after others stand for the parameters in order.** -/
theorem values_marksAfter {α : Type} (d : Dialect) (used : Nat) (before params : List α) :
    values? used (before ++ params) before.length
      (marksAfter d (used + before.length) params.length) = some params := by
  induction params generalizing before with
  | nil => rfl
  | cons v params ih =>
    have hv : value? used (before ++ v :: params) before.length
        (markNumber d (used + before.length + 1)) = some v := by
      unfold markNumber
      split_ifs
      · rw [value?, if_pos (by omega), show used + before.length + 1 - used - 1 = before.length by
          omega]
        simp
      · simp [value?]
    have ih := ih (before ++ [v])
    rw [List.append_assoc, List.singleton_append, List.length_append, List.length_singleton] at ih
    rw [marksAfter, List.length_cons, List.range'_succ, List.map_cons, values?, hv]
    rw [marksAfter, ← Nat.add_assoc] at ih
    rw [ih]
    rfl

end TableService.Sql
