/-
  Number literals are read as a whole.

  * `Literal.text` writes the parts of a literal; `Literal.Proper` says which parts make a literal.
  * `numberAfterSign_text`: a proper literal in front of a text is read up to its end, whatever
    follows it, as long as this cannot go on a number (`Ends`).
-/
import Mathlib.Tactic.SplitIfs
import TableService.Proofs.Number.Digits
import TableService.Json.Source

namespace TableService.Source

/-! ## Literals -/

/-- One or more digits. -/
structure Run (cs : List Char) : Prop where
  ne_nil : cs ≠ []
  digits : ∀ c ∈ cs, c.isDigit = true

namespace Literal

/-- The part after the point. -/
def fractionText (l : Literal) : List Char :=
  match l.fraction with
  | some places => '.' :: places
  | none => []

/-- The exponent with its letter and its sign. -/
def exponentText (l : Literal) : List Char :=
  match l.exponent with
  | some (below, digits) => 'e' :: (if below then '-' else '+') :: digits
  | none => []

/-- A literal without its sign. -/
def unsignedText (l : Literal) : List Char := l.whole ++ (l.fractionText ++ l.exponentText)

/-- A literal as it is written. -/
def text (l : Literal) : List Char := if l.negative then '-' :: l.unsignedText else l.unsignedText

/-- The parts of a literal: one digit at least in each that is there, and no zero in front of other
digits. -/
structure Proper (l : Literal) : Prop where
  whole : Run l.whole
  no_zeros : l.whole.head? = some '0' → l.whole.length = 1
  fraction : ∀ places ∈ l.fraction, Run places
  exponent : ∀ e ∈ l.exponent, Run e.2

end Literal

/-- What cannot go on a number: nothing, or a text that starts with none of its characters. -/
def Ends (rest : List Char) : Prop :=
  ∀ c ∈ rest.head?, c.isDigit = false ∧ c ≠ '.' ∧ c ≠ 'e' ∧ c ≠ 'E'

/-- Digits are taken up to what is no digit. -/
theorem digits_append {ds rest : List Char} (hds : ∀ c ∈ ds, c.isDigit = true)
    (hrest : ∀ c ∈ rest.head?, c.isDigit = false) : digits (ds ++ rest) = ds := by
  rw [digits, List.takeWhile_append_of_pos hds]
  cases rest with
  | nil => simp
  | cons c rest => simp [hrest c rfl]

/-- The exponent of a literal is read up to its end. -/
theorem exponentPart_text {below : Bool} {ds rest : List Char} (hds : Run ds) (hrest : Ends rest) :
    exponentPart ((if below then '-' else '+') :: ds ++ rest) = .ok (below, ds, 1 + ds.length) := by
  have hdigits : digits (ds ++ rest) = ds := digits_append hds.digits fun c hc => (hrest c hc).1
  obtain ⟨d, tail, rfl⟩ := List.exists_cons_of_ne_nil hds.ne_nil
  cases below <;>
    simp only [exponentPart, Bool.false_eq_true, if_false, if_true, List.cons_append] <;>
    rw [← List.cons_append, hdigits]

section
variable {l : Literal} {rest : List Char}

theorem Ends.exponentText (hrest : Ends rest) :
    ∀ c ∈ (l.exponentText ++ rest).head?, c.isDigit = false ∧ c ≠ '.' := by
  intro c hc
  unfold Literal.exponentText at hc
  cases he : l.exponent with
  | some e =>
    rw [he] at hc
    obtain rfl := Option.mem_some_iff.1 hc
    decide
  | none =>
    rw [he] at hc
    exact ⟨(hrest c hc).1, (hrest c hc).2.1⟩

theorem Ends.fractionText (hrest : Ends rest) :
    ∀ c ∈ (l.fractionText ++ (l.exponentText ++ rest)).head?, c.isDigit = false := by
  intro c hc
  unfold Literal.fractionText at hc
  cases hf : l.fraction with
  | some places =>
    rw [hf] at hc
    obtain rfl := Option.mem_some_iff.1 hc
    decide
  | none =>
    rw [hf] at hc
    exact (hrest.exponentText c hc).1

/-- What follows the fraction of a number is read as its exponent, or not at all. -/
theorem numberAfterSign_eq (hl : l.Proper) (hrest : Ends rest) :
    numberAfterSign l.negative (l.unsignedText ++ rest) =
      match l.exponentText ++ rest with
      | c :: r =>
        if c = 'e' ∨ c = 'E' then
          match exponentPart r with
          | .error f => (badNumber f, 0)
          | .ok (below, ds, n) =>
            (⟨Literal.value { l with exponent := some (below, ds) }, none⟩,
              l.unsignedText.length - l.exponentText.length + 1 + n)
        else (⟨Literal.value { l with exponent := none }, none⟩,
          l.unsignedText.length - l.exponentText.length)
      | [] => (⟨Literal.value { l with exponent := none }, none⟩,
          l.unsignedText.length - l.exponentText.length) := by
  have hwhole : digits (l.unsignedText ++ rest) = l.whole := by
    rw [Literal.unsignedText, List.append_assoc, List.append_assoc]
    exact digits_append hl.whole.digits hrest.fractionText
  have hdrop : (l.unsignedText ++ rest).drop l.whole.length =
      l.fractionText ++ (l.exponentText ++ rest) := by
    rw [Literal.unsignedText, List.append_assoc, List.append_assoc, List.drop_left]
  have hne : l.whole.isEmpty = false := by simpa using hl.whole.ne_nil
  have hzeros : ¬ (l.whole.head? = some '0' ∧ 1 < l.whole.length) := fun h => by
    have := hl.no_zeros h.1
    omega
  have hlength : (l.unsignedText ++ rest).length - (l.exponentText ++ rest).length =
      l.unsignedText.length - l.exponentText.length := by
    simp only [List.length_append]
    omega
  rw [numberAfterSign]
  simp only [hwhole, hdrop, hne, Bool.false_eq_true, if_false, if_neg hzeros]
  cases hf : l.fraction with
  | some places =>
    have hrun := hl.fraction places hf
    have hdigits : digits (places ++ (l.exponentText ++ rest)) = places :=
      digits_append hrun.digits fun c hc => (hrest.exponentText c hc).1
    have htext : l.fractionText ++ (l.exponentText ++ rest) =
        '.' :: (places ++ (l.exponentText ++ rest)) := by
      rw [Literal.fractionText, hf]
      rfl
    obtain ⟨d, tail, rfl⟩ := List.exists_cons_of_ne_nil hrun.ne_nil
    generalize l.exponentText ++ rest = next at htext hdigits hlength ⊢
    rcases next with _ | ⟨c, r⟩
    · simp only [htext, Option.map_some, Option.getD_some, hdigits, List.drop_left, hlength]
    · rcases hpart : exponentPart r with f | ⟨below, ds, n⟩ <;>
        simp only [htext, Option.map_some, Option.getD_some, hdigits, List.drop_left, hlength, hpart]
  | none =>
    have htext : l.fractionText = [] := by rw [Literal.fractionText, hf]
    rw [htext, List.nil_append]
    cases hrest' : l.exponentText ++ rest with
    | nil =>
      rw [hrest', List.length_nil, Nat.sub_zero] at hlength
      simp [-List.length_append, hlength]
    | cons c r =>
      rw [hrest', List.length_cons] at hlength
      have hc : c ≠ '.' := (hrest.exponentText c (by rw [hrest']; rfl)).2
      rcases hpart : exponentPart r with f | ⟨below, ds, n⟩ <;>
        simp [hc, -List.length_append, hlength, hpart]

/-- **A literal is read up to its end.** -/
theorem numberAfterSign_text (hl : l.Proper) (hrest : Ends rest) :
    numberAfterSign l.negative (l.unsignedText ++ rest) =
      (⟨l.value, none⟩, l.unsignedText.length) := by
  obtain ⟨negative, whole, fraction, exponent⟩ := l
  rw [numberAfterSign_eq hl hrest]
  cases exponent with
  | some e =>
    obtain ⟨below, ds⟩ := e
    have hpart := @exponentPart_text below _ _ (hl.exponent _ rfl) hrest
    simp only [Literal.exponentText, List.cons_append, true_or, if_true] at hpart ⊢
    rw [hpart]
    simp only [Prod.mk.injEq, true_and, Literal.unsignedText, Literal.exponentText,
      List.length_append, List.length_cons]
    omega
  | none =>
    rw [Literal.exponentText, List.nil_append, List.length_nil, Nat.sub_zero]
    cases rest with
    | nil => rfl
    | cons c r => simp [(hrest c rfl).2.2]

end

/-! ## Literals of integers -/

theorem run_digitsText (n : Nat) : Run (digitsText n) :=
  ⟨digitsText_ne_nil n, fun _ => isDigit_of_mem_digitsText⟩

/-- Digits are taken as long as their number fits. -/
theorem accumulate_eq {ds : List Char} {n : Nat}
    (h : Nat.ofDigitChars 10 ds n < 0x10000000000000000) :
    accumulate n ds = (Nat.ofDigitChars 10 ds n, []) := by
  induction ds generalizing n with
  | nil => rfl
  | cons c ds ih =>
    rw [Nat.ofDigitChars_cons] at h ⊢
    have hnext : 10 * n + (c.toNat - '0'.toNat) < 0x10000000000000000 :=
      Nat.lt_of_le_of_lt (le_ofDigitChars ds _) h
    rw [accumulate, ← ih h]
    exact if_pos hnext

/-- The literal of an integer. -/
def intLiteral (i : Int) : Literal := ⟨i < 0, digitsText i.natAbs, none, none⟩

theorem text_intLiteral (i : Int) : (intLiteral i).text = intText i := by
  simp only [Literal.text, Literal.unsignedText, Literal.fractionText, Literal.exponentText,
    intLiteral, intText, List.append_nil, decide_eq_true_eq]

theorem proper_intLiteral (i : Int) : (intLiteral i).Proper where
  whole := run_digitsText _
  no_zeros h := by
    by_cases hi : i.natAbs = 0
    · rw [intLiteral, hi]
      rfl
    · exact absurd h (head?_digitsText hi)
  fraction _ h := by cases h
  exponent _ h := by cases h

/-- **An integer of 64 bits is the value of its literal.** -/
theorem value_intLiteral {i : Int} (lower : -0x8000000000000000 ≤ i)
    (upper : i < 0x10000000000000000) : (intLiteral i).value = .ok (.int i lower upper) := by
  have hread : Nat.ofDigitChars 10 (digitsText i.natAbs) 0 = i.natAbs := ofDigitChars_digitsText _
  have hdigits : accumulate 0 (digitsText i.natAbs) = (i.natAbs, []) := by
    rw [accumulate_eq (by omega), hread]
  have hsign : (if i < 0 then -(i.natAbs : Int) else i.natAbs) = i := by
    split_ifs <;> omega
  have hzero : ¬ (i < 0 ∧ i.natAbs = 0) := by omega
  simp only [Literal.value, intLiteral, hdigits, decide_eq_true_eq, hsign, if_neg hzero,
    dif_pos (And.intro lower upper)]

/-! ## Literals of doubles -/

section
variable {significand : Nat} {exponent : Int}

theorem coefficient_onGrid {e : Int} {s : Scientific}
    (h : Double.onGrid significand exponent e = some s) : s.coefficient ≠ 0 := by
  have hchoice {low : Nat} {nearLow nearHigh : Bool} (hlow : nearLow = true → low ≠ 0)
      (h : (if nearLow then some ⟨low, e⟩ else if nearHigh then some ⟨low + 1, e⟩ else none) =
        some s) : s.coefficient ≠ 0 := by
    split_ifs at h with hnear <;> cases h
    · exact hlow hnear
    · exact Nat.succ_ne_zero _
  refine hchoice (fun hlow => ?_) h
  simp only [Bool.and_eq_true, decide_eq_true_eq] at hlow
  exact hlow.1.1

theorem coefficient_firstOnGrids {n : Nat} {e : Int} {s : Scientific}
    (h : Double.firstOnGrids significand exponent n e = some s) : s.coefficient ≠ 0 := by
  induction n generalizing e with
  | zero => cases h
  | succ n ih =>
    rw [Double.firstOnGrids, Option.orElse_eq_orElse, Option.orElse_eq_or,
      Option.or_eq_some_iff] at h
    exact h.elim coefficient_onGrid fun h => ih h.2

/-- The shortest decimal of a positive double is positive. -/
theorem coefficient_shortest (h : significand ≠ 0) :
    (Double.shortest significand exponent).coefficient ≠ 0 := by
  have hshortest : Double.shortest significand exponent =
      (Double.firstOnGrids significand exponent 18 (decimalExponent
        (binaryRatio significand exponent).1 (binaryRatio significand exponent).2 + 1)).getD
        ⟨significand, 0⟩ := rfl
  rw [hshortest]
  rcases hgrid : Double.firstOnGrids significand exponent 18 _ with _ | s
  · exact h
  · exact coefficient_firstOnGrids hgrid

end

/-! ## Notations -/

section
variable {ds : List Char}

theorem Run.append_zeros (h : Run ds) (n : Nat) : Run (ds ++ Double.zeros n) := by
  refine ⟨fun hnil => h.ne_nil (List.append_eq_nil_iff.1 hnil).1, fun c hc => ?_⟩
  rcases List.mem_append.1 hc with hc | hc
  · exact h.digits c hc
  · rw [List.eq_of_mem_replicate hc]
    decide

theorem Run.zeros_append (h : Run ds) (n : Nat) : Run (Double.zeros n ++ ds) := by
  refine ⟨fun hnil => h.ne_nil (List.append_eq_nil_iff.1 hnil).2, fun c hc => ?_⟩
  rcases List.mem_append.1 hc with hc | hc
  · rw [List.eq_of_mem_replicate hc]
    decide
  · exact h.digits c hc

theorem Run.take (h : Run ds) (n : Nat) : Run (ds.take (n + 1)) := by
  obtain ⟨d, tail, rfl⟩ := List.exists_cons_of_ne_nil h.ne_nil
  exact ⟨List.cons_ne_nil _ _, fun c hc => h.digits c (List.mem_of_mem_take hc)⟩

theorem Run.drop (h : Run ds) {n : Nat} (hn : ds.drop n ≠ []) : Run (ds.drop n) :=
  ⟨hn, fun c hc => h.digits c (List.mem_of_mem_drop hc)⟩

theorem run_zero : Run ['0'] := ⟨List.cons_ne_nil _ _, fun _ hc => List.mem_singleton.1 hc ▸ rfl⟩

end

/-- The literal of a positive decimal. -/
def scientificLiteral (negative : Bool) (s : Scientific) : Literal :=
  let ds := digitsText s.coefficient
  let exponent := s.exponent + ds.length - 1
  if Double.isPositional exponent then
    if 0 ≤ s.exponent then ⟨negative, ds ++ Double.zeros s.exponent.toNat, some ['0'], none⟩
    else if 0 ≤ exponent then
      ⟨negative, ds.take (exponent.toNat + 1), some (ds.drop (exponent.toNat + 1)), none⟩
    else ⟨negative, ['0'], some (Double.zeros (-exponent - 1).toNat ++ ds), none⟩
  else
    ⟨negative, ds.take 1, if (ds.drop 1).isEmpty then none else some (ds.drop 1),
      some (exponent < 0, digitsText exponent.natAbs)⟩

theorem negative_scientificLiteral (negative : Bool) (s : Scientific) :
    (scientificLiteral negative s).negative = negative := by
  unfold scientificLiteral
  dsimp only
  split_ifs <;> rfl

theorem unsignedText_scientificLiteral (negative : Bool) (s : Scientific) :
    (scientificLiteral negative s).unsignedText = Double.scientificText s := by
  unfold scientificLiteral Double.scientificText
  dsimp only
  split_ifs with hpositional hwhole hpoint hone hbelow hbelow <;>
    simp_all [Literal.unsignedText, Literal.fractionText, Literal.exponentText, intText]

theorem proper_scientificLiteral (negative : Bool) {s : Scientific} (hs : s.coefficient ≠ 0) :
    (scientificLiteral negative s).Proper := by
  have hds : Run (digitsText s.coefficient) := run_digitsText _
  have hhead : (digitsText s.coefficient).head? ≠ some '0' := head?_digitsText hs
  unfold scientificLiteral
  generalize digitsText s.coefficient = ds at *
  have hlength : 0 < ds.length := List.length_pos_iff.2 hds.ne_nil
  have htake (n : Nat) : (ds.take (n + 1)).head? ≠ some '0' := by
    rwa [List.head?_take, if_neg (Nat.succ_ne_zero n)]
  have hplaces {places ps : List Char} (h : Run ps) (hmem : places ∈ some ps) : Run places :=
    Option.mem_some_iff.1 hmem ▸ h
  dsimp only
  split_ifs with hpositional hwhole hpoint hone
  · refine ⟨hds.append_zeros _, fun h => absurd h ?_, fun _ => hplaces run_zero, by simp⟩
    rwa [List.head?_append_of_ne_nil _ hds.ne_nil]
  · have hdrop : ds.drop ((s.exponent + ds.length - 1).toNat + 1) ≠ [] :=
      List.drop_eq_nil_iff.not.2 (by omega)
    exact ⟨hds.take _, fun h => absurd h (htake _), fun _ => hplaces (hds.drop hdrop), by simp⟩
  · exact ⟨run_zero, fun _ => rfl, fun _ => hplaces (hds.zeros_append _), by simp⟩
  · refine ⟨hds.take 0, fun h => absurd h (htake 0), by simp, fun e he => ?_⟩
    cases he
    exact run_digitsText _
  · have hdrop : ds.drop 1 ≠ [] := by simpa using hone
    refine ⟨hds.take 0, fun h => absurd h (htake 0), fun _ => hplaces (hds.drop hdrop),
      fun e he => ?_⟩
    cases he
    exact run_digitsText _

/-- **The text of a finite double is a literal.** -/
theorem exists_literal {x : Double} (h : x.isFinite = true) :
    ∃ l : Literal, l.Proper ∧ l.text = x.jsonText := by
  unfold Double.isFinite at h
  unfold Double.jsonText
  cases hvalue : x.value with
  | finite negative significand exponent =>
    dsimp only
    by_cases hzero : significand = 0
    · refine ⟨⟨negative, ['0'], some ['0'], none⟩,
        ⟨run_zero, fun _ => rfl, fun places h => ?_, by simp⟩, ?_⟩
      · cases h
        exact run_zero
      · rw [if_pos hzero]
        rfl
    · refine ⟨scientificLiteral negative (Double.shortest significand exponent),
        proper_scientificLiteral negative (coefficient_shortest hzero), ?_⟩
      rw [if_neg hzero, Literal.text, negative_scientificLiteral, unsignedText_scientificLiteral]
  | infinite | nan =>
    rw [hvalue] at h
    cases h

end TableService.Source
