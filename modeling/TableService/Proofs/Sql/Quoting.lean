/-
  Quoted identifiers as they are scanned.

  * `quotedName?` scans a quoted name at the front of a text: a doubled quote stands for one, a
    single one closes.
  * `quotedName_eq_some_iff`: a name is found exactly where it stands quoted with no quote behind.
  * `prefix_of_quotedName`: whatever follows a quoted name, all of it is scanned.
  * `identifiers_stay_quoted`: an identifier is found again with nothing of what follows it, none
    ends its own quoting, and two of them are quoted differently.
-/
import TableService.Proofs.Sql.Token

namespace TableService

namespace Sql

/-! ## Quoted names -/

/-- Scans a quoted name at the front of a text: the name, and what follows its closing quote. -/
def quotedName? (d : Dialect) : List Char → Option (String × List Char)
  | [] => none
  | c :: cs =>
    if c = d.quoteChar then (readName c cs).map fun (s, rest) => (String.ofList s, rest) else none

/-- Where a name is closed that begins with a quote, what is left stood behind that quote. -/
theorem suffix_of_readName {q : Char} {cs s rest : List Char}
    (h : readName q (q :: cs) = some (s, rest)) : rest <:+ cs := by
  have hclosing : q :: rest <:+ q :: cs := ⟨_, (doubled_of_readName h).1.symm⟩
  rcases List.suffix_cons_iff.1 hclosing with he | hsuffix
  · cases he
    exact List.suffix_rfl
  · exact (List.suffix_cons q rest).trans hsuffix

section
variable {d : Dialect} {cs rest : List Char} {name : String}

/-- **A name is found** exactly where it stands quoted and no quote follows it. -/
theorem quotedName_eq_some_iff : quotedName? d cs = some (name, rest) ↔
    cs = (d.quoteText name).toList ++ rest ∧ rest.head? ≠ some d.quoteChar := by
  rw [quoteText_append]
  cases cs with
  | nil => simp [quotedName?]
  | cons c cs =>
    rw [quotedName?, List.cons.injEq, and_assoc, ← readName_eq_some_iff]
    split_ifs with hc
    · subst hc
      constructor
      · intro h
        obtain ⟨⟨s, rest'⟩, hread, he⟩ := Option.map_eq_some_iff.1 h
        cases he
        exact ⟨rfl, by rwa [String.toList_ofList]⟩
      · rintro ⟨-, hread⟩
        rw [hread, Option.map_some]
        simp only [String.ofList_toList]
    · simp [hc]

example : quotedName? .postgres "\"we\"\"ird\" = $1".toList = some ("we\"ird", " = $1".toList) := by
  decide +kernel

/-- A quoted name is scanned to its end or further, never less. -/
theorem prefix_of_quotedName {found : String} {left : List Char}
    (h : quotedName? d ((d.quoteText name).toList ++ rest) = some (found, left)) :
    name.toList <+: found.toList ∧ left <:+ rest := by
  rw [quoteText_append, quotedName?, if_pos rfl, readName_doubled_append] at h
  obtain ⟨_, h, he⟩ := Option.map_eq_some_iff.1 h
  obtain ⟨⟨s, left'⟩, hread, rfl⟩ := Option.map_eq_some_iff.1 h
  cases he
  rw [String.toList_ofList]
  exact ⟨List.prefix_append _ _, suffix_of_readName hread⟩

end

end Sql

open Sql

theorem Identifier.name_injective : Function.Injective Identifier.name := by
  rintro ⟨_, _, _, _⟩ ⟨_, _, _, _⟩ rfl
  rfl

theorem Dialect.quote_injective (d : Dialect) : Function.Injective d.quote := by
  intro i j h
  have hfound : ∀ i : Identifier, quotedName? d (d.quote i).toList = some (i.name, []) := fun i =>
    quotedName_eq_some_iff.2 ⟨(List.append_nil _).symm, by simp⟩
  have hnames := (hfound i).symm.trans (h ▸ hfound j)
  exact Identifier.name_injective (congrArg Prod.fst (Option.some.inj hnames))

/-- **Identifiers stay within their quotes**, in any dialect: each is found again, with nothing of
what follows it, if that does not begin with a quote; whatever follows it, no part of the identifier
is left behind a closing quote.  Two identifiers are never quoted alike. -/
theorem identifiers_stay_quoted (d : Dialect) :
    (∀ name, Identifier.Valid name → ∃ i, Identifier.check name = .ok i ∧
      (∀ text rest : List Char, quotedName? d text = some (name, rest) ↔
        text = (d.quote i).toList ++ rest ∧ rest.head? ≠ some d.quoteChar) ∧
      ∀ (rest : List Char) found left,
        quotedName? d ((d.quote i).toList ++ rest) = some (found, left) →
          name.toList <+: found.toList ∧ left <:+ rest) ∧
    Function.Injective d.quote := by
  refine ⟨fun name hvalid => ?_, d.quote_injective⟩
  obtain ⟨i, hi⟩ := Identifier.check_ok_iff.2 hvalid
  obtain rfl := Identifier.name_of_check hi
  exact ⟨i, hi, fun _ _ => quotedName_eq_some_iff, fun _ _ _ => prefix_of_quotedName⟩

/-- An identifier of quotes, and what is made of it before another quote. -/
theorem quotes_stay_quoted : Identifier.Valid "\"; --\"" ∧
    ∃ i, Identifier.check "\"; --\"" = .ok i ∧
    quotedName? .postgres ((Dialect.postgres.quote i).toList ++ " = $1".toList) =
      some ("\"; --\"", " = $1".toList) ∧
    quotedName? .postgres ((Dialect.postgres.quote i).toList ++ "\"a\" = $1".toList) =
      some ("\"; --\"\"a", " = $1".toList) ∧
    "\"; --\"".toList <+: "\"; --\"\"a".toList ∧ " = $1".toList <:+ "\"a\" = $1".toList := by
  have hvalid : Identifier.Valid "\"; --\"" := ⟨by decide, by decide, by decide⟩
  obtain ⟨i, hi, hfound, hleft⟩ := (identifiers_stay_quoted .postgres).1 _ hvalid
  have hlonger : quotedName? .postgres ((Dialect.postgres.quote i).toList ++ "\"a\" = $1".toList) =
      some ("\"; --\"\"a", " = $1".toList) := by
    rw [Dialect.quote, Identifier.name_of_check hi]
    decide +kernel
  exact ⟨hvalid, i, hi, (hfound _ _).2 ⟨rfl, by decide⟩, hlonger, hleft _ _ _ hlonger⟩

end TableService
