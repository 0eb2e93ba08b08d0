/-
  Tokens of statements that create tables.

  * `Spells`: characters are one token of a kind wherever they stand before a blank, a comma, a
    bracket or the end; so are words (`spells_word`), numbers (`spells_number`) and names in quotes,
    whatever they contain (`spells_quoted`).
  * `scan_sign`, `scan_blank`: brackets, commas and blanks do not depend on what follows.
-/
import TableService.Proofs.Sql.Token
import TableService.Store.Token

namespace TableService.Store.Token

/-- The characters cannot go on with a token before them. -/
def Ends (cs : List Char) : Prop := ∀ c ∈ cs.head?, c = ' ' ∨ c = ',' ∨ c = '(' ∨ c = ')'

theorem ends_nil : Ends [] := by simp [Ends]

theorem ends_cons {c : Char} (cs : List Char) (h : c = ' ' ∨ c = ',' ∨ c = '(' ∨ c = ')') :
    Ends (c :: cs) := by
  rintro _ ⟨⟩
  exact h

theorem Ends.append {cs rest : List Char} (h : Ends cs) (h' : Ends rest) : Ends (cs ++ rest) := by
  cases cs with
  | nil => exact h'
  | cons c cs => exact h

/-- What does not hold of these characters does not hold of the next one. -/
theorem Ends.takeWhile {p : Char → Bool} {rest : List Char} (h : Ends rest) (hb : p ' ' = false)
    (hc : p ',' = false) (ho : p '(' = false) (he : p ')' = false) : rest.takeWhile p = [] := by
  cases rest with
  | nil => rfl
  | cons c rest =>
    have hp : p c = false := by
      rcases h c rfl with rfl | rfl | rfl | rfl
      · exact hb
      · exact hc
      · exact ho
      · exact he
    rw [List.takeWhile_cons_of_neg (by simp [hp])]

/-- The characters are one token of the kind wherever they end. -/
def Spells (kind : TokenKind) (cs : List Char) : Prop :=
  ∀ offset rest, Ends rest → ∃ after,
    scan offset 0 (cs ++ rest) = ⟨kind, String.ofList cs, offset⟩ :: scan after 0 rest

/-- Characters that belong to a token are passed over. -/
theorem scan_skip (cs rest : List Char) (offset : Nat) :
    ∃ after, scan offset cs.length (cs ++ rest) = scan after 0 rest := by
  induction cs generalizing offset with
  | nil => exact ⟨offset, rfl⟩
  | cons c cs ih =>
    obtain ⟨after, h⟩ := ih (offset + c.utf8Size)
    exact ⟨after, h⟩

theorem spells_of_first {kind : TokenKind} {c : Char} {cs : List Char}
    (h : ∀ rest, Ends rest → first c (cs ++ rest) = (some kind, cs.length + 1)) :
    Spells kind (c :: cs) := by
  intro offset rest hr
  obtain ⟨after, hscan⟩ := scan_skip cs rest (offset + c.utf8Size)
  refine ⟨after, ?_⟩
  rw [List.cons_append, scan]
  simp only [h rest hr, Nat.add_sub_cancel, List.take_left', hscan]

theorem scan_blank (offset : Nat) (cs : List Char) :
    scan offset 0 (' ' :: cs) = scan (offset + 1) 0 cs := rfl

/-- A bracket or a comma is a token. -/
theorem scan_sign {c : Char} (h : c = ',' ∨ c = '(' ∨ c = ')') (offset : Nat) (cs : List Char) :
    ∃ after, scan offset 0 (c :: cs) =
      ⟨.sign, String.singleton c, offset⟩ :: scan after 0 cs := by
  have hfirst : first c cs = (some .sign, 1) := by
    cases cs with
    | nil => rcases h with rfl | rfl | rfl <;> rfl
    | cons d cs => rcases h with rfl | rfl | rfl <;> rfl
  refine ⟨offset + c.utf8Size, ?_⟩
  rw [scan]
  simp only [hfirst]
  rfl

/-- What begins with a letter or a digit is a word or a number. -/
theorem first_plain {c : Char} {cs : List Char} (hc : isWordStart c = true ∨ c.isDigit = true)
    (hx : ¬((c = 'x' ∨ c = 'X') ∧ cs.head? = some '\'')) :
    first c cs =
      if isWordStart c then (some .word, (cs.takeWhile isWordChar).length + 1)
      else
        match ((c :: cs).drop (numberLength (c :: cs))).takeWhile isWordChar with
        | [] => (some .number, numberLength (c :: cs))
        | rest => (some .bad, numberLength (c :: cs) + rest.length) := by
  have hne : ∀ {x : Char}, isWordStart x = false → x.isDigit = false → c ≠ x := by
    rintro x hstart hdigit rfl
    rcases hc with hc | hc
    · cases hc.symm.trans hstart
    · cases hc.symm.trans hdigit
  have hblank : ¬ isBlank c = true := by
    simp only [isBlank, Bool.or_eq_true, decide_eq_true_eq, not_or]
    exact ⟨⟨⟨⟨hne rfl rfl, hne rfl rfl⟩, hne rfl rfl⟩, hne rfl rfl⟩, hne rfl rfl⟩
  rw [first, if_neg hblank, if_neg fun h => hne rfl rfl h.1, if_neg fun h => hne rfl rfl h.1,
    if_neg (hne rfl rfl), if_neg (not_or.2 ⟨hne rfl rfl, hne rfl rfl⟩), if_neg (hne rfl rfl),
    if_neg hx]
  by_cases hstart : isWordStart c = true
  · rw [if_pos hstart, if_pos hstart]
  · rw [if_neg hstart, if_neg hstart]
    exact if_pos (.inl (hc.resolve_left hstart))

/-! ## Words -/

/-- The characters are a word. -/
def isWordText : List Char → Bool
  | [] => false
  | c :: cs => isWordStart c && cs.all isWordChar

theorem spells_word {w : List Char} (h : isWordText w = true) : Spells .word w := by
  cases w with
  | nil => cases h
  | cons c cs =>
    obtain ⟨hc, hcs⟩ := Bool.and_eq_true_iff.1 h
    have hcs : ∀ d ∈ cs, isWordChar d = true := List.all_eq_true.1 hcs
    refine spells_of_first fun rest hr => ?_
    have hquote : (cs ++ rest).head? ≠ some '\'' := by
      intro hq
      cases cs with
      | nil => rcases hr _ hq with h | h | h | h <;> cases h
      | cons d cs =>
        cases hq
        cases hcs '\'' List.mem_cons_self
    rw [first_plain (.inl hc) fun hx => hquote hx.2, if_pos hc, List.takeWhile_append_of_pos hcs,
      hr.takeWhile rfl rfl rfl rfl, List.append_nil]

/-! ## Numbers -/

/-- The characters are digits. -/
def isNumberText (cs : List Char) : Bool := !cs.isEmpty && cs.all Char.isDigit

theorem not_isWordStart_of_isDigit {c : Char} (h : c.isDigit = true) : isWordStart c = false := by
  have hrange : 48 ≤ c.toNat ∧ c.toNat ≤ 57 := by
    simpa [Char.isDigit, UInt32.le_iff_toNat_le] using h
  have hupper : c.isUpper = false := by
    refine decide_eq_false fun hc => ?_
    have hge : 65 ≤ c.toNat := UInt32.le_iff_toNat_le.1 hc.1
    omega
  have hlower : c.isLower = false := by
    refine Bool.and_eq_false_iff.2 (.inl (decide_eq_false fun hc => ?_))
    have hge : 97 ≤ c.toNat := UInt32.le_iff_toNat_le.1 hc
    omega
  have hunderscore : c ≠ '_' := by
    rintro rfl
    cases h
  have hnarrow : ¬ 0x80 ≤ c.toNat := by omega
  show (c.isUpper || c.isLower || decide (c = '_') || decide (0x80 ≤ c.toNat)) = false
  rw [hupper, hlower, decide_eq_false hunderscore, decide_eq_false hnarrow]
  rfl

/-- The character after the first digit is no `x`. -/
theorem not_after_digits {ds rest : List Char} (h : ∀ d ∈ ds, d.isDigit = true) (hr : Ends rest)
    {c x : Char} {cs : List Char} (hx : x = 'x' ∨ x = 'X') (hds : ds ≠ []) :
    ds ++ rest ≠ c :: x :: cs := by
  intro heq
  match ds, hds with
  | [d], _ =>
    obtain ⟨-, rfl⟩ := List.cons.inj heq
    rcases hr x rfl with rfl | rfl | rfl | rfl <;> rcases hx with hx | hx <;> cases hx
  | d :: d' :: ds, _ =>
    obtain ⟨-, heq⟩ := List.cons.inj heq
    obtain ⟨rfl, -⟩ := List.cons.inj heq
    have hd := h d' (by simp)
    rcases hx with rfl | rfl <;> cases hd

theorem numberLength_digits {ds rest : List Char} (h : isNumberText ds = true) (hr : Ends rest) :
    numberLength (ds ++ rest) = ds.length := by
  obtain ⟨hne, hdigits⟩ : ds ≠ [] ∧ ∀ d ∈ ds, d.isDigit = true := by
    simpa [isNumberText] using h
  have hwhole : ((ds ++ rest).takeWhile Char.isDigit).length = ds.length := by
    rw [List.takeWhile_append_of_pos hdigits, hr.takeWhile rfl rfl rfl rfl, List.append_nil]
  unfold numberLength
  split
  · rename_i cs heq
    exact absurd heq (not_after_digits hdigits hr (.inl rfl) hne)
  · rename_i cs heq
    exact absurd heq (not_after_digits hdigits hr (.inr rfl) hne)
  · dsimp only
    rw [hwhole, List.drop_left]
    cases rest with
    | nil => simp
    | cons x rest =>
      have hx := hr x rfl
      have hpoint : x ≠ '.' := by rcases hx with rfl | rfl | rfl | rfl <;> decide
      have he : ¬(x = 'e' ∨ x = 'E') := by rcases hx with rfl | rfl | rfl | rfl <;> decide
      simp [hpoint, he]

theorem spells_number {ds : List Char} (h : isNumberText ds = true) : Spells .number ds := by
  cases ds with
  | nil => cases h
  | cons c cs =>
    have hdigits : ∀ d ∈ c :: cs, d.isDigit = true := List.all_eq_true.1 h
    have hc : c.isDigit = true := hdigits c List.mem_cons_self
    have hx : ¬(c = 'x' ∨ c = 'X') := by
      rintro (rfl | rfl)
      · cases hc
      · cases hc
    refine spells_of_first fun rest hr => ?_
    have hword : ¬ isWordStart c = true := by
      rw [not_isWordStart_of_isDigit hc]
      exact Bool.false_ne_true
    have hlength : numberLength (c :: (cs ++ rest)) = cs.length + 1 :=
      numberLength_digits h hr
    have hdrop : (c :: (cs ++ rest)).drop (cs.length + 1) = rest := by
      rw [List.drop_succ_cons, List.drop_left]
    rw [first_plain (.inr hc) fun h => hx h.1, if_neg hword, hlength, hdrop,
      hr.takeWhile rfl rfl rfl rfl]

/-! ## Names in quotes -/

/-- What is read up to the closing quote, by the number of characters. -/
theorem quotedText_of_readName {q : Char} {cs s rest : List Char} {n : Nat}
    (h : Sql.readName q cs = some (s, rest)) (hn : cs.length = n + rest.length) :
    quotedText q cs = some (s, n) := by
  fun_induction Sql.readName q cs generalizing s n with
  | case1 => cases h
  | case2 =>
    cases h
    obtain rfl : n = 1 := hn.symm
    simp [quotedText]
  | case3 => cases h
  | case4 cs ih =>
    obtain ⟨⟨s', rest'⟩, hread, heq⟩ := Option.map_eq_some_iff.1 h
    cases heq
    have hshorter := Sql.readName_shorter hread
    obtain ⟨m, rfl⟩ : ∃ m, n = m + 2 := ⟨n - 2, by simp only [List.length_cons] at hn; omega⟩
    have hm : cs.length = m + rest.length := by
      simp only [List.length_cons] at hn
      omega
    simp [quotedText, ih hread hm]
  | case5 d cs hd =>
    cases h
    obtain rfl : n = 1 := by
      simp only [List.length_cons] at hn
      omega
    simp [quotedText, hd]
  | case6 c d cs hc ih =>
    obtain ⟨⟨s', rest'⟩, hread, heq⟩ := Option.map_eq_some_iff.1 h
    cases heq
    have hshorter := Sql.readName_shorter hread
    obtain ⟨m, rfl⟩ : ∃ m, n = m + 1 := ⟨n - 1, by simp only [List.length_cons] at hn hshorter; omega⟩
    have hm : (d :: cs).length = m + rest.length := by
      simp only [List.length_cons] at hn ⊢
      omega
    simp [quotedText, hc, ih hread hm]

/-- **A name in quotes is one token**, whatever it contains. -/
theorem spells_quoted (name : String) :
    Spells (.name name) (Dialect.sqlite.quoteText name).toList := by
  rw [Dialect.quoteText, String.toList_ofList, List.cons_append,
    show Dialect.sqlite.quoteChar = '"' from rfl]
  refine spells_of_first fun rest hr => ?_
  have hrest : rest.head? ≠ some '"' := by
    intro h
    rcases hr _ h with h | h | h | h <;> cases h
  have hlength : (Dialect.doubled '"' name.toList ++ '"' :: rest).length =
      (Dialect.doubled '"' name.toList).length + 1 + rest.length := by
    rw [List.length_append, List.length_cons]
    omega
  have hread := quotedText_of_readName (Sql.readName_doubled name.toList hrest) hlength
  have hquote : ¬ ('"' = '\'') := by decide
  rw [List.append_assoc, List.singleton_append, first, if_neg (by decide),
    if_neg fun h => absurd h.1 (by decide), if_neg fun h => absurd h.1 (by decide), if_neg hquote,
    if_pos (.inl rfl), hread]
  simp

/-! ## Texts without NUL -/

theorem noNul_word {w : List Char} (h : isWordText w = true) : '\x00' ∉ w := by
  have hchar : ∀ c, isWordStart c = true → isWordChar c = true := by
    intro c hc
    simp only [isWordStart, isWordChar, Char.isAlphanum, Bool.or_eq_true] at hc ⊢
    rcases hc with (hc | hc) | hc
    · exact .inl (.inl (.inl (.inl hc)))
    · exact .inl (.inl (.inr hc))
    · exact .inr hc
  have hnul : ¬ isWordChar '\x00' = true := by decide
  cases w with
  | nil => exact List.not_mem_nil
  | cons c cs =>
    obtain ⟨hc, hcs⟩ := Bool.and_eq_true_iff.1 h
    rw [List.mem_cons, not_or]
    constructor
    · rintro rfl
      exact hnul (hchar _ hc)
    · exact fun hmem => hnul (List.all_eq_true.1 hcs _ hmem)

theorem noNul_number {ds : List Char} (h : isNumberText ds = true) : '\x00' ∉ ds := by
  intro hmem
  have hdigit := List.all_eq_true.1 (Bool.and_eq_true_iff.1 h).2 _ hmem
  revert hdigit
  decide

theorem noNul_quote (i : Identifier) : '\x00' ∉ (Dialect.sqlite.quote i).toList := by
  intro hmem
  rw [Dialect.quote, Dialect.quoteText, String.toList_ofList] at hmem
  simp only [Dialect.doubled, List.cons_append, List.mem_cons, List.mem_append, List.mem_flatMap,
    List.not_mem_nil, or_false] at hmem
  have hquote : '\x00' ≠ Dialect.sqlite.quoteChar := by decide
  rcases hmem with h | ⟨c, hc, h⟩ | h
  · exact hquote h
  · split_ifs at h
    · simp [hquote] at h
    · obtain rfl := List.mem_singleton.1 h
      exact i.noNul hc
  · exact hquote h

end TableService.Store.Token
