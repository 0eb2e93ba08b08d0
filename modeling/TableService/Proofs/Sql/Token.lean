/-
  Statements as tokens.

  * `tokens` reads a statement by the quoting rule of a dialect: nothing inside a quoted name
    counts, where a doubled quote stands for one and a single one closes.
  * `readName_eq_some_iff`: what is read as a name is exactly what was quoted, whatever it contains.
  * `Spells`: characters that are one token wherever they stand before a blank, a comma, a closing
    bracket or the end; `Lexes` is the same for any number of tokens.
  * `Yields` is such a judgement on any reading of characters; its rules put pieces together.
-/
import Mathlib.Data.List.Forall2
import Mathlib.Data.List.TakeWhile
import TableService.Dialect
import TableService.Proofs.Number.Digits

namespace TableService.Sql

/-- A token of a statement. -/
inductive Token where
  /-- A quoted name, without its quotes. -/
  | name (s : String)
  /-- Letters, digits and underscores. -/
  | word (s : String)
  /-- The mark of a parameter, with its number if it has one. -/
  | mark (number : Option Nat)
  /-- Any other character but a blank. -/
  | sign (c : Char)
  deriving DecidableEq, Repr

/-- The number in the mark of the `n`-th parameter. -/
def markNumber (d : Dialect) (n : Nat) : Option Nat := if d.isNumbered then some n else none

/-- The character may stand in a word. -/
def isWordChar (c : Char) : Bool := c.isAlphanum || c = '_'

/-- Reads a name after its opening quote: the name, and what follows the closing quote. -/
def readName (q : Char) : List Char → Option (List Char × List Char)
  | [] => none
  | [c] => if c = q then some ([], []) else none
  | c :: d :: cs =>
    if c = q then
      if d = q then (readName q cs).map fun (s, rest) => (q :: s, rest) else some ([], d :: cs)
    else (readName q (d :: cs)).map fun (s, rest) => (c :: s, rest)

/-- The token at the front, unless that is a blank, and what follows; none for an open name. -/
def next (d : Dialect) (c : Char) (cs : List Char) : Option (Option Token × List Char) :=
  if c = ' ' then some (none, cs)
  else if c = d.quoteChar then
    (readName c cs).map fun (s, rest) => (some (.name (String.ofList s)), rest)
  else if c = '?' then some (some (.mark none), cs)
  else if c = '$' ∧ cs.head?.any Char.isDigit then
    some (some (.mark (some (Nat.ofDigitChars 10 (cs.takeWhile Char.isDigit) 0))),
      cs.dropWhile Char.isDigit)
  else if isWordChar c then
    some (some (.word (String.ofList (c :: cs.takeWhile isWordChar))), cs.dropWhile isWordChar)
  else some (some (.sign c), cs)

theorem readName_cons_of_ne {q c : Char} (h : c ≠ q) (cs : List Char) :
    readName q (c :: cs) = (readName q cs).map fun (s, rest) => (c :: s, rest) := by
  cases cs with
  | nil => simp [readName, h]
  | cons d cs => rw [readName, if_neg h]

theorem doubled_of_readName {q : Char} {cs s rest : List Char}
    (h : readName q cs = some (s, rest)) :
    cs = Dialect.doubled q s ++ q :: rest ∧ rest.head? ≠ some q := by
  fun_induction readName q cs generalizing s rest with
  | case1 => cases h
  | case2 =>
    cases h
    exact ⟨rfl, by simp⟩
  | case3 => cases h
  | case4 cs ih =>
    obtain ⟨⟨s', rest'⟩, hread, he⟩ := Option.map_eq_some_iff.1 h
    cases he
    obtain ⟨rfl, hrest⟩ := ih hread
    exact ⟨by simp [Dialect.doubled], hrest⟩
  | case5 d cs hd =>
    cases h
    exact ⟨rfl, by simpa using hd⟩
  | case6 c d cs hc ih =>
    obtain ⟨⟨s', rest'⟩, hread, he⟩ := Option.map_eq_some_iff.1 h
    cases he
    obtain ⟨htext, hrest⟩ := ih hread
    exact ⟨by simp [htext, Dialect.doubled, hc], hrest⟩

theorem readName_shorter {q : Char} {cs s rest : List Char} (h : readName q cs = some (s, rest)) :
    rest.length ≤ cs.length := by
  rw [(doubled_of_readName h).1, List.length_append, List.length_cons]
  omega

theorem next_shorter {d : Dialect} {c : Char} {cs rest : List Char} {t : Option Token}
    (h : next d c cs = some (t, rest)) : rest.length ≤ cs.length := by
  unfold next at h
  split_ifs at h
  · cases h; exact le_rfl
  · obtain ⟨⟨s, rest'⟩, hr, he⟩ := Option.map_eq_some_iff.1 h
    cases he
    exact readName_shorter hr
  · cases h; exact le_rfl
  · cases h; exact List.length_dropWhile_le _ _
  · cases h; exact List.length_dropWhile_le _ _
  · cases h; exact le_rfl

/-- The tokens of a statement, unless it ends inside a name. -/
def tokens (d : Dialect) : List Char → Option (List Token)
  | [] => some []
  | c :: cs =>
    match _h : next d c cs with
    | some (t, rest) => (tokens d rest).map (t.toList ++ ·)
    | none => none
termination_by cs => cs.length
decreasing_by exact Nat.lt_succ_of_le (next_shorter _h)

theorem tokens_cons {d : Dialect} {c : Char} {cs rest : List Char} {t : Option Token}
    (h : next d c cs = some (t, rest)) :
    tokens d (c :: cs) = (tokens d rest).map (t.toList ++ ·) := by
  rw [tokens]
  split
  · rename_i h'
    cases h'.symm.trans h
    rfl
  · rename_i h'
    cases h'.symm.trans h

/-! ## Names -/

/-- **No quote in a quoted name closes it**: all of the name is read, and then what follows. -/
theorem readName_doubled_append (q : Char) (s cs : List Char) :
    readName q (Dialect.doubled q s ++ cs) =
      (readName q cs).map fun (t, rest) => (s ++ t, rest) := by
  induction s with
  | nil => exact Option.map_id'.symm
  | cons c s ih =>
    rw [Dialect.doubled, List.flatMap_cons, ← Dialect.doubled]
    by_cases hc : c = q
    · subst hc
      simp [readName, ih, Function.comp_def]
    · rw [if_neg hc, List.append_assoc, List.singleton_append, readName_cons_of_ne hc, ih,
        Option.map_map]
      rfl

/-- **A quoted name is read back**, up to its closing quote. -/
theorem readName_doubled {q : Char} (s : List Char) {rest : List Char} (h : rest.head? ≠ some q) :
    readName q (Dialect.doubled q s ++ q :: rest) = some (s, rest) := by
  have hclose : readName q (q :: rest) = some ([], rest) := by
    cases rest with
    | nil => rw [readName, if_pos rfl]
    | cons c rest => simpa [readName] using h
  rw [readName_doubled_append, hclose, Option.map_some]
  simp only [List.append_nil]

/-- What is read up to a closing quote is the name that was written so. -/
theorem readName_eq_some_iff {q : Char} {cs s rest : List Char} :
    readName q cs = some (s, rest) ↔
      cs = Dialect.doubled q s ++ q :: rest ∧ rest.head? ≠ some q := by
  constructor
  · exact doubled_of_readName
  · rintro ⟨rfl, hrest⟩
    exact readName_doubled s hrest

theorem quoteText_append (d : Dialect) (name : String) (rest : List Char) :
    (d.quoteText name).toList ++ rest =
      d.quoteChar :: (Dialect.doubled d.quoteChar name.toList ++ d.quoteChar :: rest) := by
  simp [Dialect.quoteText]

/-! ## Pieces -/

/-- The characters cannot go on with a token before them. -/
def Ends (cs : List Char) : Prop := ∀ c ∈ cs.head?, c = ' ' ∨ c = ',' ∨ c = ')'

/-- A reading of characters makes this of the ones given, wherever they end. -/
def Yields {β : Type} (read : List Char → Option (List β)) (cs : List Char) (out : List β) : Prop :=
  ∀ rest, Ends rest → read (cs ++ rest) = (read rest).map (out ++ ·)

/-- The characters are read as these tokens wherever they end. -/
def Lexes (d : Dialect) (cs : List Char) (ts : List Token) : Prop := Yields (tokens d) cs ts

/-- The characters are one token wherever they end. -/
def Spells (d : Dialect) (t : Token) : List Char → Prop
  | [] => False
  | c :: cs => ∀ rest, Ends rest → next d c (cs ++ rest) = some (some t, rest)

/-- The characters are a word. -/
def isWord (cs : List Char) : Bool := !cs.isEmpty && cs.all isWordChar

/-- The character is a token by itself, in any dialect. -/
def isSign (c : Char) : Bool :=
  !isWordChar c && !([' ', '?', '$', '"', Char.ofNat 0x60].contains c)

theorem Ends.nil : Ends [] := by simp [Ends]

theorem Ends.space (cs : List Char) : Ends (' ' :: cs) :=
  fun _ hc => .inl (Option.some.inj hc).symm

theorem Ends.comma (cs : List Char) : Ends (',' :: cs) :=
  fun _ hc => .inr (.inl (Option.some.inj hc).symm)

theorem Ends.bracket (cs : List Char) : Ends (')' :: cs) :=
  fun _ hc => .inr (.inr (Option.some.inj hc).symm)

theorem Ends.append {cs rest : List Char} (h : Ends cs) (h' : Ends rest) : Ends (cs ++ rest) := by
  cases cs with
  | nil => exact h'
  | cons c cs => exact h

theorem Ends.ite (b : Bool) {s : String} (h : Ends s.toList) :
    Ends (if b then s else "").toList := by
  cases b
  · exact .nil
  · exact h

theorem Ends.span {p : Char → Bool} {rest : List Char} (h : Ends rest) (hs : p ' ' = false)
    (hc : p ',' = false) (hb : p ')' = false) :
    rest.takeWhile p = [] ∧ rest.dropWhile p = rest := by
  cases rest with
  | nil => exact ⟨rfl, rfl⟩
  | cons c rest =>
    have hp : p c = false := by
      rcases h c rfl with rfl | rfl | rfl
      · exact hs
      · exact hc
      · exact hb
    simp [hp]

theorem quoteChar_not_word (d : Dialect) : isWordChar d.quoteChar = false := by cases d <;> decide

theorem next_sign {c : Char} (h : isSign c = true) (d : Dialect) (cs : List Char) :
    next d c cs = some (some (.sign c), cs) := by
  simp only [isSign, Bool.and_eq_true, Bool.not_eq_true', List.contains_eq_mem,
    decide_eq_false_iff_not, List.mem_cons, not_or] at h
  obtain ⟨hw, hb, hp, hm, hd, hg, -⟩ := h
  have hq : c ≠ d.quoteChar := by
    cases d
    · exact hd
    · exact hg
    · exact hd
  rw [next, if_neg hb, if_neg hq, if_neg hp, if_neg fun h => hm h.1, if_neg (by simp [hw])]

/-- A quoted name is the next token, if no quote follows it. -/
theorem next_quoted {d : Dialect} (name : String) {rest : List Char}
    (h : rest.head? ≠ some d.quoteChar) :
    next d d.quoteChar (Dialect.doubled d.quoteChar name.toList ++ d.quoteChar :: rest) =
      some (some (.name name), rest) := by
  have hb : d.quoteChar ≠ ' ' := by cases d <;> decide
  rw [next, if_neg hb, if_pos rfl, readName_doubled _ h, Option.map_some]
  simp only [String.ofList_toList]

namespace Spells
variable {d : Dialect}

theorem word {w : List Char} (h : isWord w = true) : Spells d (.word (String.ofList w)) w := by
  obtain ⟨hne, hw⟩ : w ≠ [] ∧ ∀ c ∈ w, isWordChar c = true := by simpa [isWord] using h
  obtain ⟨c, cs, rfl⟩ := List.exists_cons_of_ne_nil hne
  have hc : isWordChar c = true := hw c List.mem_cons_self
  intro rest hr
  obtain ⟨htake, hdrop⟩ := hr.span (p := isWordChar) rfl rfl rfl
  have hcs : ∀ c ∈ cs, isWordChar c = true := fun c h => hw c (List.mem_cons_of_mem _ h)
  have hne : ∀ {x}, isWordChar x = false → c ≠ x := by
    rintro x hx rfl
    cases hc.symm.trans hx
  rw [next, if_neg (hne rfl), if_neg (hne (quoteChar_not_word d)), if_neg (hne rfl),
    if_neg fun h => hne rfl h.1, if_pos hc, List.takeWhile_append_of_pos hcs,
    List.dropWhile_append_of_pos hcs, htake, hdrop, List.append_nil]

theorem text {s : String} (h : isWord s.toList = true) : Spells d (.word s) s.toList := by
  have hs : Spells d (.word (String.ofList s.toList)) s.toList := word h
  rwa [String.ofList_toList] at hs

/-- **A quoted name is read as that name**, whatever it contains. -/
theorem quoted (name : String) : Spells d (.name name) (d.quoteText name).toList := by
  rw [Dialect.quoteText, String.toList_ofList, List.cons_append]
  intro rest hr
  have hrest : rest.head? ≠ some d.quoteChar := by
    intro h
    rcases hr _ h with h | h | h <;> cases d <;> cases h
  rw [List.append_assoc, List.singleton_append, next_quoted name hrest]

/-- **The mark of a parameter is read as that mark**, with its number. -/
theorem placeholder (n : Nat) : Spells d (.mark (markNumber d n)) (d.placeholder n).toList := by
  unfold Dialect.placeholder markNumber
  split_ifs with hd
  · obtain rfl : d = .postgres := by cases d <;> first | rfl | cases hd
    rw [String.toList_ofList]
    intro rest hr
    obtain ⟨htake, hdrop⟩ := hr.span (p := Char.isDigit) rfl rfl rfl
    have hdigits : ∀ c ∈ digitsText n, c.isDigit = true := fun c => isDigit_of_mem_digitsText
    have hhead : (digitsText n ++ rest).head?.any Char.isDigit = true := by
      obtain ⟨c, cs, hc⟩ : ∃ c cs, digitsText n = c :: cs :=
        List.exists_cons_of_ne_nil Nat.toDigits_ne_nil
      rw [hc]
      exact hdigits c (by simp [hc])
    rw [next, if_neg (by decide), if_neg (by decide), if_neg (by decide), if_pos ⟨rfl, hhead⟩,
      List.takeWhile_append_of_pos hdigits, List.dropWhile_append_of_pos hdigits, htake, hdrop,
      List.append_nil, digitsText, Nat.ofDigitChars_toDigits (by decide) (by decide)]
  · rw [show "?".toList = ['?'] from rfl]
    intro rest _
    have hq : '?' ≠ d.quoteChar := by cases d <;> decide
    rw [next, if_neg (by decide), if_neg hq, if_pos rfl]
    rfl

end Spells

namespace Yields
variable {β : Type} {read : List Char → Option (List β)} {cs cs' : List Char} {out out' : List β}

theorem nil : Yields read [] [] := fun rest _ => by simp

theorem append (h : Yields read cs out) (h' : Yields read cs' out') (he : Ends cs') :
    Yields read (cs ++ cs') (out ++ out') := by
  intro rest hr
  rw [List.append_assoc, h _ (he.append hr), h' rest hr, Option.map_map]
  simp only [Function.comp_def, List.append_assoc]

/-- Pieces with a separator and a blank between them, if a blank may stand before anything. -/
theorem intercalate {s : List Char} {sep blank : List β}
    (hblank : ∀ {cs out}, Yields read cs out → Yields read (' ' :: cs) (blank ++ out))
    (hs : Yields read s sep) (he : Ends s) :
    ∀ {pieces : List (List Char)} {outs : List (List β)},
      List.Forall₂ (Yields read) pieces outs →
        Yields read ((s ++ [' ']).intercalate pieces) ((sep ++ blank).intercalate outs)
  | [], [], .nil => nil
  | [_], [_], .cons h .nil => by simpa using h
  | p :: p' :: pieces, o :: o' :: outs, .cons h hrest => by
    rw [List.intercalate_cons_cons, List.intercalate_cons_cons, List.append_assoc,
      List.append_assoc, List.append_assoc, List.append_assoc]
    exact h.append (hs.append (hblank (intercalate hblank hs he hrest)) (.space _))
      (he.append (.space _))

end Yields

/-- What is one token is read as that token. -/
theorem Spells.lexes {d : Dialect} {t : Token} :
    ∀ {cs : List Char}, Spells d t cs → Lexes d cs [t]
  | _ :: _, h, rest, hr => by rw [List.cons_append, tokens_cons (h rest hr)]; rfl

namespace Lexes
variable {d : Dialect} {cs cs' : List Char} {ts ts' : List Token}

theorem nil : Lexes d [] [] := Yields.nil

theorem append (h : Lexes d cs ts) (h' : Lexes d cs' ts') (he : Ends cs') :
    Lexes d (cs ++ cs') (ts ++ ts') :=
  Yields.append h h' he

theorem ite (b : Bool) {s : String} (h : Lexes d s.toList ts) :
    Lexes d (if b then s else "").toList (if b then ts else []) := by
  cases b
  · exact .nil
  · exact h

theorem tokens_eq (h : Lexes d cs ts) : tokens d cs = some ts := by
  have h := h [] .nil
  rw [List.append_nil, tokens] at h
  simpa using h

theorem space (h : Lexes d cs ts) : Lexes d (' ' :: cs) ts := by
  intro rest hr
  have hn : next d ' ' (cs ++ rest) = some (none, cs ++ rest) := rfl
  rw [List.cons_append, tokens_cons hn, h rest hr, Option.map_map]
  rfl

theorem sign {c : Char} (hc : isSign c = true) (h : Lexes d cs ts) :
    Lexes d (c :: cs) (.sign c :: ts) := by
  intro rest hr
  rw [List.cons_append, tokens_cons (next_sign hc d _), h rest hr, Option.map_map]
  rfl

theorem keyword {w : String} (hw : isWord w.toList = true) (h : Lexes d cs ts) :
    Lexes d (w.toList ++ ' ' :: cs) (.word w :: ts) :=
  (Spells.text hw).lexes.append h.space (.space _)

/-- A quoted name and a sign that is no quote. -/
theorem quoted_sign {c : Char} (hc : isSign c = true) (name : String) (h : Lexes d cs ts) :
    Lexes d ((d.quoteText name).toList ++ c :: cs) (.name name :: .sign c :: ts) := by
  intro rest hr
  have hq : (c :: (cs ++ rest)).head? ≠ some d.quoteChar := by
    rintro ⟨⟩
    cases d <;> cases hc
  have hsign : tokens d (c :: (cs ++ rest)) = _ := Lexes.sign hc h rest hr
  rw [List.append_assoc, List.cons_append, quoteText_append, tokens_cons (next_quoted name hq),
    hsign, Option.map_map]
  rfl

/-- Texts with a separator and a blank between them. -/
theorem intercalate {s : String} {t : Token} (hs : Lexes d s.toList [t]) (he : Ends s.toList)
    {texts : List String} {read : List (List Token)}
    (h : List.Forall₂ (fun text ts => Lexes d text.toList ts) texts read) :
    Lexes d (String.intercalate (s ++ " ") texts).toList ([t].intercalate read) := by
  have hblank : ∀ {cs ts}, Lexes d cs ts → Lexes d (' ' :: cs) ([] ++ ts) := space
  have hall := Yields.intercalate hblank hs he (List.forall₂_map_left_iff.2 h)
  rw [List.append_nil] at hall
  rwa [String.toList_intercalate, String.toList_append]

theorem commaSpaced {texts : List String} {read : List (List Token)}
    (h : List.Forall₂ (fun text ts => Lexes d text.toList ts) texts read) :
    Lexes d (commaSpaced texts).toList ([.sign ','].intercalate read) :=
  have hcomma : Lexes d ",".toList [.sign ','] := .sign rfl .nil
  hcomma.intercalate (.comma _) h

end Lexes

end TableService.Sql
