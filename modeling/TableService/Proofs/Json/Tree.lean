/-
  Compact texts are read as the trees that they write.

  * `Writes cs t`: wherever a value is due, the characters `cs` are read as the tree `t`, whatever
    follows them.  Lists and objects of written values are written (`writes_array`,
    `writes_object`), an object also when a name is repeated.
  * `stringBody_escaped`: a string is read back from its escaped characters.
  * `ofText_of_writes`: a text that writes a tree is read as this tree.
-/
import Mathlib.Data.List.Forall2
import TableService.Proofs.Json.Literal

namespace TableService.Source

/-! ## Tokens -/

theorem tokens_cons {c : Char} {cs : List Char} {t : Token} {n : Nat} (hspace : isSpace c = false)
    (h : token c cs = (t, some n)) : tokens (c :: cs) = t :: tokens (cs.drop n) := by
  rw [tokens, hspace, h]
  rfl

/-- A mark is a token of its own. -/
theorem tokens_mark {c : Char} {cs : List Char} {t : Token} (hspace : isSpace c = false)
    (h : token c cs = (t, some 0)) : tokens (c :: cs) = t :: tokens cs :=
  tokens_cons hspace h

theorem isSpace_of_isDigit {c : Char} (h : c.isDigit = true) : isSpace c = false := by
  cases hspace : isSpace c with
  | false => rfl
  | true =>
    simp only [isSpace, Bool.or_eq_true, decide_eq_true_eq] at hspace
    rcases hspace with ((rfl | rfl) | rfl) | rfl <;> cases h

/-- A digit starts a number. -/
theorem token_of_isDigit {c : Char} {cs : List Char} (h : c.isDigit = true) :
    token c cs = ((numberToken false (c :: cs)).1, (numberToken false (c :: cs)).2.map (· - 1)) := by
  unfold token
  split <;> first | cases h | exact if_pos h

/-- **A literal is one token.** -/
theorem tokens_literal {l : Literal} {rest : List Char} (hl : l.Proper) (hrest : Ends rest) :
    tokens (l.text ++ rest) = .number ⟨l.value, none⟩ :: tokens rest := by
  have hread := numberAfterSign_text hl hrest
  have htoken : numberToken l.negative (l.unsignedText ++ rest) =
      (.number ⟨l.value, none⟩, some l.unsignedText.length) := by
    rw [numberToken, hread]
    rfl
  unfold Literal.text
  cases hsign : l.negative with
  | true =>
    rw [hsign] at htoken
    have hminus : token '-' (l.unsignedText ++ rest) =
        (.number ⟨l.value, none⟩, some l.unsignedText.length) := htoken
    rw [if_pos rfl, List.cons_append, tokens_cons (by decide) hminus, List.drop_left]
  | false =>
    rw [hsign] at htoken
    obtain ⟨d, tail, hd⟩ := List.exists_cons_of_ne_nil hl.whole.ne_nil
    have hdigit : d.isDigit = true := hl.whole.digits d (by simp [hd])
    have htext : l.unsignedText = d :: (tail ++ (l.fractionText ++ l.exponentText)) := by
      rw [Literal.unsignedText, hd]
      rfl
    rw [if_neg Bool.false_ne_true]
    rw [htext, List.cons_append] at htoken ⊢
    rw [tokens_cons (isSpace_of_isDigit hdigit) (token_of_isDigit hdigit |>.trans ?_),
      List.drop_left]
    rw [htoken]
    rfl

/-! ## Strings -/

theorem stringBody_close {cs : List Char} {n : Nat} (h : piece cs = (.close, n)) :
    stringBody cs = (⟨.ok [], none⟩, some (cs.drop n)) := by
  rw [stringBody]
  split <;> simp_all

theorem stringBody_char {cs : List Char} {c : Char} {n : Nat} (h : piece cs = (.char c, n)) :
    stringBody cs = ((stringBody (cs.drop n)).1.cons c, (stringBody (cs.drop n)).2) := by
  rw [stringBody]
  split <;> simp_all

/-- A code unit that is no half of a pair is a character. -/
theorem stringBody_unit {cs : List Char} {u n : Nat} (h : piece cs = (.unit u, n))
    (hu : u < 0xD800) :
    stringBody cs = ((stringBody (cs.drop n)).1.cons (Char.ofNat u), (stringBody (cs.drop n)).2) := by
  have hlow : isLowUnit u = false := by simp [isLowUnit]; omega
  have hhigh : isHighUnit u = false := by simp [isHighUnit]; omega
  rw [stringBody]
  split <;> simp_all

/-- The unit of a control character, after `\u`. -/
theorem unitAt_control {n : Nat} (h : n < 32) (rest : List Char) :
    unitAt ('0' :: '0' :: Nat.digitChar (n / 16) :: Nat.digitChar (n % 16) :: rest) = .ok n := by
  have hhigh := (digitValue?_digitChar (n / 16) (by omega)).1
  have hlow := (digitValue?_digitChar (n % 16) (by omega)).1
  have hzero : digitValue? 16 '0' = some 0 := rfl
  have hunit : hexUnit? ['0', '0', Nat.digitChar (n / 16), Nat.digitChar (n % 16)] = some n := by
    simp only [hexUnit?, wholeOf, List.length_cons, List.length_nil, if_true, List.isEmpty_cons,
      Bool.false_eq_true, if_false, List.foldlM_cons, List.foldlM_nil, hzero, hhigh, hlow,
      Option.map_some, Option.bind_eq_bind, Option.bind_some]
    exact congrArg some (by omega)
  simp only [unitAt, List.take_succ_cons, List.take_zero, hunit]

theorem stringBody_short {c d : Char} {rest : List Char} (hu : c ≠ 'u')
    (h : shortEscape? c = some d) :
    stringBody ('\\' :: c :: rest) = ((stringBody rest).1.cons d, (stringBody rest).2) := by
  have hpiece : piece ('\\' :: c :: rest) = (.char d, 2) := by
    simp only [piece, if_neg hu, h]
  exact stringBody_char hpiece

/-- An escaped character is read as the character. -/
theorem stringBody_escapedChar (c : Char) (rest : List Char) :
    stringBody (Json.escapedChar c ++ rest) = ((stringBody rest).1.cons c, (stringBody rest).2) := by
  unfold Json.escapedChar
  split_ifs with hquote hslash hline hreturn htab hback hfeed hcontrol
  · exact stringBody_short (by decide) (by rw [hquote]; rfl)
  · exact stringBody_short (by decide) (by rw [hslash]; rfl)
  · exact stringBody_short (by decide) (by rw [hline]; rfl)
  · exact stringBody_short (by decide) (by rw [hreturn]; rfl)
  · exact stringBody_short (by decide) (by rw [htab]; rfl)
  · exact stringBody_short (by decide) (by rw [← Char.ofNat_toNat c, hback]; rfl)
  · exact stringBody_short (by decide) (by rw [← Char.ofNat_toNat c, hfeed]; rfl)
  · have hpiece : piece (['\\', 'u', '0', '0', Nat.digitChar (c.toNat / 16),
        Nat.digitChar (c.toNat % 16)] ++ rest) = (.unit c.toNat, 6) := by
      simp only [List.cons_append, List.nil_append, piece, if_true, unitAt_control hcontrol]
    rw [stringBody_unit hpiece (by omega), Char.ofNat_toNat]
    rfl
  · have hpiece : piece (c :: rest) = (.char c, 1) := by
      unfold piece
      split <;> simp_all
    exact stringBody_char hpiece

/-- **A string is read back from its escaped characters**, up to the closing quote. -/
theorem stringBody_escaped (cs rest : List Char) :
    stringBody (cs.flatMap Json.escapedChar ++ '"' :: rest) = (⟨.ok cs, none⟩, some rest) := by
  induction cs with
  | nil =>
    have hpiece : piece ('"' :: rest) = (.close, 1) := by simp only [piece]
    rw [List.flatMap_nil, List.nil_append, stringBody_close hpiece]
    rfl
  | cons c cs ih =>
    rw [List.flatMap_cons, List.append_assoc, stringBody_escapedChar, ih]
    rfl

/-- A string that is read without a fault. -/
def plain (s : String) : Scalar String := ⟨.ok s, none⟩

theorem tokens_stringText (s : String) (rest : List Char) :
    tokens (Json.stringText s ++ rest) = .string (plain s) :: tokens rest := by
  have hquote : s.toList.flatMap Json.escapedChar ++ ['"'] ++ rest =
      s.toList.flatMap Json.escapedChar ++ '"' :: rest := List.append_assoc ..
  have htoken : token '"' (s.toList.flatMap Json.escapedChar ++ ['"'] ++ rest) =
      (.string (plain s), some (s.toList.flatMap Json.escapedChar ++ ['"']).length) := by
    change stringToken _ = _
    rw [stringToken, hquote, stringBody_escaped, ← hquote]
    simp only [plain, Except.map, String.ofList_toList, Option.map_some, List.length_append,
      Nat.add_sub_cancel]
  rw [Json.stringText, List.cons_append, List.cons_append, tokens_cons (by decide) htoken,
    List.drop_left]

/-! ## Values in their place -/

/-- A value may come next. -/
inductive Due.StartsValue : Due → Prop
  | value : StartsValue .value
  | itemOrEnd : StartsValue .itemOrEnd

/-- A name may come next. -/
inductive Due.StartsName : Due → Prop
  | name : StartsName .name
  | nameOrEnd : StartsName .nameOrEnd

/-- Wherever a value may come next, these characters are read as the tree. -/
def Writes (cs : List Char) (t : Source) : Prop :=
  ∀ ⦃rest : List Char⦄ ⦃frames : List Frame⦄ ⦃due : Due⦄, Ends rest → due.StartsValue →
    grow ⟨frames, due, none⟩ (tokens (cs ++ rest)) = grow (Growth.place t frames) (tokens rest)

section
variable {frames : List Frame} {due : Due} {t : Token} {ts : List Token} {g : Growth}

theorem grow_step (h : Growth.step ⟨frames, due, none⟩ t = .ok g) :
    grow ⟨frames, due, none⟩ (t :: ts) = grow g ts := by
  rw [grow, h]

theorem grow_value (hdue : due.StartsValue) (h : Growth.value frames t = .ok g) :
    grow ⟨frames, due, none⟩ (t :: ts) = grow g ts := by
  refine grow_step ?_
  cases hdue with
  | value => exact h
  | itemOrEnd =>
    cases t with
    | closeList => cases h
    | _ => exact h

theorem grow_name {members : List (Scalar String × Source)} {s : Scalar String}
    (hdue : due.StartsName) :
    grow ⟨.object members :: frames, due, none⟩ (.string s :: ts) =
      grow ⟨.member members s :: frames, .colon, none⟩ ts := by
  refine grow_step ?_
  cases hdue <;> rfl

end

theorem ends_nil : Ends [] := fun _ h => by cases h

/-- Marks cannot go on a number. -/
theorem ends_cons {c : Char} (rest : List Char)
    (h : c.isDigit = false ∧ c ≠ '.' ∧ c ≠ 'e' ∧ c ≠ 'E') : Ends (c :: rest) := by
  intro d hd
  obtain rfl := Option.mem_some_iff.1 hd
  exact h

theorem writes_null : Writes "null".toList .null := fun _ _ _ _ hdue =>
  (congrArg _ (tokens_cons (by decide) rfl)).trans (grow_value hdue rfl)

theorem writes_bool : ∀ b, Writes (Json.bool b).chars (.bool b)
  | true => fun _ _ _ _ hdue => (congrArg _ (tokens_cons (by decide) rfl)).trans (grow_value hdue rfl)
  | false => fun _ _ _ _ hdue => (congrArg _ (tokens_cons (by decide) rfl)).trans (grow_value hdue rfl)

theorem writes_literal {l : Literal} (hl : l.Proper) : Writes l.text (.number ⟨l.value, none⟩) :=
  fun _ _ _ hrest hdue => (congrArg _ (tokens_literal hl hrest)).trans (grow_value hdue rfl)

theorem writes_string (s : String) : Writes (Json.stringText s) (.string (plain s)) :=
  fun _ _ _ _ hdue => (congrArg _ (tokens_stringText s _)).trans (grow_value hdue rfl)

/-! ## Lists and objects -/

section
variable {α : Type} {frame : List α → List Frame} {starts : Due → Prop} {next : Due}

/-- Wherever a part of an open list or object may come next, these characters are read as it. -/
def Adds (frame : List α → List Frame) (starts : Due → Prop) (cs : List Char) (a : α) : Prop :=
  ∀ ⦃parts : List α⦄ ⦃due : Due⦄ ⦃rest : List Char⦄, starts due → Ends rest →
    grow ⟨frame parts, due, none⟩ (tokens (cs ++ rest)) =
      grow ⟨frame (a :: parts), .commaOrEnd, none⟩ (tokens rest)

/-- Parts with a comma between each two are added one after the other. -/
theorem grow_commaJoin (hnext : starts next)
    (hcomma : ∀ parts, Growth.step ⟨frame parts, .commaOrEnd, none⟩ .comma =
      .ok ⟨frame parts, next, none⟩) {rest : List Char} (hrest : Ends rest) :
    ∀ {text : List Char} {texts : List (List Char)} {a : α} {as parts : List α} {due : Due},
      Adds frame starts text a → List.Forall₂ (Adds frame starts) texts as → starts due →
        grow ⟨frame parts, due, none⟩ (tokens (Json.commaJoin (text :: texts) ++ rest)) =
          grow ⟨frame ((a :: as).reverse ++ parts), .commaOrEnd, none⟩ (tokens rest)
  | text, [], a, [], parts, due, hadds, .nil, hdue => hadds hdue hrest
  | text, text' :: texts, a, a' :: as, parts, due, hadds, .cons hadds' hall, hdue => by
    rw [Json.commaJoin, List.append_assoc, List.cons_append,
      hadds hdue (ends_cons _ (by decide)), tokens_mark (by decide) rfl, grow_step (hcomma _),
      grow_commaJoin hnext hcomma hrest hadds' hall hnext]
    · simp
    · simp

end

/-- **A list of written values is written.** -/
theorem writes_array {texts : List (List Char)} {items : List Source}
    (h : List.Forall₂ Writes texts items) :
    Writes ('[' :: Json.commaJoin texts ++ [']']) (.array items none) := by
  intro rest frames due hrest hdue
  rw [List.cons_append, List.cons_append, List.append_assoc, List.singleton_append,
    tokens_mark (by decide) rfl, grow_value hdue rfl]
  cases h with
  | nil =>
    rw [Json.commaJoin, List.nil_append, tokens_mark (by decide) rfl]
    exact grow_step rfl
  | cons hfirst hall =>
    have hadds {cs : List Char} {t : Source} (h : Writes cs t) :
        Adds (fun items => .list items :: frames) Due.StartsValue cs t :=
      fun _ _ _ hdue hrest => h hrest hdue
    rw [grow_commaJoin .value (fun _ => rfl) (ends_cons rest (by decide)) (hadds hfirst)
      (hall.imp fun _ _ => hadds) .itemOrEnd, tokens_mark (by decide) rfl]
    refine (grow_step rfl).trans ?_
    rw [List.append_nil, List.reverse_reverse]

/-- These characters are a name with a written value. -/
inductive WritesMember : List Char → Scalar String × Source → Prop
  | mk (name : String) {cs : List Char} {t : Source} (h : Writes cs t) :
      WritesMember (Json.stringText name ++ ':' :: cs) (plain name, t)

/-- **An object of written values is written**, whether its names are distinct or not. -/
theorem writes_object {texts : List (List Char)} {members : List (Scalar String × Source)}
    (h : List.Forall₂ WritesMember texts members) :
    Writes ('\x7b' :: Json.commaJoin texts ++ ['\x7d']) (.object members none) := by
  intro rest frames due hrest hdue
  rw [List.cons_append, List.cons_append, List.append_assoc, List.singleton_append,
    tokens_mark (by decide) rfl, grow_value hdue rfl]
  cases h with
  | nil =>
    rw [Json.commaJoin, List.nil_append, tokens_mark (by decide) rfl]
    exact grow_step rfl
  | cons hfirst hall =>
    have hadds {cs : List Char} {e : Scalar String × Source} (h : WritesMember cs e) :
        Adds (fun members => .object members :: frames) Due.StartsName cs e := by
      intro members due rest hdue hrest
      obtain ⟨name, hvalue⟩ := h
      rw [List.append_assoc, tokens_stringText, grow_name hdue, List.cons_append,
        tokens_mark (by decide) rfl, grow_step rfl]
      exact hvalue hrest .value
    rw [grow_commaJoin .name (fun _ => rfl) (ends_cons rest (by decide)) (hadds hfirst)
      (hall.imp fun _ _ => hadds) .nameOrEnd, tokens_mark (by decide) rfl]
    refine (grow_step rfl).trans ?_
    rw [List.append_nil, List.reverse_reverse]

/-- **A text that writes a tree is read as this tree.** -/
theorem ofText_of_writes {cs : List Char} {t : Source} (h : Writes cs t) :
    ofText (String.ofList cs) = ⟨t, none⟩ := by
  have hread := @h [] [] .value ends_nil .value
  rw [List.append_nil] at hread
  rw [ofText, String.toList_ofList, hread, tokens]
  rfl

end TableService.Source
