/-
  What the readers of dates and times read.

  * `Digits`, `Part`, `Year`, `Fraction`, `DateText`, `ClockText`, `Offset`: a text says something and
    goes on with a rest.  The rest is a part of the judgement, since a run of digits ends only where
    no digit follows or where no more are allowed.
  * `run_date_iff`, `run_clock_iff`, `run_offset_iff`: the readers read this and nothing else.
-/
import Mathlib.Algebra.Ring.Nat
import Mathlib.Data.List.TakeWhile
import Mathlib.Tactic.SplitIfs
import TableService.Calendar.Reading
import TableService.Proofs.Number.Digits

namespace TableService.Calendar

/-! ## What texts say -/

/-- A text does not start with a digit. -/
def NoDigit (rest : List Char) : Prop := ∀ c ∈ rest.head?, c.isDigit = false

/-- Nothing but blanks. -/
def Blank (cs : List Char) : Prop := ∀ c ∈ cs, Text.isBlank c = true

/-- A number in digits, `least` to `most` of them; no digit follows unless these are as many as are
allowed. -/
inductive Digits (least most : Nat) : Nat → List Char → List Char → Prop
  | intro {n : Nat} {ds rest : List Char} (numeral : IsNumeral ds n) (least_le : least ≤ ds.length)
      (le_most : ds.length ≤ most) (ends : ds.length = most ∨ NoDigit rest) :
      Digits least most n (ds ++ rest) rest

/-- A number of one or two digits, with or without blanks in front. -/
inductive Part : Nat → List Char → List Char → Prop
  | intro {n : Nat} {bs cs rest : List Char} (blank : Blank bs) (digits : Digits 1 2 n cs rest) :
      Part n (bs ++ cs) rest

/-- A year in up to four digits, or in any number of digits behind a sign, with or without blanks in
front. -/
inductive Year : Int → List Char → List Char → Prop
  | plain {n : Nat} {bs cs rest : List Char} (blank : Blank bs) (digits : Digits 1 4 n cs rest) :
      Year n (bs ++ cs) rest
  | plus {n : Nat} {bs ds rest : List Char} (blank : Blank bs) (numeral : IsNumeral ds n)
      (ends : NoDigit rest) : Year n (bs ++ '+' :: (ds ++ rest)) rest
  | minus {n : Nat} {bs ds rest : List Char} (blank : Blank bs) (numeral : IsNumeral ds n)
      (ends : NoDigit rest) : Year (-n) (bs ++ '-' :: (ds ++ rest)) rest

/-- The fraction of a second, in nanoseconds: nothing, or digits behind a point, of which those after
the ninth do not count. -/
inductive Fraction : Nat → List Char → List Char → Prop
  | none {rest : List Char} (ends : ∀ c ∈ rest.head?, c ≠ '.') : Fraction 0 rest rest
  | places {n : Nat} {ds rest : List Char} (digits : ∀ c ∈ ds, c.isDigit = true)
      (counted : IsNumeral (ds.take 9) n) (ends : NoDigit rest) :
      Fraction (n * 10 ^ (9 - (ds.take 9).length)) ('.' :: (ds ++ rest)) rest

/-- A date that is kept: its year, its month and its day. -/
inductive DateText : Date → List Char → List Char → Prop
  | intro {d : Date} {cs months days rest : List Char} (kept : d.isKept = true)
      (year : Year d.year cs ('-' :: months)) (month : Part d.month months ('-' :: days))
      (day : Part d.day days rest) : DateText d cs rest

/-- A time of the day, in nanoseconds since midnight.  The second may be the sixtieth. -/
inductive ClockText : Nat → List Char → List Char → Prop
  | intro {h m s f : Nat} {cs minutes seconds fraction rest : List Char}
      (hour : Part h cs (':' :: minutes)) (minute : Part m minutes (':' :: seconds))
      (second : Part s seconds fraction) (fractional : Fraction f fraction rest)
      (hour_le : h ≤ 23) (minute_le : m ≤ 59) (second_le : s ≤ 60) :
      ClockText ((3600 * h + 60 * m + s) * 1000000000 + f) cs rest

/-- An offset from universal time, in minutes. -/
inductive Offset : Int → List Char → List Char → Prop
  | zulu {c : Char} (letter : c = 'Z' ∨ c = 'z') (rest : List Char) : Offset 0 (c :: rest) rest
  | east {h m : Nat} {cs minutes rest : List Char} (hour : Digits 2 2 h cs (':' :: minutes))
      (minute : Digits 2 2 m minutes rest) (hour_le : h ≤ 23) (minute_le : m ≤ 59) :
      Offset (60 * h + m) ('+' :: cs) rest
  | west {h m : Nat} {c : Char} {cs minutes rest : List Char} (sign : c = '-' ∨ c = '−')
      (hour : Digits 2 2 h cs (':' :: minutes)) (minute : Digits 2 2 m minutes rest)
      (hour_le : h ≤ 23) (minute_le : m ≤ 59) : Offset (-(60 * h + m : Int)) (c :: cs) rest

/-! ## Blanks -/

section
variable {cs rest : List Char}

theorem noDigit_nil : NoDigit [] := by
  rintro _ ⟨⟩

theorem blank_nil : Blank [] := List.forall_mem_nil _

theorem isBlank_of_isDigit {c : Char} (h : c.isDigit = true) : Text.isBlank c = false := by
  obtain ⟨hlower, hupper⟩ : 48 ≤ c.toNat ∧ c.toNat ≤ 57 := Char.isDigit_iff_toNat.1 h
  simp [Text.isBlank, Text.blankRanges]
  omega

theorem dropWhile_blank {bs : List Char} (hbs : Blank bs)
    (hcs : ∀ c ∈ cs.head?, Text.isBlank c = false) : (bs ++ cs).dropWhile Text.isBlank = cs := by
  rw [List.dropWhile_append_of_pos hbs]
  cases cs with
  | nil => rfl
  | cons c cs => simp [hcs c rfl]

theorem exists_blank (cs : List Char) : ∃ bs, Blank bs ∧ cs = bs ++ cs.dropWhile Text.isBlank :=
  ⟨cs.takeWhile Text.isBlank, fun _ => List.mem_takeWhile_imp, by
    rw [List.takeWhile_append_dropWhile]⟩

/-- The first of digits. -/
theorem Digits.head {least most n : Nat} (h : Digits least most n cs rest) :
    ∃ c tail, cs = c :: tail ∧ c.isDigit = true := by
  obtain ⟨hnumeral, -, -, -⟩ := h
  rename_i ds
  obtain ⟨c, tail, rfl⟩ := List.exists_cons_of_ne_nil hnumeral.ne_nil
  exact ⟨c, tail ++ rest, rfl, hnumeral.isDigit c List.mem_cons_self⟩

/-- Blanks in front of digits end with the first of these. -/
theorem Digits.dropWhile_blank {least most n : Nat} {bs : List Char} (hbs : Blank bs)
    (h : Digits least most n cs rest) : (bs ++ cs).dropWhile Text.isBlank = cs := by
  obtain ⟨c, tail, rfl, hc⟩ := h.head
  refine Calendar.dropWhile_blank hbs ?_
  rintro _ ⟨⟩
  exact isBlank_of_isDigit hc

end

namespace Reader

variable {α β : Type} {cs rest : List Char}

/-! ## Readers one after another -/

theorem run_bind_eq_some_iff {r : Reader α} {f : α → Reader β} {b : β} :
    (r >>= f).run cs = some (b, rest) ↔
      ∃ a mid, r.run cs = some (a, mid) ∧ (f a).run mid = some (b, rest) := by
  simp [StateT.run_bind, Option.bind_eq_some_iff]

theorem run_pure_eq_some_iff {a b : α} :
    (pure a : Reader α).run cs = some (b, rest) ↔ a = b ∧ cs = rest := by
  simp [StateT.run_pure]

/-- A reader reads all of a text if nothing is left of it. -/
theorem whole_eq_some_iff {r : Reader α} {a : α} : r.whole cs = some a ↔ r.run cs = some (a, []) := by
  unfold whole
  rcases r.run cs with _ | ⟨b, rest⟩
  · simp
  · cases rest <;> simp

/-! ## Single characters -/

theorem run_char_iff {c : Char} {u : Unit} : (char c).run cs = some (u, rest) ↔ cs = c :: rest := by
  cases cs with
  | nil => simp [char, StateT.run_bind]
  | cons d cs =>
    simp only [char, StateT.run_bind, StateT.run_get]
    by_cases h : d = c <;> simp [h]

theorem run_charThat_iff {p : Char → Bool} {c : Char} :
    (charThat p).run cs = some (c, rest) ↔ cs = c :: rest ∧ p c = true := by
  cases cs with
  | nil => simp [charThat, StateT.run_bind]
  | cons d cs =>
    simp only [charThat, StateT.run_bind, StateT.run_get]
    by_cases h : p d = true <;> simp [h]
    all_goals grind

theorem run_discard_iff {r : Reader α} {u : Unit} :
    (discard r).run cs = some (u, rest) ↔ ∃ a, r.run cs = some (a, rest) := by
  have hdiscard : discard r = r >>= fun _ => pure () := rfl
  rw [hdiscard, run_bind_eq_some_iff]
  simp only [run_pure_eq_some_iff, true_and]
  constructor
  · rintro ⟨a, _, h, rfl⟩
    exact ⟨a, h⟩
  · rintro ⟨a, h⟩
    exact ⟨a, rest, h, rfl⟩

theorem run_blanks : blanks.run cs = some ((), cs.dropWhile Text.isBlank) := by
  simp [blanks]

/-! ## Digits -/

theorem run_digits (least most : Nat) : (digits least most).run cs =
    if ((cs.take most).takeWhile Char.isDigit).length < least then none
    else some ((cs.take most).takeWhile Char.isDigit,
      cs.drop ((cs.take most).takeWhile Char.isDigit).length) := by
  simp only [digits, StateT.run_bind, StateT.run_get]
  split_ifs with h
  · simp only [pure_bind, if_pos h]
    rfl
  · simp [h]

/-- Digits that are as many as there are or as are allowed. -/
structure Taken (most : Nat) (ds rest : List Char) : Prop where
  isDigit : ∀ c ∈ ds, c.isDigit = true
  le_most : ds.length ≤ most
  ends : ds.length = most ∨ NoDigit rest

/-- A text is taken apart into such digits and a rest. -/
theorem exists_taken (most : Nat) (cs : List Char) :
    ∃ ds rest, cs = ds ++ rest ∧ Taken most ds rest := by
  induction most generalizing cs with
  | zero => exact ⟨[], cs, rfl, List.forall_mem_nil _, Nat.le_refl _, .inl rfl⟩
  | succ most ih =>
    rcases cs with _ | ⟨c, cs⟩
    · exact ⟨[], [], rfl, List.forall_mem_nil _, Nat.zero_le _, .inr noDigit_nil⟩
    by_cases hc : c.isDigit = true
    · obtain ⟨ds, rest, rfl, hds, hle, hends⟩ := ih cs
      refine ⟨c :: ds, rest, rfl, List.forall_mem_cons.2 ⟨hc, hds⟩, Nat.succ_le_succ hle, ?_⟩
      exact hends.imp_left (congrArg Nat.succ)
    · refine ⟨[], c :: cs, rfl, List.forall_mem_nil _, Nat.zero_le _, .inr ?_⟩
      rintro _ ⟨⟩
      exact Bool.eq_false_iff.2 hc

theorem Taken.takeWhile_eq {most : Nat} {ds : List Char} (h : Taken most ds rest) :
    ((ds ++ rest).take most).takeWhile Char.isDigit = ds := by
  obtain ⟨hds, hle, hends⟩ := h
  rw [List.take_append, List.take_of_length_le hle, List.takeWhile_append_of_pos hds]
  refine List.append_right_eq_self.2 ?_
  rcases hends with rfl | hends
  · simp
  · cases rest with
    | nil => simp
    | cons c rest =>
      have hc : c.isDigit = false := hends c rfl
      cases most - ds.length <;> simp [hc]

theorem run_digits_iff {least most : Nat} {ds : List Char} :
    (digits least most).run cs = some (ds, rest) ↔
      cs = ds ++ rest ∧ least ≤ ds.length ∧ Taken most ds rest := by
  obtain ⟨ds', rest', rfl, h⟩ := exists_taken most cs
  rw [run_digits, h.takeWhile_eq, List.drop_left]
  constructor
  · intro hrun
    split_ifs at hrun with hleast
    cases hrun
    exact ⟨rfl, Nat.le_of_not_lt hleast, h⟩
  · rintro ⟨heq, hleast, htaken⟩
    have hds : ds' = ds := by rw [← h.takeWhile_eq, heq, htaken.takeWhile_eq]
    subst hds
    rw [if_neg (by omega), List.append_cancel_left heq]

theorem run_digitsValue_iff {least most n : Nat} (hleast : 0 < least) :
    (∃ ds, (digits least most).run cs = some (ds, rest) ∧ digitsValue ds = n) ↔
      Digits least most n cs rest := by
  constructor
  · rintro ⟨ds, hrun, rfl⟩
    obtain ⟨rfl, hle, htaken⟩ := run_digits_iff.1 hrun
    have hne : ds ≠ [] := List.length_pos_iff.1 (by omega)
    exact .intro ⟨hne, htaken.isDigit, rfl⟩ hle htaken.le_most htaken.ends
  · rintro ⟨hnumeral, hle, hmost, hends⟩
    exact ⟨_, run_digits_iff.2 ⟨rfl, hle, hnumeral.isDigit, hmost, hends⟩, hnumeral.value.symm⟩

theorem run_number_iff {least most first last n : Nat} (hleast : 0 < least) :
    (number least most first last).run cs = some (n, rest) ↔
      Digits least most n cs rest ∧ first ≤ n ∧ n ≤ last := by
  have hcheck (ds mid : List Char) :
      (if first ≤ digitsValue ds && digitsValue ds ≤ last then pure (digitsValue ds)
        else failure : Reader Nat).run mid = some (n, rest) ↔
        mid = rest ∧ digitsValue ds = n ∧ first ≤ n ∧ n ≤ last := by
    by_cases h : first ≤ digitsValue ds ∧ digitsValue ds ≤ last
    · have hbool : (decide (first ≤ digitsValue ds) && decide (digitsValue ds ≤ last)) = true := by
        simpa using h
      rw [if_pos hbool, run_pure_eq_some_iff]
      constructor
      · rintro ⟨rfl, rfl⟩
        exact ⟨rfl, rfl, h⟩
      · rintro ⟨rfl, rfl, -⟩
        exact ⟨rfl, rfl⟩
    · have hbool : ¬ (decide (first ≤ digitsValue ds) && decide (digitsValue ds ≤ last)) = true := by
        simpa using h
      rw [if_neg hbool]
      constructor
      · nofun
      · rintro ⟨-, rfl, hbounds⟩
        exact absurd hbounds h
  rw [← run_digitsValue_iff hleast, number, run_bind_eq_some_iff]
  simp only [hcheck]
  constructor
  · rintro ⟨ds, mid, hrun, rfl, hvalue, hbounds⟩
    exact ⟨⟨ds, hrun, hvalue⟩, hbounds⟩
  · rintro ⟨⟨ds, hrun, hvalue⟩, hbounds⟩
    exact ⟨ds, rest, hrun, rfl, hvalue, hbounds⟩

/-- What stands behind a run of digits is found by dropping them. -/
theorem dropWhile_digits {ds : List Char} (hds : ∀ c ∈ ds, c.isDigit = true) (h : NoDigit rest) :
    (ds ++ rest).dropWhile Char.isDigit = rest := by
  rw [List.dropWhile_append_of_pos hds]
  cases rest with
  | nil => rfl
  | cons c rest => simp [h c rfl]

theorem noDigit_dropWhile (cs : List Char) : NoDigit (cs.dropWhile Char.isDigit) := by
  intro c hc
  cases h : cs.dropWhile Char.isDigit with
  | nil => simp [h] at hc
  | cons d tail =>
    have := List.head?_dropWhile_not Char.isDigit cs
    rw [h] at this hc
    cases hc
    simpa using this

/-- Digits that are taken, and all digits behind them, are the digits of a fraction. -/
theorem Taken.places {ds mid : List Char} (h : Taken 9 ds mid) :
    (ds ++ mid.takeWhile Char.isDigit).take 9 = ds := by
  rcases h.ends with hlength | hends
  · exact List.take_left' hlength
  · have hnone : mid.takeWhile Char.isDigit = [] := by
      cases mid with
      | nil => rfl
      | cons c mid => simp [hends c rfl]
    rw [hnone, List.append_nil, List.take_of_length_le h.le_most]

/-- The first digits of a fraction are taken. -/
theorem taken_places {ds : List Char} (hds : ∀ c ∈ ds, c.isDigit = true) (hends : NoDigit rest) :
    Taken 9 (ds.take 9) (ds.drop 9 ++ rest) := by
  refine ⟨fun c hc => hds c (List.mem_of_mem_take hc), List.length_take_le 9 ds, ?_⟩
  rw [List.length_take]
  by_cases hlength : 9 ≤ ds.length
  · exact .inl (by omega)
  · rw [List.drop_of_length_le (by omega)]
    exact .inr hends

/-- **A fraction is read to its last digit.** -/
theorem run_fraction_iff {f : Nat} : fraction.run cs = some (f, rest) ↔ Fraction f cs rest := by
  by_cases hpoint : ∃ tail, cs = '.' :: tail
  · obtain ⟨tail, rfl⟩ := hpoint
    have hrun : fraction.run ('.' :: tail) = ((digits 1 9).run tail).bind fun taken =>
        some (digitsValue taken.1 * 10 ^ (9 - taken.1.length), taken.2.dropWhile Char.isDigit) := by
      rw [fraction]
      simp [StateT.run_bind]
    rw [hrun, Option.bind_eq_some_iff]
    constructor
    · rintro ⟨⟨ds, mid⟩, hdigits, h⟩
      obtain ⟨rfl, hle, htaken⟩ := run_digits_iff.1 hdigits
      cases h
      have hall : ds ++ mid =
          (ds ++ mid.takeWhile Char.isDigit) ++ mid.dropWhile Char.isDigit := by
        rw [List.append_assoc, List.takeWhile_append_dropWhile]
      have hdigits : ∀ c ∈ ds ++ mid.takeWhile Char.isDigit, c.isDigit = true :=
        List.forall_mem_append.2 ⟨htaken.isDigit, fun _ => List.mem_takeWhile_imp⟩
      have hnumeral : IsNumeral ds (digitsValue ds) :=
        ⟨List.length_pos_iff.1 (by omega), htaken.isDigit, rfl⟩
      have hplaces := Fraction.places (n := digitsValue ds) hdigits (htaken.places.symm ▸ hnumeral)
        (noDigit_dropWhile mid)
      rwa [← hall, htaken.places] at hplaces
    · intro h
      cases h with
      | none hends => exact absurd rfl (hends '.' rfl)
      | @places n ds rest hds hnumeral hends =>
        have hrest : ds ++ rest = ds.take 9 ++ (ds.drop 9 ++ rest) := by
          rw [← List.append_assoc, List.take_append_drop]
        have hpos : 1 ≤ (ds.take 9).length := List.length_pos_iff.2 hnumeral.ne_nil
        refine ⟨(ds.take 9, ds.drop 9 ++ rest),
          run_digits_iff.2 ⟨hrest, hpos, taken_places hds hends⟩, ?_⟩
        have hdrop : ∀ c ∈ ds.drop 9, c.isDigit = true := fun c hc => hds c (List.mem_of_mem_drop hc)
        dsimp only
        rw [dropWhile_digits hdrop hends, hnumeral.value]
        rfl
  · have hrun : fraction.run cs = some (0, cs) := by
      rw [fraction]
      rcases cs with _ | ⟨c, cs⟩
      · simp
      · simp only [StateT.run_bind, StateT.run_get, pure_bind]
        split
        · rename_i tail heq
          exact absurd ⟨tail, heq⟩ hpoint
        · rfl
    rw [hrun]
    constructor
    · rintro ⟨⟩
      refine .none ?_
      rintro c hc rfl
      exact hpoint ⟨_, (List.eq_cons_of_mem_head? hc)⟩
    · rintro (hends | ⟨hds, hnumeral, hends⟩)
      · rfl
      · exact absurd ⟨_, rfl⟩ hpoint

/-! ## Parts of a date and a time -/

theorem run_part_iff {first last n : Nat} : (part first last).run cs = some (n, rest) ↔
    Part n cs rest ∧ first ≤ n ∧ n ≤ last := by
  rw [part, run_bind_eq_some_iff]
  simp only [run_blanks, run_number_iff Nat.one_pos]
  constructor
  · rintro ⟨_, _, ⟨⟩, hdigits, hbounds⟩
    obtain ⟨bs, hbs, hcs⟩ := exists_blank cs
    have hpart := Part.intro hbs hdigits
    rw [← hcs] at hpart
    exact ⟨hpart, hbounds⟩
  · rintro ⟨⟨hbs, hdigits⟩, hbounds⟩
    refine ⟨(), _, rfl, ?_, hbounds⟩
    rwa [hdigits.dropWhile_blank hbs]

/-- Digits without a limit on their number. -/
theorem run_digits_length_iff {n : Nat} {tail : List Char} :
    (∃ ds, (digits 1 tail.length).run tail = some (ds, rest) ∧ digitsValue ds = n) ↔
      ∃ ds, tail = ds ++ rest ∧ IsNumeral ds n ∧ NoDigit rest := by
  rw [run_digitsValue_iff Nat.one_pos]
  constructor
  · rintro ⟨hnumeral, -, -, hends⟩
    refine ⟨_, rfl, hnumeral, hends.elim (fun hlength => ?_) id⟩
    rw [List.length_append] at hlength
    rw [List.length_eq_zero_iff.1 (by omega : rest.length = 0)]
    nofun
  · rintro ⟨ds, rfl, hnumeral, hends⟩
    exact .intro hnumeral (List.length_pos_iff.2 hnumeral.ne_nil)
      (by rw [List.length_append]; omega) (.inr hends)

theorem run_year (cs : List Char) : year.run cs =
    match cs.dropWhile Text.isBlank with
    | '-' :: tail => ((digits 1 tail.length).run tail).map fun x => (-(digitsValue x.1 : Int), x.2)
    | '+' :: tail => ((digits 1 tail.length).run tail).map fun x => ((digitsValue x.1 : Int), x.2)
    | mid => ((digits 1 4).run mid).map fun x => ((digitsValue x.1 : Int), x.2) := by
  rw [year, StateT.run_bind, run_blanks]
  simp only [Option.bind_eq_bind, Option.bind_some, StateT.run_bind, StateT.run_get, pure_bind]
  generalize cs.dropWhile Text.isBlank = mid
  split <;> simp [StateT.run_bind, Option.map_eq_bind]

/-- **A year is read with its sign**, or without one from at most four digits. -/
theorem run_year_iff {y : Int} : year.run cs = some (y, rest) ↔ Year y cs rest := by
  have hminus : Text.isBlank '-' = false := by decide
  have hplus : Text.isBlank '+' = false := by decide
  constructor
  · intro h
    obtain ⟨bs, hbs, hcs⟩ := exists_blank cs
    rw [run_year] at h
    rw [hcs]
    split at h
    · rename_i tail htail
      obtain ⟨⟨ds, r⟩, hds, heq⟩ := Option.map_eq_some_iff.1 h
      cases heq
      obtain ⟨ds', rfl, hnumeral, hends⟩ := run_digits_length_iff.1 ⟨ds, hds, rfl⟩
      rw [htail]
      exact .minus hbs hnumeral hends
    · rename_i tail htail
      obtain ⟨⟨ds, r⟩, hds, heq⟩ := Option.map_eq_some_iff.1 h
      cases heq
      obtain ⟨ds', rfl, hnumeral, hends⟩ := run_digits_length_iff.1 ⟨ds, hds, rfl⟩
      rw [htail]
      exact .plus hbs hnumeral hends
    · obtain ⟨⟨ds, r⟩, hds, heq⟩ := Option.map_eq_some_iff.1 h
      cases heq
      exact .plain hbs ((run_digitsValue_iff Nat.one_pos).1 ⟨ds, hds, rfl⟩)
  · intro h
    rw [run_year]
    rcases h with @⟨n, bs, cs, rest, hbs, hdigits⟩ | @⟨n, bs, ds, rest, hbs, hnumeral, hends⟩ |
      @⟨n, bs, ds, rest, hbs, hnumeral, hends⟩
    · rw [hdigits.dropWhile_blank hbs]
      obtain ⟨ds, hds, rfl⟩ := (run_digitsValue_iff Nat.one_pos).2 hdigits
      obtain ⟨c, tail, rfl, hc⟩ := hdigits.head
      split
      · rename_i heq
        cases heq
        exact absurd hc (by decide)
      · rename_i heq
        cases heq
        exact absurd hc (by decide)
      · rw [hds]
        rfl
    · rw [dropWhile_blank hbs (by rintro _ ⟨⟩; exact hplus)]
      obtain ⟨ds', hds, rfl⟩ := run_digits_length_iff.2 ⟨ds, rfl, hnumeral, hends⟩
      simp only [hds]
      rfl
    · rw [dropWhile_blank hbs (by rintro _ ⟨⟩; exact hminus)]
      obtain ⟨ds', hds, rfl⟩ := run_digits_length_iff.2 ⟨ds, rfl, hnumeral, hends⟩
      simp only [hds]
      rfl

/-! ## Dates, times and offsets -/

theorem of?_eq_some_iff {y : Int} {m day : Nat} {d : Date} :
    Date.of? y m day = some d ↔ d.isKept = true ∧ d.year = y ∧ d.month = m ∧ d.day = day := by
  unfold Date.of?
  constructor
  · intro h
    by_cases hvalid : (1 ≤ m ∧ m ≤ 12) ∧ 1 ≤ day ∧ day ≤ monthLength y m
    · rw [dif_pos hvalid] at h
      obtain ⟨hkept, h⟩ := Option.ite_none_right_eq_some.1 h
      cases h
      exact ⟨hkept, rfl, rfl, rfl⟩
    · rw [dif_neg hvalid] at h
      cases h
  · rintro ⟨hkept, rfl, rfl, rfl⟩
    rw [dif_pos ⟨d.month_valid, d.day_valid⟩, if_pos hkept]

theorem day_le (d : Date) : d.day ≤ 31 := by
  have hvalid := d.day_valid.2
  unfold monthLength at hvalid
  split_ifs at hvalid <;> omega

theorem run_lift_eq_some_iff {o : Option α} {a : α} :
    (liftM o : Reader α).run cs = some (a, rest) ↔ o = some a ∧ cs = rest := by
  cases o with
  | none => exact ⟨nofun, nofun⟩
  | some b => simp

/-- **A date is read as it is said.** -/
theorem run_date_iff {d : Date} : date.run cs = some (d, rest) ↔ DateText d cs rest := by
  unfold date
  simp only [run_bind_eq_some_iff, run_year_iff, run_char_iff, run_part_iff]
  constructor
  · rintro ⟨y, _, hyear, _, months, rfl, m, _, ⟨hmonth, -⟩, _, days, rfl, dd, r, ⟨hday, -⟩, h⟩
    obtain ⟨hdate, rfl⟩ := run_lift_eq_some_iff.1 h
    obtain ⟨hkept, rfl, rfl, rfl⟩ := of?_eq_some_iff.1 hdate
    exact .intro hkept hyear hmonth hday
  · rintro ⟨hkept, hyear, hmonth, hday⟩
    exact ⟨_, _, hyear, (), _, rfl, _, _, ⟨hmonth, d.month_valid⟩, (), _, rfl, _, _,
      ⟨hday, d.day_valid.1, day_le d⟩,
      run_lift_eq_some_iff.2 ⟨of?_eq_some_iff.2 ⟨hkept, rfl, rfl, rfl⟩, rfl⟩⟩

/-- **A time of the day is read as it is said.** -/
theorem run_clock_iff {k : Nat} : clock.run cs = some (k, rest) ↔ ClockText k cs rest := by
  unfold clock
  simp only [run_bind_eq_some_iff, run_char_iff, run_part_iff, run_fraction_iff,
    run_pure_eq_some_iff]
  constructor
  · rintro ⟨h, _, ⟨hhour, -, hle⟩, _, minutes, rfl, m, _, ⟨hminute, -, hle'⟩, _, seconds, rfl, s, _,
      ⟨hsecond, -, hle''⟩, f, r, hfraction, rfl, rfl⟩
    exact .intro hhour hminute hsecond hfraction hle hle' hle''
  · rintro ⟨hhour, hminute, hsecond, hfraction, hle, hle', hle''⟩
    exact ⟨_, _, ⟨hhour, Nat.zero_le _, hle⟩, (), _, rfl, _, _, ⟨hminute, Nat.zero_le _, hle'⟩, (), _,
      rfl, _, _, ⟨hsecond, Nat.zero_le _, hle''⟩, _, _, hfraction, rfl, rfl⟩

/-- The hours and minutes of an offset. -/
theorem run_hoursMinutes_iff {sign : Char} {i : Int} :
    (do
      let h ← number 2 2 0 23
      char ':'
      let m ← number 2 2 0 59
      return if sign = '+' then 60 * h + m else -(60 * h + m : Int) : Reader Int).run cs =
        some (i, rest) ↔
      ∃ h m minutes, Digits 2 2 h cs (':' :: minutes) ∧ Digits 2 2 m minutes rest ∧ h ≤ 23 ∧ m ≤ 59 ∧
        i = if sign = '+' then (60 * h + m : Int) else -(60 * h + m : Int) := by
  simp only [run_bind_eq_some_iff, run_char_iff, run_number_iff Nat.two_pos, run_pure_eq_some_iff]
  constructor
  · rintro ⟨h, _, ⟨hhour, -, hle⟩, _, minutes, rfl, m, _, ⟨hminute, -, hle'⟩, rfl, rfl⟩
    exact ⟨h, m, minutes, hhour, hminute, hle, hle', rfl⟩
  · rintro ⟨h, m, minutes, hhour, hminute, hle, hle', rfl⟩
    exact ⟨h, _, ⟨hhour, Nat.zero_le _, hle⟩, (), minutes, rfl, m, _, ⟨hminute, Nat.zero_le _, hle'⟩,
      rfl, rfl⟩

/-- **An offset is read as it is said.** -/
theorem run_offset_iff {i : Int} : offset.run cs = some (i, rest) ↔ Offset i cs rest := by
  rw [offset, run_bind_eq_some_iff]
  simp only [run_charThat_iff]
  constructor
  · rintro ⟨c, tail, ⟨rfl, hc⟩, h⟩
    by_cases hzulu : c = 'Z' ∨ c = 'z'
    · rw [if_pos (by simpa using hzulu)] at h
      obtain ⟨rfl, rfl⟩ := run_pure_eq_some_iff.1 h
      exact .zulu hzulu tail
    · rw [if_neg (by simpa using hzulu)] at h
      obtain ⟨h, m, minutes, hhour, hminute, hle, hle', rfl⟩ := run_hoursMinutes_iff.1 h
      by_cases heast : c = '+'
      · subst heast
        exact .east hhour hminute hle hle'
      · rw [if_neg heast]
        simp only [Bool.or_eq_true, decide_eq_true_eq] at hc
        exact .west (by tauto) hhour hminute hle hle'
  · rintro (⟨hletter, _⟩ | ⟨hhour, hminute, hle, hle'⟩ | ⟨hsign, hhour, hminute, hle, hle'⟩)
    · refine ⟨_, _, ⟨rfl, ?_⟩, ?_⟩
      · rcases hletter with rfl | rfl <;> decide
      · rw [if_pos (by simpa using hletter)]
        rfl
    · refine ⟨'+', _, ⟨rfl, by decide⟩, ?_⟩
      rw [if_neg (by decide)]
      exact run_hoursMinutes_iff.2 ⟨_, _, _, hhour, hminute, hle, hle', rfl⟩
    · refine ⟨_, _, ⟨rfl, ?_⟩, ?_⟩
      · rcases hsign with rfl | rfl <;> decide
      · rw [if_neg (by rcases hsign with rfl | rfl <;> decide)]
        refine run_hoursMinutes_iff.2 ⟨_, _, _, hhour, hminute, hle, hle', ?_⟩
        rw [if_neg (by rcases hsign with rfl | rfl <;> decide)]

end Reader
end TableService.Calendar
