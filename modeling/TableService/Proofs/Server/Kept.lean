/-
  Values of PostgreSQL that are read and then written.

  * `Uuid.ofText?_text`, `decimalOf?_decimalJson`: an identifier and a decimal are read back from the
    JSON value that they are shown as.
  * `Means`: what the bytes of a type mean; they mean one value only (`Means.same`).
  * `Passes`: bytes are decoded to a JSON value that is encoded again.  `kept_values`: every value of
    a type has bytes, and all of its bytes pass to bytes that mean it.
-/
import TableService.Proofs.Server.Numeric
import TableService.Proofs.Text.Bytes
import TableService.Server.PostgresValue

namespace TableService

/-! ## Blanks -/

namespace Text

/-- A visible character of ASCII is no blank. -/
theorem isBlank_visible {c : Char} (h : 0x21 ≤ c.toNat ∧ c.toNat ≤ 0x7E) : isBlank c = false := by
  simp [isBlank, blankRanges]
  omega

/-- Nothing is dropped from a text without such characters. -/
theorem stripBoth_eq_self {p : Char → Bool} {cs : List Char} (h : ∀ c ∈ cs, p c = false) :
    stripBoth p cs = cs := by
  have hkept : ∀ {l : List Char}, (∀ c ∈ l, p c = false) → l.dropWhile p = l := by
    intro l hl
    cases l with
    | nil => rfl
    | cons c l => rw [List.dropWhile_cons, if_neg (by simp [hl c List.mem_cons_self])]
  rw [stripBoth, hkept h, hkept fun c hc => h c (List.mem_reverse.1 hc), List.reverse_reverse]

end Text

/-! ## Identifiers -/

namespace Uuid

section
variable {l rest : List Char} {n : Nat} (h : l.length = n)
include h

theorem getElem?_hyphen : (l ++ '-' :: rest)[n]? = some '-' := by
  rw [List.getElem?_append_right h.le, h, Nat.sub_self, List.getElem?_cons_zero]

theorem drop_hyphen : (l ++ '-' :: rest).drop (n + 1) = rest := by
  rw [← List.drop_drop, List.drop_left' h]
  rfl

end

theorem ungrouped?_groups {a b c d e : List Char} (ha : a.length = 8) (hb : b.length = 4)
    (hc : c.length = 4) (hd : d.length = 4) (he : e.length = 12) :
    ungrouped? (a ++ '-' :: b ++ '-' :: c ++ '-' :: d ++ '-' :: e) = some (a ++ b ++ c ++ d ++ e) := by
  have hb' : (a ++ '-' :: b).length = 13 := by simp [ha, hb]
  have hc' : (a ++ '-' :: b ++ '-' :: c).length = 18 := by simp [ha, hb, hc]
  have hd' : (a ++ '-' :: b ++ '-' :: c ++ '-' :: d).length = 23 := by simp [ha, hb, hc, hd]
  generalize hcs : a ++ '-' :: b ++ '-' :: c ++ '-' :: d ++ '-' :: e = cs
  -- the text, seen from each of its hyphens
  have h₁ : a ++ '-' :: (b ++ '-' :: (c ++ '-' :: (d ++ '-' :: e))) = cs := by simp [← hcs]
  have h₂ : a ++ '-' :: b ++ '-' :: (c ++ '-' :: (d ++ '-' :: e)) = cs := by simp [← hcs]
  have h₃ : a ++ '-' :: b ++ '-' :: c ++ '-' :: (d ++ '-' :: e) = cs := by simp [← hcs]
  have hlength : cs.length = 36 := by rw [← hcs, List.length_append, hd', List.length_cons, he]
  have hhyphens : ([8, 13, 18, 23].all fun i => cs[i]? = some '-') = true := by
    have g₁ : cs[8]? = some '-' := h₁ ▸ getElem?_hyphen ha
    have g₂ : cs[13]? = some '-' := h₂ ▸ getElem?_hyphen hb'
    have g₃ : cs[18]? = some '-' := h₃ ▸ getElem?_hyphen hc'
    have g₄ : cs[23]? = some '-' := hcs ▸ getElem?_hyphen hd'
    simp [g₁, g₂, g₃, g₄]
  have ta : cs.take 8 = a := h₁ ▸ List.take_left' ha
  have tb : (cs.drop 9).take 4 = b := by rw [← h₁, drop_hyphen ha, List.take_left' hb]
  have tc : (cs.drop 14).take 4 = c := by rw [← h₂, drop_hyphen hb', List.take_left' hc]
  have td : (cs.drop 19).take 4 = d := by rw [← h₃, drop_hyphen hc', List.take_left' hd]
  have te : cs.drop 24 = e := by rw [← hcs, drop_hyphen hd']
  rw [ungrouped?, if_pos ⟨hlength, hhyphens⟩, ta, tb, tc, td, te]

/-- **An identifier is read back as it is written.** -/
theorem ofText?_text (u : Uuid) : ofText? u.text = some u := by
  have hlength : (hexadecimal u.bytes).length = 32 := by rw [length_hexadecimal, u.length_bytes]
  have hdigits := bytesOfHexadecimal?_hexadecimal u.bytes
  have hdrop : ∀ i j, ((hexadecimal u.bytes).drop i).take j ++ (hexadecimal u.bytes).drop (i + j) =
      (hexadecimal u.bytes).drop i := by
    intro i j
    rw [← List.drop_drop, List.take_append_drop]
  have hgroups : digitsOf? u.text = some (hexadecimal u.bytes) := by
    have htext : u.text.length = 36 := by simp [text, hlength]
    rw [digitsOf?, htext]
    refine (ungrouped?_groups (by simp [hlength]) (by simp [hlength]) (by simp [hlength])
      (by simp [hlength]) (by simp [hlength])).trans (congrArg some ?_)
    rw [List.append_assoc, hdrop 16 4, List.append_assoc, hdrop 12 4, List.append_assoc, hdrop 8 4,
      List.take_append_drop]
  rw [ofText?, hgroups]
  simp only [Option.bind_eq_bind, Option.bind_some, hdigits]
  exact dif_pos u.length_bytes

theorem visible_text (u : Uuid) : ∀ c ∈ u.text, 0x21 ≤ c.toNat ∧ c.toNat ≤ 0x7E := by
  have hdigit : ∀ n < 16, 0x21 ≤ (Nat.digitChar n).toNat ∧ (Nat.digitChar n).toNat ≤ 0x7E := by
    decide
  have hdigits : ∀ c ∈ hexadecimal u.bytes, 0x21 ≤ c.toNat ∧ c.toNat ≤ 0x7E := by
    intro c hc
    obtain ⟨b, -, hc⟩ := List.mem_flatMap.1 hc
    have hb := b.toNat_lt
    rcases List.mem_pair.1 hc with rfl | rfl
    · exact hdigit _ (by omega)
    · exact hdigit _ (by omega)
  intro c hc
  have hmem : c = '-' ∨ c ∈ hexadecimal u.bytes := by
    simp only [text, List.mem_append, List.mem_cons] at hc
    rcases hc with (((hc | rfl | hc) | rfl | hc) | rfl | hc) | rfl | hc
    · exact .inr (List.mem_of_mem_take hc)
    · exact .inl rfl
    · exact .inr (List.mem_of_mem_drop (List.mem_of_mem_take hc))
    · exact .inl rfl
    · exact .inr (List.mem_of_mem_drop (List.mem_of_mem_take hc))
    · exact .inl rfl
    · exact .inr (List.mem_of_mem_drop (List.mem_of_mem_take hc))
    · exact .inl rfl
    · exact .inr (List.mem_of_mem_drop hc)
  rcases hmem with rfl | hc
  · decide
  · exact hdigits c hc

end Uuid

/-! ## Decimals -/

theorem Decimal.visible_text (d : Decimal) : ∀ c ∈ d.text, 0x21 ≤ c.toNat ∧ c.toNat ≤ 0x7E := by
  obtain ⟨c, cs, places, hwhole, hplaces, -, -, htext⟩ := d.text_eq
  have hdigit : ∀ x : Char, x.isDigit = true → 0x21 ≤ x.toNat ∧ x.toNat ≤ 0x7E := by
    intro x hx
    obtain ⟨h₁, h₂⟩ : 48 ≤ x.toNat ∧ x.toNat ≤ 57 := Char.isDigit_iff_toNat.1 hx
    omega
  intro x hx
  rw [htext, List.mem_append, List.mem_append] at hx
  rcases hx with (hx | hx) | hx
  · split_ifs at hx
    · obtain rfl := List.mem_singleton.1 hx
      decide
    · cases hx
  · exact hdigit x (hwhole x hx)
  · split_ifs at hx
    · cases hx
    · rcases List.mem_cons.1 hx with rfl | hx
      · decide
      · exact hdigit x (hplaces x hx)

namespace PostgresType

theorem trimmed?_stringJson {cs : List Char} (h : ∀ c ∈ cs, 0x21 ≤ c.toNat ∧ c.toNat ≤ 0x7E) :
    trimmed? (stringJson cs) = some cs := by
  rw [stringJson, trimmed?, String.toList_ofList,
    Text.stripBoth_eq_self fun c hc => Text.isBlank_visible (h c hc)]

/-- **A decimal is read back from the JSON value that it is shown as**, be it a number or a string. -/
theorem decimalOf?_decimalJson (d : Decimal) : decimalOf? (decimalJson d) = some d.normalize := by
  have hread : decimalOf?.ofNumeral d.normalize.text = some d.normalize := by
    rw [decimalOf?.ofNumeral, Decimal.ofText?_text]
    rfl
  have hstring : decimalOf? (stringJson d.normalize.text) = some d.normalize := by
    have htrimmed := trimmed?_stringJson d.normalize.visible_text
    have hunfold : decimalOf? (stringJson d.normalize.text) =
        (trimmed? (stringJson d.normalize.text)).bind decimalOf?.ofNumeral := rfl
    rw [hunfold, htrimmed]
    exact hread
  unfold decimalJson
  dsimp only
  split
  · split_ifs with hrender
    · -- a number is read as it is written, which has been compared
      rw [decimalOf?, hrender, String.toList_ofList]
      exact hread
    · exact hstring
  · exact hstring

theorem decimalJson_ne_null (d : Decimal) : decimalJson d ≠ .null := by
  unfold decimalJson
  dsimp only
  split
  · split_ifs <;> exact nofun
  · exact nofun

/-! ## Values -/

/-- A value of a type that is kept. -/
inductive Value where
  | int (i : Int)
  | bool (b : Bool)
  | bytes (bs : List UInt8)
  | uuid (u : Uuid)
  | numeric (d : Decimal)
  | text (s : String)

/-- A whole number is in the range of so many bytes, of which the first bit stands for the sign. -/
def InRange (width : Nat) (i : Int) : Prop :=
  -(Nat.pow 256 width : Nat) ≤ 2 * i ∧ 2 * i < (Nat.pow 256 width : Nat)

/-- A value is one of a type. -/
inductive Value.IsOf : Value → PostgresType → Prop
  | int2 {i} (h : InRange 2 i) : IsOf (.int i) .int2
  | int4 {i} (h : InRange 4 i) : IsOf (.int i) .int4
  | int8 {i} (h : InRange 8 i) : IsOf (.int i) .int8
  | bool b : IsOf (.bool b) .bool
  | bytea bs : IsOf (.bytes bs) .bytea
  | uuid u : IsOf (.uuid u) .uuid
  | numeric d : IsOf (.numeric d) .numeric
  | text s : IsOf (.text s) .text

/-- What bytes of a type mean.  A decimal may be sent as any numeral that denotes it, every other
value in one form only. -/
def Means (raw : List UInt8) : PostgresType → Value → Prop
  | .int2, .int i => raw = bigEndian 2 i
  | .int4, .int i => raw = bigEndian 4 i
  | .int8, .int i => raw = bigEndian 8 i
  | .bool, .bool b => raw = [if b then 1 else 0]
  | .bytea, .bytes bs => raw = bs
  | .uuid, .uuid u => raw = u.bytes
  | .numeric, .numeric d => ∃ n : PostgresNumeric, n.Denotes d ∧ n.Fits ∧ raw = n.bytes
  | .text, .text s => raw = Text.utf8 s
  | _, _ => False

/-- Values that are the same, decimals if they are the same number. -/
def Value.Same : Value → Value → Prop
  | .numeric d, .numeric e => d.value = e.value
  | v, w => v = w

theorem bigEndian_inj {width : Nat} {i j : Int} (hi : InRange width i) (hj : InRange width j)
    (h : bigEndian width i = bigEndian width j) : i = j := by
  rw [← signed_bigEndian hi.1 hi.2, h, signed_bigEndian hj.1 hj.2]

/-- **Bytes of a type mean one value only.** -/
theorem Means.same {raw : List UInt8} {t : PostgresType} {v w : Value} (hv : v.IsOf t) (hw : w.IsOf t)
    (h : Means raw t v) (h' : Means raw t w) : v.Same w := by
  cases hv with
  | int2 hi | int4 hi | int8 hi =>
    cases hw with
    | _ hj => exact congrArg Value.int (bigEndian_inj hi hj (h.symm.trans h'))
  | bool b =>
    cases hw with
    | bool c =>
      have hbits := List.singleton_inj.1 (h.symm.trans h')
      cases b <;> cases c <;> first | rfl | cases hbits
  | bytea bs =>
    cases hw with
    | bytea cs => exact congrArg Value.bytes (h.symm.trans h')
  | uuid u =>
    cases hw with
    | uuid u' =>
      obtain ⟨bytes, hlength⟩ := u
      obtain ⟨bytes', hlength'⟩ := u'
      cases (show bytes = bytes' from h.symm.trans h')
      rfl
  | numeric d =>
    cases hw with
    | numeric e =>
      obtain ⟨n, hn, hfits, rfl⟩ := h
      obtain ⟨n', hn', hfits', hbytes⟩ := h'
      have hread := PostgresNumeric.ofBytes?_bytes hfits hn.group_lt
      rw [hbytes, PostgresNumeric.ofBytes?_bytes hfits' hn'.group_lt] at hread
      cases Option.some.inj hread
      exact hn.value.symm.trans hn'.value
  | text s =>
    cases hw with
    | text s' =>
      have hread := Text.fromUTF8?_utf8 s
      rw [← (show raw = _ from h), (show raw = _ from h'), Text.fromUTF8?_utf8] at hread
      exact congrArg Value.text (Option.some.inj hread).symm

/-- **Every value of a type has bytes.** -/
theorem exists_means {t : PostgresType} {v : Value} (h : v.IsOf t) : ∃ raw, Means raw t v := by
  cases h with
  | numeric d =>
    obtain ⟨hdenotes, hfits⟩ := PostgresNumeric.denotes_ofDecimal d
    exact ⟨_, PostgresNumeric.ofDecimal d, hdenotes, hfits, rfl⟩
  | int2 | int4 | int8 | bool | bytea | uuid | text => exact ⟨_, rfl⟩

/-! ## Reading and writing -/

/-- Bytes are decoded to a JSON value that is not null, and that is encoded to these bytes. -/
def Passes (t : PostgresType) (raw raw' : List UInt8) : Prop :=
  ∃ j, t.decode? raw = some j ∧ j ≠ .null ∧ t.bytes? j = some raw'

theorem Passes.encode {t : PostgresType} {raw raw' : List UInt8} (h : Passes t raw raw') :
    columnJson t (some raw) ≠ .null ∧
      encode? t (columnJson t (some raw)) = some (some raw') := by
  obtain ⟨j, hdecode, hnull, hbytes⟩ := h
  have hcolumn : columnJson t (some raw) = j := by
    rw [columnJson, Option.bind_some, hdecode]
    rfl
  rw [hcolumn]
  refine ⟨hnull, ?_⟩
  cases j with
  | null => exact absurd rfl hnull
  | bool | number | string | array | object =>
    rw [encode?, hbytes]
    · rfl
    · exact nofun

/-- A whole number is shown as it is, and read from that. -/
theorem integer_passes {width : Nat} (hwidth : width ≤ 8) {i : Int} (h : InRange width i) :
    ∃ j, integerJson? width (bigEndian width i) = some j ∧ j ≠ .null ∧
      (integerOf? j).bind (integerBytes? width) = some (bigEndian width i) := by
  have hpow : Nat.pow 256 width ≤ 256 ^ 8 := Nat.pow_le_pow_right (by decide) hwidth
  have hlong : -0x8000000000000000 ≤ i ∧ i < 0x8000000000000000 := by
    obtain ⟨hlower, hupper⟩ := h
    have : (256 : Nat) ^ 8 = 0x10000000000000000 := by norm_num
    constructor <;> omega
  have hjson : -0x8000000000000000 ≤ i ∧ i < 0x10000000000000000 := by omega
  refine ⟨.number (.int i hjson.1 hjson.2), ?_, nofun, ?_⟩
  · rw [integerJson?, if_pos (length_bigEndian width i), signed_bigEndian h.1 h.2, Json.ofInt?,
      dif_pos hjson]
  · have hread : integerOf? (.number (.int i hjson.1 hjson.2)) = some i := if_pos hlong
    rw [hread, Option.bind_some]
    exact if_pos h

theorem bytea_passes (bs : List UInt8) : Passes .bytea bs bs := by
  have hbyte : ∀ b : UInt8, byteOf? (Json.ofByte b) = some b := by
    intro b
    have hb := b.toNat_lt
    have hrange : (0 : Int) ≤ b.toNat ∧ (b.toNat : Int) < 256 := by omega
    rw [Json.ofByte, byteOf?, if_pos hrange, Int.toNat_natCast, UInt8.ofNat_toNat]
  refine ⟨.ofBytes bs, rfl, nofun, ?_⟩
  show (bs.map Json.ofByte).mapM byteOf? = some bs
  induction bs with
  | nil => rfl
  | cons b bs ih =>
    rw [List.map_cons, List.mapM_cons, hbyte, ih]
    rfl

theorem uuid_passes (u : Uuid) : Passes .uuid u.bytes u.bytes := by
  have hread : Uuid.ofBytes? u.bytes = some u := dif_pos u.length_bytes
  refine ⟨stringJson u.text, ?_, nofun, ?_⟩
  · simp only [decode?, hread, Option.bind_eq_bind, Option.bind_some, Option.pure_def]
  · simp only [bytes?, trimmed?_stringJson u.visible_text, Uuid.ofText?_text, Option.bind_eq_bind,
      Option.bind_some, Option.pure_def]

/-- A numeral for a decimal is written again as one for it. -/
theorem numeric_passes {n : PostgresNumeric} {d : Decimal} (hn : n.Denotes d) (hfits : n.Fits) :
    ∃ n' : PostgresNumeric, n'.Denotes d ∧ n'.Fits ∧ Passes .numeric n.bytes n'.bytes := by
  obtain ⟨e, hdecimal, hvalue⟩ := PostgresNumeric.decimal?_of_denotes hn
  obtain ⟨hdenotes, hfits'⟩ := PostgresNumeric.denotes_ofDecimal e.normalize
  refine ⟨.ofDecimal e.normalize, ⟨hdenotes.group_lt, ?_, hdenotes.shown⟩, hfits',
    decimalJson e, ?_, decimalJson_ne_null e, ?_⟩
  · rw [hdenotes.value, Decimal.value_normalize, hvalue]
  · simp only [decode?, PostgresNumeric.ofBytes?_bytes hfits hn.group_lt, hdecimal,
      Option.bind_eq_bind, Option.bind_some, Option.pure_def]
  · rw [bytes?, decimalOf?_decimalJson, Option.map_some]

theorem text_passes (s : String) : Passes .text (Text.utf8 s) (Text.utf8 s) := by
  refine ⟨.string s, ?_, nofun, ?_⟩
  · rw [decode?, text?, Text.fromUTF8?_utf8, Option.map_some]
  · rw [bytes?, textOf, Text.toList_toUTF8]

/-- Bytes of a value pass to bytes of it. -/
theorem Means.passes {raw : List UInt8} {t : PostgresType} {v : Value} (hv : v.IsOf t)
    (h : Means raw t v) :
    ∃ raw', Passes t raw raw' ∧ Means raw' t v ∧ (t ≠ .numeric → raw' = raw) := by
  cases hv with
  | int2 hi | int4 hi | int8 hi =>
    cases (show raw = _ from h)
    obtain ⟨j, hdecode, hnull, hbytes⟩ := integer_passes (by decide) hi
    exact ⟨_, ⟨j, hdecode, hnull, hbytes⟩, rfl, fun _ => rfl⟩
  | bool b =>
    cases (show raw = _ from h)
    refine ⟨_, ⟨.bool b, ?_, nofun, rfl⟩, rfl, fun _ => rfl⟩
    cases b <;> rfl
  | bytea bs =>
    cases (show raw = _ from h)
    exact ⟨_, bytea_passes _, rfl, fun _ => rfl⟩
  | uuid u =>
    cases (show raw = _ from h)
    exact ⟨_, uuid_passes u, rfl, fun _ => rfl⟩
  | numeric d =>
    obtain ⟨n, hn, hfits, rfl⟩ := h
    obtain ⟨n', hn', hfits', hpasses⟩ := numeric_passes hn hfits
    exact ⟨_, hpasses, ⟨n', hn', hfits', rfl⟩, fun hne => absurd rfl hne⟩
  | text s =>
    cases (show raw = _ from h)
    exact ⟨_, text_passes s, rfl, fun _ => rfl⟩

/-- **What is read from a column is written back as the same value.**  Every value of a type has
bytes.  Whatever bytes of a column mean it, the JSON value that is read from them is not null, and
this value is encoded for the same type to bytes that mean the same: to the very same bytes, except
that the digits of a decimal may be grouped with other zeros.  This holds of all whole numbers, truth
values, bytes, identifiers, decimals and texts, whatever the name of their type, and of decimals also
where a number would not be exact and a string is shown. -/
theorem kept_values {type : String} {v : Value} (h : v.IsOf (ofName type)) :
    (∃ raw, Means raw (ofName type) v) ∧ ∀ raw, Means raw (ofName type) v →
      columnJson (ofName type) (some raw) ≠ .null ∧
      ∃ raw', encode? (ofName type) (columnJson (ofName type) (some raw)) = some (some raw') ∧
        Means raw' (ofName type) v ∧ (ofName type ≠ .numeric → raw' = raw) := by
  refine ⟨exists_means h, fun raw hraw => ?_⟩
  obtain ⟨raw', hpasses, hmeans, heq⟩ := hraw.passes h
  obtain ⟨hnull, hencode⟩ := hpasses.encode
  exact ⟨hnull, raw', hencode, hmeans, heq⟩

/-- All names of texts are one type. -/
example : ["text", "varchar", "bpchar", "name"].map ofName = [.text, .text, .text, .text] := by decide

/-- A price with more digits than a double has, and its numeral. -/
def price : Decimal := ⟨true, 1234567890123456789025, 2, by decide, by decide⟩

def priceNumeral : PostgresNumeric := ⟨[1234, 5678, 9012, 3456, 7890, 2500], 4, true, 2⟩

theorem priceNumeral_denotes : priceNumeral.Denotes price where
  group_lt := by decide
  value := by
    norm_num [priceNumeral, price, PostgresNumeric.value, PostgresNumeric.magnitude,
      PostgresNumeric.groupsValue, Decimal.value, Decimal.magnitude]
  shown := ⟨1234567890123456789025, by
    norm_num [priceNumeral, PostgresNumeric.magnitude, PostgresNumeric.groupsValue]⟩

/-- The price is written back. -/
theorem price_kept : columnJson (ofName "numeric") (some priceNumeral.bytes) ≠ .null ∧
    ∃ raw, encode? (ofName "numeric") (columnJson (ofName "numeric") (some priceNumeral.bytes)) =
      some (some raw) ∧ Means raw (ofName "numeric") (.numeric price) := by
  have hmeans : Means priceNumeral.bytes (ofName "numeric") (.numeric price) :=
    ⟨priceNumeral, priceNumeral_denotes, ⟨by decide, by decide, by decide, by decide⟩, rfl⟩
  obtain ⟨-, hkept⟩ := @kept_values "numeric" (.numeric price) (.numeric price)
  obtain ⟨hnull, raw, hencode, hraw, -⟩ := hkept _ hmeans
  exact ⟨hnull, raw, hencode, hraw⟩

end PostgresType
end TableService
