/-
  Moments as parameters of PostgreSQL.

  * `timestampOf?_eq_some_iff`: a text is read as the moment that it says, with an offset or without
    one, and no other text is read.
  * `moments_encoded`: what is sent for a moment, which is the same for the types with and without a
    zone.
-/
import TableService.Proofs.Calendar.Printed
import TableService.Proofs.Server.Integers

namespace TableService

namespace Calendar

/-- A text says a moment: in the profile of RFC 3339, or in universal time without an offset. -/
def MomentText (n : Int) (cs : List Char) : Prop := ZonedText n cs ∨ PlainText n cs

/-- The microseconds of a moment are a number of 64 bits. -/
theorem MomentText.bounds {n : Int} {cs : List Char} (h : MomentText n cs) :
    -9000000000000000000000 < n ∧ n < 9000000000000000000000 := by
  rcases h with h | h
  · obtain ⟨d, hfirst, hlast, hnear⟩ := h.near
    have hdays := d.days_year
    omega
  · obtain ⟨d, kept, hnear⟩ := h.near
    have hdays := d.days_year
    rw [Date.isKept_iff] at kept
    omega

/-- The date in universal time of a moment with an offset is kept. -/
theorem ZonedText.kept {n : Int} {cs : List Char} (h : ZonedText n cs) :
    (Date.ofDays (n / 86400000000000)).isKept = true := by
  obtain ⟨d, hfirst, hlast, hnear⟩ := h.near
  have hdays := d.days_year
  have hdays' := (Date.ofDays (n / 86400000000000)).days_year
  rw [Date.days_ofDays] at hdays'
  rw [Date.isKept_iff]
  omega

end Calendar

/-! ## Blanks -/

/-- What is between two parts of a text is not at its ends. -/
theorem Text.stripBoth_between {p : Char → Bool} {front back : List Char} (mid : List Char)
    (hfront : front ≠ []) (hback : back ≠ []) (hp : ∀ c ∈ front, p c = false)
    (hp' : ∀ c ∈ back, p c = false) :
    Text.stripBoth p (front ++ mid ++ back) = front ++ mid ++ back := by
  obtain ⟨c, cs, rfl⟩ := List.exists_cons_of_ne_nil hfront
  obtain ⟨cs', c', rfl⟩ := (List.eq_nil_or_concat' back).resolve_left hback
  have hc : p c = false := hp c List.mem_cons_self
  have hc' : p c' = false := hp' c' (List.mem_append_right _ (List.mem_singleton_self c'))
  simp [Text.stripBoth, hc, hc']

namespace PostgresType

open Calendar

/-! ## Reading -/

theorem trimmed?_string (s : String) : trimmed? (.string s) = some (Text.trim s).toList := by
  rw [trimmed?, Text.trim, String.toList_ofList]

/-- **A text is read as the moment that it says**, and no other text is read.  At most one of the three
readers reads it, so that their order does not matter. -/
theorem timestampOf?_eq_some_iff {cs : List Char} {n : Int} :
    timestampOf? cs = some n ↔ MomentText n cs := by
  have hzoned {m k : Int} (hm : zonedOf cs = some m) : ¬ PlainText k cs :=
    (zonedOf_iff.1 hm).not_plainText
  have hnot {k : Int} (hk : PlainText k cs) : zonedOf cs = none :=
    Option.eq_none_iff_forall_ne_some.2 fun _ hm => hzoned hm hk
  rw [timestampOf?, MomentText, ← zonedOf_iff]
  constructor
  · intro h
    rw [Option.orElse_eq_orElse, Option.orElse_eq_or, Option.or_eq_some_iff, Option.orElse_eq_or,
      Option.or_eq_some_iff] at h
    rcases h with h | ⟨-, h | ⟨-, h⟩⟩
    · exact .inl h
    · exact .inr (plainText_iff.2 (.inl h))
    · exact .inr (plainText_iff.2 (.inr h))
  · rintro (h | h)
    · rw [h]
      rfl
    · rw [hnot h]
      rcases plainText_iff.1 h with h | h
      · rw [h]
        rfl
      · have hblanks : momentOf Reader.blanks cs = none :=
          Option.eq_none_iff_forall_ne_some.2 fun _ => not_spaced_of_lettered h
        rw [hblanks, h]
        rfl

theorem zonedTimestampOf?_eq (cs : List Char) : zonedTimestampOf? cs = timestampOf? cs := by
  unfold zonedTimestampOf? timestampOf?
  cases zonedOf cs <;> rfl

/-! ## Sending -/

theorem timestamp_bytes? {v : Json} {raw : List UInt8} : PostgresType.timestamp.bytes? v = some raw ↔
    ∃ s n, v = .string s ∧ MomentText n (Text.trim s).toList ∧ raw = momentBytes n := by
  have hbytes : PostgresType.timestamp.bytes? v =
      (trimmed? v).bind fun cs => (timestampOf? cs).bind fun n => some (momentBytes n) := rfl
  rw [hbytes]
  cases v with
  | string s =>
    rw [trimmed?_string, Option.bind_some, Option.bind_eq_some_iff]
    simp only [timestampOf?_eq_some_iff, Json.string.injEq, Option.some.injEq]
    constructor
    · rintro ⟨n, hn, rfl⟩
      exact ⟨s, n, rfl, hn, rfl⟩
    · rintro ⟨_, n, rfl, hn, rfl⟩
      exact ⟨n, hn, rfl⟩
  | null | bool | number | array | object =>
    constructor
    · nofun
    · rintro ⟨_, _, ⟨⟩, _⟩

theorem timestamptz_bytes? (v : Json) :
    PostgresType.timestamptz.bytes? v = PostgresType.timestamp.bytes? v := by
  unfold bytes?
  simp only [zonedTimestampOf?_eq]

/-- Eight bytes hold the microseconds of a moment. -/
theorem momentBytes_iff {n : Int} {cs : List Char} (h : MomentText n cs) {raw : List UInt8} :
    raw = momentBytes n ↔ raw.length = 8 ∧ signed raw = n.tdiv 1000 := by
  have hbounds := h.bounds
  have habs : (n.tdiv 1000).natAbs = n.natAbs / 1000 := Int.natAbs_tdiv n 1000
  have hrange : InRange 8 (n.tdiv 1000) := inRange_eight.2 (by omega)
  unfold momentBytes microseconds
  constructor
  · rintro rfl
    exact ⟨length_bigEndian _ _, signed_bigEndian hrange.1 hrange.2⟩
  · rintro ⟨hlength, hsigned⟩
    rw [← hsigned, ← hlength, bigEndian_signed]

/-- A date and a time of the day have no blanks at the ends. -/
theorem trim_moment {d : Date} {clock : List Char} (between : Char) (hclock : Visible clock)
    (hne : clock ≠ []) : (Text.trim (String.ofList (d.text ++ between :: clock))).toList =
      d.text ++ between :: clock := by
  have hdate : d.text ≠ [] := by simp [Date.text]
  have hblank {cs : List Char} (h : Visible cs) : ∀ c ∈ cs, Text.isBlank c = false :=
    fun c hc => Text.isBlank_visible (h c hc)
  have hstrip := Text.stripBoth_between [between] hdate hne (hblank (visible_dateText d))
    (hblank hclock)
  rw [List.append_assoc, List.singleton_append] at hstrip
  rw [Text.trim, String.toList_ofList, String.toList_ofList, hstrip]

/-- **Moments are sent as the microseconds since the year 2000 began.**  Whatever a value is, the types
with and without a zone take it alike.  What is sent is a text, without blanks at its ends, that says a
moment: in universal time if there is no offset, whichever of both layouts it has, and else after the
offset has been taken off.  The eight bytes are the number of microseconds from the midnight at which
the year 2000 began in universal time, from which days are counted by the calendar; what a text says
beyond the microsecond is dropped.  A text with an offset is sent like both texts without one that say
the same moment in universal time. -/
theorem moments_encoded (v : Json) :
    encode? .timestamp v = encode? .timestamptz v ∧
    (∀ raw, encode? .timestamp v = some (some raw) ↔
      ∃ s n, v = .string s ∧ MomentText n (Text.trim s).toList ∧
        raw.length = 8 ∧ signed raw = n.tdiv 1000) ∧
    (∀ s n, v = .string s → ZonedText n (Text.trim s).toList →
      ∀ between, between = ' ' ∨ between = 'T' → PlainText n (utcText between n) ∧
        encode? .timestamp v = encode? .timestamp (stringJson (utcText between n))) ∧
    instant Date.first 0 = 0 ∧ ∀ d k, instant (Date.next d) k = instant d k + 86400000000000 := by
  have hsent {v : Json} {raw : List UInt8} : encode? .timestamp v = some (some raw) ↔
      ∃ s n, v = .string s ∧ MomentText n (Text.trim s).toList ∧
        raw.length = 8 ∧ signed raw = n.tdiv 1000 := by
    rw [encode?_eq_some_iff, timestamp_bytes?]
    constructor
    · rintro ⟨-, s, n, rfl, hn, hraw⟩
      exact ⟨s, n, rfl, hn, (momentBytes_iff hn).1 hraw⟩
    · rintro ⟨s, n, rfl, hn, hraw⟩
      exact ⟨by rintro ⟨⟩, s, n, rfl, hn, (momentBytes_iff hn).2 hraw⟩
  have hsaid {s : String} {n : Int} (h : MomentText n (Text.trim s).toList) :
      encode? .timestamp (.string s) = some (some (momentBytes n)) :=
    hsent.2 ⟨s, n, rfl, h, (momentBytes_iff h).1 rfl⟩
  refine ⟨?_, fun raw => hsent, ?_, ?_, ?_⟩
  · cases v with
    | null => rfl
    | bool | number | string | array | object => simp only [encode?, timestamptz_bytes?]
  · rintro s n rfl h between hbetween
    have hplain := plainText_utcText h.kept hbetween
    refine ⟨hplain, ?_⟩
    have htrim : (Text.trim (String.ofList (utcText between n))).toList = utcText between n :=
      trim_moment between
        ((visible_secondsText _).append (.cons (by decide) (visible_paddedDigits _ _))) (by simp)
    rw [hsaid (.inl h), stringJson, hsaid (.inr (htrim.symm ▸ hplain))]
  · rw [instant, Date.days_first]
    rfl
  · intro d k
    rw [instant, instant, d.days_next]
    omega

example : encode? .timestamptz (.string "2024-03-01T01:30:00.5+05:30") =
    encode? .timestamp (.string "2024-02-29 20:00:00.5") := by
  decide +kernel

end PostgresType
end TableService
