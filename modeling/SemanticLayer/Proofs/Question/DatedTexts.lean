import SemanticLayer.Proofs.Calendar.DateText
import SemanticLayer.Proofs.Calendar.Months
import SemanticLayer.Proofs.Question.Separation

/-
# Texts whose digits are those of dates

A text in which digits stand in dates alone, and of which no phrase is left when
they are blanked, has the range of its dates (`resolve_dated`):

| dates | range |
| --- | --- |
| none | none |
| one | that day |
| two | from the first to the second, as they are written |
| three or more, or one that no month has | ambiguous |
-/

namespace SemanticLayer.DatePhrase

open Text DateText

/-! ### The days that digits write -/

/-- The year, month and day that digits write. -/
def DateDigits.civil (d : DateDigits) : Civil :=
  ⟨digitsValue d.year, digitsValue d.month, digitsValue d.day⟩

/-- Digits of ASCII that write a day which its month has. -/
structure DateDigits.Valid (d : DateDigits) : Prop where
  ascii : ∀ c ∈ d.year ++ (d.month ++ d.day), c.isDigit = true
  civil : d.civil.Valid

theorem asciiNumber?_eq_some {ds : List Char} {n : Nat} :
    asciiNumber? ds = some n ↔ (∀ c ∈ ds, c.isDigit = true) ∧ digitsValue ds = n := by
  unfold asciiNumber?
  split <;> simp_all

theorem date?_eq_some {d : DateDigits} {date : Date} :
    d.date? = some date ↔
      (∀ c ∈ d.year ++ (d.month ++ d.day), c.isDigit = true) ∧ date.civil = d.civil := by
  unfold DateDigits.date? DateDigits.civil
  rw [List.forall_mem_append, List.forall_mem_append, ← Date.ofCivil?_eq_some]
  simp only [Option.bind_eq_bind, Option.bind_eq_some_iff, asciiNumber?_eq_some]
  constructor
  · rintro ⟨_, ⟨hyear, rfl⟩, _, ⟨hmonth, rfl⟩, _, ⟨hday, rfl⟩, h⟩
    exact ⟨⟨hyear, hmonth, hday⟩, h⟩
  · rintro ⟨⟨hyear, hmonth, hday⟩, h⟩
    exact ⟨_, ⟨hyear, rfl⟩, _, ⟨hmonth, rfl⟩, _, ⟨hday, rfl⟩, h⟩

/-- The calendar has every day of the years with four digits. -/
theorem exists_ofCivil? {c : Civil} (hc : c.Valid) (hyear : 0 ≤ c.year ∧ c.year ≤ 9999) :
    ∃ d, Date.ofCivil? c.year c.month c.day = some d := by
  obtain ⟨hlo, hhi⟩ := Calendar.dayNumber_bounds hc
  have hfirst : Calendar.dayBeforeYear 0 ≤ Calendar.dayBeforeYear c.year :=
    Calendar.dayBeforeYear_mono hyear.1
  have hlast : Calendar.dayBeforeYear (c.year + 1) ≤ Calendar.dayBeforeYear 10000 :=
    Calendar.dayBeforeYear_mono (by omega)
  have hin : Calendar.firstDay ≤ Calendar.dayBeforeYear 0 ∧
      Calendar.dayBeforeYear 10000 ≤ Calendar.lastDay := by decide
  have hnumber : Calendar.firstDay ≤ Calendar.dayNumber c ∧
      Calendar.dayNumber c ≤ Calendar.lastDay := by omega
  unfold Date.ofCivil?
  rw [if_pos ⟨hc.month.1, hc.month.2, hc.day⟩]
  exact ⟨_, dif_pos hnumber⟩

/-- **Digits have a date exactly if they are valid.** -/
theorem exists_date?_iff {d : DateDigits} (hd : d.Written) :
    (∃ date, d.date? = some date) ↔ d.Valid := by
  constructor
  · rintro ⟨date, hdate⟩
    obtain ⟨hascii, hcivil⟩ := date?_eq_some.1 hdate
    exact ⟨hascii, hcivil ▸ date.valid_civil⟩
  · rintro ⟨hascii, hvalid⟩
    have hyear : digitsValue d.year < 10000 := by
      have hlt := digitsValue_lt (List.forall_mem_append.1 hascii).1
      rwa [hd.year_length] at hlt
    have hrange : 0 ≤ d.civil.year ∧ d.civil.year ≤ 9999 := by
      dsimp only [DateDigits.civil]
      omega
    obtain ⟨date, hdate⟩ := exists_ofCivil? hvalid hrange
    exact ⟨date, date?_eq_some.2 ⟨hascii, Date.ofCivil?_eq_some.1 hdate⟩⟩

/-! ### Texts with dates -/

/-- A text whose digits are those of complete dates with other characters around each, and the text
with a blank in place of every date. -/
inductive Dated : List Char → List DateToken → List Char → Prop where
  | plain {cs : List Char} (hcs : ∀ c ∈ cs, isDecimal c = false) : Dated cs [] cs
  | token {before after blanked : List Char} {t : DateToken} {tokens : List DateToken}
      (hbefore : ∀ c ∈ before, isDecimal c = false) (ht : t.Complete)
      (hafter : endsDigits after.head? = true) (h : Dated after tokens blanked) :
      Dated (before ++ (t.text ++ after)) (t :: tokens) (before ++ ' ' :: blanked)

/-- What is found of a token. -/
def DateToken.mention (t : DateToken) : Mention DateDigits := ⟨t.found, t.digits⟩

theorem explicitDate_of_not_decimal {c : Char} (hc : isDecimal c = false) (before : Option Char)
    (cs : List Char) : explicitDate before (c :: cs) = none := by
  refine Option.eq_none_iff_forall_ne_some.2 fun ⟨d, n⟩ h => ?_
  obtain ⟨monthMark, dayMark, rest, hd, -, -, hcs, -, -⟩ := explicitDate_eq_some.1 h
  have hlength := hd.year_length
  cases hyear : d.year with
  | nil =>
    rw [hyear] at hlength
    cases hlength
  | cons e es =>
    rw [DateDigits.marked, hyear] at hcs
    cases hcs
    have hdecimal := hd.year c (hyear ▸ List.mem_cons_self)
    rw [hc] at hdecimal
    cases hdecimal

/-- Characters that are no digits are passed over. -/
theorem pieces_append_of_not_decimal {left : List Char} (hleft : ∀ c ∈ left, isDecimal c = false)
    (before : Option Char) (right : List Char) :
    pieces explicitDate before (left ++ right) =
      left.map Piece.char ++ pieces explicitDate none right := by
  induction left generalizing before with
  | nil => exact pieces_congr (explicitDate_beside _ _) _
  | cons c left ih =>
    obtain ⟨hc, hmore⟩ := List.forall_mem_cons.1 hleft
    rw [List.cons_append, pieces, explicitDate_of_not_decimal hc]
    exact congrArg _ (ih hmore _)

section Dated

variable {text blanked : List Char} {tokens : List DateToken}

/-- **The dates of a text are its tokens,** from left to right, and nothing else is taken out of
it. -/
theorem Dated.pieces (h : Dated text tokens blanked) :
    mentions explicitDate text = tokens.map DateToken.mention ∧ undated text = blanked := by
  unfold mentions undated withoutMentions
  induction h with
  | plain hcs =>
    have hnone := pieces_append_of_not_decimal hcs none []
    rw [List.append_nil, Text.pieces, List.append_nil] at hnone
    rw [hnone]
    exact ⟨filterMap_mention?_map_char _, map_blanked_map_char _⟩
  | @token before after blanked t tokens hbefore ht hafter _ ih =>
    have htoken := pieces_token t none hafter
    rw [ht.1, ht.2] at htoken
    rw [pieces_append_of_not_decimal hbefore, htoken]
    constructor
    · rw [List.filterMap_append, filterMap_mention?_map_char, List.map_cons, ← ih.1]
      rfl
    · rw [List.map_append, map_blanked_map_char, ← ih.2]
      rfl

/-- What is left of it has no digits. -/
theorem Dated.not_decimal (h : Dated text tokens blanked) : ∀ c ∈ blanked, isDecimal c = false := by
  induction h with
  | plain hcs => exact hcs
  | token hbefore _ _ _ ih =>
    exact List.forall_mem_append.2 ⟨hbefore, List.forall_mem_cons.2 ⟨by decide, ih⟩⟩

end Dated

/-! ### Texts without phrases -/

/-- A text occurs in another as a part of it. -/
theorem occursIn_iff {needle cs : List Char} : occursIn needle cs = true ↔ needle <:+: cs := by
  induction cs with
  | nil => rw [occursIn, List.isEmpty_iff, List.infix_nil]
  | cons c cs ih =>
    rw [occursIn, Bool.or_eq_true, List.isPrefixOf_iff_prefix, ih, List.infix_cons_iff]

/-- A text that says nothing vague and names no period. -/
structure Phraseless (cs : List Char) : Prop where
  no_vague : mentions vague cs = []
  no_name : ∀ e ∈ Period.names, ∀ name ∈ e.2, ¬ name.toList <:+: lowerFrom [] cs

theorem Phraseless.periodsOf {cs : List Char} (h : Phraseless cs) :
    periodsOf (lowerFrom [] cs) = [] := by
  rw [DatePhrase.periodsOf, List.map_eq_nil_iff, List.filter_eq_nil_iff]
  intro e he hany
  obtain ⟨name, hname, hoccurs⟩ := List.any_eq_true.1 hany
  exact h.no_name e he name hname (occursIn_iff.1 hoccurs)

/-! ### The answer -/

/-- The days of tokens are those that they are read as. -/
theorem map_mentionedDate {tokens : List DateToken} {dates : List Date}
    (h : tokens.map (·.digits.date?) = dates.map some) :
    (tokens.map DateToken.mention).map mentionedDate = dates.map .ok := by
  induction tokens generalizing dates with
  | nil =>
    cases dates with
    | nil => rfl
    | cons d dates => cases h
  | cons t tokens ih =>
    cases dates with
    | nil => cases h
    | cons d dates =>
      obtain ⟨hd, hmore⟩ := List.cons.inj h
      rw [List.map_cons, List.map_cons, List.map_cons, ih hmore]
      exact congrArg (· :: _) (mentionedDate_eq_ok.2 hd)

/-- Three dates are too many. -/
theorem ofDates_of_three (text : List Char) {dates : List Date} (h : 3 ≤ dates.length) :
    ofDates text dates = ambiguous text := by
  match dates with
  | _ :: _ :: _ :: _ => rfl

section Answer

variable {text : String} {blanked : List Char} {tokens : List DateToken}
  (h : Dated text.toList tokens blanked) (today : Date)
include h

/-- **A text with dates has the range of its dates.** -/
theorem Dated.resolve_eq_ok (hplain : Phraseless blanked) (dates : List Date)
    {dated : List (Date × Date)} {range : Option (Date × Date)}
    (hdates : tokens.map (·.digits.date?) = dates.map some)
    (hdated : ofDates text.toList dates = .ok dated)
    (hrange : common text.toList dated = .ok range) : resolve text today = .ok range := by
  obtain ⟨hmentions, hundated⟩ := h.pieces
  have hnodays := mentions_lastDays_of_not_decimal h.not_decimal
  have hunnumbered : unnumbered text.toList = blanked := by
    rw [unnumbered, hundated, withoutMentions_of_mentions_eq_nil hnodays]
  refine DatePhrase.resolve_eq_ok.2 ⟨⟨dates, dated, [], []⟩, ⟨?_, hdated, ?_, ?_, ?_⟩, ?_⟩
  · rw [hmentions]
    exact map_mentionedDate hdates
  · rw [hundated, hnodays]
    rfl
  · rw [hunnumbered, hplain.no_vague]
  · rw [hunnumbered, hplain.periodsOf]
    rfl
  · simpa [Said.ranges] using hrange

/-- **A text is ambiguous if one of its dates is none.** -/
theorem Dated.isAmbiguous_of_not_valid (hinvalid : ∃ t ∈ tokens, ¬ t.digits.Valid) :
    IsAmbiguous (resolve text today) := by
  obtain ⟨t, ht, hvalid⟩ := hinvalid
  refine IsAmbiguous.bind ((Reported.mapM reported_mentionedDate _).isAmbiguous ?_) _
  intro dates hdates
  rw [mapM_eq_ok, h.pieces.1] at hdates
  have hmem : mentionedDate t.mention ∈ dates.map .ok :=
    hdates ▸ List.mem_map_of_mem (List.mem_map_of_mem ht)
  obtain ⟨d, -, hd⟩ := List.mem_map.1 hmem
  exact hvalid ((exists_date?_iff t.written).1 ⟨d, mentionedDate_eq_ok.1 hd.symm⟩)

/-- **And if it has three.** -/
theorem Dated.isAmbiguous_of_three (hlength : 3 ≤ tokens.length) :
    IsAmbiguous (resolve text today) := by
  by_cases hok : ∃ dates, (mentions explicitDate text.toList).mapM mentionedDate = .ok dates
  · obtain ⟨dates, hdates⟩ := hok
    have hmany : 3 ≤ dates.length := by
      have hlengths := congrArg List.length (mapM_eq_ok.1 hdates)
      rw [h.pieces.1, List.length_map, List.length_map, List.length_map] at hlengths
      omega
    unfold resolve
    dsimp only
    rw [hdates]
    change IsAmbiguous (ofDates text.toList dates >>= _)
    rw [ofDates_of_three _ hmany]
    exact ⟨_, rfl⟩
  · exact IsAmbiguous.bind ((Reported.mapM reported_mentionedDate _).isAmbiguous
      fun dates hdates => hok ⟨dates, hdates⟩) _

end Answer

/-- **Dates are read as they are written.**  A text whose digits are those of dates, and which has no
phrase when these are blanked, has no range without a date, the day of one date, and of two the range
from the first to the second, also where that is no later.  With three dates, or one that no month
has, it is ambiguous. -/
theorem resolve_dated {text : String} {blanked : List Char} {tokens : List DateToken}
    (h : Dated text.toList tokens blanked) (hplain : Phraseless blanked) (today : Date) :
    (tokens = [] → resolve text today = .ok none) ∧
    ((∃ t ∈ tokens, ¬ t.digits.Valid) ∨ 3 ≤ tokens.length → IsAmbiguous (resolve text today)) ∧
    (∀ t, tokens = [t] → t.digits.Valid →
      ∃ d : Date, d.civil = t.digits.civil ∧ resolve text today = .ok (some (d, d))) ∧
    ∀ t u, tokens = [t, u] → t.digits.Valid → u.digits.Valid →
      ∃ start stop : Date, start.civil = t.digits.civil ∧ stop.civil = u.digits.civil ∧
        resolve text today = .ok (some (start, stop)) := by
  have hdate : ∀ t : DateToken, t.digits.Valid →
      ∃ d : Date, t.digits.date? = some d ∧ d.civil = t.digits.civil := by
    intro t ht
    obtain ⟨d, hd⟩ := (exists_date?_iff t.written).2 ht
    exact ⟨d, hd, (date?_eq_some.1 hd).2⟩
  refine ⟨?_, ?_, ?_, ?_⟩
  · rintro rfl
    exact h.resolve_eq_ok today hplain [] rfl rfl rfl
  · exact fun hwrong => hwrong.elim (h.isAmbiguous_of_not_valid today) (h.isAmbiguous_of_three today)
  · rintro t rfl ht
    obtain ⟨d, hd, hcivil⟩ := hdate t ht
    exact ⟨d, hcivil, h.resolve_eq_ok today hplain [d]
      (by rw [List.map_singleton, hd, List.map_singleton]) rfl rfl⟩
  · rintro t u rfl ht hu
    obtain ⟨start, hstart, hcivil⟩ := hdate t ht
    obtain ⟨stop, hstop, hcivil'⟩ := hdate u hu
    exact ⟨start, stop, hcivil, hcivil', h.resolve_eq_ok today hplain [start, stop]
      (by rw [List.map_cons, List.map_singleton, hstart, hstop, List.map_cons, List.map_singleton])
      rfl rfl⟩

/-- Two dates of which the first is the later one make a range that ends before it starts. -/
theorem resolve_dated_backwards :
    ∃ t u : DateToken, t.text = "2026/10/1".toList ∧ u.text = "2026-01-01".toList ∧
      Dated "从2026/10/1到2026-01-01".toList [t, u] "从 到 ".toList ∧ Phraseless "从 到 ".toList ∧
      t.digits.Valid ∧ u.digits.Valid ∧
      ∃ start stop : Date, start.civil = ⟨2026, 10, 1⟩ ∧ stop.civil = ⟨2026, 1, 1⟩ ∧
        resolve "从2026/10/1到2026-01-01" Visits.newYear = .ok (some (start, stop)) := by
  let t : DateToken := {
    lead := [], digits := ⟨['2', '0', '2', '6'], ['1', '0'], ['1']⟩
    monthMark := '/', dayMark := '/', trail := []
    written := ⟨rfl, longDay.written.year,
      ⟨by decide, by decide, List.all_eq_true.1 (by decide)⟩,
      ⟨by decide, by decide, List.all_eq_true.1 (by decide)⟩⟩
    monthMark_mark := by decide
    dayMark_mark := by decide
    lead_decimal := List.forall_mem_nil _
    trail_decimal := List.forall_mem_nil _
    full := .inr rfl }
  let u : DateToken := { longDay with
    trail := [], trail_decimal := List.forall_mem_nil _, full := .inl rfl }
  have htext : "从2026/10/1到2026-01-01".toList =
      ['从'] ++ (t.text ++ (['到'] ++ (u.text ++ []))) := by decide
  have hblanked : "从 到 ".toList = ['从'] ++ ' ' :: (['到'] ++ ' ' :: []) := by decide
  have hdated : Dated "从2026/10/1到2026-01-01".toList [t, u] "从 到 ".toList := by
    have hplain : ∀ cs : List Char, cs.all (fun c => !isDecimal c) = true →
        ∀ c ∈ cs, isDecimal c = false := by simp
    rw [htext, hblanked]
    refine .token (hplain _ (by decide +kernel)) ⟨rfl, rfl⟩ (by decide +kernel) ?_
    exact .token (hplain _ (by decide +kernel)) ⟨rfl, rfl⟩ rfl (.plain (List.forall_mem_nil _))
  have hlower : lowerFrom [] "从 到 ".toList = "从 到 ".toList := by decide +kernel
  have hletter : 'c' ∈ ['r', 'e', 'c', 'e', 'n', 't'] := by decide
  have hphraseless : Phraseless "从 到 ".toList :=
    ⟨mentions_vague_eq_nil hletter (by decide), by rw [hlower]; decide⟩
  have ht : t.digits.Valid := ⟨List.all_eq_true.1 (by decide), by decide, by decide⟩
  have hu : u.digits.Valid := ⟨List.all_eq_true.1 (by decide), by decide, by decide⟩
  obtain ⟨-, -, -, htwo⟩ := resolve_dated hdated hphraseless Visits.newYear
  obtain ⟨start, stop, hstart, hstop, hrange⟩ := htwo t u rfl ht hu
  exact ⟨t, u, by decide, by decide, hdated, hphraseless, ht, hu, start, stop, hstart, hstop, hrange⟩

end SemanticLayer.DatePhrase
