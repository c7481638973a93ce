import Mathlib
import SemanticLayer.Proofs.Query.Validity
import SemanticLayer.Proofs.Question.Phrases
import SemanticLayer.Proofs.Text.Lowercase
import SemanticLayer.Proofs.Text.Separators

/-
# Dates that are cut out of longer digits

A date in a text is four digits, one or two, and one or two, with marks between
them.  Nothing is asked of the characters beside it, so a token of longer runs
of digits has a date cut out of it:

| token | date |
| --- | --- |
| `2026-10-17` | `2026-10-17` |
| `12026-10-17` | `2026-10-17` |
| `2026-10-170` | `2026-10-17` |
| `2026-100-17` | none |

`DateToken` is a token with the digits that are left out, and
`explicit_dates_cut` says what becomes of tokens.
-/

namespace SemanticLayer.DatePhrase

open Text

/-! ### Digits -/

/-- Whether digits do not go on with the character beside them. -/
def endsDigits (beside : Option Char) : Bool := !beside.any isDecimal

/-- One or two digits. -/
structure Short (ds : List Char) : Prop where
  ne_nil : ds ≠ []
  length_le : ds.length ≤ 2
  decimal : ∀ c ∈ ds, isDecimal c = true

/-- Digits that end where they have to are read as they are. -/
theorem shortNumber_append {ds rest : List Char} (h : Short ds)
    (hend : ds.length = 2 ∨ endsDigits rest.head? = true) : shortNumber (ds ++ rest) = ds := by
  obtain ⟨hne, hlength, hdecimal⟩ := h
  match ds with
  | [] => exact absurd rfl hne
  | [a] =>
    have ha := hdecimal a List.mem_cons_self
    cases rest with
    | nil => simp [shortNumber, ha]
    | cons b rest =>
      have hb : isDecimal b = false := by simpa [endsDigits] using hend
      simp [shortNumber, ha, hb]
  | [a, b] => simpa [shortNumber] using hdecimal
  | a :: b :: c :: ds => simp at hlength

/-- **What is read are one or two digits,** and if there is one, no digit follows. -/
theorem exists_of_shortNumber {cs : List Char} (h : shortNumber cs ≠ []) :
    ∃ rest, cs = shortNumber cs ++ rest ∧ Short (shortNumber cs) ∧
      ((shortNumber cs).length = 2 ∨ endsDigits rest.head? = true) := by
  match cs with
  | [] => exact absurd rfl h
  | [a] =>
    by_cases ha : isDecimal a = true
    · have hread : shortNumber [a] = [a] := by simp [shortNumber, ha]
      rw [hread]
      exact ⟨[], rfl, ⟨h ∘ fun _ => by simp_all, by simp, by simpa using ha⟩, .inr rfl⟩
    · exact absurd (by simp [shortNumber, ha]) h
  | a :: b :: rest =>
    by_cases ha : isDecimal a = true
    · by_cases hb : isDecimal b = true
      · have hread : shortNumber (a :: b :: rest) = [a, b] := by simp [shortNumber, ha, hb]
        rw [hread]
        exact ⟨rest, rfl, ⟨by simp, by simp, by simp [ha, hb]⟩, .inl rfl⟩
      · have hread : shortNumber (a :: b :: rest) = [a] := by simp [shortNumber, ha, hb]
        rw [hread]
        exact ⟨b :: rest, rfl, ⟨by simp, by simp, by simp [ha]⟩, .inr (by simp [endsDigits, hb])⟩
    · exact absurd (by simp [shortNumber, ha]) h

/-- The mark behind a number. -/
theorem afterMark_eq_some {cs rest : List Char} :
    afterMark cs = some rest ↔ ∃ mark, isDateMark mark = true ∧ cs = mark :: rest := by
  cases cs with
  | nil => simp [afterMark]
  | cons c cs =>
    rw [afterMark]
    by_cases hc : isDateMark c = true
    · simp [hc]
    · rw [if_neg hc]
      refine ⟨nofun, ?_⟩
      rintro ⟨mark, hmark, heq⟩
      cases heq
      exact absurd hmark hc

theorem isDecimal_of_isDateMark {c : Char} (h : isDateMark c = true) : isDecimal c = false := by
  simp only [isDateMark, Bool.or_eq_true, beq_iff_eq] at h
  rcases h with rfl | rfl <;> decide

/-- A mark and a number behind it. -/
theorem number_eq_some {β : Type} {cs : List Char} {read : List Char → Option β} {b : β} :
    (do
      let rest ← afterMark cs
      if (shortNumber rest).isEmpty then none
      read rest) = some b ↔
    ∃ mark digits more, isDateMark mark = true ∧ Short digits ∧
      (digits.length = 2 ∨ endsDigits more.head? = true) ∧ cs = mark :: (digits ++ more) ∧
      read (digits ++ more) = some b := by
  rw [Option.bind_eq_bind, Option.bind_eq_some_iff]
  constructor
  · rintro ⟨rest, hrest, h⟩
    obtain ⟨mark, hmark, rfl⟩ := afterMark_eq_some.1 hrest
    split at h
    · cases h
    · rename_i hne
      obtain ⟨more, hmore, hshort, hend⟩ := exists_of_shortNumber (by simpa using hne)
      exact ⟨mark, shortNumber rest, more, hmark, hshort, hend, congrArg _ hmore, hmore ▸ h⟩
  · rintro ⟨mark, digits, more, hmark, hshort, hend, rfl, h⟩
    refine ⟨digits ++ more, afterMark_eq_some.2 ⟨mark, hmark, rfl⟩, ?_⟩
    rw [shortNumber_append hshort hend, if_neg (by simpa using hshort.ne_nil)]
    exact h

/-! ### Dates in a text -/

/-- Digits such as a date is written with. -/
structure DateDigits.Written (d : DateDigits) : Prop where
  year_length : d.year.length = 4
  year : ∀ c ∈ d.year, isDecimal c = true
  month : Short d.month
  day : Short d.day

/-- The digits of a date with the marks between them. -/
def DateDigits.marked (d : DateDigits) (monthMark dayMark : Char) : List Char :=
  d.year ++ monthMark :: (d.month ++ dayMark :: d.day)

/-- **What is found as a date:** four digits, one or two, and one or two, with marks between them.
The digits of the month are all there are between the marks; of the year and the day nothing of
the kind is asked, but that a second digit of the day is not left out. -/
theorem explicitDate_eq_some {before : Option Char} {cs : List Char} {d : DateDigits} {n : Nat} :
    explicitDate before cs = some (d, n) ↔ ∃ monthMark dayMark rest,
      d.Written ∧ isDateMark monthMark = true ∧ isDateMark dayMark = true ∧
      cs = d.marked monthMark dayMark ++ rest ∧
      (d.day.length = 2 ∨ endsDigits rest.head? = true) ∧
      n = 5 + d.month.length + d.day.length := by
  unfold explicitDate
  dsimp only
  constructor
  · intro h
    split at h
    · cases h
    · rename_i hyear
      rw [not_or, Nat.not_lt] at hyear
      obtain ⟨monthMark, month, more, hmonthMark, hmonth, hmonthEnd, hcs, h⟩ :=
        number_eq_some.1 h
      rw [shortNumber_append hmonth hmonthEnd, List.drop_left] at h
      obtain ⟨dayMark, day, rest, hdayMark, hday, hend, rfl, hd⟩ := number_eq_some.1 h
      rw [shortNumber_append hday hend] at hd
      cases hd
      have hlength : (cs.take 4).length = 4 :=
        Nat.le_antisymm (List.length_take_le 4 cs) hyear.1
      refine ⟨monthMark, dayMark, rest, ⟨hlength, by simpa using hyear.2, hmonth, hday⟩, hmonthMark,
        hdayMark, ?_, hend, rfl⟩
      rw [DateDigits.marked, List.append_assoc, List.cons_append, List.append_assoc,
        List.cons_append, ← hcs, List.take_append_drop]
  · rintro ⟨monthMark, dayMark, rest, hd, hmonthMark, hdayMark, rfl, hend, rfl⟩
    obtain ⟨year, month, day⟩ := d
    obtain ⟨hlength, hyear, hmonth, hday⟩ := hd
    dsimp only at hlength hyear hmonth hday hend
    have hcs : (DateDigits.mk year month day).marked monthMark dayMark ++ rest =
        year ++ monthMark :: (month ++ dayMark :: (day ++ rest)) := by
      simp [DateDigits.marked]
    have htake : (year ++ monthMark :: (month ++ dayMark :: (day ++ rest))).take 4 = year :=
      List.take_left' hlength
    have hdrop : (year ++ monthMark :: (month ++ dayMark :: (day ++ rest))).drop 4 =
        monthMark :: (month ++ dayMark :: (day ++ rest)) := List.drop_left' hlength
    have hmonthEnd : month.length = 2 ∨
        endsDigits (dayMark :: (day ++ rest)).head? = true :=
      .inr (by simp [endsDigits, isDecimal_of_isDateMark hdayMark])
    rw [hcs, htake, hdrop, if_neg (by simp [hlength]; exact hyear)]
    refine number_eq_some.2 ⟨monthMark, month, _, hmonthMark, hmonth, hmonthEnd, rfl, ?_⟩
    rw [shortNumber_append hmonth hmonthEnd, List.drop_left]
    refine number_eq_some.2 ⟨dayMark, day, rest, hdayMark, hday, hend, rfl, ?_⟩
    rw [shortNumber_append hday hend]
    rfl

/-- What stands before a date does not count. -/
theorem explicitDate_beside (before before' : Option Char) (cs : List Char) :
    explicitDate before cs = explicitDate before' cs := rfl

/-- A date in a text has digits and marks in it. -/
theorem DateDigits.Written.mem_marked {d : DateDigits} (hd : d.Written) {monthMark dayMark c : Char}
    (hmonthMark : isDateMark monthMark = true) (hdayMark : isDateMark dayMark = true)
    (hc : c ∈ d.marked monthMark dayMark) : isDecimal c = true ∨ isDateMark c = true := by
  simp only [DateDigits.marked, List.mem_append, List.mem_cons] at hc
  rcases hc with hc | rfl | hc | rfl | hc
  · exact .inl (hd.year c hc)
  · exact .inr hmonthMark
  · exact .inl (hd.month.decimal c hc)
  · exact .inr hdayMark
  · exact .inl (hd.day.decimal c hc)

theorem DateDigits.Written.length_marked {d : DateDigits} (hd : d.Written)
    (monthMark dayMark : Char) :
    (d.marked monthMark dayMark).length = 5 + d.month.length + d.day.length + 1 := by
  have := hd.year_length
  simp only [DateDigits.marked, List.length_append, List.length_cons]
  omega

theorem DateDigits.Written.not_mem_marked {d : DateDigits} (hd : d.Written)
    {monthMark dayMark c : Char} (hmonthMark : isDateMark monthMark = true)
    (hdayMark : isDateMark dayMark = true) (hdecimal : isDecimal c = false)
    (hmark : isDateMark c = false) : c ∉ d.marked monthMark dayMark := by
  intro hc
  rcases hd.mem_marked hmonthMark hdayMark hc with h | h
  · exact Bool.false_ne_true (hdecimal.symm.trans h)
  · exact Bool.false_ne_true (hmark.symm.trans h)

/-- **No date reaches over a character** that is neither a digit nor a mark. -/
theorem stops_explicitDate {c : Char} (hdecimal : isDecimal c = false)
    (hmark : isDateMark c = false) : Stops explicitDate c where
  here before rest := by
    refine Option.eq_none_iff_forall_ne_some.2 fun ⟨d, n⟩ h => ?_
    obtain ⟨monthMark, dayMark, more, hd, hmonthMark, hdayMark, hcs, -, -⟩ :=
      explicitDate_eq_some.1 h
    have hlength := hd.length_marked monthMark dayMark
    cases hdate : d.marked monthMark dayMark with
    | nil =>
      rw [hdate] at hlength
      cases hlength
    | cons e es =>
      rw [hdate] at hcs
      cases hcs
      exact hd.not_mem_marked hmonthMark hdayMark hdecimal hmark (hdate ▸ List.mem_cons_self)
  within before d cs rest := by
    refine Option.ext fun ⟨digits, n⟩ => ?_
    rw [explicitDate_eq_some, explicitDate_eq_some]
    constructor
    · rintro ⟨monthMark, dayMark, more, hd, hmonthMark, hdayMark, hcs, hend, rfl⟩
      have hc := hd.not_mem_marked hmonthMark hdayMark hdecimal hmark
      obtain ⟨left, hleft, rfl⟩ := exists_of_append_cons_eq hc hcs
      refine ⟨monthMark, dayMark, left, hd, hmonthMark, hdayMark, hleft, hend.imp_right fun h => ?_,
        rfl⟩
      cases left with
      | nil => rfl
      | cons e left => exact h
    · rintro ⟨monthMark, dayMark, more, hd, hmonthMark, hdayMark, hcs, hend, rfl⟩
      refine ⟨monthMark, dayMark, more ++ c :: rest, hd, hmonthMark, hdayMark, ?_,
        hend.imp_right fun h => ?_, rfl⟩
      · rw [hcs, List.append_assoc]
      · cases more with
        | nil => simp [endsDigits, hdecimal]
        | cons e more => exact h
  short before d cs digits n h := by
    obtain ⟨monthMark, dayMark, more, hd, -, -, hcs, -, rfl⟩ := explicitDate_eq_some.1 h
    have hlength := congrArg List.length hcs
    rw [List.length_append, hd.length_marked, List.length_cons] at hlength
    omega
  behind := explicitDate_beside (some c) none

/-! ### Dates with the digits around them -/

/-- A date such as it is found, with the further digits that stand beside it. -/
structure DateToken where
  /-- Further digits before the year. -/
  lead : List Char
  digits : DateDigits
  monthMark : Char
  dayMark : Char
  /-- Further digits behind the day. -/
  trail : List Char
  written : digits.Written
  monthMark_mark : isDateMark monthMark = true
  dayMark_mark : isDateMark dayMark = true
  lead_decimal : ∀ c ∈ lead, isDecimal c = true
  trail_decimal : ∀ c ∈ trail, isDecimal c = true
  /-- There are further digits behind two digits of a day alone. -/
  full : digits.day.length = 2 ∨ trail = []

namespace DateToken

variable (t : DateToken)

/-- What is found. -/
def found : List Char := t.digits.marked t.monthMark t.dayMark

/-- What is written: three runs of digits with marks between them. -/
def text : List Char := t.lead ++ (t.found ++ t.trail)

/-- What is found is all that is written. -/
def Complete : Prop := t.lead = [] ∧ t.trail = []

/-- A text has the token, and no further digit beside it. -/
def StandsIn (cs : List Char) : Prop :=
  ∃ before after, cs = before ++ (t.text ++ after) ∧ endsDigits before.getLast? = true ∧
    endsDigits after.head? = true

end DateToken

theorem endsDigits_rdropWhile (cs : List Char) :
    endsDigits (cs.rdropWhile isDecimal).getLast? = true := by
  by_cases hne : cs.rdropWhile isDecimal = []
  · rw [hne]
    rfl
  · rw [List.getLast?_eq_getLast_of_ne_nil hne]
    simpa [endsDigits] using List.rdropWhile_last_not isDecimal cs hne

theorem endsDigits_dropWhile (cs : List Char) :
    endsDigits (cs.dropWhile isDecimal).head? = true := by
  cases hcs : cs.dropWhile isDecimal with
  | nil => rfl
  | cons c rest =>
    have hnot := List.head?_dropWhile_not isDecimal cs
    rw [hcs] at hnot
    simpa [endsDigits] using hnot

/-- **Every date that is found is found in a token,** the digits beside it left out. -/
theorem exists_token_of_mem {cs : List Char} {m : Mention DateDigits}
    (hm : m ∈ mentions explicitDate cs) :
    ∃ t : DateToken, t.StandsIn cs ∧ t.digits = m.said ∧ t.found = m.text := by
  obtain ⟨left, right, beside, n, rfl, hfind, htext⟩ := exists_of_mem_pieces (mem_mentions.1 hm)
  obtain ⟨monthMark, dayMark, rest, hd, hmonthMark, hdayMark, rfl, hend, rfl⟩ :=
    explicitDate_eq_some.1 hfind
  have hfull : m.said.day.length = 2 ∨ rest.takeWhile isDecimal = [] := by
    refine hend.imp_right fun h => ?_
    cases rest with
    | nil => rfl
    | cons c rest => exact List.takeWhile_cons_of_neg (by simpa [endsDigits] using h)
  refine ⟨⟨left.rtakeWhile isDecimal, m.said, monthMark, dayMark, rest.takeWhile isDecimal, hd,
    hmonthMark, hdayMark, fun c hc => List.mem_rtakeWhile_imp hc,
    fun c hc => List.mem_takeWhile_imp hc, hfull⟩, ?_, rfl, ?_⟩
  · refine ⟨left.rdropWhile isDecimal, rest.dropWhile isDecimal, ?_, ?_, ?_⟩
    · have hleft := List.rdropWhile_append_rtakeWhile (p := isDecimal) (l := left)
      have hrest := List.takeWhile_append_dropWhile (p := isDecimal) (l := rest)
      simp only [DateToken.text, DateToken.found, List.append_assoc]
      rw [hrest, ← List.append_assoc (List.rdropWhile _ _), hleft]
    · exact endsDigits_rdropWhile left
    · exact endsDigits_dropWhile rest
  · rw [htext]
    exact (List.take_left' (hd.length_marked monthMark dayMark)).symm

/-- A year is not looked for where five digits stand. -/
theorem explicitDate_of_five {ds : List Char} (hlength : 5 ≤ ds.length)
    (hds : ∀ c ∈ ds, isDecimal c = true) (before : Option Char) (rest : List Char) :
    explicitDate before (ds ++ rest) = none := by
  refine Option.eq_none_iff_forall_ne_some.2 fun ⟨d, n⟩ h => ?_
  obtain ⟨monthMark, dayMark, more, hd, hmonthMark, -, hcs, -, -⟩ := explicitDate_eq_some.1 h
  -- the fifth character is a digit, and it is the mark behind the year
  have hdigit : (ds ++ rest)[4]? = some ds[4] := by
    rw [List.getElem?_append_left hlength, List.getElem?_eq_getElem]
  have hmark : (ds ++ rest)[4]? = some monthMark := by
    rw [hcs, DateDigits.marked, List.append_assoc,
      List.getElem?_append_right (Nat.le_of_eq hd.year_length), hd.year_length]
    rfl
  have hdecimal := hds _ (List.getElem_mem hlength)
  rw [Option.some.inj (hdigit.symm.trans hmark), isDecimal_of_isDateMark hmonthMark] at hdecimal
  cases hdecimal

/-- Without a mark there is no date. -/
theorem explicitDate_of_unmarked (before : Option Char) (c : Char) (cs : List Char)
    (hcs : ∀ d ∈ c :: cs, isDateMark d = false) : explicitDate before (c :: cs) = none := by
  refine Option.eq_none_iff_forall_ne_some.2 fun ⟨d, n⟩ h => ?_
  obtain ⟨monthMark, dayMark, more, -, hmonthMark, -, heq, -, -⟩ := explicitDate_eq_some.1 h
  have hmem : monthMark ∈ c :: cs := by
    rw [heq, DateDigits.marked]
    simp
  exact absurd hmonthMark (by simp [hcs monthMark hmem])

theorem isDateMark_of_isDecimal {c : Char} (h : isDecimal c = true) : isDateMark c = false :=
  Bool.eq_false_iff.2 fun hmark => by simp [isDecimal_of_isDateMark hmark] at h

/-- Digits alone are no date. -/
theorem explicitDate_of_decimal (before : Option Char) (c : Char) (cs : List Char)
    (hcs : ∀ d ∈ c :: cs, isDecimal d = true) : explicitDate before (c :: cs) = none :=
  explicitDate_of_unmarked before c cs fun d hd => isDateMark_of_isDecimal (hcs d hd)

section

variable {digits : DateDigits} {monthMark dayMark : Char} (hwritten : digits.Written)

include hwritten

/-- **A date that is written out and ends** is found where it starts. -/
theorem pieces_marked (hmonthMark : isDateMark monthMark = true) (hdayMark : isDateMark dayMark = true)
    {rest : List Char} (hend : digits.day.length = 2 ∨ endsDigits rest.head? = true)
    (before : Option Char) :
    pieces explicitDate before (digits.marked monthMark dayMark ++ rest) =
      .mention ⟨digits.marked monthMark dayMark, digits⟩ :: pieces explicitDate none rest := by
  have hhere : explicitDate before (digits.marked monthMark dayMark ++ rest) =
      some (digits, 5 + digits.month.length + digits.day.length) :=
    explicitDate_eq_some.2 ⟨monthMark, dayMark, rest, hwritten, hmonthMark, hdayMark, rfl, hend, rfl⟩
  have hlength := hwritten.length_marked monthMark dayMark
  cases hfound : digits.marked monthMark dayMark with
  | nil =>
    rw [hfound] at hlength
    cases hlength
  | cons c cs =>
    rw [hfound, List.cons_append] at hhere
    rw [hfound] at hlength
    have hcs : cs.length = 5 + digits.month.length + digits.day.length := Nat.succ.inj hlength
    rw [List.cons_append, pieces, hhere]
    dsimp only
    rw [List.take_left' hcs, List.drop_left' hcs]
    exact congrArg _ (pieces_congr (explicitDate_beside _ _) _)

/-- No date starts at a further digit before the year. -/
theorem explicitDate_of_lead {c : Char} {lead : List Char}
    (hlead : ∀ d ∈ c :: lead, isDecimal d = true) (before : Option Char) (rest : List Char) :
    explicitDate before (c :: (lead ++ (digits.marked monthMark dayMark ++ rest))) = none := by
  have hfive : 5 ≤ (c :: lead ++ digits.year).length := by
    rw [List.length_append, List.length_cons, hwritten.year_length]
    omega
  have hnone := explicitDate_of_five hfive (List.forall_mem_append.2 ⟨hlead, hwritten.year⟩) before
    (monthMark :: (digits.month ++ dayMark :: digits.day) ++ rest)
  have hcs : c :: lead ++ digits.year ++
      (monthMark :: (digits.month ++ dayMark :: digits.day) ++ rest) =
        c :: (lead ++ (digits.marked monthMark dayMark ++ rest)) := by
    simp [DateDigits.marked]
  rwa [hcs] at hnone

end

/-- **A token is read as what is found in it:** the further digits before the year are passed over,
and those behind the day are left. -/
theorem pieces_token (t : DateToken) (before : Option Char) {after : List Char}
    (hafter : endsDigits after.head? = true) :
    pieces explicitDate before (t.text ++ after) =
      t.lead.map Piece.char ++ .mention ⟨t.found, t.digits⟩ ::
        pieces explicitDate none (t.trail ++ after) := by
  obtain ⟨lead, digits, monthMark, dayMark, trail, hwritten, hmonthMark, hdayMark, hlead, htrail,
    hfull⟩ := t
  have hend : digits.day.length = 2 ∨ endsDigits (trail ++ after).head? = true :=
    hfull.imp_right fun h => by rw [h]; exact hafter
  simp only [DateToken.text, DateToken.found, List.append_assoc]
  clear htrail hfull
  induction lead generalizing before with
  | nil => exact pieces_marked hwritten hmonthMark hdayMark hend before
  | cons c lead ih =>
    rw [List.cons_append, pieces, explicitDate_of_lead hwritten hlead]
    exact congrArg _ (ih (some c) (List.forall_mem_cons.1 hlead).2)

/-- The text before a token does not go on into it. -/
def Apart (before : List Char) : Prop :=
  ∀ c, before.getLast? = some c → isDecimal c = false ∧ isDateMark c = false

/-- **A token that stands apart is a date of its text,** whatever digits stand beside it. -/
theorem mentions_token {before after : List Char} (hbefore : Apart before) (t : DateToken)
    (hafter : endsDigits after.head? = true) :
    mentions explicitDate (before ++ (t.text ++ after)) =
      mentions explicitDate before ++ ⟨t.found, t.digits⟩ ::
        mentions explicitDate (t.trail ++ after) := by
  have htoken : mentions explicitDate (t.text ++ after) =
      ⟨t.found, t.digits⟩ :: mentions explicitDate (t.trail ++ after) := by
    rw [mentions, pieces_token t none hafter, List.filterMap_append, filterMap_mention?_map_char]
    rfl
  rcases List.eq_nil_or_concat' before with rfl | ⟨rest, c, rfl⟩
  · rw [List.nil_append, htoken]
    simp [mentions, pieces]
  · obtain ⟨hdecimal, hmark⟩ := hbefore c List.getLast?_concat
    have hstops := stops_explicitDate hdecimal hmark
    rw [List.append_assoc, List.singleton_append, hstops.mentions_append, hstops.mentions_append,
      htoken]
    simp [mentions, pieces]

/-! ### The answer -/

theorem mentionedDate_eq_ok {m : Mention DateDigits} {d : Date} :
    mentionedDate m = .ok d ↔ m.said.date? = some d := by
  unfold mentionedDate
  split <;> rename_i h <;> simp [h, ambiguous]

/-- **The ends of a range are dates of the text,** if it has any. -/
theorem exists_mentions_of_resolve {text : String} {today start stop : Date}
    (h : resolve text today = .ok (some (start, stop)))
    (hdates : mentions explicitDate text.toList ≠ []) :
    (∃ m ∈ mentions explicitDate text.toList, m.said.date? = some start) ∧
      ∃ m ∈ mentions explicitDate text.toList, m.said.date? = some stop := by
  obtain ⟨s, hreads, hcommon⟩ := resolve_eq_ok.1 h
  obtain ⟨-, hall⟩ := common_eq_some.1 hcommon
  have hmention : ∀ d ∈ s.dates, ∃ m ∈ mentions explicitDate text.toList,
      m.said.date? = some d := by
    intro d hd
    obtain ⟨m, hm, heq⟩ := (mem_of_map_eq_ok hreads.dates).1 hd
    exact ⟨m, hm, mentionedDate_eq_ok.1 heq⟩
  have hdated := hreads.dated
  have hrange : ∀ r, s.dated = [r] → r = (start, stop) := fun r hr =>
    hall r (by simp [Said.ranges, hr])
  unfold ofDates at hdated
  split at hdated
  · rename_i hnil
    have hsame := hreads.dates
    rw [hnil, List.map_nil, List.map_eq_nil_iff] at hsame
    exact absurd hsame hdates
  · rename_i d hone
    rw [hone] at hmention
    obtain ⟨rfl, rfl⟩ := Prod.mk.inj (hrange _ (Except.ok.inj hdated).symm)
    exact ⟨hmention _ (by simp), hmention _ (by simp)⟩
  · rename_i first last htwo
    rw [htwo] at hmention
    obtain ⟨rfl, rfl⟩ := Prod.mk.inj (hrange _ (Except.ok.inj hdated).symm)
    exact ⟨hmention _ (by simp), hmention _ (by simp)⟩
  · cases hdated

/-- **A date that no calendar has is never passed over.** -/
theorem resolve_ne_ok {text : String} {today : Date} {m : Mention DateDigits}
    (hm : m ∈ mentions explicitDate text.toList) (hdate : m.said.date? = none)
    (range : Option (Date × Date)) : resolve text today ≠ .ok range := by
  intro h
  obtain ⟨s, hreads, -⟩ := resolve_eq_ok.1 h
  have hmem : mentionedDate m ∈ s.dates.map .ok := by
    rw [← hreads.dates]
    exact List.mem_map_of_mem hm
  obtain ⟨d, -, hd⟩ := List.mem_map.1 hmem
  rw [mentionedDate_eq_ok.1 hd.symm] at hdate
  cases hdate

/-! ### Digits and blanks -/

/-- Whether a character is a digit or a blank. -/
def isPlain (c : Char) : Bool := isDecimal c || c == ' '

/-- The letters that phrases look for, besides those of the names of periods. -/
def phraseLetters : List Char := ['İ', 'Σ', 'ſ', '\u212a', '最', '近', '过', 'l', 'p', 'r']

/-- No digit is one of them. -/
theorem ne_of_isPlain {c letter : Char} (h : isPlain c = true) (hletter : letter ∈ phraseLetters) :
    c ≠ letter := by
  -- the ranges are searched as lists, which are run through much faster
  have hletters : phraseLetters.all (!isPlain ·) = true := by
    simp only [isPlain, isDecimal, inRanges, ← Array.any_toList]
    decide
  rintro rfl
  simpa [h] using List.all_eq_true.1 hletters c hletter

/-- No digit is a capital letter of ASCII. -/
theorem toLower_of_isPlain {c : Char} (h : isPlain c = true) : c.toLower = c := by
  have hcode : c.toNat ≤ 57 ∨ 128 ≤ c.toNat := by
    simp only [isPlain, isDecimal, Bool.or_eq_true, beq_iff_eq] at h
    rcases h with h | rfl
    · split at h
      · simp only [Char.isDigit, Bool.and_eq_true, decide_eq_true_eq,
          UInt32.le_iff_toNat_le] at h
        exact .inl h.2
      · exact .inr (by omega)
    · exact .inl (by decide)
  have hupper : ¬ (c.val ≥ 'A'.val ∧ c.val ≤ 'Z'.val) := by
    simp only [ge_iff_le, UInt32.le_iff_toNat_le]
    change ¬ (65 ≤ c.toNat ∧ c.toNat ≤ 90)
    omega
  rw [Char.toLower, dif_neg hupper]

/-- No digit has a lower-case form of its own. -/
theorem lowerChar_of_isPlain {c : Char} (h : isPlain c = true) : lowerChar c = c := by
  unfold lowerChar
  split
  · exact toLower_of_isPlain h
  · rename_i hascii
    simp only [isPlain, isDecimal, if_neg hascii, Bool.or_eq_true, Bool.and_eq_true, beq_iff_eq,
      inRanges, Array.any_eq_true'] at h
    rcases h with ⟨⟨digits, hdigits, hin⟩, -⟩ | rfl
    · have hapart : (lowercaseRuns.toList.all fun run => !digitRanges.toList.any fun digits =>
          Nat.ble run.1 digits.2 && Nat.ble digits.1 run.2.1) = true := by decide +kernel
      split
      · rename_i hrun
        have hfound := Array.find?_some hrun
        have hmem := Array.mem_toList_iff.2 (Array.mem_of_find?_eq_some hrun)
        have houtside := List.all_eq_true.1 hapart _ hmem
        rw [Bool.not_eq_true', List.any_eq_false] at houtside
        have hmeets := houtside digits (Array.mem_toList_iff.2 hdigits)
        simp only [Bool.and_eq_true, decide_eq_true_eq, Nat.ble_eq] at hin hfound hmeets
        omega
      · rfl
    · exact absurd (by decide) hascii

theorem lowerFrom_of_isPlain (before : List Char) {cs : List Char}
    (hcs : ∀ c ∈ cs, isPlain c = true) : lowerFrom before cs = cs :=
  lowerFrom_eq_self before fun c hc =>
    ⟨ne_of_isPlain (hcs c hc) (by decide), ne_of_isPlain (hcs c hc) (by decide),
      lowerChar_of_isPlain (hcs c hc)⟩

/-- A digit or a blank folds to no letter. -/
theorem foldsTo_of_isPlain {letter c : Char} (hletter : letter ∈ phraseLetters)
    (hc : isPlain c = true) : foldsTo letter c = false := by
  have hne : c ≠ letter := ne_of_isPlain hc hletter
  have hlong : c ≠ 'ſ' := ne_of_isPlain hc (by decide)
  have hkelvin : c ≠ '\u212a' := ne_of_isPlain hc (by decide)
  simp [foldsTo, toLower_of_isPlain hc, hne, hlong, hkelvin]

theorem afterLetters_of_isPlain {letter c : Char} (letters cs : List Char)
    (hletter : letter ∈ phraseLetters) (hc : isPlain c = true) :
    afterLetters (letter :: letters) (c :: cs) = none := by
  rw [afterLetters, foldsTo_of_isPlain hletter hc, if_neg Bool.false_ne_true]

/-- Digits and blanks say no number of days. -/
theorem lastDays_of_isPlain (before : Option Char) (c : Char) (cs : List Char)
    (hcs : ∀ d ∈ c :: cs, isPlain d = true) : lastDays before (c :: cs) = none := by
  have hc := hcs c List.mem_cons_self
  have hletters : ∀ o ∈ daysOpenings, o.2.head?.any (phraseLetters.contains ·) = true := by decide
  unfold lastDays
  rw [List.findSome?_eq_none_iff]
  rintro ⟨startsWord, opening⟩ ho
  have hopening : afterLetters opening (c :: cs) = none := by
    have hletter := hletters _ ho
    cases opening with
    | nil => cases hletter
    | cons letter letters => exact afterLetters_of_isPlain letters cs (by simpa using hletter) hc
  dsimp only
  rw [hopening]
  split <;> rfl

/-- Letters of which one is nowhere in a text do not stand there. -/
theorem afterLetters_eq_none {letter : Char} {letters cs : List Char} (hletter : letter ∈ letters)
    (hcs : ∀ c ∈ cs, foldsTo letter c = false) : afterLetters letters cs = none := by
  fun_induction afterLetters letters cs with
  | case1 => cases hletter
  | case2 => rfl
  | case3 first letters c cs hfolds ih =>
    obtain ⟨hc, hrest⟩ := List.forall_mem_cons.1 hcs
    rcases List.mem_cons.1 hletter with rfl | hletter
    · rw [hc] at hfolds
      cases hfolds
    · exact ih hletter hrest
  | case4 => rfl

/-- **Nothing is vague** in a text that lacks `近` and a letter of `recent`. -/
theorem vague_eq_none {letter : Char} (hletter : letter ∈ ['r', 'e', 'c', 'e', 'n', 't'])
    (before : Option Char) (c : Char) (cs : List Char)
    (hcs : ∀ d ∈ c :: cs, d ≠ '近' ∧ foldsTo letter d = false) : vague before (c :: cs) = none := by
  have hrecent := afterLetters_eq_none hletter fun d hd => (hcs d hd).2
  unfold vague
  split
  · exact absurd rfl (hcs '近' (by simp_all)).1
  · exact absurd rfl (hcs '近' (by simp_all)).1
  · rw [hrecent]
    split <;> rfl

theorem mentions_vague_eq_nil {letter : Char} (hletter : letter ∈ ['r', 'e', 'c', 'e', 'n', 't'])
    {cs : List Char} (hcs : cs.all (fun c => c != '近' && !foldsTo letter c) = true) :
    mentions vague cs = [] := by
  have hlacks : ∀ c ∈ cs, c ≠ '近' ∧ foldsTo letter c = false := by simpa using hcs
  rw [mentions, pieces_of_none (vague_eq_none hletter) none hlacks, filterMap_mention?_map_char]

/-- Nor anything vague. -/
theorem vague_of_isPlain (before : Option Char) (c : Char) (cs : List Char)
    (hcs : ∀ d ∈ c :: cs, isPlain d = true) : vague before (c :: cs) = none := by
  have hletter : 'r' ∈ ['r', 'e', 'c', 'e', 'n', 't'] := List.mem_cons_self
  exact vague_eq_none hletter before c cs fun d hd =>
    ⟨ne_of_isPlain (hcs d hd) (by decide), foldsTo_of_isPlain (by decide) (hcs d hd)⟩

/-- Nor a period. -/
theorem periodsOf_of_isPlain {cs : List Char} (hcs : ∀ c ∈ cs, isPlain c = true) :
    periodsOf cs = [] := by
  have hnames : ∀ p ∈ Period.names, ∀ name ∈ p.2, name.toList.any (!isPlain ·) = true := by
    simp only [isPlain, isDecimal, inRanges, ← Array.any_toList]
    decide
  have hnone : ∀ p ∈ Period.names, (p.2.any fun n => occursIn n.toList cs) = false := by
    intro p hp
    rw [List.any_eq_false]
    intro name hname
    obtain ⟨c, hc, hplain⟩ := List.any_eq_true.1 (hnames p hp name hname)
    rw [occursIn_eq_false hc fun hmem => by simp [hcs c hmem] at hplain]
    exact Bool.false_ne_true
  rw [periodsOf, List.map_eq_nil_iff, List.filter_eq_nil_iff]
  rintro ⟨p, names⟩ hp
  exact Bool.eq_false_iff.1 (hnone _ hp)

section

variable (t : DateToken)

/-- A text that is a token is the date and the digits beside it. -/
theorem pieces_text : pieces explicitDate none t.text =
    t.lead.map Piece.char ++ .mention ⟨t.found, t.digits⟩ :: t.trail.map Piece.char := by
  have hend : endsDigits ([] : List Char).head? = true := rfl
  have htoken := pieces_token t none hend
  rwa [List.append_nil, List.append_nil,
    pieces_of_none explicitDate_of_decimal none t.trail_decimal] at htoken

theorem mentions_text : mentions explicitDate t.text = [⟨t.found, t.digits⟩] := by
  rw [mentions, pieces_text, List.filterMap_append, filterMap_mention?_map_char, List.nil_append]
  exact congrArg _ (filterMap_mention?_map_char t.trail)

/-- What is left of it are digits. -/
theorem isPlain_of_mem_undated : ∀ c ∈ undated t.text, isPlain c = true := by
  have hundated : undated t.text = t.lead ++ ' ' :: t.trail := by
    rw [undated, withoutMentions, pieces_text, List.map_append, map_blanked_map_char]
    exact congrArg (t.lead ++ ' ' :: ·) (map_blanked_map_char t.trail)
  have hdigit : ∀ ds : List Char, (∀ c ∈ ds, isDecimal c = true) → ∀ c ∈ ds, isPlain c = true :=
    fun ds hds c hc => by rw [isPlain, hds c hc, Bool.true_or]
  rw [hundated]
  exact List.forall_mem_append.2 ⟨hdigit _ t.lead_decimal,
    List.forall_mem_cons.2 ⟨rfl, hdigit _ t.trail_decimal⟩⟩

/-- So it says its date and nothing else. -/
theorem reads_token {d : Date} (hdate : t.digits.date? = some d) (today : Date) :
    Reads t.text today ⟨[d], [(d, d)], [], []⟩ := by
  have hplain := isPlain_of_mem_undated t
  have hdays := pieces_of_none lastDays_of_isPlain none hplain
  have hunnumbered : unnumbered t.text = undated t.text := by
    rw [unnumbered, withoutMentions, hdays, map_blanked_map_char]
  constructor
  · rw [mentions_text, List.map_singleton, mentionedDate, hdate]
    rfl
  · rfl
  · rw [mentions, hdays, filterMap_mention?_map_char]
    rfl
  · rw [hunnumbered, mentions, pieces_of_none vague_of_isPlain none hplain,
      filterMap_mention?_map_char]
  · rw [hunnumbered, lowerFrom_of_isPlain [] hplain, periodsOf_of_isPlain hplain]
    rfl

end

/-- **A text that is a token** has no other phrase, and what is left of it are digits. -/
theorem resolve_token (t : DateToken) (today : Date) :
    resolve (String.ofList t.text) today =
      match t.digits.date? with
      | some d => .ok (some (d, d))
      | none => ambiguous t.found := by
  cases hdate : t.digits.date? with
  | none =>
    unfold resolve
    rw [String.toList_ofList]
    dsimp only
    rw [mentions_text, List.mapM_cons, mentionedDate, hdate]
    rfl
  | some d =>
    have hcommon : common t.text (Said.ranges ⟨[d], [(d, d)], [], []⟩) = .ok (some (d, d)) :=
      common_eq_some.2 (by simp [Said.ranges])
    rw [resolve_eq_ok, String.toList_ofList]
    exact ⟨_, reads_token t hdate today, hcommon⟩

/-- **Explicit dates are cut out of the digits they stand in.**  The ends of a range that stems from
dates of the text are written there, each in a token of three runs of digits: the month is a whole
run, but the year is the last four digits of its run and the day the first one or two.  A token that
stands apart is read in this way whatever further digits it has, so it is ambiguous only if what is
cut out is a date that no calendar has; and a text that is a token has the day that is cut out. -/
theorem explicit_dates_cut (today : Date) :
    (∀ text start stop, resolve text today = .ok (some (start, stop)) →
      mentions explicitDate text.toList ≠ [] →
      (∃ t : DateToken, t.StandsIn text.toList ∧ t.digits.date? = some start) ∧
        ∃ t : DateToken, t.StandsIn text.toList ∧ t.digits.date? = some stop) ∧
    (∀ (t : DateToken) text before after, text.toList = before ++ (t.text ++ after) →
      Apart before → endsDigits after.head? = true →
      ⟨t.found, t.digits⟩ ∈ mentions explicitDate text.toList ∧
        (t.digits.date? = none → ∀ range, resolve text today ≠ .ok range)) ∧
    ∀ t : DateToken, resolve (String.ofList t.text) today =
      match t.digits.date? with
      | some d => .ok (some (d, d))
      | none => ambiguous t.found := by
  refine ⟨fun text start stop h hdates => ?_, fun t text before after htext hbefore hafter => ?_,
    fun t => resolve_token t today⟩
  · obtain ⟨⟨m, hm, hstart⟩, n, hn, hstop⟩ := exists_mentions_of_resolve h hdates
    obtain ⟨first, hfirst, hdigits, -⟩ := exists_token_of_mem hm
    obtain ⟨last, hlast, hdigits', -⟩ := exists_token_of_mem hn
    exact ⟨⟨first, hfirst, hdigits ▸ hstart⟩, last, hlast, hdigits' ▸ hstop⟩
  · have hmem : ⟨t.found, t.digits⟩ ∈ mentions explicitDate text.toList := by
      rw [htext, mentions_token hbefore t hafter]
      exact List.mem_append_right _ List.mem_cons_self
    exact ⟨hmem, fun hdate => resolve_ne_ok hmem hdate⟩

/-! ### A day of three digits -/

/-- The token `2026-01-010`. -/
def longDay : DateToken where
  lead := []
  digits := ⟨['2', '0', '2', '6'], ['0', '1'], ['0', '1']⟩
  monthMark := '-'
  dayMark := '-'
  trail := ['0']
  written :=
    ⟨rfl, List.all_eq_true.1 (by decide), ⟨by decide, by decide, List.all_eq_true.1 (by decide)⟩,
      by decide, by decide, List.all_eq_true.1 (by decide)⟩
  monthMark_mark := by decide
  dayMark_mark := by decide
  lead_decimal := List.all_eq_true.1 (by decide)
  trail_decimal := List.all_eq_true.1 (by decide)
  full := .inl rfl

/-- Its day is cut off behind the second digit, and the first of January is the answer. -/
theorem explicit_dates_cut_longDay :
    ¬ longDay.Complete ∧
      resolve "2026-01-010" Visits.newYear = .ok (some (Visits.newYear, Visits.newYear)) := by
  have hdate : longDay.digits.date? = some Visits.newYear := by cbv
  obtain ⟨-, -, htoken⟩ := explicit_dates_cut Visits.newYear
  have hday := htoken longDay
  rw [hdate] at hday
  exact ⟨fun hcomplete => List.cons_ne_nil _ _ hcomplete.2, hday⟩

end SemanticLayer.DatePhrase
