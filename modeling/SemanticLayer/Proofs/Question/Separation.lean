import SemanticLayer.Proofs.Question.ExplicitDates

/-
# Two texts with a semicolon between them

No phrase reaches over a semicolon or sees what is beyond it, so the phrases of
two texts joined by one are those of the first and those of the second
(`Reads.append`, `Reads.parts`).  Only dates look at each other: two of them
make one range, wherever they stand.  If at most one of the texts has dates, the
answer to both follows from the answers to each (`resolve_semicolon`):

| | none | one range `r'` | ambiguous |
| --- | --- | --- | --- |
| **none** | none | `r'` | ambiguous |
| **one range `r`** | `r` | `r` if `r = r'`, else ambiguous | ambiguous |
| **ambiguous** | ambiguous | ambiguous | ambiguous |
-/

namespace SemanticLayer.DatePhrase

open Text

/-! ### What is read up to a semicolon -/

section Semicolon

variable (cs rest : List Char)

/-- The text behind a semicolon is left as it is. -/
theorem afterLetters_semicolon {letters : List Char}
    (hletters : letters.any (foldsTo · ';') = false) :
    afterLetters letters (cs ++ ';' :: rest) =
      (afterLetters letters cs).map (· ++ ';' :: rest) := by
  induction letters generalizing cs with
  | nil => rfl
  | cons letter letters ih =>
    rw [List.any_cons, Bool.or_eq_false_iff] at hletters
    obtain ⟨hletter, hmore⟩ := hletters
    cases cs with
    | nil =>
      rw [List.nil_append, afterLetters, afterLetters, hletter, if_neg Bool.false_ne_true]
      rfl
    | cons c cs =>
      rw [List.cons_append, afterLetters, afterLetters]
      split
      · exact ih cs hmore
      · rfl

theorem skipBlank_semicolon : skipBlank (cs ++ ';' :: rest) = skipBlank cs ++ ';' :: rest := by
  unfold skipBlank
  rw [List.dropWhile_append]
  split
  · rename_i hnone
    rw [List.isEmpty_iff] at hnone
    rw [hnone]
    exact List.dropWhile_cons_of_neg (by decide)
  · rfl

theorem takeWhile_isDecimal_semicolon :
    (cs ++ ';' :: rest).takeWhile isDecimal = cs.takeWhile isDecimal := by
  rw [List.takeWhile_append]
  split
  · rename_i hall
    have hhere : (';' :: rest).takeWhile isDecimal = [] :=
      List.takeWhile_cons_of_neg (by decide)
    rw [hhere, List.append_nil]
    exact ((List.takeWhile_prefix isDecimal).eq_of_length hall).symm
  · rfl

/-- A word ends at a semicolon as at the end of a text. -/
theorem endsWord_head?_semicolon :
    endsWord (cs ++ ';' :: rest).head? = endsWord cs.head? := by
  cases cs with
  | nil => rfl
  | cons c cs => rfl

end Semicolon

/-! ### Numbers of days -/

/-- What follows the unit `day` or `days`. -/
def afterDayWord (cs : List Char) : Option (List Char) := do
  let rest ← afterLetters ['d', 'a', 'y'] cs
  match afterLetters ['s'] rest with
  | some more => if endsWord more.head? then some more else none
  | none => if endsWord rest.head? then some rest else none

theorem afterDayUnit_cons (c : Char) (cs : List Char) :
    afterDayUnit (c :: cs) =
      if c = '天' ∨ c = '日' then some cs else afterDayWord (c :: cs) := by
  by_cases hday : c = '天'
  · rw [if_pos (.inl hday), hday]
    rfl
  · by_cases hsun : c = '日'
    · rw [if_pos (.inr hsun), hsun]
      rfl
    · rw [if_neg (not_or.2 ⟨hday, hsun⟩)]
      unfold afterDayUnit
      split
      · rename_i heq
        exact absurd (List.cons.inj heq).1 hday
      · rename_i heq
        exact absurd (List.cons.inj heq).1 hsun
      · rfl

theorem afterDayWord_semicolon (cs rest : List Char) :
    afterDayWord (cs ++ ';' :: rest) = (afterDayWord cs).map (· ++ ';' :: rest) := by
  unfold afterDayWord
  rw [afterLetters_semicolon cs rest (by decide)]
  cases afterLetters ['d', 'a', 'y'] cs with
  | none => rfl
  | some left =>
    simp only [Option.map_some, Option.bind_eq_bind, Option.bind_some]
    rw [afterLetters_semicolon left rest (by decide)]
    cases afterLetters ['s'] left with
    | none =>
      simp only [Option.map_none, endsWord_head?_semicolon]
      split <;> rfl
    | some more =>
      simp only [Option.map_some, endsWord_head?_semicolon]
      split <;> rfl

theorem afterDayUnit_semicolon (cs rest : List Char) :
    afterDayUnit (cs ++ ';' :: rest) = (afterDayUnit cs).map (· ++ ';' :: rest) := by
  cases cs with
  | nil =>
    rw [List.nil_append, afterDayUnit_cons, if_neg (by decide)]
    exact afterDayWord_semicolon [] rest
  | cons c cs =>
    rw [List.cons_append, afterDayUnit_cons, afterDayUnit_cons]
    split
    · rfl
    · exact afterDayWord_semicolon (c :: cs) rest

/-- The number of days behind an opening, with what follows it. -/
def daysAfter (opening cs : List Char) : Option (Option Nat × List Char) := do
  let rest := skipBlank (← afterLetters opening cs)
  let digits := rest.takeWhile isDecimal
  if digits.isEmpty then none
  let rest ← afterDayUnit (skipBlank (rest.drop digits.length))
  return (asciiNumber? digits, rest)

/-- What is found behind an opening, if that may start here. -/
def daysAt (before : Option Char) (cs : List Char) (o : Bool × List Char) :
    Option (Option Nat × Nat) :=
  if o.1 ∧ !endsWord before then none
  else (daysAfter o.2 cs).map fun (n, rest) => (n, cs.length - rest.length - 1)

theorem lastDays_eq (before : Option Char) (cs : List Char) :
    lastDays before cs = daysOpenings.findSome? (daysAt before cs) := by
  unfold lastDays
  congr 1
  funext ⟨startsWord, opening⟩
  unfold daysAt daysAfter
  dsimp only
  split
  · rfl
  · cases afterLetters opening cs with
    | none => rfl
    | some rest =>
      simp only [Option.bind_eq_bind, Option.bind_some]
      split
      · rfl
      · cases afterDayUnit (skipBlank ((skipBlank rest).drop
          ((skipBlank rest).takeWhile isDecimal).length)) <;> rfl

theorem daysAfter_semicolon {opening : List Char}
    (hopening : opening.any (foldsTo · ';') = false) (cs rest : List Char) :
    daysAfter opening (cs ++ ';' :: rest) =
      (daysAfter opening cs).map fun (n, left) => (n, left ++ ';' :: rest) := by
  unfold daysAfter
  rw [afterLetters_semicolon cs rest hopening]
  cases afterLetters opening cs with
  | none => rfl
  | some left =>
    have hle : ((skipBlank left).takeWhile isDecimal).length ≤ (skipBlank left).length :=
      (List.takeWhile_prefix isDecimal).length_le
    simp only [Option.map_some, Option.bind_eq_bind, Option.bind_some, skipBlank_semicolon,
      takeWhile_isDecimal_semicolon, List.drop_append_of_le_length hle, afterDayUnit_semicolon]
    split
    · rfl
    · cases afterDayUnit (skipBlank ((skipBlank left).drop
        ((skipBlank left).takeWhile isDecimal).length)) <;> rfl

theorem daysAt_semicolon {o : Bool × List Char} (ho : o ∈ daysOpenings) (before : Option Char)
    (cs rest : List Char) : daysAt before (cs ++ ';' :: rest) o = daysAt before cs o := by
  have hletters : ∀ o ∈ daysOpenings, o.2.any (foldsTo · ';') = false := by decide
  unfold daysAt
  split
  · rfl
  · rw [daysAfter_semicolon (hletters o ho), Option.map_map]
    congr 1
    funext ⟨n, left⟩
    simp only [Function.comp_apply, List.length_append, Nat.add_sub_add_right]

/-- **A number of days does not reach over a semicolon.** -/
theorem stops_lastDays : Stops lastDays ';' where
  here before rest := by
    rw [lastDays_eq, List.findSome?_eq_none_iff]
    intro o ho
    have hletters : ∀ o ∈ daysOpenings, afterLetters o.2 [] = none := by decide
    have hnone : daysAfter o.2 [] = none := by
      rw [daysAfter, hletters o ho]
      rfl
    have hnil := daysAt_semicolon ho before [] rest
    rw [List.nil_append] at hnil
    rw [hnil, daysAt, hnone]
    split <;> rfl
  within before d cs rest := by
    rw [lastDays_eq, lastDays_eq, ← List.head?_filterMap, ← List.head?_filterMap]
    exact congrArg List.head?
      (List.filterMap_congr fun o ho => daysAt_semicolon ho before (d :: cs) rest)
  short before d cs n more h := by
    rw [lastDays_eq] at h
    obtain ⟨o, -, ho⟩ := List.exists_of_findSome?_eq_some h
    unfold daysAt at ho
    split at ho
    · cases ho
    · obtain ⟨⟨m, rest⟩, -, heq⟩ := Option.map_eq_some_iff.1 ho
      cases heq
      rw [List.length_cons]
      omega
  behind rest := by
    rw [lastDays_eq, lastDays_eq]
    rfl

/-- Letters that are read are part of the text. -/
theorem exists_of_afterLetters {letters cs rest : List Char}
    (h : afterLetters letters cs = some rest) :
    ∃ read, read.length = letters.length ∧ cs = read ++ rest := by
  induction letters generalizing cs with
  | nil =>
    cases h
    exact ⟨[], rfl, rfl⟩
  | cons letter letters ih =>
    cases cs with
    | nil => cases h
    | cons c cs =>
      rw [afterLetters] at h
      split at h
      · obtain ⟨read, hlength, rfl⟩ := ih h
        exact ⟨c :: read, by rw [List.length_cons, hlength, List.length_cons], rfl⟩
      · cases h

theorem suffix_of_afterLetters {letters cs rest : List Char}
    (h : afterLetters letters cs = some rest) : rest <:+ cs := by
  obtain ⟨read, -, rfl⟩ := exists_of_afterLetters h
  exact List.suffix_append read rest

theorem length_of_afterLetters {letters cs rest : List Char}
    (h : afterLetters letters cs = some rest) : cs.length = letters.length + rest.length := by
  obtain ⟨read, hlength, rfl⟩ := exists_of_afterLetters h
  rw [List.length_append, hlength]

/-- Without digits there is no number of days. -/
theorem daysAfter_of_not_decimal {cs : List Char} (hcs : ∀ c ∈ cs, isDecimal c = false)
    (opening : List Char) : daysAfter opening cs = none := by
  unfold daysAfter
  cases hrest : afterLetters opening cs with
  | none => rfl
  | some rest =>
    have hdigits : (skipBlank rest).takeWhile isDecimal = [] := by
      have hsuffix : skipBlank rest <:+ cs :=
        (List.dropWhile_suffix _).trans (suffix_of_afterLetters hrest)
      cases hskip : skipBlank rest with
      | nil => rfl
      | cons c more =>
        rw [hskip] at hsuffix
        exact List.takeWhile_cons_of_neg (by simp [hcs c (hsuffix.subset List.mem_cons_self)])
    simp only [Option.bind_eq_bind, Option.bind_some]
    rw [hdigits]
    rfl

theorem lastDays_of_not_decimal (before : Option Char) (c : Char) (cs : List Char)
    (hcs : ∀ d ∈ c :: cs, isDecimal d = false) : lastDays before (c :: cs) = none := by
  rw [lastDays_eq, List.findSome?_eq_none_iff]
  intro o _
  rw [daysAt, daysAfter_of_not_decimal hcs]
  split <;> rfl

theorem mentions_lastDays_of_not_decimal {cs : List Char} (hcs : ∀ c ∈ cs, isDecimal c = false) :
    mentions lastDays cs = [] := by
  rw [mentions, pieces_of_none lastDays_of_not_decimal none hcs, filterMap_mention?_map_char]

/-! ### Vague phrases -/

/-- The phrases `recent` and `recently`, where a word may start. -/
def recently (before : Option Char) (cs : List Char) : Option (Unit × Nat) := do
  if !endsWord before then none
  let rest ← afterLetters ['r', 'e', 'c', 'e', 'n', 't'] cs
  match afterLetters ['l', 'y'] rest with
  | some more => if endsWord more.head? then some ((), 7) else vague.short rest
  | none => vague.short rest

/-- The vague phrases of two characters. -/
def isVague (c d : Char) : Bool := (c == '最' && d == '近') || (c == '近' && d == '期')

theorem vague_cons_cons (before : Option Char) (c d : Char) (cs : List Char) :
    vague before (c :: d :: cs) =
      if isVague c d then some ((), 1) else recently before (c :: d :: cs) := by
  unfold vague
  split
  · rename_i heq
    cases heq
    rfl
  · rename_i heq
    cases heq
    rfl
  · rename_i hmost hnear
    have hnot : isVague c d = false := by
      by_contra hvague
      simp only [isVague, Bool.not_eq_false, Bool.or_eq_true, Bool.and_eq_true, beq_iff_eq]
        at hvague
      rcases hvague with ⟨rfl, rfl⟩ | ⟨rfl, rfl⟩
      · exact hmost cs rfl
      · exact hnear cs rfl
    rw [hnot, if_neg Bool.false_ne_true]
    rfl

theorem vague_singleton (before : Option Char) (c : Char) :
    vague before [c] = recently before [c] := by
  unfold vague
  split
  · rename_i heq
    cases heq
  · rename_i heq
    cases heq
  · rfl

theorem recently_semicolon (before : Option Char) (cs rest : List Char) :
    recently before (cs ++ ';' :: rest) = recently before cs := by
  unfold recently vague.short
  rw [afterLetters_semicolon cs rest (by decide)]
  split
  · rfl
  · cases afterLetters ['r', 'e', 'c', 'e', 'n', 't'] cs with
    | none => rfl
    | some left =>
      simp only [Option.map_some, Option.bind_eq_bind, Option.bind_some, endsWord_head?_semicolon]
      rw [afterLetters_semicolon left rest (by decide)]
      cases afterLetters ['l', 'y'] left with
      | none => rfl
      | some more => simp only [Option.map_some, endsWord_head?_semicolon]

theorem eq_five_of_short {rest : List Char} {more : Nat}
    (h : vague.short rest = some ((), more)) : more = 5 := by
  unfold vague.short at h
  split at h <;> cases h
  rfl

theorem length_of_recently {before : Option Char} {cs : List Char} {more : Nat}
    (h : recently before cs = some ((), more)) : more < cs.length := by
  unfold recently at h
  split at h
  · cases h
  · obtain ⟨rest, hrest, h⟩ := Option.bind_eq_some_iff.1 h
    have hlength := length_of_afterLetters hrest
    simp only [List.length_cons, List.length_nil] at hlength
    split at h
    · rename_i left hleft
      have hmore := length_of_afterLetters hleft
      simp only [List.length_cons, List.length_nil] at hmore
      split at h
      · cases h
        omega
      · have := eq_five_of_short h
        omega
    · have := eq_five_of_short h
      omega

/-- **Nor does a vague phrase.** -/
theorem stops_vague : Stops vague ';' where
  here before rest := by
    have hhere : recently before (';' :: rest) = none := by
      have hnil := recently_semicolon before [] rest
      rw [List.nil_append] at hnil
      rw [hnil, recently]
      split <;> rfl
    cases rest with
    | nil => rw [vague_singleton, hhere]
    | cons d rest =>
      rw [vague_cons_cons, hhere]
      rfl
  within before d cs rest := by
    cases cs with
    | nil =>
      have hsemicolon : isVague d ';' = false := by simp [isVague]
      rw [List.cons_append, List.nil_append, vague_cons_cons, hsemicolon,
        if_neg Bool.false_ne_true, vague_singleton]
      exact recently_semicolon before [d] rest
    | cons e cs =>
      rw [List.cons_append, List.cons_append, vague_cons_cons, vague_cons_cons]
      split
      · rfl
      · exact recently_semicolon before (d :: e :: cs) rest
  short before d cs u more h := by
    cases cs with
    | nil =>
      rw [vague_singleton] at h
      exact Nat.le_of_lt_succ (length_of_recently h)
    | cons e cs =>
      rw [vague_cons_cons] at h
      split at h
      · cases h
        simp
      · exact Nat.le_of_lt_succ (length_of_recently h)
  behind rest := by
    cases rest with
    | nil => rfl
    | cons c rest =>
      cases rest with
      | nil => rw [vague_singleton, vague_singleton]; rfl
      | cons d rest => rw [vague_cons_cons, vague_cons_cons]; rfl

/-! ### Periods -/

/-- **A period is named on one side of a semicolon.** -/
theorem mem_periodsOf_semicolon {p : Period} {left right : List Char} :
    p ∈ periodsOf (left ++ ';' :: right) ↔ p ∈ periodsOf left ∨ p ∈ periodsOf right := by
  have hnames : ∀ e ∈ Period.names, ∀ name ∈ e.2, ';' ∉ name.toList ∧ name.toList ≠ [] := by
    decide
  have hnamed : ∀ e ∈ Period.names,
      ((e.2.any fun n => occursIn n.toList (left ++ ';' :: right)) = true ↔
        (e.2.any fun n => occursIn n.toList left) = true ∨
          (e.2.any fun n => occursIn n.toList right) = true) := by
    intro e he
    simp only [List.any_eq_true, ← exists_or, ← and_or_left]
    refine exists_congr fun name => and_congr_right fun hname => ?_
    obtain ⟨hsemicolon, hne⟩ := hnames e he name hname
    rw [occursIn_append hsemicolon hne, Bool.or_eq_true]
  simp only [periodsOf, List.mem_map, List.mem_filter]
  constructor
  · rintro ⟨e, ⟨he, hany⟩, rfl⟩
    exact ((hnamed e he).1 hany).imp (fun h => ⟨e, ⟨he, h⟩, rfl⟩) fun h => ⟨e, ⟨he, h⟩, rfl⟩
  · rintro (⟨e, ⟨he, hany⟩, rfl⟩ | ⟨e, ⟨he, hany⟩, rfl⟩)
    · exact ⟨e, ⟨he, (hnamed e he).2 (.inl hany)⟩, rfl⟩
    · exact ⟨e, ⟨he, (hnamed e he).2 (.inr hany)⟩, rfl⟩

/-! ### The phrases of both texts -/

theorem stops_explicitDate_semicolon : Stops explicitDate ';' :=
  stops_explicitDate (by decide) (by decide)

section Phrases

variable (a b : List Char)

theorem mentions_explicitDate_semicolon :
    mentions explicitDate (a ++ ';' :: b) = mentions explicitDate a ++ mentions explicitDate b :=
  Stops.mentions_append stops_explicitDate_semicolon a b

theorem undated_semicolon : undated (a ++ ';' :: b) = undated a ++ ';' :: undated b :=
  Stops.withoutMentions_append stops_explicitDate_semicolon a b

theorem mentions_lastDays_semicolon :
    mentions lastDays (undated (a ++ ';' :: b)) =
      mentions lastDays (undated a) ++ mentions lastDays (undated b) := by
  rw [undated_semicolon, Stops.mentions_append stops_lastDays]

theorem unnumbered_semicolon :
    unnumbered (a ++ ';' :: b) = unnumbered a ++ ';' :: unnumbered b := by
  rw [unnumbered, undated_semicolon, Stops.withoutMentions_append stops_lastDays, unnumbered,
    unnumbered]

theorem mentions_vague_semicolon :
    mentions vague (unnumbered (a ++ ';' :: b)) =
      mentions vague (unnumbered a) ++ mentions vague (unnumbered b) := by
  rw [unnumbered_semicolon, Stops.mentions_append stops_vague]

theorem lowerFrom_unnumbered_semicolon :
    lowerFrom [] (unnumbered (a ++ ';' :: b)) =
      lowerFrom [] (unnumbered a) ++ ';' :: lowerFrom [] (unnumbered b) := by
  -- the ranges are searched as lists, which the kernel runs through much faster
  have hignored : isCaseIgnorable ';' = false := by
    rw [isCaseIgnorable, inRanges, ← Array.any_toList]
    decide +kernel
  have hcased : isCased ';' = false := by
    rw [isCased, inRanges, ← Array.any_toList]
    decide
  rw [unnumbered_semicolon, lowerFrom_append hignored hcased (by decide)]
  rfl

end Phrases

/-- The range of some dates is that of the dates alone. -/
theorem ofDates_congr {text : List Char} {dates : List Date} {dated : List (Date × Date)}
    (h : ofDates text dates = .ok dated) (text' : List Char) : ofDates text' dates = .ok dated := by
  unfold ofDates at h ⊢
  split at h
  · exact h
  · exact h
  · exact h
  · cases h

theorem Reads.eq_nil_of_no_dates {a : List Char} {today : Date} {s : Said} (h : Reads a today s)
    (hnone : mentions explicitDate a = []) : s.dates = [] ∧ s.dated = [] := by
  have hdates := h.dates
  rw [hnone, List.map_nil, List.nil_eq, List.map_eq_nil_iff] at hdates
  have hdated := h.dated
  rw [hdates] at hdated
  exact ⟨hdates, (Except.ok.inj hdated).symm⟩

section Reads

variable {a b : List Char} {today : Date}
  (hperiods : ∀ p : Period, p.range? today ≠ none)
include hperiods

/-- The periods that are named have days, those of the calendar. -/
theorem exists_named (periods : List Period) :
    ∃ named : List (Date × Date), periods.map (namedPeriod today) = named.map .ok := by
  refine exists_map_eq_ok fun p _ => ?_
  obtain ⟨range, hrange⟩ := Option.ne_none_iff_exists'.1 (hperiods p)
  exact ⟨range, by rw [namedPeriod, hrange]⟩

variable (hdates : mentions explicitDate a = [] ∨ mentions explicitDate b = [])
include hdates

/-- **What two texts say is said by both together.** -/
theorem Reads.append {s t : Said} (ha : Reads a today s) (hb : Reads b today t) :
    ∃ u, Reads (a ++ ';' :: b) today u ∧ ∀ r, r ∈ u.ranges ↔ r ∈ s.ranges ∨ r ∈ t.ranges := by
  obtain ⟨named, hnamed⟩ :=
    exists_named hperiods (periodsOf (lowerFrom [] (unnumbered (a ++ ';' :: b))))
  refine ⟨⟨s.dates ++ t.dates, s.dated ++ t.dated, s.numbered ++ t.numbered, named⟩,
    ⟨?_, ?_, ?_, ?_, hnamed⟩, fun r => ?_⟩
  · rw [mentions_explicitDate_semicolon, List.map_append, ha.dates, hb.dates, List.map_append]
  · rcases hdates with hnone | hnone
    · obtain ⟨hdates, hdated⟩ := ha.eq_nil_of_no_dates hnone
      rw [hdates, hdated]
      exact ofDates_congr hb.dated _
    · obtain ⟨hdates, hdated⟩ := hb.eq_nil_of_no_dates hnone
      rw [hdates, hdated, List.append_nil, List.append_nil]
      exact ofDates_congr ha.dated _
  · rw [mentions_lastDays_semicolon, List.map_append, ha.numbered, hb.numbered, List.map_append]
  · rw [mentions_vague_semicolon, ha.no_vague, hb.no_vague, List.append_nil]
  · have hsaid : r ∈ named ↔ r ∈ s.named ∨ r ∈ t.named := by
      rw [mem_of_map_eq_ok hnamed, mem_of_map_eq_ok ha.named, mem_of_map_eq_ok hb.named,
        lowerFrom_unnumbered_semicolon]
      simp only [mem_periodsOf_semicolon, or_and_right, exists_or]
    simp only [Said.ranges, List.mem_append, hsaid]
    tauto

/-- If the phrases of both together say ranges, so do those of each. -/
theorem Reads.exists_parts {u : Said} (h : Reads (a ++ ';' :: b) today u) :
    (∃ s, Reads a today s) ∧ ∃ t, Reads b today t := by
  have hfound := h.dates
  have hnumbered := h.numbered
  have hvague := h.no_vague
  rw [mentions_explicitDate_semicolon, List.map_append, List.append_eq_map_iff] at hfound
  rw [mentions_lastDays_semicolon, List.map_append, List.append_eq_map_iff] at hnumbered
  rw [mentions_vague_semicolon, List.append_eq_nil_iff] at hvague
  obtain ⟨before, behind, hsplit, hbefore, hbehind⟩ := hfound
  obtain ⟨first, last, -, hfirst, hlast⟩ := hnumbered
  obtain ⟨named, hnamed⟩ := exists_named hperiods (periodsOf (lowerFrom [] (unnumbered a)))
  obtain ⟨named', hnamed'⟩ := exists_named hperiods (periodsOf (lowerFrom [] (unnumbered b)))
  have hdated := h.dated
  rw [hsplit] at hdated
  have hranges : (∃ dated, ofDates a before = .ok dated) ∧ ∃ dated, ofDates b behind = .ok dated := by
    rcases hdates with hnone | hnone
    · rw [hnone, List.map_nil, List.map_eq_nil_iff] at hbefore
      subst hbefore
      exact ⟨⟨[], rfl⟩, _, ofDates_congr hdated b⟩
    · rw [hnone, List.map_nil, List.map_eq_nil_iff] at hbehind
      subst hbehind
      rw [List.append_nil] at hdated
      exact ⟨⟨_, ofDates_congr hdated a⟩, [], rfl⟩
  obtain ⟨⟨dated, hdated⟩, dated', hdated'⟩ := hranges
  exact ⟨⟨⟨before, dated, first, named⟩, hbefore.symm, hdated, hfirst.symm, hvague.1, hnamed⟩,
    ⟨behind, dated', last, named'⟩, hbehind.symm, hdated', hlast.symm, hvague.2, hnamed'⟩

/-- **What both together say is said by one or the other.** -/
theorem Reads.parts {u : Said} (h : Reads (a ++ ';' :: b) today u) :
    ∃ s t, Reads a today s ∧ Reads b today t ∧
      ∀ r, r ∈ u.ranges ↔ r ∈ s.ranges ∨ r ∈ t.ranges := by
  obtain ⟨⟨s, ha⟩, t, hb⟩ := h.exists_parts hperiods hdates
  obtain ⟨v, hv, hranges⟩ := ha.append hperiods hdates hb
  cases h.unique hv
  exact ⟨s, t, ha, hb, hranges⟩

end Reads

/-! ### The answer to both texts -/

/-- A question has a range, none, or what it says is ambiguous. -/
theorem resolve_or_ambiguous {today : Date} (hperiods : ∀ p : Period, p.range? today ≠ none)
    (text : String) :
    (∃ range, resolve text today = .ok range) ∨ IsAmbiguous (resolve text today) := by
  cases h : resolve text today with
  | ok range => exact .inl ⟨range, rfl⟩
  | error e =>
    obtain ⟨phrase, rfl⟩ := reported_resolve hperiods text e h
    exact .inr ⟨phrase, rfl⟩

theorem not_isAmbiguous_of_eq_ok {α : Type} {x : Except (Fault AmbiguousRange) α} {a : α}
    (h : x = .ok a) : ¬ IsAmbiguous x := by
  rintro ⟨e, he⟩
  cases h.symm.trans he

/-- **Date phrases do not shadow each other.**  Two texts of which at most one has dates, with a
semicolon between them, have the range that the texts agree on: that of one of them if the other has
none, the common one if both have the same.  If they differ, or one is ambiguous, so are both
together. -/
theorem resolve_semicolon {today : Date} (hperiods : ∀ p : Period, p.range? today ≠ none)
    {a b : String}
    (hdates : mentions explicitDate a.toList = [] ∨ mentions explicitDate b.toList = []) :
    (∀ text, (∃ range, resolve text today = .ok range) ∨ IsAmbiguous (resolve text today)) ∧
    (IsAmbiguous (resolve a today) ∨ IsAmbiguous (resolve b today) →
      IsAmbiguous (resolve (a ++ ";" ++ b) today)) ∧
    (∀ range, resolve a today = .ok none → resolve b today = .ok range →
      resolve (a ++ ";" ++ b) today = .ok range) ∧
    (∀ range, resolve a today = .ok range → resolve b today = .ok none →
      resolve (a ++ ";" ++ b) today = .ok range) ∧
    ∀ r r', resolve a today = .ok (some r) → resolve b today = .ok (some r') →
      (r = r' → resolve (a ++ ";" ++ b) today = .ok (some r)) ∧
      (r ≠ r' → IsAmbiguous (resolve (a ++ ";" ++ b) today)) := by
  have htext : (a ++ ";" ++ b).toList = a.toList ++ ';' :: b.toList := by simp
  -- what both say is what either says, and of that the answer is made
  have hboth : ∀ {range}, resolve (a ++ ";" ++ b) today = .ok range →
      ∃ s t u, Reads a.toList today s ∧ Reads b.toList today t ∧
        common (a ++ ";" ++ b).toList u = .ok range ∧
        ∀ r, r ∈ u ↔ r ∈ s.ranges ∨ r ∈ t.ranges := by
    intro range h
    obtain ⟨u, hu, hcommon⟩ := resolve_eq_ok.1 h
    rw [htext] at hu
    obtain ⟨s, t, ha, hb, hranges⟩ := hu.parts hperiods hdates
    exact ⟨s, t, u.ranges, ha, hb, hcommon, hranges⟩
  have hjoin : ∀ {s t range}, Reads a.toList today s → Reads b.toList today t →
      (∀ u, (∀ r, r ∈ u ↔ r ∈ s.ranges ∨ r ∈ t.ranges) →
        common (a ++ ";" ++ b).toList u = .ok range) →
      resolve (a ++ ";" ++ b) today = .ok range := by
    intro s t range ha hb hcommon
    obtain ⟨u, hu, hranges⟩ := ha.append hperiods hdates hb
    exact resolve_eq_ok.2 ⟨u, htext ▸ hu, hcommon u.ranges hranges⟩
  refine ⟨resolve_or_ambiguous hperiods, ?_, ?_, ?_, ?_⟩
  · intro hambiguous
    refine (resolve_or_ambiguous hperiods (a ++ ";" ++ b)).resolve_left ?_
    rintro ⟨range, h⟩
    obtain ⟨s, t, u, ha, hb, hcommon, hranges⟩ := hboth h
    rcases hambiguous with hambiguous | hambiguous
    · obtain ⟨range', h'⟩ : ∃ range', common a.toList s.ranges = .ok range' :=
        exists_common_of_subset (fun r hr => (hranges r).2 (.inl hr)) hcommon
      exact not_isAmbiguous_of_eq_ok (resolve_eq_ok.2 ⟨s, ha, h'⟩) hambiguous
    · obtain ⟨range', h'⟩ : ∃ range', common b.toList t.ranges = .ok range' :=
        exists_common_of_subset (fun r hr => (hranges r).2 (.inr hr)) hcommon
      exact not_isAmbiguous_of_eq_ok (resolve_eq_ok.2 ⟨t, hb, h'⟩) hambiguous
  · intro range ha hb
    obtain ⟨s, hs, hnone⟩ := resolve_eq_ok.1 ha
    obtain ⟨t, ht, hrange⟩ := resolve_eq_ok.1 hb
    refine hjoin hs ht fun u hu => common_congr (fun r => ?_) hrange
    rw [hu, common_eq_none.1 hnone]
    simp
  · intro range ha hb
    obtain ⟨s, hs, hrange⟩ := resolve_eq_ok.1 ha
    obtain ⟨t, ht, hnone⟩ := resolve_eq_ok.1 hb
    refine hjoin hs ht fun u hu => common_congr (fun r => ?_) hrange
    rw [hu, common_eq_none.1 hnone]
    simp
  · intro r r' ha hb
    obtain ⟨s, hs, hr⟩ := resolve_eq_ok.1 ha
    obtain ⟨t, ht, hr'⟩ := resolve_eq_ok.1 hb
    rw [common_eq_some] at hr hr'
    constructor
    · rintro rfl
      refine hjoin hs ht fun u hu => common_eq_some.2 ⟨(hu r).2 (.inl hr.1), fun x hx => ?_⟩
      exact ((hu x).1 hx).elim (hr.2 x) (hr'.2 x)
    · intro hne
      refine (resolve_or_ambiguous hperiods (a ++ ";" ++ b)).resolve_left ?_
      rintro ⟨range, h⟩
      obtain ⟨s', t', u, hs', ht', hcommon, hranges⟩ := hboth h
      cases hs.unique hs'
      cases ht.unique ht'
      have hleft := (hranges r).2 (.inl hr.1)
      have hright := (hranges r').2 (.inr hr'.1)
      cases range with
      | none =>
        rw [common_eq_none.1 hcommon] at hleft
        cases hleft
      | some agreed =>
        obtain ⟨-, hall⟩ := common_eq_some.1 hcommon
        exact hne ((hall r hleft).trans (hall r' hright).symm)

/-- The first days of the year are this week, and not all of it is today. -/
theorem resolve_semicolon_thisWeek :
    resolve "visits;this week" Visits.newYear = .ok (some (Visits.monday, Visits.newYear)) ∧
      IsAmbiguous (resolve "today;this week" Visits.newYear) := by
  have hperiods : ∀ p : Period, p.range? Visits.newYear ≠ none := by
    intro p
    cases p <;> decide
  have hvisits : resolve "visits" Visits.newYear = .ok none := eq_ok_of_toOption (by decide +kernel)
  have htoday : resolve "today" Visits.newYear = .ok (some (Visits.newYear, Visits.newYear)) :=
    eq_ok_of_toOption (by decide +kernel)
  have hweek : resolve "this week" Visits.newYear = .ok (some (Visits.monday, Visits.newYear)) :=
    eq_ok_of_toOption (by decide +kernel)
  have hdates : mentions explicitDate "this week".toList = [] :=
    List.isEmpty_iff.1 (by decide +kernel)
  obtain ⟨-, -, hnone, -, -⟩ := resolve_semicolon (a := "visits") hperiods (.inr hdates)
  obtain ⟨-, -, -, -, hboth⟩ := resolve_semicolon (a := "today") hperiods (.inr hdates)
  exact ⟨hnone _ hvisits hweek, (hboth _ _ htoday hweek).2 (by decide)⟩

end SemanticLayer.DatePhrase
