import SemanticLayer.Proofs.Calendar.DateText
import SemanticLayer.Proofs.Calendar.Months
import SemanticLayer.Proofs.Question.Separation

/-
# Numbers of days

`last 7 days` are today and the six days before it.  The number may be written
with any number of digits, so the days it counts may be none, or more than the
calendar has; then the phrase is ambiguous (`resolve_dayCount`).
-/

namespace SemanticLayer.DatePhrase

open Text DateText

/-! ### What is found -/

/-- A letter of the openings stands for itself. -/
theorem afterLetters_self {letters : List Char} (h : ∀ c ∈ letters, foldsTo c c = true)
    (rest : List Char) : afterLetters letters (letters ++ rest) = some rest := by
  induction letters with
  | nil => rfl
  | cons letter letters ih =>
    obtain ⟨hletter, hmore⟩ := List.forall_mem_cons.1 h
    rw [List.cons_append, afterLetters, if_pos hletter]
    exact ih hmore

theorem isDecimal_of_isDigit {c : Char} (h : c.isDigit = true) : isDecimal c = true := by
  have hcode := toNat_of_isDigit h
  rw [isDecimal, if_pos (by omega), h]

/-- **Digits behind an opening are counted** as far as they go. -/
theorem daysAfter_eq_some {opening cs blanks ds unit rest : List Char}
    (hopening : afterLetters opening cs = some (blanks ++ (ds ++ unit)))
    (hblanks : ∀ c ∈ blanks, isBlank c = true) (hne : ds ≠ [])
    (hds : ∀ c ∈ ds, c.isDigit = true) (hend : endsDigits unit.head? = true)
    (hunit : afterDayUnit (skipBlank unit) = some rest) :
    daysAfter opening cs = some (some (digitsValue ds), rest) := by
  have hskip : skipBlank (blanks ++ (ds ++ unit)) = ds ++ unit := by
    obtain ⟨c, ds', rfl⟩ := List.exists_cons_of_ne_nil hne
    have hblank := isBlank_of_isDigit (hds c List.mem_cons_self)
    rw [skipBlank, List.dropWhile_append_of_pos hblanks]
    exact skipBlank_cons hblank
  have htake : (ds ++ unit).takeWhile isDecimal = ds := by
    rw [List.takeWhile_append_of_pos fun c hc => isDecimal_of_isDigit (hds c hc)]
    cases unit with
    | nil => exact List.append_nil ds
    | cons c unit =>
      have hc : ¬ isDecimal c = true := by simpa [endsDigits] using hend
      rw [List.takeWhile_cons_of_neg hc, List.append_nil]
  have hnumber : asciiNumber? ds = some (digitsValue ds) := if_pos (List.all_eq_true.2 hds)
  unfold daysAfter
  rw [hopening]
  simp only [Option.bind_eq_bind, Option.bind_some, hskip, htake, List.drop_left, hunit, hnumber]
  rw [if_neg (by simpa using hne)]
  rfl

/-- The one element with a result is found. -/
theorem findSome?_eq_of_unique {α β : Type} {f : α → Option β} {xs : List α} {a : α} {b : β}
    (ha : a ∈ xs) (hf : f a = some b) (hother : ∀ x ∈ xs, x ≠ a → f x = none) :
    xs.findSome? f = some b := by
  induction xs with
  | nil => cases ha
  | cons x xs ih =>
    obtain ⟨hx, hmore⟩ := List.forall_mem_cons.1 hother
    by_cases hxa : x = a
    · rw [List.findSome?_cons, hxa, hf]
    · rw [List.findSome?_cons, hx hxa]
      exact ih ((List.mem_cons.1 ha).resolve_left fun heq => hxa heq.symm) hmore

/-- **A text with a number of days** is found as a whole: no two openings start alike. -/
theorem lastDays_opening {o : Bool × List Char} (ho : o ∈ daysOpenings)
    {blanks ds unit : List Char} (hblanks : ∀ c ∈ blanks, isBlank c = true) (hne : ds ≠ [])
    (hds : ∀ c ∈ ds, c.isDigit = true) (hend : endsDigits unit.head? = true)
    (hunit : afterDayUnit (skipBlank unit) = some []) :
    lastDays none (o.2 ++ (blanks ++ (ds ++ unit))) =
      some (some (digitsValue ds), (o.2 ++ (blanks ++ (ds ++ unit))).length - 1) := by
  have hself : ∀ o ∈ daysOpenings, o.2.all fun c => foldsTo c c := by decide
  have hheads : ∀ o ∈ daysOpenings, ∀ o' ∈ daysOpenings, o' ≠ o →
      o.2.head?.any fun c => o'.2.head?.any fun letter => !foldsTo letter c := by decide
  have hstart := afterLetters_self (List.all_eq_true.1 (hself o ho)) (blanks ++ (ds ++ unit))
  rw [lastDays_eq]
  refine findSome?_eq_of_unique ho ?_ fun o' ho' hne' => ?_
  · rw [daysAt, daysAfter_eq_some hstart hblanks hne hds hend hunit]
    simp [endsWord]
  · have hnone : afterLetters o'.2 (o.2 ++ (blanks ++ (ds ++ unit))) = none := by
      have hhead := hheads o ho o' ho' hne'
      obtain ⟨c, hc, letter, hletter, hfolds⟩ : ∃ c, o.2.head? = some c ∧
          ∃ letter, o'.2.head? = some letter ∧ foldsTo letter c = false := by
        simpa [Option.any_eq_true] using hhead
      obtain ⟨cs, hcs⟩ := List.head?_eq_some_iff.1 hc
      obtain ⟨letters, hletters⟩ := List.head?_eq_some_iff.1 hletter
      rw [hcs, hletters, List.cons_append, afterLetters, hfolds, if_neg Bool.false_ne_true]
    rw [daysAt, daysAfter, hnone]
    split <;> rfl

/-- A text that is found as a whole is one mention. -/
theorem pieces_of_whole {α : Type} {find : Finder α} {before : Option Char} {cs : List Char} {a : α}
    (hne : cs ≠ []) (h : find before cs = some (a, cs.length - 1)) :
    pieces find before cs = [.mention ⟨cs, a⟩] := by
  obtain ⟨c, rest, rfl⟩ := List.exists_cons_of_ne_nil hne
  rw [List.length_cons, Nat.add_sub_cancel] at h
  rw [pieces, h]
  dsimp only
  rw [List.take_length, List.drop_length, pieces]

/-! ### The answer -/

/-- **A text that is one number of days** has the days that are counted. -/
theorem resolve_of_number {text : String} {m : Mention (Option Nat)}
    (hunmarked : ∀ c ∈ text.toList, isDateMark c = false)
    (hpieces : pieces lastDays none text.toList = [.mention m]) (today : Date) :
    resolve text today = (mentionedDays today m).map some := by
  have hdates : mentions explicitDate text.toList = [] := by
    rw [mentions, pieces_of_none explicitDate_of_unmarked none hunmarked,
      filterMap_mention?_map_char]
  have hblank : withoutMentions lastDays text.toList = [' '] := by
    rw [withoutMentions, hpieces]
    rfl
  have hmentions : mentions lastDays text.toList = [m] := by
    rw [mentions, hpieces]
    rfl
  have hvague : mentions vague [' '] = [] := List.isEmpty_iff.1 (by decide +kernel)
  have hperiods : periodsOf (lowerFrom [] [' ']) = [] := by decide
  unfold resolve
  dsimp only
  rw [hdates, withoutMentions_of_mentions_eq_nil hdates, hblank, hmentions, hvague, hperiods]
  rw [List.mapM_cons, List.mapM_nil]
  cases mentionedDays today m <;> rfl

/-- The phrases for a number of days: what stands before the digits, and behind them. -/
def dayPhrases : List (String × String) :=
  [("last ", " days"), ("past ", " days"), ("最近", "天"), ("近", "天"), ("过去", "天")]

/-- Each of them is an opening and blanks before the digits, and the unit behind them. -/
theorem exists_opening : ∀ phrase ∈ dayPhrases, ∃ o ∈ daysOpenings,
    phrase.1.toList.take o.2.length = o.2 ∧ (phrase.1.toList.drop o.2.length).all isBlank ∧
      afterDayUnit (skipBlank phrase.2.toList) = some [] ∧
      endsDigits phrase.2.toList.head? = true ∧
      (phrase.1.toList ++ phrase.2.toList).all (!isDateMark ·) := by
  decide +kernel

/-- **A phrase for a number of days** is found with its number, and nothing else is. -/
theorem resolve_phrase {phrase : String × String} (hphrase : phrase ∈ dayPhrases) {digits : String}
    (hne : digits ≠ "") (hdigits : ∀ c ∈ digits.toList, c.isDigit = true) (today : Date) :
    resolve (phrase.1 ++ digits ++ phrase.2) today =
      (mentionedDays today
        ⟨(phrase.1 ++ digits ++ phrase.2).toList, some (digitsValue digits.toList)⟩).map some := by
  obtain ⟨o, ho, hopening, hblanks, hunit, hend, hunmarked⟩ := exists_opening phrase hphrase
  have hsplit := List.take_append_drop o.2.length phrase.1.toList
  rw [hopening] at hsplit
  have htext : (phrase.1 ++ digits ++ phrase.2).toList =
      o.2 ++ (phrase.1.toList.drop o.2.length ++ (digits.toList ++ phrase.2.toList)) := by
    rw [String.toList_append, String.toList_append, ← List.append_assoc o.2, hsplit,
      List.append_assoc]
  have hne' : digits.toList ≠ [] := mt String.toList_eq_nil_iff.1 hne
  have hfound := lastDays_opening ho (List.all_eq_true.1 hblanks) hne' hdigits hend hunit
  rw [← htext] at hfound
  refine resolve_of_number ?_ (pieces_of_whole ?_ hfound) today
  · simp only [List.all_append, Bool.and_eq_true, List.all_eq_true, Bool.not_eq_true'] at hunmarked
    rw [String.toList_append, String.toList_append]
    exact List.forall_mem_append.2 ⟨List.forall_mem_append.2 ⟨hunmarked.1, fun c hc =>
      isDateMark_of_isDecimal (isDecimal_of_isDigit (hdigits c hc))⟩, hunmarked.2⟩
  · rw [String.toList_append, String.toList_append]
    simp [hne']

/-- **So many days are so many days.**  A number behind `last`, however many digits it has, makes a
range of that number of days that ends today; if it is zero, or there are not so many days in the
calendar, the phrase is ambiguous. -/
theorem resolve_dayCount {phrase : String × String} (hphrase : phrase ∈ dayPhrases)
    {digits : String} (hne : digits ≠ "") (hdigits : ∀ c ∈ digits.toList, c.isDigit = true)
    (today : Date) :
    let n := Nat.ofDigitChars 10 digits.toList 0
    (∀ start : Date, 1 ≤ n → start.number + n = today.number + 1 →
      resolve (phrase.1 ++ digits ++ phrase.2) today = .ok (some (start, today))) ∧
    ((¬ ∃ start : Date, 1 ≤ n ∧ start.number + n = today.number + 1) →
      IsAmbiguous (resolve (phrase.1 ++ digits ++ phrase.2) today)) := by
  intro n
  have hn : digitsValue digits.toList = n := digitsValue_eq digits.toList
  rw [resolve_phrase hphrase hne hdigits, hn, mentionedDays]
  dsimp only
  constructor
  · intro start hpos hnumber
    have hstart : today.addDays? (1 - (n : Int)) = some start :=
      Date.addDays?_eq_some.2 (by omega)
    rw [if_neg (by omega), hstart]
    rfl
  · intro hnone
    split
    · exact ⟨_, rfl⟩
    · rename_i hzero
      cases hstart : today.addDays? (1 - (n : Int)) with
      | some start =>
        have hnumber := Date.addDays?_eq_some.1 hstart
        exact absurd ⟨start, by omega, by omega⟩ hnone
      | none => exact ⟨_, rfl⟩

/-- Zeros in front do not count: these are the last days of the year before, and today. -/
theorem resolve_dayCount_zeros :
    ("last ", " days") ∈ dayPhrases ∧ "007" ≠ "" ∧ (∀ c ∈ "007".toList, c.isDigit = true) ∧
      ∃ start : Date, start.civil = ⟨2025, 12, 26⟩ ∧
        resolve "last 007 days" Visits.newYear = .ok (some (start, Visits.newYear)) := by
  have hphrase : ("last ", " days") ∈ dayPhrases := by decide
  have hdigits : ∀ c ∈ "007".toList, c.isDigit = true :=
    List.all_eq_true.1 (by decide)
  obtain ⟨hrange, -⟩ := resolve_dayCount hphrase (by decide) hdigits Visits.newYear
  exact ⟨hphrase, by decide, hdigits, ⟨739611, by decide⟩, by decide,
    hrange ⟨739611, by decide⟩ (by decide) (by decide)⟩

end SemanticLayer.DatePhrase
