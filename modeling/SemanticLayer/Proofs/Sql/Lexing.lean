import Mathlib
import SemanticLayer.Sql.Token

/-
# Plain tokens, and where they end

The tokens that compiled statements are made of, each with the text that it is
written as and the characters that may stand behind it:

| token | written | ends before |
| --- | --- | --- |
| word | its characters | anything but a word character, a quote or `&` |
| quoted name | its word characters between double quotes | anything but a double quote |
| number | its digits | a blank, a comma or a bracket |
| text | its characters between quotes, a quote twice | anything but a quote |
| point | `.` | anything but a digit |
| `=`, `/` | itself | a blank |
| bracket, comma, blank | itself | anything |

Written before a character where it ends, a plain token is the first that is
read: `Lex.step_written`.
-/

namespace SemanticLayer.Sql

/-- Characters as they stand between quotes, where a quote is written twice. -/
def doubled (quote : Char) (cs : List Char) : List Char :=
  cs.flatMap fun c => if c = quote then [quote, quote] else [c]

/-- Characters without quotes stand as they are. -/
theorem doubled_of_not_mem {quote : Char} {cs : List Char} (h : ∀ c ∈ cs, c ≠ quote) :
    doubled quote cs = cs := by
  induction cs with
  | nil => rfl
  | cons c cs ih =>
    have hcs : doubled quote cs = cs := ih fun d hd => h d (List.mem_cons_of_mem _ hd)
    rw [doubled] at hcs
    rw [doubled, List.flatMap_cons, if_neg (h c List.mem_cons_self), hcs]
    rfl

namespace Token

open SemanticLayer.Sql.Lex

/-- The tokens that compiled statements are made of. -/
inductive Plain : Token → Prop where
  | word {c : Char} {part : List Char} (hc : isWordStart c = true)
    (hpart : ∀ d ∈ part, isWordPart d = true) : Plain (ofWord (c :: part))
  | quoted {cs : List Char} (h : ∀ c ∈ cs, isWordPart c = true) : Plain (ofQuoted '"' cs)
  | number {d : Char} {ds : List Char} (h : ∀ c ∈ d :: ds, c.isDigit = true) :
    Plain (.number (String.ofList (d :: ds)) false)
  | text (cs : List Char) : Plain (.text (String.ofList cs))
  | point : Plain (.symbol ".")
  | equals : Plain (.symbol "=")
  | slash : Plain (.symbol "/")
  | comma : Plain (.symbol ",")
  | opening : Plain (.symbol "(")
  | closing : Plain (.symbol ")")
  | blank : Plain (.blank " ")

/-- A plain token as it is written. -/
def written : Token → List Char
  | .word value none _ => value.toList
  | .word value (some quote) _ => quote :: value.toList ++ [quote]
  | .number digits _ => digits.toList
  | .text value => '\'' :: doubled '\'' value.toList ++ ['\'']
  | .symbol s => s.toList
  | .blank s => s.toList
  | _ => []

/-- Whether a plain token ends before a character. -/
def endsBefore (t : Token) (c : Char) : Bool :=
  match t with
  | .word _ none _ => !isWordPart c && c != '\'' && c != '&'
  | .word _ (some quote) _ => c != quote
  | .number _ _ => c == ' ' || c == ',' || c == ')'
  | .text _ => c != '\''
  | .symbol s => if s = "." then !c.isDigit else if s = "=" ∨ s = "/" then c == ' ' else true
  | _ => true

end Token

namespace Lex

open Text

/-! ### Characters of words -/

theorem isWordPart_of_isWordStart {c : Char} (h : isWordStart c = true) : isWordPart c = true := by
  simp only [isWordStart, isWordPart, Bool.or_eq_true] at h ⊢
  rcases h with h | h
  · exact .inl (.inl (.inl h))
  · exact .inr h

/-- No digit starts a word. -/
theorem not_isWordStart_of_isDigit {c : Char} (h : c.isDigit = true) : isWordStart c = false := by
  have hc : 48 ≤ c.toNat ∧ c.toNat ≤ 57 := by
    simp only [Char.isDigit, Bool.and_eq_true, decide_eq_true_eq, ge_iff_le,
      UInt32.le_iff_toNat_le] at h
    exact h
  have halpha : c.isAlpha = false := by
    rw [Bool.eq_false_iff]
    intro hletter
    simp only [Char.isAlpha, Char.isUpper, Char.isLower, Bool.or_eq_true, Bool.and_eq_true,
      decide_eq_true_eq, ge_iff_le, UInt32.le_iff_toNat_le] at hletter
    change (65 ≤ c.toNat ∧ c.toNat ≤ 90) ∨ 97 ≤ c.toNat ∧ c.toNat ≤ 122 at hletter
    omega
  have hne : c ≠ '_' := by
    rintro rfl
    cases h
  simp only [isWordStart, isAlphabetic, if_pos (show c.toNat < 128 by omega), halpha,
    Bool.false_or, beq_eq_false_iff_ne]
  exact hne

/-- A word character is no quote. -/
theorem ne_quote_of_isWordPart {c : Char} (h : isWordPart c = true) :
    c ≠ '\'' ∧ c ≠ '"' ∧ c ≠ '\\' := by
  refine ⟨?_, ?_, ?_⟩ <;> rintro rfl <;> exact absurd h (by decide)

/-- What holds of the characters of a list, and of the one behind them, holds of the first. -/
theorem head_append {p : Char → Prop} {cs rest : List Char} (hcs : ∀ c ∈ cs, p c)
    (hrest : ∀ c ∈ rest.head?, p c) : ∀ c ∈ (cs ++ rest).head?, p c := by
  cases cs with
  | nil => exact hrest
  | cons d cs =>
    intro c hc
    obtain rfl := Option.some.inj hc
    exact hcs _ List.mem_cons_self

theorem takeWhile_append_stop {p : Char → Bool} {cs rest : List Char} (hcs : ∀ c ∈ cs, p c = true)
    (hrest : ∀ c ∈ rest.head?, p c = false) : (cs ++ rest).takeWhile p = cs := by
  rw [List.takeWhile_append_of_pos hcs]
  cases rest with
  | nil => simp
  | cons c rest => simp [hrest c rfl]

/-! ### Strings -/

section QuotedRest

variable {quote c : Char} {done rest : List Char}

/-- One character between quotes.  A quote ends the text unless a second stands behind it, any other
character belongs to it. -/
theorem quotedRest_cons :
    quotedRest quote done (c :: rest) =
      if c = quote then
        if rest.head? = some quote then quotedRest quote (quote :: done) rest.tail
        else some (done.reverse, rest)
      else quotedRest quote (c :: done) rest := by
  conv => lhs; rw [quotedRest.eq_def]
  cases rest with
  | nil => simp
  | cons d rest => simp

theorem quotedRest_cons_of_ne (h : c ≠ quote) :
    quotedRest quote done (c :: rest) = quotedRest quote (c :: done) rest := by
  rw [quotedRest_cons, if_neg h]

theorem quotedRest_twice :
    quotedRest quote done (quote :: quote :: rest) = quotedRest quote (quote :: done) rest := by
  rw [quotedRest_cons, if_pos rfl, if_pos List.head?_cons, List.tail_cons]

theorem quotedRest_close (done : List Char) (hrest : ∀ d ∈ rest.head?, d ≠ quote) :
    quotedRest quote done (quote :: rest) = some (done.reverse, rest) := by
  have hlast : ¬ rest.head? = some quote := fun h => hrest quote h rfl
  rw [quotedRest_cons, if_pos rfl, if_neg hlast]

end QuotedRest

/-- **What stands between quotes is read back from its doubled quotes.** -/
theorem quotedRest_doubled {quote : Char} (done cs : List Char) {rest : List Char}
    (hrest : ∀ c ∈ rest.head?, c ≠ quote) :
    quotedRest quote done (doubled quote cs ++ quote :: rest) =
      some (done.reverse ++ cs, rest) := by
  induction cs generalizing done with
  | nil => simpa [doubled] using quotedRest_close done hrest
  | cons c cs ih =>
    have h := ih (c :: done)
    rw [List.reverse_cons, List.append_assoc, List.singleton_append] at h
    rw [doubled, List.flatMap_cons, List.append_assoc]
    split
    · rename_i hc
      subst hc
      exact quotedRest_twice.trans h
    · rename_i hc
      exact (quotedRest_cons_of_ne hc).trans h

/-- **Nothing else is read between quotes** than what was written with doubled quotes. -/
theorem quotedRest_eq_some {quote : Char} {done cs value rest : List Char}
    (h : quotedRest quote done cs = some (value, rest)) :
    ∃ taken, value = done.reverse ++ taken ∧ cs = doubled quote taken ++ quote :: rest := by
  fun_induction quotedRest quote done cs with
  | case1 => cases h
  | case2 done after ih =>
    obtain ⟨taken, hvalue, hcs⟩ := ih h
    exact ⟨quote :: taken, by simpa using hvalue, by simp [doubled, hcs]⟩
  | case3 done d after hd =>
    cases h
    exact ⟨[], by simp, rfl⟩
  | case4 =>
    cases h
    exact ⟨[], by simp, rfl⟩
  | case5 done c rest' hc ih =>
    obtain ⟨taken, hvalue, hcs⟩ := ih h
    exact ⟨c :: taken, by simpa using hvalue, by simp [doubled, hcs, hc]⟩

/-! ### One token -/

/-- **A word ends where no word character follows.** -/
theorem step_word {c : Char} {part rest : List Char} (hc : isWordStart c = true)
    (hpart : ∀ d ∈ part, isWordPart d = true)
    (hrest : ∀ d ∈ rest.head?, isWordPart d = false ∧ d ≠ '\'' ∧ d ≠ '&') :
    step c (part ++ rest) = some (.ofWord (c :: part), rest) := by
  have hpart' : ∀ d ∈ part, d ≠ '\'' ∧ d ≠ '&' := by
    intro d hd
    refine ⟨(ne_quote_of_isWordPart (hpart d hd)).1, ?_⟩
    rintro rfl
    exact absurd (hpart _ hd) (by decide)
  have hhead := head_append hpart' fun d hd => (hrest d hd).2
  have hquote : (part ++ rest).head? ≠ some '\'' := fun h => (hhead _ h).1 rfl
  have hamp : ['&', '\''].isPrefixOf (part ++ rest) = false := by
    cases h : part ++ rest with
    | nil => rfl
    | cons d ds =>
      rw [h] at hhead
      have hd : ('&' == d) = false := by
        simpa using Ne.symm (hhead d rfl).2
      simp [List.isPrefixOf, hd]
  have hne : ∀ d, isWordStart d = false → c ≠ d := by
    rintro d hd rfl
    rw [hc] at hd
    cases hd
  have htake : (part ++ rest).takeWhile isWordPart = part :=
    takeWhile_append_stop hpart fun d hd => (hrest d hd).1
  have hword : wordRest (c :: (part ++ rest)) = (.ofWord (c :: part), rest) := by
    simp only [wordRest, htake, List.drop_left]
  unfold step
  rw [if_neg (by simp [hne ' ' rfl, hne '\n' rfl, hne '\t' rfl]), if_neg (hne _ rfl),
    if_neg (hne _ rfl), if_neg (hne _ rfl), if_neg (fun h => hquote h.2),
    if_neg (fun h => hquote h.2), if_neg (fun h => hquote h.2), if_neg (by simp [hamp]),
    if_pos hc, hword]

theorem step_quoted {cs rest : List Char} (hcs : ∀ c ∈ cs, isWordPart c = true)
    (hrest : ∀ c ∈ rest.head?, c ≠ '"') :
    step '"' (cs ++ '"' :: rest) = some (.ofQuoted '"' cs, rest) := by
  have h := quotedRest_doubled [] cs hrest
  rw [doubled_of_not_mem fun c hc => (ne_quote_of_isWordPart (hcs c hc)).2.1] at h
  unfold step
  rw [if_neg (by decide), if_neg (by decide), if_neg (by decide), if_pos rfl, h]
  rfl

theorem step_text {cs rest : List Char} (hrest : ∀ c ∈ rest.head?, c ≠ '\'') :
    step '\'' (doubled '\'' cs ++ '\'' :: rest) = some (.text (String.ofList cs), rest) := by
  have h := quotedRest_doubled [] cs hrest
  unfold step
  rw [if_neg (by decide), if_neg (by decide), if_pos rfl, h]
  rfl

/-- **A whole number ends at a blank, a comma or a bracket.** -/
theorem number_digits {d : Char} {ds rest : List Char} (hds : ∀ c ∈ d :: ds, c.isDigit = true)
    (hrest : ∀ c ∈ rest.head?, c = ' ' ∨ c = ',' ∨ c = ')') :
    number (d :: ds ++ rest) = (.number (String.ofList (d :: ds)) false, rest) := by
  have hdigit : ∀ c ∈ rest.head?, c.isDigit = false := by
    intro c hc
    rcases hrest c hc with rfl | rfl | rfl <;> rfl
  have htake : (d :: ds ++ rest).takeWhile Char.isDigit = d :: ds :=
    takeWhile_append_stop hds hdigit
  have hfraction : rest.takeWhile Char.isDigit = [] := by
    simpa using takeWhile_append_stop (List.forall_mem_nil _) hdigit
  have hne : d :: ds ≠ ['.'] := by
    rintro h
    cases h
    exact absurd (hds '.' List.mem_cons_self) (by decide)
  have hdecimal :
      number.decimal (d :: ds) rest = (.number (String.ofList (d :: ds)) false, rest) := by
    unfold number.decimal
    cases rest with
    | nil => simp [exponentPart, hne]
    | cons c rest =>
      have hc := hrest c rfl
      have hpoint : ([c].filter (· == '.')) = [] := by
        rcases hc with rfl | rfl | rfl <;> rfl
      have hexp : exponentPart (c :: rest) = [] := by
        rcases hc with rfl | rfl | rfl <;> rfl
      have hlong : ((c :: rest).head? == some 'L') = false := by
        rcases hc with rfl | rfl | rfl <;> rfl
      simp only [List.take_succ_cons, List.take_zero, hpoint, List.length_nil, List.drop_zero,
        hfraction, List.append_nil, if_neg hne, hexp, hlong, Bool.false_eq_true, if_false]
  unfold number
  simp only [htake, List.drop_left]
  cases rest with
  | nil => exact hdecimal
  | cons c rest =>
    split
    · rename_i heq
      cases heq
      exact absurd (hrest 'x' rfl) (by decide)
    · exact hdecimal

theorem step_number {d : Char} {ds rest : List Char} (hds : ∀ c ∈ d :: ds, c.isDigit = true)
    (hrest : ∀ c ∈ rest.head?, c = ' ' ∨ c = ',' ∨ c = ')') :
    step d (ds ++ rest) = some (.number (String.ofList (d :: ds)) false, rest) := by
  have hne : ∀ e : Char, e.isDigit = false → d ≠ e := by
    rintro e he rfl
    rw [hds _ List.mem_cons_self] at he
    cases he
  have hstart := not_isWordStart_of_isDigit (hds d List.mem_cons_self)
  unfold step
  rw [if_neg (by simp [hne ' ' rfl, hne '\n' rfl, hne '\t' rfl]), if_neg (hne _ rfl),
    if_neg (hne _ rfl), if_neg (hne _ rfl), if_neg (by simp [hne 'n' rfl, hne 'N' rfl]),
    if_neg (by simp [hne 'e' rfl, hne 'E' rfl]), if_neg (by simp [hne 'x' rfl, hne 'X' rfl]),
    if_neg (by simp [hne 'u' rfl, hne 'U' rfl]), if_neg (by simp [hstart]),
    if_pos (.inl (hds d List.mem_cons_self))]
  exact congrArg some (number_digits hds hrest)

/-- A point before anything but a digit stands alone. -/
theorem step_point {rest : List Char} (hrest : ∀ c ∈ rest.head?, c.isDigit = false) :
    step '.' rest = some (.symbol ".", rest) := by
  have hfraction : rest.takeWhile Char.isDigit = [] := by
    simpa using takeWhile_append_stop (List.forall_mem_nil _) hrest
  have hnumber : number ('.' :: rest) = (.symbol ".", rest) := by
    have hdecimal : number.decimal [] ('.' :: rest) = (.symbol ".", rest) := by
      unfold number.decimal
      simp [hfraction]
    unfold number
    exact hdecimal
  change some (number ('.' :: rest)) = _
  rw [hnumber]

/-- `=` and `/` stand alone before a blank. -/
theorem step_operator {c : Char} (hc : c = '=' ∨ c = '/') {rest : List Char}
    (hrest : ∀ d ∈ rest.head?, d = ' ') :
    step c rest = some (.symbol (String.singleton c), rest) := by
  cases rest with
  | nil => rcases hc with rfl | rfl <;> rfl
  | cons d rest =>
    obtain rfl := hrest d rfl
    rcases hc with rfl | rfl <;> rfl

/-- **A plain token is the first that is read,** where it ends. -/
theorem step_written {t : Token} (h : t.Plain) {rest : List Char}
    (hrest : ∀ c ∈ rest.head?, t.endsBefore c = true) :
    ∃ c cs, t.written = c :: cs ∧ step c (cs ++ rest) = some (t, rest) := by
  cases h with
  | @word c part hc hpart =>
    refine ⟨c, part, by simp [Token.written, Token.ofWord], step_word hc hpart fun d hd => ?_⟩
    simpa [Token.endsBefore, Token.ofWord, and_assoc] using hrest d hd
  | @quoted cs hcs =>
    refine ⟨'"', cs ++ ['"'], by simp [Token.written, Token.ofQuoted], ?_⟩
    rw [List.append_assoc]
    refine step_quoted hcs fun d hd => ?_
    simpa [Token.endsBefore, Token.ofQuoted] using hrest d hd
  | @number d ds hds =>
    refine ⟨d, ds, by simp [Token.written], step_number hds fun e he => ?_⟩
    simpa [Token.endsBefore, or_assoc] using hrest e he
  | text cs =>
    refine ⟨'\'', doubled '\'' cs ++ ['\''], by simp [Token.written], ?_⟩
    rw [List.append_assoc]
    refine step_text fun d hd => ?_
    simpa [Token.endsBefore] using hrest d hd
  | point =>
    exact ⟨'.', [], rfl, step_point fun d hd => by simpa [Token.endsBefore] using hrest d hd⟩
  | equals =>
    exact ⟨'=', [], rfl, step_operator (.inl rfl) fun d hd => by
      simpa [Token.endsBefore] using hrest d hd⟩
  | slash =>
    exact ⟨'/', [], rfl, step_operator (.inr rfl) fun d hd => by
      simpa [Token.endsBefore] using hrest d hd⟩
  | comma => exact ⟨',', [], rfl, rfl⟩
  | opening => exact ⟨'(', [], rfl, rfl⟩
  | closing => exact ⟨')', [], rfl, rfl⟩
  | blank => exact ⟨' ', [], rfl, rfl⟩

end Lex

end SemanticLayer.Sql
