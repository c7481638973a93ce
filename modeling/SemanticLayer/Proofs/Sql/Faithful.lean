import SemanticLayer.Proofs.Sql.Quotes

/-
# Values that are read back as they are

Every text has one spelling between quotes, the one with each of its quotes
doubled (`tokens_between_quotes_iff`).  `quoteBody` leaves a half of it out
wherever a quote stands directly behind a backslash or behind another quote,
and nowhere else (`quoteBody_eq_doubled_iff`):

| value | written | read back |
| --- | --- | --- |
| `it's` | `'it''s'` | `it's` |
| `it''s` | `'it''s'` | `it's` |
| `\''` | `'\'''` | `\'` |
| `\'` | `'\''` | nothing, because the text does not end |

So a value comes back as it is exactly when it has no such quote
(`tokens_stringLiteral_iff`).
-/

namespace SemanticLayer.Sql

/-! ### One spelling for each text -/

/-- **What has been read stays,** and more is read unless the text is at its end. -/
theorem Lex.append_of_run {fuel : Nat} {done ts : List Token} {cs : List Char}
    (h : run fuel done cs = some ts) :
    ∃ more, ts = done.reverse ++ more ∧ (more = [] → cs = []) := by
  induction fuel generalizing done cs with
  | zero => cases h
  | succ fuel ih =>
    cases cs with
    | nil =>
      cases h
      exact ⟨[], (List.append_nil _).symm, fun _ => rfl⟩
    | cons c rest =>
      cases hs : step c rest with
      | none =>
        simp only [run, hs] at h
        cases h
      | some found =>
        simp only [run, hs] at h
        obtain ⟨more, hts, -⟩ := ih h
        exact ⟨found.1 :: more, by simpa using hts, nofun⟩

/-- **A text is one token between quotes exactly if its quotes are doubled there.** -/
theorem tokens_between_quotes_iff {body value : List Char} :
    tokens ('\'' :: body ++ ['\'']) = some [.text (String.ofList value)] ↔
      body = doubled '\'' value := by
  have hlength : ('\'' :: body ++ ['\'']).length = body.length + 2 := by simp
  rw [tokens, hlength]
  constructor
  · intro h
    cases hs : Lex.step '\'' (body ++ ['\'']) with
    | none =>
      simp only [List.cons_append, Lex.run, hs] at h
      cases h
    | some found =>
      obtain ⟨t, rest⟩ := found
      simp only [List.cons_append, Lex.run, hs] at h
      obtain ⟨more, hts, hrest⟩ := Lex.append_of_run h
      obtain ⟨ht, hmore⟩ := List.cons.inj hts
      obtain rfl := hrest hmore.symm
      obtain ⟨⟨read, behind⟩, hread, hfound⟩ := Option.map_eq_some_iff.1 hs
      obtain ⟨htext, rfl⟩ := Prod.mk.inj hfound
      obtain ⟨taken, hvalue, hbody⟩ := Lex.quotedRest_eq_some hread
      have hsame : read = value :=
        String.ofList_injective (Token.text.inj (htext.trans ht.symm))
      rw [← hsame, hvalue]
      exact List.append_cancel_right hbody
  · rintro rfl
    have hs : Lex.step '\'' (doubled '\'' value ++ ['\'']) =
        some (.text (String.ofList value), []) := Lex.step_text nofun
    simp only [List.cons_append, Lex.run, hs, List.reverse_singleton]

/-! ### Quotes that are not doubled -/

/-- Two characters follow each other in a text at its start or further on. -/
theorem pair_infix_cons {a b c : Char} {rest : List Char} :
    [a, b] <:+: c :: rest ↔ (c = a ∧ rest.head? = some b) ∨ [a, b] <:+: rest := by
  rw [List.infix_cons_iff, List.cons_prefix_cons]
  cases rest with
  | nil => simp
  | cons d rest => simp [List.cons_prefix_cons, eq_comm]

/-- At most twice as many quotes are written as there are. -/
theorem length_quoteBody_le (mode : QuoteMode) (cs : List Char) :
    (quoteBody '\'' mode cs).length ≤ (doubled '\'' cs).length := by
  induction cs generalizing mode with
  | nil => cases mode <;> exact Nat.le_refl 0
  | cons c rest ih =>
    rw [doubled, List.flatMap_cons, ← doubled, List.length_append]
    by_cases hc : c = '\''
    · subst hc
      rw [if_pos rfl]
      cases mode with
      | plain =>
        have hrest := ih .paired
        simp only [quoteBody, if_true, List.length_cons, List.length_nil]
        omega
      | escaping =>
        have hrest := ih .escaping
        simp only [quoteBody, if_true, List.length_cons, List.length_nil]
        omega
      | paired =>
        have hrest := ih .plain
        simp only [quoteBody, if_true, List.length_cons, List.length_nil]
        omega
    · have hrest := ih (QuoteState.after c).mode
      rw [if_neg hc, quoteBody_cons_of_ne hc, List.length_cons, List.length_singleton]
      omega

/-- **All quotes are doubled exactly if none stands behind a backslash or a quote.**  What was
written before the text counts like a character of it. -/
theorem quoteBody_eq_doubled_iff {mode : QuoteMode} {cs : List Char} :
    quoteBody '\'' mode cs = doubled '\'' cs ↔
      (mode = .plain ∨ cs.head? ≠ some '\'') ∧
        ¬ ['\\', '\''] <:+: cs ∧ ¬ ['\'', '\''] <:+: cs := by
  induction cs generalizing mode with
  | nil => cases mode <;> simp [quoteBody, doubled]
  | cons c rest ih =>
    rw [doubled, List.flatMap_cons, ← doubled, pair_infix_cons, pair_infix_cons]
    by_cases hc : c = '\''
    · subst hc
      have hback : ¬ '\'' = '\\' := by decide
      rw [if_pos rfl]
      cases mode with
      | plain =>
        -- the quote is doubled, and a second one behind it would be its second half
        simp only [quoteBody, if_true, List.cons_append, List.nil_append, List.cons.injEq,
          true_and, ih, hback, false_and, false_or, reduceCtorEq]
        tauto
      | escaping | paired =>
        -- less is written than two quotes and what is written behind them at most
        refine iff_of_false (fun h => ?_) (by simp)
        have hlength := congrArg List.length h
        have hescaping := length_quoteBody_le .escaping rest
        have hplain := length_quoteBody_le .plain rest
        simp only [quoteBody, if_true, List.length_cons, List.length_append, List.length_nil]
          at hlength
        omega
    · have hmode : (QuoteState.after c).mode = .plain ↔ ¬ c = '\\' := by
        unfold QuoteState.after
        split <;> simp_all [QuoteState.mode]
      rw [if_neg hc, quoteBody_cons_of_ne hc, List.singleton_append, List.cons_inj_right, ih, hmode]
      have hhead : (c :: rest).head? ≠ some '\'' := by simpa using hc
      tauto

/-! ### Literals -/

/-- **A value is read back as it is exactly if no quote in it stands directly behind a backslash or
another quote.**  Then, and only then, its literal is one text with that value and nothing else. -/
theorem tokens_stringLiteral_iff (v : String) :
    tokens (stringLiteral v).toList = some [.text v] ↔
      ¬ ['\\', '\''] <:+: v.toList ∧ ¬ ['\'', '\''] <:+: v.toList := by
  have hread : tokens ('\'' :: quoteBody '\'' .plain v.toList ++ ['\'']) =
      some [.text (String.ofList v.toList)] ↔
        quoteBody '\'' .plain v.toList = doubled '\'' v.toList := tokens_between_quotes_iff
  rw [String.ofList_toList] at hread
  rw [stringLiteral, enclose, String.toList_ofList, hread, quoteBody_eq_doubled_iff]
  simp

example : tokens (stringLiteral "it's").toList = some [.text "it's"] ∧
    tokens (stringLiteral "it''s").toList = some [.text "it's"] ∧
    tokens (stringLiteral "\\''").toList = some [.text "\\'"] ∧
    tokens (stringLiteral "\\'").toList = none := by decide +kernel

end SemanticLayer.Sql
