import SemanticLayer.Proofs.Sql.Quotes
import Mathlib.Data.List.Forall2

/-
# Texts made of plain tokens and values

A compiled statement is a list of lexemes: tokens that it always has, and the
values of filters, which stand between quotes as `stringLiteral` writes them.
`Sound` asks that every token is plain and ends before what follows it.  Then
the tokens of the text are the tokens of the lexemes, one for one, exactly when
every value is contained: `tokens_eq_of_contained` one way,
`contained_of_tokens` the other.
-/

namespace SemanticLayer.Sql

/-- A piece of a statement: a token that it always has, or the value of a filter. -/
inductive Lexeme where
  | fixed (t : Token)
  | value (v : String)
deriving DecidableEq

namespace Lexeme

/-- A lexeme as it is written. -/
def chars : Lexeme → List Char
  | fixed t => t.written
  | value v => (stringLiteral v).toList

/-- The token that a lexeme is read as, as long as its value is contained. -/
def token : Lexeme → Token
  | fixed t => t
  | value v => .text (String.ofList (received .plain v.toList))

/-- Whether the value of a lexeme stays between its quotes. -/
def Contained : Lexeme → Prop
  | fixed _ => True
  | value v => contained .plain v.toList = true

/-- Whether a lexeme may stand before a character. -/
def EndsBefore (l : Lexeme) (c : Char) : Prop := l.token.endsBefore c = true

/-- Lexemes one after another, as they are written. -/
def text (ls : List Lexeme) : List Char := ls.flatMap chars

/-- The fixed tokens are plain. -/
def Plain : Lexeme → Prop
  | fixed t => t.Plain
  | value _ => True

/-- Every fixed token is plain, and every lexeme ends before what follows it. -/
def Sound : List Lexeme → Prop
  | [] => True
  | l :: rest => l.Plain ∧ (∀ c ∈ (text rest).head?, l.EndsBefore c) ∧ Sound rest

/-- A contained value is written like the text that is read back of it. -/
theorem chars_eq_written {l : Lexeme} (h : l.Contained) : l.chars = l.token.written := by
  cases l with
  | fixed t => rfl
  | value v =>
    have hbody := quoteBody_eq_doubled h
    rw [if_neg nofun, List.nil_append] at hbody
    simp only [QuoteState.mode] at hbody
    simp [chars, token, Token.written, stringLiteral, enclose, hbody]

/-- The token of a plain lexeme is plain. -/
theorem Plain.token {l : Lexeme} (h : l.Plain) : l.token.Plain := by
  cases l with
  | fixed t => exact h
  | value v => exact .text _

end Lexeme

open Lexeme

/-- **Contained values are read as one text each,** and everything else as it always is. -/
theorem tokens_eq_of_contained {ls : List Lexeme} (hs : Sound ls) (hc : ∀ l ∈ ls, l.Contained) :
    tokens (text ls) = some (ls.map Lexeme.token) := by
  have hrun : ∀ fuel done, (text ls).length < fuel →
      Lex.run fuel done (text ls) = some (done.reverse ++ ls.map Lexeme.token) := by
    induction ls with
    | nil =>
      intro fuel done hfuel
      obtain ⟨fuel, rfl⟩ := Nat.exists_eq_succ_of_ne_zero (Nat.ne_of_gt (Nat.zero_lt_of_lt hfuel))
      simp [text, Lex.run]
    | cons l ls ih =>
      intro fuel done hfuel
      obtain ⟨hplain, hend, hsound⟩ := hs
      obtain ⟨c, cs, hwritten, hstep⟩ := Lex.step_written hplain.token hend
      have htext : text (l :: ls) = c :: (cs ++ text ls) := by
        rw [text, List.flatMap_cons, chars_eq_written (hc l List.mem_cons_self), hwritten]
        rfl
      rw [htext] at hfuel ⊢
      obtain ⟨fuel, rfl⟩ := Nat.exists_eq_succ_of_ne_zero (Nat.ne_of_gt (Nat.zero_lt_of_lt hfuel))
      rw [List.length_cons, List.length_append] at hfuel
      simp only [Lex.run, hstep]
      rw [ih hsound (fun m hm => hc m (List.mem_cons_of_mem _ hm)) fuel _ (by omega)]
      simp
  exact hrun _ _ (Nat.lt_succ_self _)

/-! ### What the tokens tell about the text -/

namespace Lex

/-- A character that the toggle does not see. -/
def Quiet (c : Char) : Prop := c ≠ '\'' ∧ c ≠ '\\'

theorem quiet_of_isWordPart {c : Char} (h : isWordPart c = true) : Quiet c :=
  ⟨(ne_quote_of_isWordPart h).1, (ne_quote_of_isWordPart h).2.2⟩

theorem quiet_of_isDigit {c : Char} (h : c.isDigit = true) : Quiet c := by
  constructor <;> rintro rfl <;> exact absurd h (by decide)

/-- From one text to the rest of it, only quiet characters are taken away. -/
def Takes (cs more : List Char) : Prop := ∃ taken, cs = taken ++ more ∧ ∀ c ∈ taken, Quiet c

namespace Takes

variable {c : Char} {cs more rest : List Char}

theorem refl (cs : List Char) : Takes cs cs := ⟨[], rfl, nofun⟩

theorem trans (h : Takes cs more) (h' : Takes more rest) : Takes cs rest := by
  obtain ⟨taken, rfl, hquiet⟩ := h
  obtain ⟨taken', rfl, hquiet'⟩ := h'
  refine ⟨taken ++ taken', by simp, fun c hc => ?_⟩
  rcases List.mem_append.1 hc with hc | hc
  · exact hquiet c hc
  · exact hquiet' c hc

theorem cons (hc : Quiet c) (h : Takes cs more) : Takes (c :: cs) more :=
  trans ⟨[c], rfl, fun _ hd => List.mem_singleton.1 hd ▸ hc⟩ h

theorem dropTakeWhile {p : Char → Bool} (hp : ∀ c, p c = true → Quiet c) (cs : List Char) :
    Takes cs (cs.drop (cs.takeWhile p).length) :=
  ⟨cs.takeWhile p, (List.prefix_iff_eq_append.1 (List.takeWhile_prefix p)).symm,
    fun c hc => hp c (List.all_eq_true.1 List.all_takeWhile c hc)⟩

/-- The toggle does not see them. -/
theorem balanced (h : Takes cs more) (inside : Bool) :
    balanced inside cs = balanced inside more := by
  obtain ⟨taken, rfl, hquiet⟩ := h
  exact balanced_append hquiet inside

end Takes

/-- An exponent starts with its letter. -/
theorem head_exponentPart (cs : List Char) :
    exponentPart cs = [] ∨ ∃ e more, exponentPart cs = e :: more ∧ (e = 'e' ∨ e = 'E') := by
  cases cs with
  | nil => exact .inl rfl
  | cons e rest =>
    by_cases he : e = 'e' ∨ e = 'E'
    · simp only [exponentPart, if_pos he]
      cases rest with
      | nil => exact .inl rfl
      | cons d rest =>
        by_cases hd : d = '+' ∨ d = '-'
        all_goals
          simp only [hd, if_true, if_false]
          split
          · exact .inl rfl
          · exact .inr ⟨e, _, rfl, he⟩
    · simp only [exponentPart, if_neg he]
      exact .inl trivial

/-- A plain number takes digits away, and a point a point. -/
theorem takes_of_decimal {whole rest more : List Char} {t : Token}
    (h : number.decimal whole rest = (t, more)) (ht : t.Plain) : Takes rest more := by
  have hpoint : Takes rest (rest.drop ((rest.take 1).filter (· == '.')).length) := by
    cases rest with
    | nil => exact .refl []
    | cons c rest =>
      by_cases hc : c = '.'
      · subst hc
        exact .cons ⟨by decide, by decide⟩ (.refl rest)
      · simp only [List.take_succ_cons, List.take_zero, List.filter_cons, beq_iff_eq, if_neg hc]
        exact .refl _
  unfold number.decimal at h
  dsimp only at h
  generalize rest.drop ((rest.take 1).filter (· == '.')).length = rest₁ at h hpoint
  have hfraction := hpoint.trans (.dropTakeWhile (fun c => quiet_of_isDigit) rest₁)
  generalize rest₁.drop (rest₁.takeWhile Char.isDigit).length = rest₂ at h hfraction
  split at h
  · cases h
    exact hfraction
  · obtain ⟨hnumber, hmore⟩ := Prod.mk.inj h
    cases ht with
    | @number d ds hds =>
      obtain ⟨hchars, hlong⟩ := Token.number.inj hnumber
      have hexp : exponentPart rest₂ = [] := by
        rcases head_exponentPart rest₂ with hnil | ⟨e, more, hcons, he⟩
        · exact hnil
        · have hdigit : e.isDigit = true := by
            refine hds e ?_
            rw [← String.ofList_injective hchars, hcons]
            simp
          rcases he with rfl | rfl <;> cases hdigit
      rw [hexp] at hmore hlong
      rw [hlong] at hmore
      exact hmore ▸ hfraction
    | _ => cases hnumber

theorem takes_of_number {cs more : List Char} {t : Token} (h : number cs = (t, more))
    (ht : t.Plain) : Takes cs more := by
  have hwhole := Takes.dropTakeWhile (fun c => quiet_of_isDigit) cs
  unfold number at h
  dsimp only at h
  generalize cs.drop (cs.takeWhile Char.isDigit).length = rest at h hwhole
  split at h
  · split at h
    · cases h
      cases ht
    · exact hwhole.trans (takes_of_decimal h ht)
  · exact hwhole.trans (takes_of_decimal h ht)

/-- The symbols among the plain tokens. -/
def plainSymbols : List String := [".", "=", "/", ",", "(", ")"]

theorem mem_plainSymbols {s : String} (h : (Token.symbol s).Plain) : s ∈ plainSymbols := by
  generalize hs : Token.symbol s = t at h
  cases h <;> cases hs <;> decide

theorem quiet_of_not_mem {read : List Char} (h : '\'' ∉ read ∧ '\\' ∉ read) :
    ∀ c ∈ read, c ≠ '\'' ∧ c ≠ '\\' := by
  intro c hc
  constructor
  · rintro rfl
    exact h.1 hc
  · rintro rfl
    exact h.2 hc

/-- A plain symbol takes its characters away. -/
theorem takes_of_symbol {cs more : List Char} {t : Token} (h : symbol cs = some (t, more))
    (ht : t.Plain) : Takes cs more := by
  have hread : ∀ {texts : List (List Char)} {read : List Char}, longest texts cs = some read →
      read ∈ texts ∧ cs = read ++ cs.drop read.length := by
    intro texts read hl
    have hprefix : read.isPrefixOf cs = true := by
      simpa using List.find?_some hl
    refine ⟨List.mem_of_find?_eq_some hl, ?_⟩
    exact (List.prefix_iff_eq_append.1 (List.isPrefixOf_iff_prefix.1 hprefix)).symm
  unfold symbol at h
  split at h
  · rename_i read hl
    cases h
    obtain ⟨hmem, hcs⟩ := hread hl
    refine ⟨read, hcs, ?_⟩
    have hquiet : ∀ read ∈ symbols,
        (if read = ['!', '='] then "<>" else String.ofList read) ∈ plainSymbols →
        '\'' ∉ read ∧ '\\' ∉ read := by decide
    exact quiet_of_not_mem (hquiet read hmem (mem_plainSymbols ht))
  · split at h
    · rename_i read hl
      obtain ⟨hmem, hcs⟩ := hread hl
      dsimp only at h
      split at h
      · cases h
        refine ⟨read, hcs, ?_⟩
        have hquiet : ∀ read ∈ operators, String.ofList read ∈ plainSymbols →
            '\'' ∉ read ∧ '\\' ∉ read := by decide
        exact quiet_of_not_mem (hquiet read hmem (mem_plainSymbols ht))
      · cases h
        cases ht
    · split at h
      · cases h
        exact absurd (mem_plainSymbols ht) (by decide)
      · cases h

/-- The characters of a plain quoted name. -/
theorem isWordPart_of_plain_ofQuoted {cs : List Char} (h : (Token.ofQuoted '"' cs).Plain) :
    ∀ c ∈ cs, isWordPart c = true := by
  generalize hq : Token.ofQuoted '"' cs = t at h
  cases h with
  | quoted hcs =>
    have heq := String.ofList_injective (Token.word.inj hq).1
    rwa [heq]
  | word => exact nomatch (Token.word.inj hq).2.1
  | _ => cases hq

/-- The one plain blank. -/
theorem eq_of_plain_blank {s : String} (h : (Token.blank s).Plain) : s = " " := by
  generalize hs : Token.blank s = t at h
  cases h <;> cases hs
  rfl

/-- A comment is not a plain blank. -/
theorem not_plain_of_blankOf {c : Char} (hc : c ≠ ' ') {whole rest more : List Char} {t : Token}
    (h : blankOf (c :: whole) rest = (t, more)) : ¬ t.Plain := by
  intro ht
  cases h
  have htake :=
    String.ofList_injective ((eq_of_plain_blank ht).trans (rfl : " " = String.ofList [' ']))
  cases hn : (c :: whole).length - rest.length with
  | zero =>
    rw [hn] at htake
    cases htake
  | succ n =>
    rw [hn, List.take_succ_cons] at htake
    exact hc (List.cons.inj htake).1

/-- Behind a dollar sign there is no plain token. -/
theorem not_plain_of_dollarRest {cs more : List Char} {t : Token}
    (h : dollarRest cs = some (t, more)) : ¬ t.Plain := by
  unfold dollarRest at h
  split at h
  · obtain ⟨p, -, heq⟩ := Option.bind_eq_some_iff.1 h
    cases heq
    nofun
  · dsimp only at h
    split at h
    · obtain ⟨p, -, heq⟩ := Option.bind_eq_some_iff.1 h
      cases heq
      nofun
    · cases h
      nofun

/-- A text with a letter before its quotes is no plain token. -/
theorem not_plain_of_stringOf {kind : StringKind} {read : Option (List Char × List Char)}
    {more : List Char} {t : Token} (h : stringOf kind read = some (t, more)) : ¬ t.Plain := by
  obtain ⟨p, -, heq⟩ := Option.map_eq_some_iff.1 h
  cases heq
  intro ht
  cases ht

/-- A text turns the toggle over at its first quote and back at its last. -/
theorem balanced_of_quotedRest {rest value more : List Char}
    (h : quotedRest '\'' [] rest = some (value, more)) :
    balanced false ('\'' :: rest) = balanced false more := by
  obtain ⟨taken, -, hrest⟩ := quotedRest_eq_some h
  rw [hrest, balanced_quote, Bool.not_false, balanced_doubled, balanced_quote]
  rfl

/-- A plain quoted name takes its characters away, and both double quotes. -/
theorem takes_of_quotedRest {rest cs more : List Char}
    (h : quotedRest '"' [] rest = some (cs, more)) (ht : (Token.ofQuoted '"' cs).Plain) :
    Takes ('"' :: rest) more := by
  obtain ⟨taken, hvalue, hrest⟩ := quotedRest_eq_some h
  rw [List.reverse_nil, List.nil_append] at hvalue
  have hpart : ∀ d ∈ taken, isWordPart d = true := by
    rw [← hvalue]
    exact isWordPart_of_plain_ofQuoted ht
  rw [doubled_of_not_mem fun d hd => (ne_quote_of_isWordPart (hpart d hd)).2.1] at hrest
  have hdouble : Quiet '"' := ⟨by decide, by decide⟩
  rw [hrest]
  refine .cons hdouble ⟨taken ++ ['"'], by simp, fun d hd => ?_⟩
  rcases List.mem_append.1 hd with hd | hd
  · exact quiet_of_isWordPart (hpart d hd)
  · exact List.mem_singleton.1 hd ▸ hdouble

/-- **A plain token leaves the toggle outside,** where it was. -/
theorem balanced_of_step {c : Char} {rest more : List Char} {t : Token}
    (h : step c rest = some (t, more)) (ht : t.Plain) :
    balanced false (c :: rest) = balanced false more := by
  have hone : Quiet c → rest = more → balanced false (c :: rest) = balanced false more :=
    fun hc hr => (Takes.cons hc (hr ▸ .refl rest)).balanced false
  unfold step at h
  by_cases hblank : c = ' ' ∨ c = '\n' ∨ c = '\t'
  · rw [if_pos hblank] at h
    obtain ⟨-, hmore⟩ := Prod.mk.inj (Option.some.inj h)
    refine hone ?_ hmore
    rcases hblank with rfl | rfl | rfl <;> exact ⟨by decide, by decide⟩
  rw [if_neg hblank] at h
  by_cases hreturn : c = '\r'
  · rw [if_pos hreturn] at h
    cases h
    exact absurd (eq_of_plain_blank ht) (by decide)
  rw [if_neg hreturn] at h
  by_cases hquote : c = '\''
  · rw [if_pos hquote] at h
    obtain ⟨⟨value, rest'⟩, hq, heq⟩ := Option.map_eq_some_iff.1 h
    obtain ⟨-, rfl⟩ := Prod.mk.inj heq
    rw [hquote]
    exact balanced_of_quotedRest hq
  rw [if_neg hquote] at h
  by_cases hdouble : c = '"'
  · rw [if_pos hdouble] at h
    obtain ⟨⟨value, rest'⟩, hq, heq⟩ := Option.map_eq_some_iff.1 h
    obtain ⟨rfl, rfl⟩ := Prod.mk.inj heq
    rw [hdouble]
    exact (takes_of_quotedRest hq ht).balanced false
  rw [if_neg hdouble] at h
  by_cases hnational : (c = 'n' ∨ c = 'N') ∧ rest.head? = some '\''
  · rw [if_pos hnational] at h
    exact absurd ht (not_plain_of_stringOf h)
  rw [if_neg hnational] at h
  by_cases hescaped : (c = 'e' ∨ c = 'E') ∧ rest.head? = some '\''
  · rw [if_pos hescaped] at h
    exact absurd ht (not_plain_of_stringOf h)
  rw [if_neg hescaped] at h
  by_cases hhex : (c = 'x' ∨ c = 'X') ∧ rest.head? = some '\''
  · rw [if_pos hhex] at h
    exact absurd ht (not_plain_of_stringOf h)
  rw [if_neg hhex] at h
  by_cases hunicode : (c = 'u' ∨ c = 'U') ∧ ['&', '\''].isPrefixOf rest
  · rw [if_pos hunicode] at h
    exact absurd ht (not_plain_of_stringOf h)
  rw [if_neg hunicode] at h
  by_cases hword : isWordStart c = true
  · rw [if_pos hword] at h
    obtain ⟨-, hmore⟩ := Prod.mk.inj (Option.some.inj h)
    rw [← hmore]
    exact (Takes.cons (quiet_of_isWordPart (isWordPart_of_isWordStart hword))
      (.dropTakeWhile (fun d => quiet_of_isWordPart) rest)).balanced false
  rw [if_neg hword] at h
  by_cases hnumber : c.isDigit = true ∨ c = '.'
  · rw [if_pos hnumber] at h
    exact (takes_of_number (Option.some.inj h) ht).balanced false
  rw [if_neg hnumber] at h
  by_cases hdashes : c = '-' ∧ rest.head? = some '-'
  · rw [if_pos hdashes] at h
    have hne : c ≠ ' ' := fun heq => hblank (.inl heq)
    exact absurd ht (not_plain_of_blankOf hne (Option.some.inj h))
  rw [if_neg hdashes] at h
  by_cases hcomment : c = '/' ∧ rest.head? = some '*'
  · rw [if_pos hcomment] at h
    have hne : c ≠ ' ' := fun heq => hblank (.inl heq)
    obtain ⟨p, -, heq⟩ := Option.map_eq_some_iff.1 h
    exact absurd ht (not_plain_of_blankOf hne heq)
  rw [if_neg hcomment] at h
  by_cases hdollar : c = '$'
  · rw [if_pos hdollar] at h
    exact absurd ht (not_plain_of_dollarRest h)
  rw [if_neg hdollar] at h
  cases hsymbol : symbol (c :: rest) with
  | some found =>
    rw [hsymbol] at h
    cases h
    exact (takes_of_symbol hsymbol ht).balanced false
  | none =>
    rw [hsymbol] at h
    obtain ⟨htoken, hmore⟩ := Prod.mk.inj (Option.some.inj h)
    refine hone ⟨hquote, ?_⟩ hmore
    rintro rfl
    have hsome : symbol ('\\' :: rest) = some (.symbol "\\", rest) := rfl
    rw [hsome] at hsymbol
    cases hsymbol

/-- Tokens that have been read stay. -/
theorem mem_of_run {fuel : Nat} {done ts : List Token} {cs : List Char}
    (h : run fuel done cs = some ts) : ∀ t ∈ done, t ∈ ts := by
  induction fuel generalizing done cs with
  | zero => cases h
  | succ fuel ih =>
    intro t ht
    cases cs with
    | nil =>
      cases h
      exact List.mem_reverse.2 ht
    | cons c rest =>
      cases hs : step c rest with
      | none =>
        simp only [run, hs] at h
        cases h
      | some found =>
        simp only [run, hs] at h
        exact ih h t (List.mem_cons_of_mem _ ht)

/-- **A text of plain tokens is balanced.** -/
theorem balanced_of_run {fuel : Nat} {done ts : List Token} {cs : List Char}
    (h : run fuel done cs = some ts) (hplain : ∀ t ∈ ts, t.Plain) : balanced false cs = true := by
  induction fuel generalizing done cs with
  | zero => cases h
  | succ fuel ih =>
    cases cs with
    | nil => rfl
    | cons c rest =>
      cases hs : step c rest with
      | none =>
        simp only [run, hs] at h
        cases h
      | some found =>
        simp only [run, hs] at h
        have ht := hplain found.1 (mem_of_run h found.1 List.mem_cons_self)
        rw [balanced_of_step hs ht]
        exact ih h

/-- Quiet characters are written as they are. -/
theorem quoteBody_of_quiet {cs : List Char} (h : ∀ c ∈ cs, Quiet c) :
    quoteBody '\'' .plain cs = cs := by
  induction cs with
  | nil => rfl
  | cons c cs ih =>
    have hc := h c List.mem_cons_self
    rw [quoteBody, if_neg hc.1, if_neg hc.2, ih fun d hd => h d (List.mem_cons_of_mem _ hd)]

end Lex

/-- A plain token other than a text is written without quotes and backslashes. -/
theorem Token.Plain.quiet_written {t : Token} (h : t.Plain) :
    (∃ cs, t = .text (String.ofList cs)) ∨ ∀ c ∈ t.written, Lex.Quiet c := by
  cases h with
  | text cs => exact .inl ⟨cs, rfl⟩
  | @word c part hc hpart =>
    refine .inr fun d hd => ?_
    simp only [Token.written, Token.ofWord, String.toList_ofList, List.mem_cons] at hd
    rcases hd with rfl | hd
    · exact Lex.quiet_of_isWordPart (Lex.isWordPart_of_isWordStart hc)
    · exact Lex.quiet_of_isWordPart (hpart d hd)
  | quoted hcs =>
    refine .inr fun d hd => ?_
    simp only [Token.written, Token.ofQuoted, String.toList_ofList, List.cons_append,
      List.mem_cons, List.mem_append, List.not_mem_nil, or_false] at hd
    rcases hd with rfl | hd | rfl
    · exact ⟨by decide, by decide⟩
    · exact Lex.quiet_of_isWordPart (hcs d hd)
    · exact ⟨by decide, by decide⟩
  | number hds =>
    refine .inr fun d hd => Lex.quiet_of_isDigit (hds d ?_)
    simpa [Token.written] using hd
  | point | equals | slash | comma | opening | closing | blank =>
    refine .inr fun d hd => ?_
    obtain rfl := List.mem_singleton.1 hd
    exact ⟨by decide, by decide⟩

/-! ### Templates -/

/-- A place in a template: a token that always stands there, or any one string. -/
inductive Slot where
  | fixed (t : Token)
  | literal
deriving DecidableEq

/-- The tokens that may stand in a place. -/
inductive Slot.Admits : Slot → Token → Prop where
  | fixed (t : Token) : Admits (.fixed t) t
  | literal (s : String) : Admits .literal (.text s)

/-- A lexeme without its value. -/
def Lexeme.slot : Lexeme → Slot
  | fixed t => .fixed t
  | value _ => .literal

/-- **A text fits a template** when its tokens are those of the template, one string in each place
that is left open. -/
def Fits (template : List Slot) (cs : List Char) : Prop :=
  ∃ ts, tokens cs = some ts ∧ List.Forall₂ Slot.Admits template ts

theorem Lexeme.admits_token (l : Lexeme) : l.slot.Admits l.token := by
  cases l with
  | fixed t => exact .fixed t
  | value v => exact .literal _

/-- What a lexeme without its value admits is plain. -/
theorem Lexeme.Plain.of_admits {l : Lexeme} (h : l.Plain) {t : Token} (ha : l.slot.Admits t) :
    t.Plain := by
  cases l with
  | fixed t =>
    cases ha
    exact h
  | value v =>
    cases ha with
    | literal s => exact String.ofList_toList (s := s) ▸ Token.Plain.text s.toList

theorem Lexeme.Sound.plain {ls : List Lexeme} (h : Sound ls) : ∀ l ∈ ls, l.Plain := by
  induction ls with
  | nil => exact List.forall_mem_nil _
  | cons l ls ih => exact List.forall_mem_cons.2 ⟨h.1, ih h.2.2⟩

/-- A value between its quotes. -/
theorem Lexeme.chars_value (v : String) (rest : List Char) :
    (value v).chars ++ rest = '\'' :: (quoteBody '\'' .plain v.toList ++ '\'' :: rest) := by
  simp [chars, stringLiteral, enclose]

/-- **A toggle that has been turned over stays so** to the end. -/
theorem balanced_true_text {ls : List Lexeme} (hp : ∀ l ∈ ls, l.Plain) :
    balanced true (text ls) = false := by
  rw [Bool.eq_false_iff]
  intro h
  induction ls with
  | nil => cases h
  | cons l ls ih =>
    refine ih (fun m hm => hp m (List.mem_cons_of_mem _ hm)) ?_
    rw [text, List.flatMap_cons] at h
    cases l with
    | fixed t =>
      rcases (hp _ List.mem_cons_self : t.Plain).quiet_written with ⟨cs, rfl⟩ | hquiet
      · simp only [chars, Token.written, List.cons_append, List.append_assoc, List.nil_append,
          balanced_quote, Bool.not_true] at h
        have hout := balanced_of_doubled h
        rwa [balanced_quote] at hout
      · rwa [chars, balanced_append hquiet] at h
    | value v =>
      rw [chars_value, balanced_quote] at h
      have hout := balanced_of_quoteBody (m := .plain) (by decide) h
      rwa [balanced_quote] at hout

/-- **In a balanced text every value stays between its quotes.** -/
theorem contained_of_balanced {ls : List Lexeme} (hp : ∀ l ∈ ls, l.Plain)
    (h : balanced false (text ls) = true) : ∀ l ∈ ls, l.Contained := by
  induction ls with
  | nil => exact List.forall_mem_nil _
  | cons l ls ih =>
    have hp' : ∀ m ∈ ls, m.Plain := fun m hm => hp m (List.mem_cons_of_mem _ hm)
    rw [text, List.flatMap_cons] at h
    cases l with
    | fixed t =>
      refine List.forall_mem_cons.2 ⟨trivial, ih hp' ?_⟩
      rcases (hp _ List.mem_cons_self : t.Plain).quiet_written with ⟨cs, rfl⟩ | hquiet
      · simpa [chars, Token.written, balanced_quote, balanced_doubled, text] using h
      · rwa [chars, balanced_append hquiet] at h
    | value v =>
      rw [chars_value, balanced_quote] at h
      by_cases hv : contained .plain v.toList = true
      · have hbody := quoteBody_eq_doubled hv
        rw [if_neg (by decide), List.nil_append] at hbody
        simp only [QuoteState.mode] at hbody
        rw [hbody, Bool.not_false, balanced_doubled, balanced_quote] at h
        exact List.forall_mem_cons.2 ⟨hv, ih hp' h⟩
      · have hout := balanced_quoteBody_of_not_contained (Bool.eq_false_iff.2 hv) h
        rw [balanced_quote] at hout
        exact absurd hout (Bool.eq_false_iff.1 (balanced_true_text hp'))

/-- **The text of sound lexemes fits their template exactly when every value is contained.** -/
theorem fits_iff_contained {ls : List Lexeme} (hs : Sound ls) :
    Fits (ls.map Lexeme.slot) (text ls) ↔ ∀ l ∈ ls, l.Contained := by
  constructor
  · rintro ⟨ts, hts, hfit⟩
    refine contained_of_balanced hs.plain (Lex.balanced_of_run hts fun t ht => ?_)
    have hplain := hs.plain
    rw [List.forall₂_map_left_iff] at hfit
    clear hs hts
    induction hfit with
    | nil => cases ht
    | @cons l t' ls ts ha _ ih =>
      rcases List.mem_cons.1 ht with rfl | ht
      · exact (hplain l List.mem_cons_self).of_admits ha
      · exact ih ht fun m hm => hplain m (List.mem_cons_of_mem _ hm)
  · intro hc
    refine ⟨_, tokens_eq_of_contained hs hc, ?_⟩
    rw [List.forall₂_map_left_iff, List.forall₂_map_right_iff, List.forall₂_same]
    exact fun l _ => l.admits_token

end SemanticLayer.Sql
