import SemanticLayer.Proofs.Sql.Names
import SemanticLayer.Sql.Statement

/-
# Reading operands

`IsOperand h xs e` says that the tokens `xs` are read as the operand `e`,
whatever follower comes behind them, wherever forms may be nested `h` levels
deep; `IsExpr h least xs e` says the same of an expression, behind which comes
nothing that binds more tightly than `least`.  An operand is such an
expression, and the forms with brackets are operands one level above the
expressions in them.
-/

namespace SemanticLayer.Sql

open Reader SemanticLayer.Sql.Inner

/-- The readers of forms in which forms may be nested so many levels deep. -/
def level (b d : Nat) : Inner := (Grammar.ofDepth b d).inner b

/-! ### Operators that may follow -/

/-- How tightly the followers bind, each of which is told by itself. -/
theorem bindings :
    (∀ t ∈ followers, t.isKeyword "NOT" = false ∧ t.isKeyword "AT" = false) ∧
      ∀ t ∈ enders, binding [t] = 0 := by
  decide

/-- No operator is more than one word but those that start with `NOT` or `AT`. -/
theorem binding_cons {t : Token} (hnot : t.isKeyword "NOT" = false) (hat : t.isKeyword "AT" = false)
    (rest : List Token) : binding (t :: rest) = binding [t] := by
  cases t with
  | word v q k =>
    cases q with
    | none =>
      simp only [Token.isKeyword] at hnot hat
      simp only [binding, hnot, hat]
      rfl
    | some q => rfl
  | _ => rfl

theorem binding_take {t : Token} (ht : t ∈ followers) (rest : List Token) :
    binding ((t :: rest).take 3) = binding [t] := by
  obtain ⟨hnot, hat⟩ := bindings.1 t ht
  rw [List.take_succ_cons, binding_cons hnot hat]

/-- What comes behind an expression is a follower that binds no more tightly than a number says. -/
def Ends (least : Nat) (rest : List Token) : Prop :=
  Follows followers rest ∧ ∀ t ∈ rest.head?, binding [t] ≤ least

theorem Ends.binding_le {least : Nat} {rest : List Token} (h : Ends least rest) :
    binding (rest.take 3) ≤ least := by
  cases rest with
  | nil => exact Nat.zero_le _
  | cons t rest =>
    rw [binding_take (h.1 t rfl)]
    exact h.2 t rfl

/-- What binds at all is an operator. -/
theorem Ends.follows {rest : List Token} (h : Ends 0 rest) : Follows enders rest := by
  have hnone : ∀ t ∈ followers, binding [t] ≤ 0 → t ∈ enders := by decide
  exact fun t ht => hnone t (h.1 t ht) (h.2 t ht)

theorem Follows.ends {rest : List Token} (h : Follows enders rest) (least : Nat) :
    Ends least rest := by
  refine ⟨h.mono (List.subset_append_right _ _), fun t ht => ?_⟩
  rw [bindings.2 t (h t ht)]
  exact Nat.zero_le _

/-! ### Operands and expressions -/

/-- The tokens `xs` are the operand `e`, before whatever follower. -/
structure IsOperand (h : Nat) (xs : List Token) (e : Expr) : Prop where
  reads {b d : Nat} {rest : List Token} (hd : h ≤ d) (hb : xs.length < b)
    (hrest : Follows followers rest) : Reads (operand (level b d) b) (xs ++ rest) e rest
  unnamed {rest : List Token} (hrest : Follows followers rest) : Unnamed (xs ++ rest)
  start (rest : List Token) : headIs (isAmong leadWords) (xs ++ rest) = false

/-- The tokens `xs` are the expression `e`, before whatever ends it. -/
structure IsExpr (h least : Nat) (xs : List Token) (e : Expr) : Prop where
  reads {b d : Nat} {rest : List Token} (hd : h ≤ d) (hb : xs.length < b)
    (hrest : Ends least rest) :
    Reads ((level b d).expression least) (xs ++ rest) e rest
  unnamed {rest : List Token} (hrest : Follows enders rest) : Unnamed (xs ++ rest)
  start (rest : List Token) : headIs (isAmong leadWords) (xs ++ rest) = false

section

variable {h least : Nat} {xs rest : List Token} {e : Expr}

/-- The operators end where nothing binds more tightly. -/
theorem reads_operators_end {i : Inner} {b : Nat} (hrest : Ends least rest) (hb : 0 < b) :
    Reads (operators i least b e) rest e rest := by
  obtain ⟨b, rfl⟩ : ∃ c, b = c + 1 := ⟨b - 1, by omega⟩
  exact (reads_ahead 3).bind (.ite_neg (Nat.not_lt.2 hrest.binding_le) (.pure e))

/-- **An operand is an expression.** -/
theorem IsOperand.isExpr (he : IsOperand h xs e) : IsExpr h least xs e where
  reads hd hb hrest :=
    (he.reads hd hb hrest.1).bind (reads_operators_end hrest (Nat.zero_lt_of_lt hb))
  unnamed hrest := he.unnamed (hrest.mono (List.subset_append_right _ _))
  start := he.start

/-- Expressions that are nested are read one level deeper. -/
theorem IsExpr.reads_nested (he : IsExpr h least xs e) {b d : Nat} (hd : h < d) (hb : xs.length < b)
    (hrest : Ends least rest) : Reads ((level b d).expr least) (xs ++ rest) e rest := by
  obtain ⟨d, rfl⟩ : ∃ c, d = c + 1 := ⟨d - 1, by omega⟩
  exact he.reads (Nat.le_of_lt_succ hd) hb hrest

theorem IsExpr.reads_whole (he : IsExpr h 0 xs e) {b d : Nat} (hd : h < d) (hb : xs.length < b)
    (hrest : Follows enders rest) : Reads (level b d).whole (xs ++ rest) e rest :=
  he.reads_nested hd hb (hrest.ends 0)

/-- An operand that is no literal with its type before it. -/
theorem reads_operand {i : Inner} {b : Nat} (hb : 0 < b)
    (htyped : ∀ r, Refuses (i.typedLiteral r) xs)
    (hinterval : headIs (·.isKeyword "INTERVAL") xs = false)
    (hplain : Reads i.plainOperand xs e rest)
    (hrest : Follows followers rest) : Reads (operand i b) xs e rest := by
  obtain ⟨b, rfl⟩ : ∃ c, b = c + 1 := ⟨b - 1, by omega⟩
  have hcollate : headIs (·.isKeyword "COLLATE") rest = false :=
    hrest.sees_not (by simp [furtherWords])
  refine (htyped _).attempt_refuses.bind (.bind_false (reads_takes_not hinterval) ?_)
  exact hplain.bind (.bind_false (reads_takes_not hcollate) (.pure e))

/-- A word that starts a form of its own, but no type. -/
theorem reads_operand_word {i : Inner} {b : Nat} {n : Name} {o : Option (TypeName × List Token)}
    (hb : 0 < b) (hbudget : 0 < i.budget) (hword : n.keyword ∉ typeWords)
    (hnamed : Yields (TypeName.named i.budget) (n.token :: xs) o)
    (ho : ∀ t rest, o = some (t, rest) →
      (∃ path modifiers, t = .custom path modifiers) ∧ headIs (isSymbol "[") rest = false)
    (hoperand : Reads (i.wordOperand n.keyword n) xs e rest) (hrest : Follows followers rest) :
    Reads (operand i b) (n.token :: xs) e rest := by
  have hinterval : n.token.isKeyword "INTERVAL" = false :=
    n.not_isKeyword fun hk => hword (by simp [hk, typeWords])
  exact reads_operand hb (fun r => refuses_typedLiteral hbudget hword hnamed ho) hinterval
    (reads_peek.bind (reads_skip.bind hoperand)) hrest

/-! ### Names and literals -/

/-- **A path of names is read as a column,** if its first word is not taken. -/
theorem isOperand_path {n : Name} (hn : n.Free) (path : List Name) :
    IsOperand 0 (between "." ((n :: path).map fun m => [m.token])) (.column (n :: path)) where
  reads {b d rest} _ hb hrest := by
    have hdot : headIs (isSymbol ".") rest = false :=
      hrest.seesSymbol_not (by simp [furtherSymbols])
    have hopen : headIs (isSymbol "(") rest = false :=
      hrest.seesSymbol_not (by simp [furtherSymbols])
    have hmark : headIs (isSymbol "[") rest = false :=
      hrest.seesSymbol_not (by simp [furtherSymbols])
    have hlen : path.length < b := by
      rw [between_dots, List.length_cons, length_dots] at hb
      omega
    have hnamed := reads_namedType (b := b) (List.cons_ne_nil n path) hlen hdot hopen
    rw [between_dots, List.cons_append] at hnamed ⊢
    refine reads_operand_word (Nat.zero_lt_of_lt hb)
      (Nat.zero_lt_of_lt hb) hn.type hnamed ?_ ?_ hrest
    · rintro t rest ⟨⟩
      exact ⟨⟨_, _, rfl⟩, hmark⟩
    · refine yields_wordOperand hn.form (fun t ht => ?_)
        (reads_namedColumn (Nat.le_of_lt hlen) hdot hopen)
      cases path with
      | nil => exact isWordOrSymbol_of_mem_followers t (hrest t ht)
      | cons m path =>
        obtain rfl := Option.some.inj ht
        rfl
  unnamed := unnamed_path (List.cons_ne_nil _ _)
  start rest := by
    rw [between_dots]
    exact n.not_isAmong hn.lead

/-- Only a word starts a type. -/
theorem isOperand_value {t : Token} (hword : ∀ v q k, t ≠ .word v q k)
    (hsymbol : ∀ s, t ≠ .symbol s)
    (hvalue : ∀ rest, Reads value (t :: rest) e rest) : IsOperand 0 [t] e where
  reads {b d rest} _ hb hrest := by
    obtain ⟨c, rfl⟩ : ∃ c, b = c + 1 := ⟨b - 1, by omega⟩
    have htyped : ∀ r, Refuses ((level (c + 1) d).typedLiteral r) (t :: rest) := by
      refine fun r => .bind_refuses (Yields.bind_refuses (reads_peek.bind ?_))
      cases t with
      | word v q k => exact absurd rfl (hword v q k)
      | _ => exact .failure
    have hinterval : headIs (·.isKeyword "INTERVAL") (t :: rest) = false := by
      cases t with
      | word v q k => exact absurd rfl (hword v q k)
      | _ => rfl
    refine reads_operand (Nat.succ_pos c) htyped hinterval (reads_peek.bind ?_) hrest
    cases t with
    | word v q k => exact absurd rfl (hword v q k)
    | symbol s => exact absurd rfl (hsymbol s)
    | _ => exact hvalue rest
  unnamed {rest} hrest := by
    refine unnamed_of_not_dot ?_ (hrest.seesSymbol_not (by simp [furtherSymbols]))
      (hrest.seesSymbol_not (by simp [furtherSymbols]))
    cases t with
    | symbol s => exact absurd rfl (hsymbol s)
    | _ => rfl
  start rest := by
    cases t with
    | word v q k => exact absurd rfl (hword v q k)
    | _ => rfl

theorem isOperand_number (digits : String) (long : Bool) :
    IsOperand 0 [.number digits long] (.number digits long) :=
  isOperand_value nofun nofun fun _ => reads_next.bind (.pure _)

theorem isOperand_text (v : String) : IsOperand 0 [.text v] (.text v) :=
  isOperand_value nofun nofun fun _ => reads_next.bind (.pure _)

/-- The words that start forms and calls in compiled statements are no types. -/
theorem formWords_free :
    (∀ w ∈ ["NULL", "CAST", "NOT", "SUM", "AVG", "COUNT", "COALESCE", "NULLIF"],
      (Name.bare w).token = kw w ∧ (Name.bare w).keyword = w ∧ w ∉ typeWords) ∧
      ∀ w ∈ ["SUM", "AVG", "COUNT", "COALESCE", "NULLIF"], w ∉ operandWords := by
  decide

theorem not_isAmong_kw (w : String)
    (h : w ∈ ["SUM", "AVG", "COUNT", "COALESCE", "NULLIF"] ++ ["NULL", "CAST", "NOT", "DATE"]) :
    isAmong leadWords (kw w) = false := by
  revert w
  decide

theorem isOperand_null : IsOperand 0 [kw "NULL"] .null where
  reads {b d rest} _ hb hrest := by
    have hdot : headIs (isSymbol ".") rest = false :=
      hrest.seesSymbol_not (by simp [furtherSymbols])
    have hopen : headIs (isSymbol "(") rest = false :=
      hrest.seesSymbol_not (by simp [furtherSymbols])
    have hmark : headIs (isSymbol "[") rest = false :=
      hrest.seesSymbol_not (by simp [furtherSymbols])
    obtain ⟨htoken, hkeyword, htype⟩ := formWords_free.1 "NULL" (by simp)
    have hnamed :=
      reads_namedType (b := b) (List.cons_ne_nil (Name.bare "NULL") []) (Nat.le_of_lt hb)
      hdot hopen
    rw [← htoken]
    refine reads_operand_word (Nat.zero_lt_of_lt hb) (Nat.zero_lt_of_lt hb) (by rwa [hkeyword])
      hnamed ?_ ?_ hrest
    · rintro t rest ⟨⟩
      exact ⟨⟨_, _, rfl⟩, hmark⟩
    · have hform : (level b d).keywordOperand "NULL" (.bare "NULL") = some (pure .null) := by
        simp [keywordOperand]
      rw [hkeyword, wordOperand, hform]
      exact .pure Expr.null
  unnamed {rest} hrest := unnamed_of_not_dot rfl (hrest.seesSymbol_not (by simp [furtherSymbols]))
    (hrest.seesSymbol_not (by simp [furtherSymbols]))
  start _ := not_isAmong_kw "NULL" (by simp)

/-- A standard type before the bracket that closes what it is in. -/
theorem reads_standardType {b : Nat} {k t : String} (hb : 0 < b) (hk : k ≠ "INTERVAL" ∧ k ≠ "ARRAY")
    (hkeyword : Reads (TypeName.ofKeyword b k) xs (some t) rest)
    (hmark : headIs (isSymbol "[") rest = false) :
    Reads (TypeName.read b) (kw k :: xs) (.standard t) rest := by
  obtain ⟨b, rfl⟩ : ∃ c, b = c + 1 := ⟨b - 1, by omega⟩
  have hinterval : ¬ (k == "INTERVAL") = true := fun h => hk.1 (beq_iff_eq.1 h)
  have harray : ¬ ((none : Option Char).isNone = true ∧ (k == "ARRAY") = true) :=
    fun h => hk.2 (beq_iff_eq.1 h.2)
  have helement : Reads (TypeName.element (b + 1) k) (kw k :: xs) (.standard t) rest :=
    .ite_neg hinterval (.get_bind fun ts _ => reads_skip.bind (hkeyword.bind (.pure _)))
  have hmarks : Reads (many TypeName.arrayMark (b + 1)) rest [] rest :=
    (reads_arrayMark_not hmark).bind (.pure [])
  have hpart : Reads (TypeName.part (b + 1) (b + 1)) (kw k :: xs) (.standard t, false) rest :=
    reads_peek.bind (.ite_neg harray (helement.bind (.bind (.pure _) (hmarks.bind (.pure _)))))
  exact hpart.bind (.ite_neg Bool.false_ne_true (.pure _))

/-- **A date is read as a literal with its type before it.** -/
theorem isOperand_date (value : String) :
    IsOperand 0 [kw "DATE", .text value] (.typed "DATE" value) where
  reads {b d rest} _ hb hrest := by
    obtain ⟨b, rfl⟩ : ∃ c, b = c + 1 := ⟨b - 1, by omega⟩
    have hcollate : headIs (·.isKeyword "COLLATE") rest = false :=
      hrest.sees_not (by simp [furtherWords])
    have hkeyword : Reads (TypeName.ofKeyword (b + 1) "DATE") (.text value :: rest) (some "DATE")
        (.text value :: rest) := by
      have hlookup : TypeName.plain.lookup "DATE" = some "DATE" := by decide
      rw [TypeName.ofKeyword, hlookup]
      exact .pure _
    have htype := reads_standardType (Nat.succ_pos b) (by decide) hkeyword rfl
    have htyped : ∀ r, Reads ((level (b + 1) d).typedLiteral r) (kw "DATE" :: .text value :: rest)
        (.typed "DATE" value) rest :=
      fun r => htype.bind ((reads_next.bind (.pure value)).bind (.pure _))
    exact (htyped _).attempt.bind (.pure _)
  unnamed _ := unnamed_of_not_dot rfl rfl rfl
  start _ := not_isAmong_kw "DATE" (by simp)

/-! ### Forms with brackets -/

/-- A word with a symbol behind it that ends nothing in a list of words. -/
def Opens (xs : List Token) : Prop :=
  ∃ (n : Name) (s : String) (more : List Token), xs = n.token :: .symbol s :: more ∧ s ∉ [",", ")"]

/-- What stands in the brackets of a form is no list of words. -/
theorem reads_operand_form {i : Inner} {b : Nat} {w : String} (hb : 0 < b) (hbudget : 1 < i.budget)
    (hw : w ∈ ["NULL", "CAST", "NOT", "SUM", "AVG", "COUNT", "COALESCE", "NULLIF"]) (hxs : Opens xs)
    (hoperand : Reads (i.wordOperand w (.bare w)) (.symbol "(" :: xs) e rest)
    (hrest : Follows followers rest) : Reads (operand i b) (kw w :: .symbol "(" :: xs) e rest := by
  obtain ⟨n, s, more, rfl, hs⟩ := hxs
  obtain ⟨htoken, hkeyword, htype⟩ := formWords_free.1 w hw
  rw [← htoken]
  exact reads_operand_word hb (Nat.zero_lt_of_lt hbudget) (by rwa [hkeyword])
    (refuses_namedType hbudget hs) nofun (by rwa [hkeyword]) hrest

theorem Opens.append (h : Opens xs) (ys : List Token) : Opens (xs ++ ys) := by
  obtain ⟨n, s, more, rfl, hs⟩ := h
  exact ⟨n, s, more ++ ys, rfl, hs⟩

theorem Opens.between (h : Opens xs) (xss : List (List Token)) (ys : List Token) :
    Opens (Reader.between "," (xs :: xss) ++ ys) := by
  cases xss with
  | nil => exact h.append ys
  | cons xs' xss => exact (h.append _).append ys

/-- **A cast is read** as its type is, one level above its expression. -/
theorem isOperand_cast {y : List Token} {t : TypeName} (he : IsExpr h 0 xs e) (hxs : Opens xs)
    (htype : ∀ {b rest}, y.length < b →
      Reads (TypeName.read b) (y ++ .symbol ")" :: rest) t (.symbol ")" :: rest)) :
    IsOperand (h + 1) (kw "CAST" :: .symbol "(" :: (xs ++ kw "AS" :: (y ++ [.symbol ")"])))
      (.cast (.call "CAST") e t.text "") where
  reads {b d rest} hd hb hrest := by
    simp only [List.length_cons, List.length_append] at hb
    have has : Follows enders (kw "AS" :: (y ++ .symbol ")" :: rest)) := .cons (by simp [enders])
    have hexpr := he.reads_whole (b := b) hd (by omega) has
    have hcast : Reads ((level b d).castOf "CAST")
        (.symbol "(" :: (xs ++ kw "AS" :: (y ++ .symbol ")" :: rest)))
        (.cast (.call "CAST") e t.text "") rest := by
      refine reads_bracketed (hexpr.bind ((reads_keyword (isKeyword_kw "AS")).bind
        ((htype (b := b) (by omega)).bind ?_)))
      exact .bind_false (reads_takes_not rfl) (.bind (.pure "") (.pure _))
    have hform : (level b d).keywordOperand "CAST" (.bare "CAST") =
        some ((level b d).castOf "CAST") := by
      simp [keywordOperand]
    have hoperand : Reads ((level b d).wordOperand "CAST" (.bare "CAST"))
        (.symbol "(" :: (xs ++ kw "AS" :: (y ++ .symbol ")" :: rest)))
        (.cast (.call "CAST") e t.text "") rest := by
      rw [wordOperand, hform]
      exact hcast
    simp only [List.cons_append, List.append_assoc, List.nil_append]
    have hbudget : 1 < b := by omega
    exact reads_operand_form (by omega) hbudget (by simp) (hxs.append _) hoperand hrest
  unnamed _ := unnamed_of_not_dot rfl rfl rfl
  start _ := not_isAmong_kw "CAST" (by simp)

theorem reads_dateType {b : Nat} {rest : List Token} (hb : [kw "DATE"].length < b) :
    Reads (TypeName.read b) ([kw "DATE"] ++ .symbol ")" :: rest) (.standard "DATE")
      (.symbol ")" :: rest) := by
  have hkeyword : Reads (TypeName.ofKeyword b "DATE") (.symbol ")" :: rest) (some "DATE")
      (.symbol ")" :: rest) := by
    have hlookup : TypeName.plain.lookup "DATE" = some "DATE" := by decide
    rw [TypeName.ofKeyword, hlookup]
    exact .pure _
  exact reads_standardType (Nat.zero_lt_of_lt hb) (by decide) hkeyword rfl

theorem reads_doubleType {b : Nat} {rest : List Token}
    (hb : [kw "DOUBLE", kw "PRECISION"].length < b) :
    Reads (TypeName.read b) ([kw "DOUBLE", kw "PRECISION"] ++ .symbol ")" :: rest)
      (.standard "DOUBLE PRECISION") (.symbol ")" :: rest) := by
  have hphrase : Reads (phrase ["PRECISION"]) (kw "PRECISION" :: .symbol ")" :: rest) " PRECISION"
      (.symbol ")" :: rest) :=
    .bind_true (reads_takesAll ["PRECISION"]) (.pure _)
  have hkeyword : Reads (TypeName.ofKeyword b "DOUBLE") (kw "PRECISION" :: .symbol ")" :: rest)
      (some "DOUBLE PRECISION") (.symbol ")" :: rest) := by
    have hlookup : TypeName.plain.lookup "DOUBLE" = none := by decide
    have hdouble : TypeName.ofKeyword b "DOUBLE" = do
        return some ("DOUBLE" ++ (← phrase ["PRECISION"])) := by
      rw [TypeName.ofKeyword, hlookup]
      simp [TypeName.sized, TypeName.whole]
    rw [hdouble]
    exact hphrase.bind (.pure _)
  exact reads_standardType (Nat.zero_lt_of_lt hb) (by decide) hkeyword rfl

/-- Nothing more is said about a call. -/
theorem reads_callSuffix {i : Inner} (hrest : Follows followers rest) :
    Reads i.callSuffix rest [.word ""] rest := by
  refine .bind_false (reads_takesAll_not (hrest.sees_not (by simp [furtherWords])))
    (.bind (.pure []) ?_)
  refine .bind_false (reads_takes_not (hrest.sees_not (by simp [furtherWords])))
    (.bind (.pure []) ?_)
  refine (reads_takesOneOf_not (hrest.seesOneOf_not (by simp [furtherWords]))).bind
    (.bind (.pure "") ?_)
  exact .bind_false (reads_takes_not (hrest.sees_not (by simp [furtherWords])))
    (.bind (.pure []) (.pure _))

/-- A list starts as its first element does. -/
theorem start_between (hxs : ∀ rest, headIs (isAmong leadWords) (xs ++ rest) = false)
    (xss : List (List Token)) (ys : List Token) :
    headIs (isAmong leadWords) (between "," (xs :: xss) ++ ys) = false := by
  cases xss with
  | nil => exact hxs ys
  | cons xs' xss =>
    rw [between_cons_cons, List.append_assoc]
    exact hxs _

/-- An argument without a name. -/
theorem reads_argument {b d : Nat} (hd : h < d) (he : IsExpr h 0 xs e) (hb : xs.length < b)
    (hrest : Follows enders rest) : Reads (level b d).argument (xs ++ rest) e rest := by
  have hunnamed := he.unnamed hrest
  have harrow : (((xs ++ rest).take 2).drop 1).any (isSymbol "=>") = false := by
    rw [← hunnamed.arrow]
    rcases xs ++ rest with _ | ⟨t, _ | ⟨s, more⟩⟩ <;> simp [headIs]
  have hstarred : Reads (level b d).starOrExpr (xs ++ rest) e rest :=
    (hunnamed.star _).attempt_refuses.bind (he.reads_whole hd hb hrest)
  exact (reads_ahead 2).bind (.ite_neg (by rw [harrow]; exact Bool.false_ne_true) hstarred)

/-- **Arguments are read up to the closing bracket.** -/
theorem reads_arguments {b d : Nat} {xss : List (List Token)} {es : List Expr} (hd : h < d)
    (he : IsExpr h 0 xs e) (hxs : Opens xs) (hes : List.Forall₂ (IsExpr h 0) xss es)
    (hb : (between "," (xs :: xss)).length < b) :
    Reads (level b d).arguments (between "," (xs :: xss) ++ .symbol ")" :: rest) ("", e :: es, [])
      rest := by
  have hlist : Reads (list b (level b d).argument)
      (between "," (xs :: xss) ++ .symbol ")" :: rest) (e :: es) (.symbol ")" :: rest) := by
    refine reads_list (s := enders) (by simp [enders]) ?_ hb (List.cons_ne_nil _ _)
      (.cons (by simp [enders])) rfl
    exact (List.Forall₂.cons he hes).imp fun _ _ he _ => reads_argument hd he
  obtain ⟨n, s, more, hopens, -⟩ := hxs.between xss (.symbol ")" :: rest)
  have hstart := start_between he.start xss (.symbol ")" :: rest)
  rw [hopens] at hlist hstart ⊢
  have hnot : ∀ k ∈ leadWords,
      headIs (·.isKeyword k) (n.token :: .symbol s :: more) = false :=
    fun k hk => not_isKeyword_of_not_isAmong hk hstart
  have hquantifier :
      Reads quantifier (n.token :: .symbol s :: more) "" (n.token :: .symbol s :: more) :=
    (reads_takes_not (hnot "ALL" (by simp [leadWords]))).bind
      ((reads_takes_not (hnot "DISTINCT" (by simp [leadWords]))).bind (.ite_neg nofun (.pure "")))
  refine .bind_false (reads_takesSymbol_not rfl) (hquantifier.bind (hlist.bind ?_))
  have horder : Reads (level b d).orderBy (.symbol ")" :: rest) [] (.symbol ")" :: rest) :=
    .bind_false (reads_takesAll_not rfl) (.pure [])
  have hoverflow : Reads (level b d).onOverflow (.symbol ")" :: rest) [] (.symbol ")" :: rest) :=
    .bind_false (reads_takesAll_not rfl) (.pure [])
  exact horder.bind ((reads_whenTakes_not rfl).bind (hoverflow.bind (reads_symbol.bind (.pure _))))

/-- **A call is read** one level above its arguments. -/
theorem isOperand_call {f : String} (hf : f ∈ ["SUM", "AVG", "COUNT", "COALESCE", "NULLIF"])
    {xss : List (List Token)} {es : List Expr} (he : IsExpr h 0 xs e) (hxs : Opens xs)
    (hes : List.Forall₂ (IsExpr h 0) xss es) :
    IsOperand (h + 1) (kw f :: .symbol "(" :: (between "," (xs :: xss) ++ [.symbol ")"]))
      (.call [.bare f] "" (e :: es) [] [.word ""]) where
  reads {b d rest} hd hb hrest := by
    simp only [List.length_cons, List.length_append] at hb
    have hcall : Reads ((level b d).call [.bare f])
        (.symbol "(" :: (between "," (xs :: xss) ++ .symbol ")" :: rest))
        (.call [.bare f] "" (e :: es) [] [.word ""]) rest :=
      reads_symbol.bind ((reads_arguments hd he hxs hes (by omega)).bind
        ((reads_callSuffix hrest).bind (.pure _)))
    have hoperand := yields_wordOperand (formWords_free.2 f hf) (by rintro t ⟨⟩; rfl)
      (yields_namedCall hcall)
    simp only [List.cons_append, List.append_assoc, List.nil_append]
    have hbudget : 1 < b := by omega
    exact reads_operand_form (by omega) hbudget (List.mem_cons_of_mem _ (List.mem_cons_of_mem _
      (List.mem_cons_of_mem _ hf))) (hxs.between _ _) hoperand hrest
  unnamed _ := unnamed_of_not_dot rfl rfl rfl
  start _ := not_isAmong_kw f (List.mem_append_left _ hf)

/-! ### Queries in brackets -/

/-- The tokens `xs` are the query `q`, before the bracket that closes it. -/
def IsQuery (h : Nat) (xs : List Token) (q : Query) : Prop :=
  ∀ ⦃b d : Nat⦄ ⦃rest : List Token⦄, h ≤ d → xs.length < b →
    Reads (Grammar.queryAbove (level b d)) (xs ++ .symbol ")" :: rest) q (.symbol ")" :: rest)

theorem IsQuery.reads_nested {q : Query} (hq : IsQuery h xs q) {b d : Nat} (hd : h < d)
    (hb : xs.length < b) :
    Reads (level b d).query (xs ++ .symbol ")" :: rest) q (.symbol ")" :: rest) := by
  obtain ⟨d, rfl⟩ : ∃ c, d = c + 1 := ⟨d - 1, by omega⟩
  exact hq (Nat.le_of_lt_succ hd) hb

theorem isOperand_notExist {q : Query} (hq : IsQuery h xs q) :
    IsOperand (h + 1) (kw "NOT" :: kw "EXISTS" :: .symbol "(" :: (xs ++ [.symbol ")"]))
      (.exist true q)
    where
  reads {b d rest} hd hb hrest := by
    simp only [List.length_cons, List.length_append] at hb
    obtain ⟨htoken, hkeyword, htype⟩ := formWords_free.1 "NOT" (by simp)
    have hform : (level b d).keywordOperand "NOT" (.bare "NOT") = some do
        if ← takes "EXISTS" then return .exist true (← (level b d).subquery)
        return .unary "NOT " (← (level b d).expr 30) := by
      simp [keywordOperand]
    have hquery : Reads (level b d).subquery (.symbol "(" :: (xs ++ .symbol ")" :: rest)) q rest :=
      reads_bracketed (hq.reads_nested (by omega) (by omega))
    have hnamed : Reads (TypeName.named b)
        ((Name.bare "NOT").token :: kw "EXISTS" :: .symbol "(" :: (xs ++ .symbol ")" :: rest))
        (.custom [.bare "NOT"] []) (kw "EXISTS" :: .symbol "(" :: (xs ++ .symbol ")" :: rest)) :=
      reads_namedType (List.cons_ne_nil (Name.bare "NOT") []) (by simp; omega) rfl rfl
    simp only [List.cons_append, List.append_assoc, List.nil_append]
    rw [← htoken]
    refine reads_operand_word (by omega) (Nat.zero_lt_of_lt hb)
      (by rwa [hkeyword]) hnamed ?_ ?_ hrest
    · rintro t rest ⟨⟩
      exact ⟨⟨_, _, rfl⟩, rfl⟩
    · rw [hkeyword, wordOperand, hform]
      exact .bind_true (reads_takes (isKeyword_kw "EXISTS")) (hquery.bind (.pure _))
  unnamed _ := unnamed_of_not_dot rfl rfl rfl
  start _ := not_isAmong_kw "NOT" (by simp)

end

end SemanticLayer.Sql
