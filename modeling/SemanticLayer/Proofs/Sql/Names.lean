import SemanticLayer.Proofs.Sql.Visible
import SemanticLayer.Sql.Expression

/-
# Reading names

A path of names is read as a column, and a name before brackets as a call.
Both may be read in other ways, which are tried first:

| tried | what ends it |
| --- | --- |
| a literal with its type before it | a name of no standard type, or a symbol in its brackets |
| a form of its own | a first word that starts none |
| a `*` with qualifiers | the first token behind a name that is no dot, or a part that is no `*` |
| an argument by name | a second token that is no `=>` |

What comes behind a part of a statement is one of a few followers, none of
which any of the readers takes for more of the part.
-/

namespace SemanticLayer.Sql

open Reader SemanticLayer.Sql.Inner

/-! ### Followers -/

/-- The tokens that end an expression. -/
def enders : List Token :=
  [.symbol ",", .symbol ")", kw "AS", kw "FROM", kw "WHERE", kw "LEFT", kw "CROSS", kw "GROUP",
   kw "ORDER", kw "UNION", kw "ON"]

/-- The tokens that may stand behind an operand: operators and what ends an expression. -/
def followers : List Token :=
  [.symbol "=", .symbol "/", kw "AND", kw "IS", kw "IN", kw "BETWEEN"] ++ enders

/-- The next token is one of some tokens, if there is a next one. -/
def Follows (set rest : List Token) : Prop := ∀ t ∈ rest.head?, t ∈ set

theorem Follows.cons {s rest : List Token} {t : Token} (h : t ∈ s) : Follows s (t :: rest) := by
  rintro _ ⟨⟩
  exact h

theorem Follows.nil (set : List Token) : Follows set [] :=
  fun t ht => absurd ht (Option.not_mem_none t)

theorem Follows.mono {set set' rest : List Token} (h : Follows set rest) (hs : set ⊆ set') :
    Follows set' rest := fun t ht => hs (h t ht)

theorem Follows.headIs {set rest : List Token} {p : Token → Bool} (h : Follows set rest)
    (hp : ∀ t ∈ set, p t = false) : headIs p rest = false := by
  cases rest with
  | nil => rfl
  | cons t rest => exact hp t (h t rfl)

/-- Keywords that ask for more, and of which none is a follower. -/
def furtherWords : List String :=
  ["COLLATE", "ASC", "DESC", "NULLS", "LIMIT", "OFFSET", "FETCH", "FOR", "HAVING", "WINDOW",
   "QUALIFY", "LATERAL", "CLUSTER", "DISTRIBUTE", "SORT", "INTO", "PIVOT", "UNPIVOT", "GLOBAL",
   "OUTER", "ASOF", "NATURAL", "USING", "WITH", "WITHIN", "FILTER", "RESPECT", "IGNORE", "OVER",
   "INTERVAL", "FORMAT", "ORDINALITY"]

/-- Symbols that ask for more, and of which none is a follower. -/
def furtherSymbols : List String := [".", "(", "[", "=>", "*", ";"]

/-- **No follower asks for more.** -/
theorem followers_final : ∀ t ∈ followers,
    (∀ k ∈ furtherWords, t.isKeyword k = false) ∧ ∀ s ∈ furtherSymbols, isSymbol s t = false := by
  decide

namespace Follows

variable {rest : List Token} (h : Follows followers rest)
include h

theorem sees_not {k : String} (hk : k ∈ furtherWords) : Sql.headIs (·.isKeyword k) rest = false :=
  h.headIs fun t ht => (followers_final t ht).1 k hk

theorem seesSymbol_not {s : String} (hs : s ∈ furtherSymbols) :
    Sql.headIs (isSymbol s) rest = false := h.headIs fun t ht => (followers_final t ht).2 s hs

theorem seesOneOf_not {ks : List String} (hks : ∀ k ∈ ks, k ∈ furtherWords) :
    Sql.headIs (isAmong ks) rest = false := by
  refine h.headIs fun t ht => Bool.eq_false_iff.2 fun hk => ?_
  unfold isAmong at hk
  split at hk
  · have hfinal := (followers_final _ ht).1 _ (hks _ (List.contains_iff_mem.1 hk))
    rw [Token.isKeyword, beq_self_eq_true] at hfinal
    cases hfinal
  · cases hk

end Follows

/-! ### Lists -/

theorem length_le_between {separator : String} {xs : List Token} {xss : List (List Token)}
    (h : xs ∈ xss) : xs.length ≤ (between separator xss).length := by
  fun_induction between separator xss with
  | case1 => cases h
  | case2 ys => exact Nat.le_of_eq (congrArg List.length (List.mem_singleton.1 h))
  | case3 ys yss _ ih =>
    rw [List.length_append, List.length_cons]
    rcases List.mem_cons.1 h with rfl | h
    · omega
    · have := ih h
      omega

theorem length_le_length_between (separator : String) (xss : List (List Token)) :
    xss.length ≤ (between separator xss).length + 1 := by
  fun_induction between separator xss with
  | case1 => exact Nat.zero_le _
  | case2 ys => simp
  | case3 ys yss _ ih =>
    rw [List.length_append, List.length_cons, List.length_cons]
    omega

/-- **A list is read element by element,** each before a comma or what follows the list. -/
theorem reads_list {α : Type} {b : Nat} {r : Reader α} {s : List Token} {xss : List (List Token)}
    {as : List α} {rest : List Token} (hcomma : .symbol "," ∈ s)
    (h : List.Forall₂ (fun xs a => ∀ rest, xs.length < b → Follows s rest →
      Reads r (xs ++ rest) a rest) xss as)
    (hb : (between "," xss).length < b) (hne : xss ≠ []) (hrest : Follows s rest)
    (hend : headIs (isSymbol ",") rest = false) :
    Reads (list b r) (between "," xss ++ rest) as rest := by
  have hlengths : ∀ xs ∈ xss, xs.length < b := fun xs hxs =>
    Nat.lt_of_le_of_lt (length_le_between hxs) hb
  refine reads_separated (F := Follows s) ?_ (fun _ => .cons hcomma) hrest hend hne
    (Nat.le_trans (length_le_length_between "," xss) hb)
  exact ((List.forall₂_and_left _ _).2 ⟨hlengths, h⟩).imp fun _ _ hxs rest => hxs.2 rest hxs.1

/-! ### Names that are no types -/

/-- The words that start a type. -/
def typeWords : List String :=
  TypeName.plain.map Prod.fst ++ TypeName.sized ++ TypeName.whole ++
    ["VARCHAR", "NVARCHAR", "CHARACTER", "CHAR", "NUMERIC", "DECIMAL", "DEC", "BIGNUMERIC",
     "BIGDECIMAL", "TIMESTAMP", "TIME", "DOUBLE", "DATETIME64", "FIXEDSTRING", "ENUM", "SET",
     "INTERVAL", "ARRAY"]

section

variable {b : Nat} {xs ys rest : List Token} {path : List Name} {k : String}

theorem reads_path (hne : path ≠ []) (hb : path.length ≤ b)
    (hrest : headIs (isSymbol ".") rest = false) :
    Reads (Reader.path b) (between "." (path.map fun n => [n.token]) ++ rest) path rest := by
  refine reads_separated (F := fun _ => True) ?_ (fun _ => trivial) trivial hrest (by simpa)
    (by simpa)
  exact List.forall₂_map_left_iff.2 (List.forall₂_same.2 fun n _ rest _ => reads_name rfl)

theorem reads_ofKeyword_none (h : k ∉ typeWords) : Reads (TypeName.ofKeyword b k) xs none xs := by
  simp only [typeWords, List.mem_append, not_or] at h
  obtain ⟨⟨⟨hplain, hsized⟩, hwhole⟩, hothers⟩ := h
  simp only [List.mem_cons, List.not_mem_nil, or_false, not_or] at hothers
  have hlookup : TypeName.plain.lookup k = none := by
    refine List.lookup_eq_none_iff.2 fun p hp => ?_
    exact bne_iff_ne.2 fun hk => hplain (List.mem_map.2 ⟨p, hp, hk.symm⟩)
  unfold TypeName.ofKeyword
  rw [hlookup]
  simp only [List.contains_iff_mem, hsized, hwhole, hothers, List.mem_cons, List.not_mem_nil,
    if_false, or_false, beq_iff_eq]
  exact .pure none

/-- A word that starts no type is read again, as the start of a name. -/
theorem yields_element {t : Token} {o : Option (TypeName × List Token)} (h : k ∉ typeWords)
    (hnamed : Yields (TypeName.named b) (t :: xs) o) :
    Yields (TypeName.element b k) (t :: xs) o := by
  have hinterval : ¬ (k == "INTERVAL") = true := fun hk => h (by simp [typeWords, beq_iff_eq.1 hk])
  refine .ite_neg hinterval (.get_bind fun ts hts => ?_)
  exact reads_skip.bind ((reads_ofKeyword_none h).bind (.set_bind hts hnamed))

theorem reads_arrayMark_not (h : headIs (isSymbol "[") rest = false) :
    Reads TypeName.arrayMark rest none rest :=
  .bind_false (reads_takesSymbol_not h) (.pure none)

/-- **What is a type of the database's own, if anything, starts no literal.** -/
theorem refuses_typedLiteral {i : Inner} {operand : Reader Expr} {v : String} {q : Option Char}
    {o : Option (TypeName × List Token)} (hb : 0 < i.budget) (h : k ∉ typeWords)
    (hnamed : Yields (TypeName.named i.budget) (.word v q k :: xs) o)
    (ho : ∀ t rest, o = some (t, rest) →
      (∃ path modifiers, t = .custom path modifiers) ∧ headIs (isSymbol "[") rest = false) :
    Refuses (i.typedLiteral operand) (.word v q k :: xs) := by
  have hword : ¬ (q.isNone = true ∧ (k == "ARRAY") = true) := fun hk =>
    h (by simp [typeWords, beq_iff_eq.1 hk.2])
  obtain ⟨b, hb⟩ : ∃ b, i.budget = b + 1 := ⟨i.budget - 1, by omega⟩
  have helement := yields_element h hnamed
  cases o with
  | none =>
    refine Yields.bind_refuses (.bind_refuses ?_)
    rw [hb] at helement ⊢
    exact reads_peek.bind (.ite_neg hword helement.bind_refuses)
  | some p =>
    obtain ⟨t, rest⟩ := p
    obtain ⟨⟨path, modifiers, rfl⟩, hmark⟩ := ho t rest rfl
    rw [hb] at helement
    have hpart : Reads (TypeName.part (b + 1) (b + 1)) (.word v q k :: xs)
        (.custom path modifiers, false) rest := by
      have hmarks : Reads (many TypeName.arrayMark (b + 1)) rest [] rest :=
        (reads_arrayMark_not hmark).bind (.pure [])
      exact reads_peek.bind
        (.ite_neg hword (helement.bind (.bind (.pure _) (hmarks.bind (.pure _)))))
    have hread :
        Reads (TypeName.read i.budget) (.word v q k :: xs) (.custom path modifiers) rest := by
      rw [TypeName.read, hb]
      exact hpart.bind (.ite_neg Bool.false_ne_true (.pure _))
    exact hread.bind .failure

/-- Names with dots between them are read as a type of the database's own. -/
theorem reads_namedType (hne : path ≠ []) (hb : path.length ≤ b)
    (hdot : headIs (isSymbol ".") rest = false) (hopen : headIs (isSymbol "(") rest = false) :
    Reads (TypeName.named b) (between "." (path.map fun n => [n.token]) ++ rest) (.custom path [])
      rest :=
  (reads_path hne hb hdot).bind (.bind_false (reads_takesSymbol_not hopen) (.pure _))

/-- What stands in the brackets of a type is made of words, numbers and texts. -/
theorem refuses_namedType {n m : Name} {s : String} (hb : 1 < b) (hs : s ∉ [",", ")"]) :
    Refuses (TypeName.named b) (n.token :: .symbol "(" :: m.token :: .symbol s :: xs) := by
  obtain ⟨b, rfl⟩ : ∃ c, b = c + 2 := ⟨b - 2, by omega⟩
  have hpath :
      Reads (Reader.path (b + 2)) (n.token :: .symbol "(" :: m.token :: .symbol s :: xs) [n]
        (.symbol "(" :: m.token :: .symbol s :: xs) :=
    (reads_name rfl).bind (.bind_false (reads_takesSymbol_not rfl) (.pure _))
  have hmodifier : Refuses TypeName.modifier (.symbol s :: xs) := by
    simp only [List.mem_cons, List.not_mem_nil, or_false, not_or] at hs
    refine reads_next.bind (.ite_neg ?_ (.ite_neg ?_ .failure))
    · exact fun h => hs.1 (beq_iff_eq.1 h)
    · exact fun h => hs.2 (beq_iff_eq.1 h)
  have hmodifiers : Refuses (many TypeName.modifier (b + 2)) (m.token :: .symbol s :: xs) :=
    Yields.bind (reads_next.bind (.pure _)) (Yields.bind_refuses hmodifier.bind_refuses)
  exact hpath.bind (.bind_true reads_takesSymbol hmodifiers.bind_refuses)

/-! ### Words that name columns and functions -/

/-- The words that start an operand of a form of their own. -/
def operandWords : List String :=
  ["TRUE", "FALSE", "NULL", "CURRENT_CATALOG", "CURRENT_USER", "SESSION_USER", "USER",
   "CURRENT_TIMESTAMP", "CURRENT_TIME", "CURRENT_DATE", "LOCALTIME", "LOCALTIMESTAMP", "CASE",
   "CONVERT", "CAST", "TRY_CAST", "SAFE_CAST", "EXISTS", "EXTRACT", "CEIL", "FLOOR", "SUBSTRING",
   "OVERLAY", "TRIM", "NOT", "POSITION", "ARRAY"]

variable {i : Inner} {n : Name}

theorem keywordOperand_eq_none (h : k ∉ operandWords) : i.keywordOperand k n = none := by
  simp only [operandWords, List.mem_cons, List.not_mem_nil, or_false, not_or] at h
  simp only [keywordOperand, List.contains_iff_mem, List.mem_cons, List.not_mem_nil, or_false,
    beq_iff_eq, h, if_false]

/-- Whether a token is a word or a symbol. -/
def isWordOrSymbol : Token → Bool
  | .word _ _ _ => true
  | .symbol _ => true
  | _ => false

theorem isWordOrSymbol_of_mem_followers : ∀ t ∈ followers, isWordOrSymbol t = true := by decide

/-- **A word of no form of its own is the start of a name.** -/
theorem yields_wordOperand {o : Option (Expr × List Token)} (h : k ∉ operandWords)
    (hxs : ∀ t ∈ xs.head?, isWordOrSymbol t = true) (hnamed : Yields (i.named n) xs o) :
    Yields (i.wordOperand k n) xs o := by
  have hposition : ¬ (k == "POSITION") = true := fun hk =>
    h (by simp [operandWords, beq_iff_eq.1 hk])
  have harray : ¬ (k == "ARRAY") = true := fun hk => h (by simp [operandWords, beq_iff_eq.1 hk])
  rw [wordOperand, keywordOperand_eq_none h]
  refine .ite_neg hposition (.ite_neg harray ?_)
  by_cases hunder : n.value.startsWith "_" = true
  · refine .ite_pos hunder (reads_peek.bind ?_)
    rcases xs with _ | ⟨_ | _ | _ | _ | _ | _ | _ | _ | _, xs⟩
    case nil | cons.word | cons.symbol => exact hnamed
    all_goals exact absurd (hxs _ rfl) Bool.false_ne_true
  · exact .ite_neg hunder hnamed

/-- Names with dots between them: the first, then a dot before each other. -/
theorem between_dots (n : Name) (path : List Name) :
    between "." ((n :: path).map fun m => [m.token]) =
      n.token :: (path.map fun m => [.symbol ".", m.token]).flatten := by
  induction path generalizing n with
  | nil => rfl
  | cons m path ih =>
    have hsplit : between "." ((n :: m :: path).map fun m => [m.token]) =
        n.token :: .symbol "." :: between "." ((m :: path).map fun m => [m.token]) := rfl
    rw [hsplit, ih]
    rfl

theorem length_dots (path : List Name) :
    (path.map fun m => [.symbol ".", m.token]).flatten.length = 2 * path.length := by
  induction path with
  | nil => rfl
  | cons m path ih => simp [ih, Nat.mul_add]

/-- A column by its path, after the first part. -/
theorem reads_namedColumn (hb : path.length ≤ i.budget)
    (hdot : headIs (isSymbol ".") rest = false) (hopen : headIs (isSymbol "(") rest = false) :
    Reads (i.named n) ((path.map fun m => [.symbol ".", m.token]).flatten ++ rest)
      (.column (n :: path)) rest := by
  have hdotted : Reads (named.dotted) rest none rest :=
    Yields.attempt_refuses (refuses_symbol hdot).bind_refuses
  have hmany : Reads (many named.dotted i.budget)
      ((path.map fun m => [.symbol ".", m.token]).flatten ++ rest) path rest := by
    refine reads_many (F := fun _ => True) ?_ (fun _ _ _ => trivial) trivial hdotted (by simpa)
    refine List.forall₂_map_left_iff.2 (List.forall₂_same.2 fun m _ rest _ => ?_)
    exact Yields.attempt (reads_symbol.bind (reads_name rfl))
  refine hmany.bind (.bind_false (reads_takesSymbol_not hdot) ?_)
  refine (reads_seesSymbol "(").bind ?_
  rw [hopen]
  exact .pure _

/-- A function with its arguments, after its name. -/
theorem yields_namedCall {o : Option (Expr × List Token)}
    (h : Yields (i.call [n]) (.symbol "(" :: xs) o) : Yields (i.named n) (.symbol "(" :: xs) o := by
  have hdotted : Reads (named.dotted) (.symbol "(" :: xs) none (.symbol "(" :: xs) :=
    Yields.attempt_refuses (refuses_symbol rfl).bind_refuses
  have hmany : Reads (many named.dotted i.budget) (.symbol "(" :: xs) [] (.symbol "(" :: xs) := by
    cases i.budget with
    | zero => exact .pure []
    | succ b => exact hdotted.bind (.pure [])
  exact hmany.bind (.bind_false (reads_takesSymbol_not rfl) (.bind_true (reads_seesSymbol "(") h))

/-- The words that say something about the expressions behind them, or start a query. -/
def leadWords : List String :=
  ["ALL", "ANY", "DISTINCT", "ON", "TOP", "GROUPING", "CUBE", "ROLLUP", "SELECT", "WITH"]

/-- The words that start tables other than those of the database. -/
def tableWords : List String := ["LATERAL", "TABLE", "UNNEST", "JSON_TABLE"]

/-- A name that starts neither a type nor a form nor a table of its own. -/
structure Name.Free (n : Name) : Prop where
  type : n.keyword ∉ typeWords
  form : n.keyword ∉ operandWords
  lead : n.keyword ∉ leadWords
  table : n.keyword ∉ tableWords

/-- Names in quotes are no keywords. -/
theorem Name.free_quoted (v : String) : (Name.quoted v).Free := by
  have hfree : "" ∉ typeWords ∧ "" ∉ operandWords ∧ "" ∉ leadWords ∧ "" ∉ tableWords := by
    decide
  exact ⟨hfree.1, hfree.2.1, hfree.2.2.1, hfree.2.2.2⟩

theorem Name.not_isKeyword (n : Name) {k : String} (h : n.keyword ≠ k) :
    n.token.isKeyword k = false := by
  obtain ⟨v, q⟩ := n
  cases q with
  | none => exact beq_eq_false_iff_ne.2 h
  | some q => rfl

theorem Name.not_isAmong (n : Name) {ks : List String} (h : n.keyword ∉ ks) :
    isAmong ks n.token = false := by
  obtain ⟨v, q⟩ := n
  cases q with
  | none => exact Bool.eq_false_iff.2 fun hk => h (List.contains_iff_mem.1 hk)
  | some q => rfl

theorem not_isAmong_of_subset {ks ks' : List String} (hs : ks' ⊆ ks) {t : Token}
    (h : isAmong ks t = false) : isAmong ks' t = false := by
  cases t with
  | word v q k =>
    cases q with
    | none =>
      refine Bool.eq_false_iff.2 fun hk => ?_
      rw [isAmong, List.contains_iff_mem.2 (hs (List.contains_iff_mem.1 hk))] at h
      cases h
    | some q => rfl
  | _ => rfl

theorem headIs_of_imp {p p' : Token → Bool} (hp : ∀ t, p t = false → p' t = false)
    (h : headIs p xs = false) : headIs p' xs = false := by
  cases xs with
  | nil => rfl
  | cons t xs => exact hp t h

theorem not_isKeyword_of_not_isAmong {ks : List String} {k : String} (hk : k ∈ ks) {t : Token}
    (h : isAmong ks t = false) : t.isKeyword k = false := by
  cases t with
  | word v q k' =>
    cases q with
    | none =>
      refine beq_eq_false_iff_ne.2 fun hk' => ?_
      rw [isAmong, hk', List.contains_iff_mem.2 hk] at h
      cases h
    | some q => rfl
  | _ => rfl

/-! ### Tokens that are no `*` and no named argument -/

/-- Tokens that start neither a `*` with qualifiers nor an argument by name. -/
structure Unnamed (xs : List Token) : Prop where
  star (i : Inner) :
    Refuses (do if ← takesSymbol "*" then return [] else starOrExpr.qualifiers i) xs
  arrow : headIs (isSymbol "=>") xs.tail = false

theorem unnamed_of_not_dot {t : Token} (ht : isSymbol "*" t = false)
    (hdot : headIs (isSymbol ".") xs = false) (harrow : headIs (isSymbol "=>") xs = false) :
    Unnamed (t :: xs) := by
  refine ⟨fun i => .bind_false (reads_takesSymbol_not ht) ?_, harrow⟩
  cases hname : nameOf? t with
  | none => exact (refuses_name hname).bind_refuses
  | some n => exact (reads_name hname).bind (refuses_symbol hdot).bind_refuses

/-- However many qualifiers are taken off a path, a name is left. -/
theorem reads_qualifiers (n : Name) (path : List Name) (hdot : headIs (isSymbol ".") rest = false)
    (b : Nat) :
    ∃ taken m left, Reads
      (many (attempt do
        let n ← Reader.name
        symbol "."
        return n) b)
      (n.token :: (path.map fun m => [.symbol ".", m.token]).flatten ++ rest) taken
      (Name.token m :: left) := by
  induction b generalizing n path with
  | zero => exact ⟨[], n, _, .pure []⟩
  | succ b ih =>
    cases path with
    | nil =>
      refine ⟨[], n, rest, Yields.bind (Yields.attempt_refuses ?_) (.pure [])⟩
      exact (reads_name rfl).bind (refuses_symbol hdot).bind_refuses
    | cons m path =>
      obtain ⟨taken, m', left, hmany⟩ := ih m path
      refine ⟨n :: taken, m', left, Yields.bind (.attempt ?_) (hmany.bind (.pure _))⟩
      exact (reads_name rfl).bind (reads_symbol.bind (.pure n))

theorem unnamed_path (hne : path ≠ []) (hrest : Follows followers rest) :
    Unnamed (between "." (path.map fun n => [n.token]) ++ rest) := by
  have hdot : headIs (isSymbol ".") rest = false := hrest.seesSymbol_not (by simp [furtherSymbols])
  obtain ⟨n, path, rfl⟩ := List.exists_cons_of_ne_nil hne
  rw [between_dots]
  cases path with
  | nil => exact unnamed_of_not_dot rfl hdot (hrest.seesSymbol_not (by simp [furtherSymbols]))
  | cons m path =>
    refine ⟨fun i => .bind_false (reads_takesSymbol_not rfl) ?_, rfl⟩
    obtain ⟨taken, m', left, hmany⟩ := reads_qualifiers m path hdot i.budget
    exact (reads_name rfl).bind (reads_symbol.bind (hmany.bind (refuses_symbol rfl).bind_refuses))

end

end SemanticLayer.Sql
