import SemanticLayer.Proofs.Sql.Spelling

/-
# The lexemes of the syntax of compiled statements

For each form of syntax that compiled statements use there is the list of its
lexemes, made of those of its parts, and the lemma that the form spells it.
The words in between are the keywords, so a vocabulary has to hold those.
-/

namespace SemanticLayer.Sql

open Lexeme

/-- The keywords and the functions of compiled statements. -/
def fixedWords : List String :=
  ["WITH", "AS", "SELECT", "DISTINCT", "FROM", "WHERE", "GROUP", "ORDER", "BY", "VALUES", "UNION",
    "ALL", "LEFT", "CROSS", "JOIN", "ON", "AND", "IS", "NOT", "IN", "BETWEEN", "EXISTS", "NULL",
    "DATE", "CAST", "DOUBLE", "PRECISION", "COALESCE", "NULLIF", "SUM", "AVG", "COUNT"]

/-- Whether each token of fixed text is a keyword or no word at all. -/
def keywordsCheck (texts : List String) : Bool :=
  texts.all fun t => fixedWords.contains t || t == " " || Lex.plainSymbols.contains t ||
    t.toList.all Char.isDigit

/-- The fixed text of compiled statements, with its tokens. -/
inductive FixedText : String → List String → Prop where
  | blank : FixedText " " [" "]
  | opening : FixedText "(" ["("]
  | columns : FixedText " (" [" ", "("]
  | closing : FixedText ")" [")"]
  | as : FixedText " AS " [" ", "AS", " "]
  | operator {o : String} (h : o ∈ ["=", "/", "AND"]) : FixedText (" " ++ o ++ " ") [" ", o, " "]
  | notDistinct : FixedText (" IS" ++ renderNot true ++ " DISTINCT FROM ")
      [" ", "IS", " ", "NOT", " ", "DISTINCT", " ", "FROM", " "]
  | inList : FixedText (renderNot false ++ " IN (") [" ", "IN", " ", "("]
  | between : FixedText (renderNot false ++ " BETWEEN ") [" ", "BETWEEN", " "]
  | and : FixedText " AND " [" ", "AND", " "]
  | call {f : String} (h : f ∈ ["COALESCE", "NULLIF", "SUM", "AVG", "COUNT", "CAST"]) :
    FixedText (f ++ "(") [f, "("]
  | asDate : FixedText (" AS " ++ "DATE" ++ trail "" ++ ")") [" ", "AS", " ", "DATE", ")"]
  | asDouble : FixedText (" AS " ++ "DOUBLE PRECISION" ++ trail "" ++ ")")
      [" ", "AS", " ", "DOUBLE", " ", "PRECISION", ")"]
  | date : FixedText ("DATE" ++ " ") ["DATE", " "]
  | derived : FixedText ("" ++ "(") ["("]
  | derivedAs : FixedText (")" ++ " AS ") [")", " ", "AS", " "]
  | leftJoin : FixedText (" " ++ "LEFT JOIN" ++ " ") [" ", "LEFT", " ", "JOIN", " "]
  | crossJoin : FixedText (" " ++ "CROSS JOIN" ++ " ") [" ", "CROSS", " ", "JOIN", " "]
  | on : FixedText " ON " [" ", "ON", " "]
  | select : FixedText "SELECT " ["SELECT", " "]
  | distinct : FixedText (String.join (Part.texts [.word "DISTINCT "])) ["DISTINCT", " "]
  | source : FixedText " FROM " [" ", "FROM", " "]
  | condition : FixedText " WHERE " [" ", "WHERE", " "]
  | groupBy : FixedText " GROUP BY " [" ", "GROUP", " ", "BY", " "]
  | notExists : FixedText ("NOT " ++ "EXISTS (") ["NOT", " ", "EXISTS", " ", "("]
  | values : FixedText "VALUES " ["VALUES", " "]
  | unionAll : FixedText (" " ++ "UNION ALL" ++ " ") [" ", "UNION", " ", "ALL", " "]
  | definedAs : FixedText (" AS " ++ lead "" ++ "(") [" ", "AS", " ", "("]
  | withTables : FixedText "WITH " ["WITH", " "]
  | orderBy : FixedText " ORDER BY " [" ", "ORDER", " ", "BY", " "]

/-- Fixed text is made of keywords that may stand where they do. -/
theorem FixedText.checks {s : String} {texts : List String} (h : FixedText s texts) :
    s = String.join texts ∧ leadsCheck texts = true ∧ keywordsCheck texts = true := by
  cases h with
  | operator h =>
    simp only [List.mem_cons, List.not_mem_nil, or_false] at h
    rcases h with rfl | rfl | rfl <;> decide
  | call h =>
    simp only [List.mem_cons, List.not_mem_nil, or_false] at h
    rcases h with rfl | rfl | rfl | rfl | rfl | rfl <;> decide
  | _ => decide

/-! ### Forms of syntax as lexemes -/

section Forms

variable (e left right low high : List Lexeme)

def binaryLexemes (operator : String) : List Lexeme := left ++ lits [" ", operator, " "] ++ right

def distinctLexemes : List Lexeme :=
  left ++ lits [" ", "IS", " ", "NOT", " ", "DISTINCT", " ", "FROM", " "] ++ right

def inLexemes (values : List (List Lexeme)) : List Lexeme :=
  e ++ lits [" ", "IN", " ", "("] ++ commaLexemes values ++ lits [")"]

def betweenLexemes : List Lexeme :=
  e ++ lits [" ", "BETWEEN", " "] ++ low ++ lits [" ", "AND", " "] ++ high

/-- `type` holds the words of the type, with blanks between them. -/
def castLexemes (type : List String) : List Lexeme :=
  lits ["CAST", "("] ++ e ++ lits ([" ", "AS", " "] ++ type ++ [")"])

def callLexemes (function : String) (args : List (List Lexeme)) : List Lexeme :=
  lits [function, "("] ++ commaLexemes args ++ lits [")"]

def dateLexemes (text : String) : List Lexeme := lits ["DATE", " "] ++ [.fixed (.text text)]

def aliasedLexemes (name : Name) : List Lexeme := e ++ lits [" ", "AS", " "] ++ [name.lexeme]

end Forms

/-- A clause behind what comes before it, if there is one. -/
def clauseLexemes (ls : List Lexeme) (texts : List String) : Option (List Lexeme) → List Lexeme
  | none => ls
  | some clause => ls ++ lits texts ++ clause

/-- A name given to a table, and names given to its columns. -/
def Alias.lexemes (a : Alias) : List Lexeme :=
  if a.columns.isEmpty then [a.name.lexeme]
  else [a.name.lexeme] ++ lits [" ", "("] ++ commaLexemes (a.columns.map fun n => [n.lexeme]) ++
    lits [")"]

/-- A table with the name given to it. -/
def tableLexemes (name : List Name) (called : Option Name) : List Lexeme :=
  clauseLexemes (pathLexemes name) [" ", "AS", " "] (called.map fun n => [n.lexeme])

/-- The words that `words` holds, a table, and the condition of a join. -/
def joinLexemes (words : List String) (table : List Lexeme) (condition : Option (List Lexeme)) :
    List Lexeme :=
  clauseLexemes (lits (" " :: words) ++ table) [" ", "ON", " "] condition

/-- A block: whether it is `DISTINCT`, its items, its table, its condition and its groups. -/
def selectLexemes (distinct : Bool) (items : List (List Lexeme))
    (source condition : Option (List Lexeme)) (groups : List (List Lexeme)) : List Lexeme :=
  clauseLexemes
    (clauseLexemes
      (clauseLexemes
        (lits ["SELECT", " "] ++ lits (if distinct then ["DISTINCT", " "] else []) ++
          commaLexemes items)
        [" ", "FROM", " "] source)
      [" ", "WHERE", " "] condition)
    [" ", "GROUP", " ", "BY", " "] (if groups.isEmpty then none else some (commaLexemes groups))

def valuesLexemes (rows : List (List (List Lexeme))) : List Lexeme :=
  lits ["VALUES", " "] ++
    commaLexemes (rows.map fun row => lits ["("] ++ commaLexemes row ++ lits [")"])

def unionLexemes (left right : List Lexeme) : List Lexeme :=
  left ++ lits [" ", "UNION", " ", "ALL", " "] ++ right

def notExistLexemes (q : List Lexeme) : List Lexeme :=
  lits ["NOT", " ", "EXISTS", " ", "("] ++ q ++ lits [")"]

def tableDefLexemes (called q : List Lexeme) : List Lexeme :=
  called ++ lits [" ", "AS", " ", "("] ++ q ++ lits [")"]

/-- Defined tables, a body, and the terms that it is ordered by. -/
def queryLexemes (tables : List (List Lexeme)) (body : List Lexeme) (order : List (List Lexeme)) :
    List Lexeme :=
  lits ["WITH", " "] ++ commaLexemes tables ++ lits [" "] ++ body ++
    lits [" ", "ORDER", " ", "BY", " "] ++ commaLexemes order

/-! ### Lists of texts -/

theorem Expr.texts_eq_map (es : List Expr) : Expr.texts es = es.map Expr.render := by
  induction es with
  | nil => rfl
  | cons e es ih =>
    rw [List.map_cons, ← ih]
    rfl

theorem Expr.orderTexts_eq_map (es : List Expr) :
    Expr.orderTexts (es.map fun e => (e, "")) = es.map Expr.render := by
  induction es with
  | nil => rfl
  | cons e es ih =>
    have hcons : Expr.orderTexts ((e :: es).map fun e => (e, "")) =
        (e.render ++ "") :: Expr.orderTexts (es.map fun e => (e, "")) := rfl
    rw [hcons, ih, String.append_empty, List.map_cons]

theorem Expr.rowTexts_eq_map (rows : List (List Expr)) :
    Expr.rowTexts "" rows = rows.map fun es => "(" ++ commas (es.map Expr.render) ++ ")" := by
  induction rows with
  | nil => rfl
  | cons es rows ih =>
    have hcons : Expr.rowTexts "" (es :: rows) =
        ("" ++ "(" ++ commas (Expr.texts es) ++ ")") :: Expr.rowTexts "" rows := rfl
    rw [hcons, ih, Expr.texts_eq_map, String.empty_append, List.map_cons]

theorem Item.texts_eq_map (items : List Item) : Item.texts items = items.map Item.render := by
  induction items with
  | nil => rfl
  | cons i items ih =>
    rw [List.map_cons, ← ih]
    rfl

theorem Join.texts_eq_map (joins : List Join) : Join.texts joins = joins.map Join.render := by
  induction joins with
  | nil => rfl
  | cons j joins ih =>
    rw [List.map_cons, ← ih]
    rfl

theorem TableDef.texts_eq_map (tables : List TableDef) :
    TableDef.texts tables = tables.map TableDef.render := by
  induction tables with
  | nil => rfl
  | cons t tables ih =>
    rw [List.map_cons, ← ih]
    rfl

/-! ### The parts of a query as they are written -/

section Parts

variable (e left right low high : Expr) (q : Query)

theorem Expr.render_column (path : List Name) : (Expr.column path).render = renderPath path := rfl

theorem Expr.render_number (digits : String) :
    (Expr.number digits false).render = digits ++ "" := rfl

theorem Expr.render_text (value : String) : (Expr.text value).render = stringLiteral value := rfl

theorem Expr.render_null : Expr.null.render = "NULL" := rfl

theorem Expr.render_typed (type value : String) :
    (Expr.typed type value).render = type ++ " " ++ stringLiteral value := rfl

theorem Expr.render_binary (operator : String) :
    (Expr.binary left operator right).render =
      left.render ++ " " ++ operator ++ " " ++ right.render := rfl

theorem Expr.render_distinct (negated : Bool) :
    (Expr.distinct negated left right).render =
      left.render ++ " IS" ++ renderNot negated ++ " DISTINCT FROM " ++ right.render := rfl

theorem Expr.render_inList (negated : Bool) (values : List Expr) :
    (Expr.inList negated e values).render =
      e.render ++ renderNot negated ++ " IN (" ++ commas (Expr.texts values) ++ ")" := rfl

theorem Expr.render_between (negated : Bool) :
    (Expr.between negated e low high).render =
      e.render ++ renderNot negated ++ " BETWEEN " ++ low.render ++ " AND " ++ high.render := rfl

theorem Expr.render_cast (function type format : String) :
    (Expr.cast (.call function) e type format).render =
      function ++ "(" ++ e.render ++ " AS " ++ type ++ trail format ++ ")" := rfl

theorem Expr.render_call (function : List Name) (quantifier : String) (args : List Expr)
    (clauses suffix : List Part) :
    (Expr.call function quantifier args clauses suffix).render =
      renderPath function ++ "(" ++ lead quantifier ++ commas (Expr.texts args) ++
        String.join (Part.texts clauses) ++ ")" ++ String.join (Part.texts suffix) := rfl

theorem Expr.render_exist (negated : Bool) :
    (Expr.exist negated q).render =
      (if negated then "NOT " else "") ++ "EXISTS (" ++ q.render ++ ")" := rfl

theorem Part.texts_nil : Part.texts [] = [] := rfl

theorem Item.render_expr : (Item.expr e).render = e.render := rfl

theorem Item.render_aliased (name : Name) :
    (Item.aliased e name).render = e.render ++ " AS " ++ name.render := rfl

theorem Factor.render_table (name : List Name) (called : Option Alias) :
    (Factor.table name called).render = renderPath name ++ renderAlias called := rfl

theorem Factor.render_derived (lateral : Bool) (called : Option Alias) :
    (Factor.derived lateral q called).render =
      (if lateral then "LATERAL " else "") ++ "(" ++ q.render ++ ")" ++ renderAlias called := rfl

theorem Condition.render_on : (Condition.on e).render = " ON " ++ e.render := rfl

theorem Condition.render_free : Condition.free.render = "" := rfl

theorem Join.render_mk (words : String) (table : Factor) (condition : Condition) :
    (Join.mk words table condition).render =
      " " ++ words ++ " " ++ table.render ++ condition.render := rfl

theorem Source.render_mk (first : Factor) (joins : List Join) :
    (Source.mk first joins).render = first.render ++ String.join (Join.texts joins) := rfl

theorem Body.render_select (s : Select) : (Body.select s).render = s.render := rfl

theorem Body.render_setOp (left right : Body) (operator : String) :
    (Body.setOp left operator right).render =
      left.render ++ " " ++ operator ++ " " ++ right.render := rfl

theorem Body.render_values (row : String) (rows : List (List Expr)) :
    (Body.values row rows).render = "VALUES " ++ commas (Expr.rowTexts row rows) := rfl

theorem TableDef.render_mk (called : Alias) (materialized source : String) :
    (TableDef.mk called materialized q source).render =
      called.render ++ " AS " ++ lead materialized ++ "(" ++ q.render ++ ")" ++ trail source := rfl

theorem With.render_mk (isRecursive : Bool) (tables : List TableDef) :
    (With.mk isRecursive tables).render =
      "WITH " ++ (if isRecursive then "RECURSIVE " else "") ++ commas (TableDef.texts tables) := rfl

end Parts

/-- A clause is spelled behind what comes before it. -/
theorem spells_clause {V : String → Prop} {α : Type} {s text : String} {ls : List Lexeme}
    {w : String} {texts : List String} {clause : Option α} {lclause : Option (List Lexeme)}
    {f : α → String} (h : Spells V s ls) (htext : Leads V text (lits (w :: texts)))
    (hw : w ∈ [" ", ",", ")"])
    (hclause : Option.Rel (fun a la => Spells V (f a) la) clause lclause) :
    Spells V (s ++ (clause.map fun a => text ++ f a).getD "")
      (clauseLexemes ls (w :: texts) lclause) := by
  cases hclause with
  | none => simpa [clauseLexemes] using h
  | some ha =>
    refine ((h.lead htext hw).spell ha).of_eq ?_
    simp only [Option.map_some, Option.getD_some, String.append_assoc]

/-- A join is set apart from what comes before it. -/
theorem starts_join (words : List String) (table : List Lexeme) (condition : Option (List Lexeme)) :
    Starts (joinLexemes words table condition) := by
  have hblank : ∀ ls : List Lexeme, Starts (.fixed (.blank " ") :: ls) := fun ls c hc =>
    .inl (Option.some.inj hc).symm
  have hlits : lits (" " :: words) = .fixed (.blank " ") :: lits words := by
    rw [lits, List.map_cons, Token.ofText, if_pos rfl]
    rfl
  rw [joinLexemes, hlits]
  cases condition with
  | none => exact hblank _
  | some c => exact hblank _

/-! ### Clauses that are not there -/

theorem Select.render_block (distinct : List Part) (items : List Item) (source : Option Source)
    (condition : Option Expr) (groupBy : List Expr) :
    (Select.mk distinct items none source.toList [] condition groupBy [] none []).render =
      "SELECT " ++ String.join (Part.texts distinct) ++ commas (Item.texts items) ++
        (source.map fun s => " FROM " ++ s.render).getD "" ++
        (condition.map fun e => " WHERE " ++ e.render).getD "" ++
        (if groupBy.isEmpty then "" else " GROUP BY " ++ commas (Expr.texts groupBy)) := by
  have hclauses :
      (Select.mk distinct items none source.toList [] condition groupBy [] none []).render =
        "SELECT " ++ String.join (Part.texts distinct) ++ commas (Item.texts items) ++ "" ++
          (source.map fun s => " FROM " ++ s.render).getD "" ++ "" ++
          (condition.map fun e => " WHERE " ++ e.render).getD "" ++
          (if groupBy.isEmpty then "" else " GROUP BY " ++ commas (Expr.texts groupBy)) ++
          "" ++ "" ++ "" := by
    cases source <;> cases condition <;> cases groupBy <;> rfl
  rw [hclauses]
  simp only [String.append_empty]

theorem Query.render_body (body : Body) :
    (Query.mk none body [] [] [] "").render = body.render := by
  have hclauses :
      (Query.mk none body [] [] [] "").render = "" ++ body.render ++ "" ++ "" ++ "" ++ "" :=
    rfl
  rw [hclauses]
  simp only [String.append_empty, String.empty_append]

theorem Query.render_ordered (w : With) (body : Body) {order : List (Expr × String)}
    (hne : order ≠ []) :
    (Query.mk (some w) body order [] [] "").render =
      w.render ++ " " ++ body.render ++ " ORDER BY " ++ commas (Expr.orderTexts order) := by
  have hclauses : (Query.mk (some w) body order [] [] "").render =
      w.render ++ " " ++ body.render ++ (" ORDER BY " ++ commas (Expr.orderTexts order)) ++
        "" ++ "" ++ "" := by
    cases order with
    | nil => exact absurd rfl hne
    | cons term order => rfl
  rw [hclauses]
  simp only [String.append_empty, String.append_assoc]

/-! ### Expressions -/

section

variable {V : String → Prop} (hV : ∀ w ∈ fixedWords, V w)
include hV

/-- **Fixed text leads** when the vocabulary holds the keywords. -/
theorem FixedText.leads {s : String} {texts : List String} (h : FixedText s texts) :
    Leads V s (lits texts) := by
  obtain ⟨hs, hleads, hkeywords⟩ := h.checks
  refine leads_lits hs hleads fun t ht => ?_
  have hcheck := List.all_eq_true.1 hkeywords t ht
  simp only [Bool.or_eq_true, List.contains_iff_mem, beq_iff_eq] at hcheck
  unfold Token.ofText
  split
  · trivial
  · rename_i hblank
    split
    · trivial
    · rename_i hsymbol
      split
      · trivial
      · rename_i hdigits
        rcases hcheck with ((hword | hb) | hsym) | hd
        · simpa [Token.Known, Token.ofWord] using hV t hword
        · exact absurd hb hblank
        · exact absurd hsym hsymbol
        · exact absurd hd hdigits

variable {e left right low high : Expr} {le ll lr : List Lexeme} {llow lhigh : List Lexeme}

theorem spells_binary {operator : String} (hop : operator ∈ ["=", "/", "AND"])
    (hl : Spells V left.render ll) (hr : Spells V right.render lr) :
    Spells V (Expr.binary left operator right).render (binaryLexemes ll lr operator) := by
  refine ((hl.lead ((FixedText.operator hop).leads hV) (by decide)).spell hr).of_eq ?_
  simp only [Expr.render_binary, String.append_assoc]

theorem spells_distinct (hl : Spells V left.render ll) (hr : Spells V right.render lr) :
    Spells V (Expr.distinct true left right).render (distinctLexemes ll lr) := by
  refine ((hl.lead (FixedText.notDistinct.leads hV) (by decide)).spell hr).of_eq ?_
  simp only [Expr.render_distinct, String.append_assoc]

theorem spells_inList {α : Type} {xs : List α} {f : α → Expr} {g : α → List Lexeme}
    (he : Spells V e.render le) (h : ∀ x ∈ xs, Spells V (f x).render (g x)) :
    Spells V (Expr.inList false e (xs.map f)).render (inLexemes le (xs.map g)) := by
  have hin := he.lead (FixedText.inList.leads hV) (by decide)
  refine ((hin.spell (spells_commas (forall₂_spells h))).lead (FixedText.closing.leads hV)
    (by decide)).spells.of_eq ?_
  simp only [Expr.render_inList, Expr.texts_eq_map, List.map_map, String.append_assoc]
  rfl

theorem spells_between (he : Spells V e.render le) (hlow : Spells V low.render llow)
    (hhigh : Spells V high.render lhigh) :
    Spells V (Expr.between false e low high).render (betweenLexemes le llow lhigh) := by
  have hbetween := he.lead (FixedText.between.leads hV) (by decide)
  refine (((hbetween.spell hlow).lead (FixedText.and.leads hV) (by decide)).spell hhigh).of_eq ?_
  simp only [Expr.render_between, String.append_assoc]

theorem spells_cast {type : String} {words : List String}
    (htype : FixedText (" AS " ++ type ++ trail "" ++ ")") ([" ", "AS", " "] ++ words ++ [")"]))
    (he : Spells V e.render le) :
    Spells V (Expr.cast (.call "CAST") e type "").render (castLexemes le words) := by
  have hopen : Leads V ("CAST" ++ "(") (lits ["CAST", "("]) := (FixedText.call (by simp)).leads hV
  refine ((hopen.spell he).lead (htype.leads hV) (by decide)).spells.of_eq ?_
  simp only [Expr.render_cast, String.append_assoc]

theorem spells_call {function : String}
    (hf : function ∈ ["COALESCE", "NULLIF", "SUM", "AVG", "COUNT", "CAST"]) {args : List Expr}
    {largs : List (List Lexeme)} (h : List.Forall₂ (fun e ls => Spells V e.render ls) args largs) :
    Spells V (Expr.call [.bare function] "" args [] []).render (callLexemes function largs) := by
  have hopen := ((FixedText.call hf).leads hV).spell (spells_commas h)
  refine (hopen.lead (FixedText.closing.leads hV) (by decide)).spells.of_eq ?_
  simp [Expr.render_call, Expr.texts_eq_map, renderPath, joinWith, Name.bare, Name.render, lead,
    Part.texts_nil, String.join, String.append_assoc]

/-- A date written as a literal holds no quotes. -/
theorem spells_date {value : String} (hq : ∀ c ∈ value.toList, Lex.Quiet c) :
    Spells V (Expr.typed "DATE" value).render (dateLexemes value) := by
  have hbody : quoteBody '\'' .plain value.toList = doubled '\'' value.toList := by
    rw [doubled_of_not_mem fun c hc => (hq c hc).1]
    exact Lex.quoteBody_of_quiet hq
  refine ((FixedText.date.leads hV).spell (spells_text hbody)).of_eq ?_
  simp only [Expr.render_typed]

theorem spells_null : Spells V Expr.null.render (lits ["NULL"]) := by
  refine (spells_word (w := "NULL") rfl (hV _ (by decide))).of_eq ?_
  simp only [Expr.render_null]

theorem spells_item {name : Name} (he : Spells V e.render le) (hn : name.Spelled V) :
    Spells V (Item.aliased e name).render (aliasedLexemes le name) := by
  refine ((he.lead (FixedText.as.leads hV) (by decide)).spell hn.spells).of_eq ?_
  simp only [Item.render_aliased, String.append_assoc]

/-! ### Tables -/

theorem spells_alias {a : Alias} (hname : a.name.Spelled V)
    (hcolumns : ∀ n ∈ a.columns, n.Spelled V) :
    Spells V a.render a.lexemes := by
  unfold Alias.render Alias.lexemes
  cases hc : a.columns with
  | nil => simpa using hname.spells
  | cons n rest =>
    rw [hc] at hcolumns
    have hlist := spells_commas (forall₂_spells (f := Name.render) (g := fun n => [n.lexeme])
      fun m hm => (hcolumns m hm).spells)
    have hopen := (hname.spells.lead (FixedText.columns.leads hV) (by decide)).spell hlist
    refine (hopen.lead (FixedText.closing.leads hV) (by decide)).spells.of_eq ?_
    simp only [List.isEmpty_cons, Bool.false_eq_true, if_false, String.append_assoc]

theorem spells_table {name : List Name} (hne : name ≠ []) (hname : ∀ n ∈ name, n.Spelled V)
    (called : Option Name) (hcalled : ∀ n, called = some n → n.Spelled V) :
    Spells V (Factor.table name (called.map fun n => ⟨n, []⟩)).render
      (tableLexemes name called) := by
  have hpath := spells_path hne hname
  cases called with
  | none => simpa [Factor.render_table, renderAlias, tableLexemes, clauseLexemes] using hpath
  | some n =>
    refine ((hpath.lead (FixedText.as.leads hV) (by decide)).spell (hcalled n rfl).spells).of_eq ?_
    simp [Factor.render_table, renderAlias, Alias.render, String.append_assoc]

/-- A query in brackets, with a name. -/
theorem spells_derived {q : Query} {lq : List Lexeme} (hq : Spells V q.render lq) {name : Name}
    (hn : name.Spelled V) :
    Spells V (Factor.derived false q (some ⟨name, []⟩)).render
      (lits ["("] ++ lq ++ lits [")", " ", "AS", " "] ++ [name.lexeme]) := by
  have hopen := (FixedText.derived.leads hV).spell hq
  refine ((hopen.lead (FixedText.derivedAs.leads hV) (by decide)).spell hn.spells).of_eq ?_
  simp only [Factor.render_derived, renderAlias, Alias.render, List.isEmpty_nil, if_true,
    Bool.false_eq_true, if_false, String.append_empty, String.append_assoc]

/-- A table joined under a condition. -/
theorem spells_leftJoin {table : Factor} {lt : List Lexeme} (ht : Spells V table.render lt)
    (he : Spells V e.render le) :
    Spells V (Join.mk "LEFT JOIN" table (.on e)).render
      (joinLexemes ["LEFT", " ", "JOIN", " "] lt (some le)) := by
  have htable := (FixedText.leftJoin.leads hV).spell ht
  refine ((htable.lead (FixedText.on.leads hV) (by decide)).spell he).of_eq ?_
  simp only [Join.render_mk, Condition.render_on, String.append_assoc]

/-- A table joined without a condition. -/
theorem spells_crossJoin {table : Factor} {lt : List Lexeme} (ht : Spells V table.render lt) :
    Spells V (Join.mk "CROSS JOIN" table .free).render
      (joinLexemes ["CROSS", " ", "JOIN", " "] lt none) := by
  refine ((FixedText.crossJoin.leads hV).spell ht).of_eq ?_
  simp only [Join.render_mk, Condition.render_free, String.append_empty]

/-! ### Blocks and queries -/

/-- **A block is spelled clause by clause.** -/
theorem spells_select (distinct : Bool) {items : List Item} {litems : List (List Lexeme)}
    {source : Option Source} {condition : Option Expr} {groups : List Expr}
    {lsource lcondition : Option (List Lexeme)} {lgroups : List (List Lexeme)}
    (hitems : List.Forall₂ (fun i ls => Spells V i.render ls) items litems)
    (hsource : Option.Rel (fun s ls => Spells V s.render ls) source lsource)
    (hcondition : Option.Rel (fun e ls => Spells V e.render ls) condition lcondition)
    (hgroups : List.Forall₂ (fun e ls => Spells V e.render ls) groups lgroups) :
    Spells V (Select.mk (if distinct then [.word "DISTINCT "] else []) items none source.toList []
        condition groups [] none []).render
      (selectLexemes distinct litems lsource lcondition lgroups) := by
  have hdistinct : Leads V (String.join (Part.texts (if distinct then [.word "DISTINCT "] else [])))
      (lits (if distinct then ["DISTINCT", " "] else [])) := by
    cases distinct with
    | true => exact FixedText.distinct.leads hV
    | false => exact .nil
  have h₁ := ((FixedText.select.leads hV).leads hdistinct).spell (spells_commas hitems)
  have h₂ := spells_clause h₁ (FixedText.source.leads hV) (by decide) hsource
  have h₃ := spells_clause h₂ (FixedText.condition.leads hV) (by decide) hcondition
  rw [Select.render_block, Item.texts_eq_map, Expr.texts_eq_map]
  cases hgroups with
  | nil => exact h₃.of_eq (String.append_empty ..)
  | cons hg hgs =>
    have hlist := spells_commas (List.Forall₂.cons hg hgs)
    refine ((h₃.lead (FixedText.groupBy.leads hV) (by decide)).spell hlist).of_eq ?_
    simp only [List.isEmpty_cons, Bool.false_eq_true, if_false, String.append_assoc]

/-- A condition that no row of a block is there. -/
theorem spells_notExist {q : Query} {lq : List Lexeme} (hq : Spells V q.render lq) :
    Spells V (Expr.exist true q).render (notExistLexemes lq) := by
  have hopen := (FixedText.notExists.leads hV).spell hq
  refine (hopen.lead (FixedText.closing.leads hV) (by decide)).spells.of_eq ?_
  simp only [Expr.render_exist, if_true, String.append_assoc]

/-- **Rows of expressions are spelled one by one.** -/
theorem spells_values {α : Type} {rows : List α} {f : α → List Expr} {g : α → List (List Lexeme)}
    (h : ∀ r ∈ rows, Spells V (commas ((f r).map Expr.render)) (commaLexemes (g r))) :
    Spells V (Body.values "" (rows.map f)).render (valuesLexemes (rows.map g)) := by
  have hrow : ∀ r ∈ rows, Spells V ("(" ++ commas ((f r).map Expr.render) ++ ")")
      (lits ["("] ++ commaLexemes (g r) ++ lits [")"]) :=
    fun r hr => (((FixedText.opening.leads hV).spell (h r hr)).lead
      (FixedText.closing.leads hV) (by decide)).spells
  rw [valuesLexemes, List.map_map]
  refine ((FixedText.values.leads hV).spell (spells_commas (forall₂_spells hrow))).of_eq ?_
  simp only [Body.render_values, Expr.rowTexts_eq_map, List.map_map, Function.comp_def]

theorem spells_union {left right : Body} {ll lr : List Lexeme} (hl : Spells V left.render ll)
    (hr : Spells V right.render lr) :
    Spells V (Body.setOp left "UNION ALL" right).render (unionLexemes ll lr) := by
  refine ((hl.lead (FixedText.unionAll.leads hV) (by decide)).spell hr).of_eq ?_
  simp only [Body.render_setOp, String.append_assoc]

omit hV in
/-- A table with others joined to it. -/
theorem spells_source {first : Factor} {lf : List Lexeme} (hf : Spells V first.render lf) {α : Type}
    {xs : List α} {f : α → Join} {g : α → List Lexeme} (h : ∀ x ∈ xs, Spells V (f x).render (g x))
    (hs : ∀ x ∈ xs, Starts (g x)) :
    Spells V (Source.mk first (xs.map f)).render (lf ++ xs.flatMap g) := by
  refine (spells_join h hs hf).of_eq ?_
  simp only [Source.render_mk, Join.texts_eq_map, List.map_map, Function.comp_def]

theorem spells_tableDef {called : Alias} {q : Query} {lq : List Lexeme}
    (hc : Spells V called.render called.lexemes) (hq : Spells V q.render lq) :
    Spells V (TableDef.mk called "" q "").render (tableDefLexemes called.lexemes lq) := by
  have hopen := (hc.lead (FixedText.definedAs.leads hV) (by decide)).spell hq
  refine (hopen.lead (FixedText.closing.leads hV) (by decide)).spells.of_eq ?_
  simp [TableDef.render_mk, trail, String.append_assoc]

/-- **A query with defined tables is spelled table by table,** then its body, then its order. -/
theorem spells_query {tables : List TableDef} {ltables : List (List Lexeme)} {body : Body}
    {lb : List Lexeme} {order : List Expr} {lorder : List (List Lexeme)}
    (ht : List.Forall₂ (fun t ls => Spells V t.render ls) tables ltables)
    (hb : Spells V body.render lb)
    (ho : List.Forall₂ (fun e ls => Spells V e.render ls) order lorder) (hne : order ≠ []) :
    Spells V (Query.mk (some (.mk false tables)) body (order.map fun e => (e, "")) [] [] "").render
      (queryLexemes ltables lb lorder) := by
  have htables := (FixedText.withTables.leads hV).spell (spells_commas ht)
  have hbody := (htables.lead (FixedText.blank.leads hV) (by decide)).spell hb
  refine ((hbody.lead (FixedText.orderBy.leads hV) (by decide)).spell (spells_commas ho)).of_eq ?_
  rw [Query.render_ordered _ _ (by simpa using hne), Expr.orderTexts_eq_map, With.render_mk,
    TableDef.texts_eq_map]
  simp only [Bool.false_eq_true, if_false, String.append_assoc, String.empty_append]

end

end SemanticLayer.Sql
