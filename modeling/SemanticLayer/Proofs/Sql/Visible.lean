import SemanticLayer.Proofs.Sql.Printing
import SemanticLayer.Proofs.Sql.Reading

/-
# The tokens that readers see of lexemes

`shown ls` are the tokens of the lexemes `ls` without the blanks.  For each
form of syntax there is a lemma that says what is shown of it in terms of what
is shown of its parts.
-/

namespace SemanticLayer.Sql

open Lexeme Reader

/-- The tokens of lexemes, without the blanks. -/
def shown (ls : List Lexeme) : List Token := visible (ls.map Lexeme.token)

/-- What a word is compared with when keywords are looked for: nothing if it is in quotes. -/
def Name.keyword (n : Name) : String :=
  if n.quote.isSome then "" else Token.upper n.value.toList

/-- A name as a token. -/
def Name.token (n : Name) : Token := .word n.value n.quote n.keyword

theorem shown_append (ls ms : List Lexeme) : shown (ls ++ ms) = shown ls ++ shown ms := by
  simp [shown, visible]

theorem shown_value (v : String) :
    shown [.value v] = [.text (String.ofList (received .plain v.toList))] := rfl

theorem shown_name (n : Name) : shown [n.lexeme] = [n.token] := by
  obtain ⟨value, quote⟩ := n
  cases quote <;>
    simp [shown, visible, Name.lexeme, Name.token, Name.keyword, Lexeme.token, Token.ofWord,
      Token.ofQuoted, Token.isBlank]

/-! ### Fixed text -/

/-- The fixed text between the parts of compiled statements, with the tokens that are
shown of it. -/
def fixedTokens : List (List String × List Token) :=
  [([" "], []), (["("], [.symbol "("]), ([" ", "("], [.symbol "("]), ([")"], [.symbol ")"]),
   ([",", " "], [.symbol ","]), ([" ", "AS", " "], [kw "AS"]), ([" ", "=", " "], [.symbol "="]),
   ([" ", "/", " "], [.symbol "/"]), ([" ", "AND", " "], [kw "AND"]),
   ([" ", "IS", " ", "NOT", " ", "DISTINCT", " ", "FROM", " "],
     [kw "IS", kw "NOT", kw "DISTINCT", kw "FROM"]),
   ([" ", "IN", " ", "("], [kw "IN", .symbol "("]), ([" ", "BETWEEN", " "], [kw "BETWEEN"]),
   (["CAST", "("], [kw "CAST", .symbol "("]),
   ([" ", "AS", " ", "DATE", ")"], [kw "AS", kw "DATE", .symbol ")"]),
   ([" ", "AS", " ", "DOUBLE", " ", "PRECISION", ")"],
     [kw "AS", kw "DOUBLE", kw "PRECISION", .symbol ")"]),
   (["SUM", "("], [kw "SUM", .symbol "("]), (["AVG", "("], [kw "AVG", .symbol "("]),
   (["COUNT", "("], [kw "COUNT", .symbol "("]), (["COALESCE", "("], [kw "COALESCE", .symbol "("]),
   (["NULLIF", "("], [kw "NULLIF", .symbol "("]), (["NULL"], [kw "NULL"]),
   (["DATE", " "], [kw "DATE"]), ([")", " ", "AS", " "], [.symbol ")", kw "AS"]),
   ([" ", "LEFT", " ", "JOIN", " "], [kw "LEFT", kw "JOIN"]),
   ([" ", "CROSS", " ", "JOIN", " "], [kw "CROSS", kw "JOIN"]), ([" ", "ON", " "], [kw "ON"]),
   (["SELECT", " "], [kw "SELECT"]), ([], []), (["DISTINCT", " "], [kw "DISTINCT"]),
   ([" ", "FROM", " "], [kw "FROM"]), ([" ", "WHERE", " "], [kw "WHERE"]),
   ([" ", "GROUP", " ", "BY", " "], [kw "GROUP", kw "BY"]), (["VALUES", " "], [kw "VALUES"]),
   ([" ", "UNION", " ", "ALL", " "], [kw "UNION", kw "ALL"]),
   (["NOT", " ", "EXISTS", " ", "("], [kw "NOT", kw "EXISTS", .symbol "("]),
   ([" ", "AS", " ", "("], [kw "AS", .symbol "("]), (["WITH", " "], [kw "WITH"]),
   ([" ", "ORDER", " ", "BY", " "], [kw "ORDER", kw "BY"])]

/-- Of fixed text its words, numbers and symbols are shown. -/
theorem shown_fixed : ∀ p ∈ fixedTokens, shown (lits p.1) = p.2 := by decide

theorem shown_lits {texts : List String} (tokens : List Token) (h : (texts, tokens) ∈ fixedTokens) :
    shown (lits texts) = tokens := shown_fixed _ h

/-! ### Lists of lexemes -/

theorem shown_path (path : List Name) :
    shown (pathLexemes path) = between "." (path.map fun n => [n.token]) := by
  induction path with
  | nil => rfl
  | cons n path ih =>
    cases path with
    | nil => exact shown_name n
    | cons m path =>
      have hsplit : pathLexemes (n :: m :: path) =
          [n.lexeme] ++ ([.fixed (.symbol ".")] ++ pathLexemes (m :: path)) := rfl
      rw [hsplit, shown_append, shown_append, shown_name, ih]
      rfl

theorem shown_commas (lss : List (List Lexeme)) :
    shown (commaLexemes lss) = between "," (lss.map shown) := by
  induction lss with
  | nil => rfl
  | cons ls lss ih =>
    cases lss with
    | nil => rfl
    | cons ms lss =>
      have hsplit : commaLexemes (ls :: ms :: lss) =
          ls ++ lits [",", " "] ++ commaLexemes (ms :: lss) := rfl
      rw [hsplit, shown_append, shown_append, shown_lits [.symbol ","]
        (by simp [fixedTokens]), ih, List.append_assoc]
      rfl

/-! ### Forms of syntax -/

/-- A clause with the words before it, if there is one. -/
def clauseTokens (words : List Token) : Option (List Token) → List Token
  | none => []
  | some clause => words ++ clause

section

variable {e left right low high ls : List Lexeme}

theorem shown_binary {operator : String} {t : Token}
    (h : ([" ", operator, " "], [t]) ∈ fixedTokens) :
    shown (binaryLexemes left right operator) = shown left ++ t :: shown right := by
  rw [binaryLexemes, shown_append, shown_append, shown_lits _ h, List.append_assoc]
  rfl

theorem shown_distinct :
    shown (distinctLexemes left right) =
      shown left ++ kw "IS" :: kw "NOT" :: kw "DISTINCT" :: kw "FROM" :: shown right := by
  rw [distinctLexemes, shown_append, shown_append, List.append_assoc,
    shown_lits [kw "IS", kw "NOT", kw "DISTINCT", kw "FROM"] (by simp [fixedTokens])]
  rfl

theorem shown_in (vs : List (List Lexeme)) :
    shown (inLexemes e vs) =
      shown e ++ kw "IN" :: .symbol "(" :: (between "," (vs.map shown) ++ [.symbol ")"]) := by
  rw [inLexemes, shown_append, shown_append, shown_append, shown_commas, List.append_assoc,
    List.append_assoc, shown_lits [kw "IN", .symbol "("] (by simp [fixedTokens]),
    shown_lits [.symbol ")"] (by simp [fixedTokens])]
  rfl

theorem shown_between :
    shown (betweenLexemes e low high) =
      shown e ++ kw "BETWEEN" :: (shown low ++ kw "AND" :: shown high) := by
  rw [betweenLexemes, shown_append, shown_append, shown_append, shown_append,
    shown_lits [kw "BETWEEN"] (by simp [fixedTokens]),
    shown_lits [kw "AND"] (by simp [fixedTokens])]
  simp only [List.append_assoc, List.cons_append, List.nil_append]

theorem shown_cast {words : List String} {y : List Token}
    (h : ([" ", "AS", " "] ++ words ++ [")"], kw "AS" :: y ++ [.symbol ")"]) ∈ fixedTokens) :
    shown (castLexemes e words) =
      kw "CAST" :: .symbol "(" :: (shown e ++ kw "AS" :: (y ++ [.symbol ")"])) := by
  rw [castLexemes, shown_append, shown_append, shown_lits _ h, List.append_assoc,
    shown_lits [kw "CAST", .symbol "("] (by simp [fixedTokens])]
  rfl

theorem shown_call {function : String}
    (h : ([function, "("], [kw function, .symbol "("]) ∈ fixedTokens) (args : List (List Lexeme)) :
    shown (callLexemes function args) =
      kw function :: .symbol "(" :: (between "," (args.map shown) ++ [.symbol ")"]) := by
  rw [callLexemes, shown_append, shown_append, shown_lits _ h, shown_commas, List.append_assoc,
    shown_lits [.symbol ")"] (by simp [fixedTokens])]
  rfl

theorem shown_date (text : String) : shown (dateLexemes text) = [kw "DATE", .text text] := by
  rw [dateLexemes, shown_append, shown_lits [kw "DATE"] (by simp [fixedTokens])]
  rfl

theorem shown_aliased (name : Name) :
    shown (aliasedLexemes e name) = shown e ++ [kw "AS", name.token] := by
  rw [aliasedLexemes, shown_append, shown_append, shown_name, List.append_assoc,
    shown_lits [kw "AS"] (by simp [fixedTokens])]
  rfl

theorem shown_clause {texts : List String} (words : List Token) (h : (texts, words) ∈ fixedTokens)
    (clause : Option (List Lexeme)) :
    shown (clauseLexemes ls texts clause) = shown ls ++ clauseTokens words (clause.map shown) := by
  cases clause with
  | none => exact (List.append_nil _).symm
  | some clause =>
    rw [clauseLexemes, shown_append, shown_append, shown_lits _ h, List.append_assoc]
    rfl

theorem shown_alias (a : Alias) :
    shown a.lexemes =
      a.name.token :: if a.columns.isEmpty then []
        else .symbol "(" :: (between "," (a.columns.map fun n => [n.token]) ++ [.symbol ")"]) := by
  unfold Alias.lexemes
  split
  · exact shown_name _
  · have hnames : (a.columns.map fun n => [n.lexeme]).map shown =
        a.columns.map fun n => [n.token] := by
      rw [List.map_map]
      exact List.map_congr_left fun n _ => shown_name n
    rw [shown_append, shown_append, shown_append, shown_name, shown_commas, hnames,
      shown_lits [.symbol "("] (by simp [fixedTokens]),
      shown_lits [.symbol ")"] (by simp [fixedTokens])]
    simp only [List.cons_append, List.nil_append]

theorem shown_table (name : List Name) (called : Option Name) :
    shown (tableLexemes name called) =
      between "." (name.map fun n => [n.token]) ++
        clauseTokens [kw "AS"] (called.map fun n => [n.token]) := by
  rw [tableLexemes, shown_clause [kw "AS"] (by simp [fixedTokens]), shown_path]
  cases called with
  | none => rfl
  | some n => rw [Option.map_some, Option.map_some, shown_name, Option.map_some]

theorem shown_join {words : List String} {y : List Token}
    (h : (" " :: words, y) ∈ fixedTokens) (table : List Lexeme)
    (condition : Option (List Lexeme)) :
    shown (joinLexemes words table condition) =
      y ++ shown table ++ clauseTokens [kw "ON"] (condition.map shown) := by
  rw [joinLexemes, shown_clause [kw "ON"] (by simp [fixedTokens]), shown_append,
    shown_lits _ h]

theorem shown_select (distinct : Bool) (items : List (List Lexeme))
    (source condition : Option (List Lexeme)) (groups : List (List Lexeme)) :
    shown (selectLexemes distinct items source condition groups) =
      kw "SELECT" :: ((if distinct then [kw "DISTINCT"] else []) ++ between "," (items.map shown) ++
        clauseTokens [kw "FROM"] (source.map shown) ++
        clauseTokens [kw "WHERE"] (condition.map shown) ++
        clauseTokens [kw "GROUP", kw "BY"]
          (if groups.isEmpty then none else some (between "," (groups.map shown)))) := by
  have hdistinct : shown (lits (if distinct then ["DISTINCT", " "] else [])) =
      if distinct then [kw "DISTINCT"] else [] := by
    cases distinct with
    | true => exact shown_lits _ (by simp [fixedTokens])
    | false => rfl
  have hgroups : (if groups.isEmpty then none else some (commaLexemes groups)).map shown =
      if groups.isEmpty then none else some (between "," (groups.map shown)) := by
    split
    · rfl
    · rw [Option.map_some, shown_commas]
  rw [selectLexemes, shown_clause [kw "GROUP", kw "BY"] (by simp [fixedTokens]),
    shown_clause [kw "WHERE"] (by simp [fixedTokens]),
    shown_clause [kw "FROM"] (by simp [fixedTokens]), shown_append, shown_append,
    hdistinct, hgroups, shown_commas,
    shown_lits [kw "SELECT"] (by simp [fixedTokens])]
  rfl

theorem shown_values (rows : List (List (List Lexeme))) :
    shown (valuesLexemes rows) =
      kw "VALUES" :: between "," (rows.map fun row =>
        .symbol "(" :: (between "," (row.map shown) ++ [.symbol ")"])) := by
  have hrow : shown ∘ (fun row => lits ["("] ++ commaLexemes row ++ lits [")"]) =
      fun row => .symbol "(" :: (between "," (row.map shown) ++ [.symbol ")"]) := by
    funext row
    rw [Function.comp_apply, shown_append, shown_append, shown_commas,
      shown_lits [.symbol "("] (by simp [fixedTokens]),
      shown_lits [.symbol ")"] (by simp [fixedTokens])]
    rfl
  rw [valuesLexemes, shown_append, shown_commas, List.map_map, hrow,
    shown_lits [kw "VALUES"] (by simp [fixedTokens])]
  rfl

theorem shown_union :
    shown (unionLexemes left right) = shown left ++ kw "UNION" :: kw "ALL" :: shown right := by
  rw [unionLexemes, shown_append, shown_append, List.append_assoc,
    shown_lits [kw "UNION", kw "ALL"] (by simp [fixedTokens])]
  rfl

theorem shown_notExist (q : List Lexeme) :
    shown (notExistLexemes q) =
      kw "NOT" :: kw "EXISTS" :: .symbol "(" :: (shown q ++ [.symbol ")"]) := by
  rw [notExistLexemes, shown_append, shown_append, List.append_assoc,
    shown_lits [kw "NOT", kw "EXISTS", .symbol "("] (by simp [fixedTokens]),
    shown_lits [.symbol ")"] (by simp [fixedTokens])]
  rfl

theorem shown_derived (q : List Lexeme) (name : Name) :
    shown (lits ["("] ++ q ++ lits [")", " ", "AS", " "] ++ [name.lexeme]) =
      .symbol "(" :: (shown q ++ [.symbol ")", kw "AS", name.token]) := by
  rw [shown_append, shown_append, shown_append, shown_name,
    shown_lits [.symbol "("] (by simp [fixedTokens]),
    shown_lits [.symbol ")", kw "AS"] (by simp [fixedTokens])]
  simp only [List.append_assoc, List.cons_append, List.nil_append]

theorem shown_tableDef (called q : List Lexeme) :
    shown (tableDefLexemes called q) =
      shown called ++ kw "AS" :: .symbol "(" :: (shown q ++ [.symbol ")"]) := by
  rw [tableDefLexemes, shown_append, shown_append, shown_append, List.append_assoc,
    List.append_assoc, shown_lits [kw "AS", .symbol "("] (by simp [fixedTokens]),
    shown_lits [.symbol ")"] (by simp [fixedTokens])]
  rfl

theorem shown_query (tables : List (List Lexeme)) (body : List Lexeme)
    (order : List (List Lexeme)) :
    shown (queryLexemes tables body order) =
      kw "WITH" :: (between "," (tables.map shown) ++
        (shown body ++ kw "ORDER" :: kw "BY" :: between "," (order.map shown))) := by
  rw [queryLexemes, shown_append, shown_append, shown_append, shown_append, shown_append,
    shown_commas, shown_commas, shown_lits [kw "WITH"] (by simp [fixedTokens]),
    shown_lits [] (by simp [fixedTokens]),
    shown_lits [kw "ORDER", kw "BY"] (by simp [fixedTokens])]
  simp only [List.append_assoc, List.cons_append, List.nil_append]

end

end SemanticLayer.Sql
