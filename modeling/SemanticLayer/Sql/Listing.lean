import SemanticLayer.Sql.Select

/-
# Reading lists as text

Lists of names, expressions and options, which statements other than queries
keep as their canonical text: commas are followed by a blank.
-/

namespace SemanticLayer.Sql.Inner

open Reader

/-- A name with dots. -/
def pathText (i : Inner) : Reader String := do return renderPath (← path i.budget)

/-- Names of things, with commas between them. -/
def paths (i : Inner) : Reader String := do return commas (← list i.budget i.pathText)

/-- Names with commas between them, without brackets. -/
def bareNames (i : Inner) : Reader String := do
  return commas ((← list i.budget name).map Name.render)

/-- Names with commas between them, in brackets. -/
def nameList (i : Inner) : Reader String := do return "(" ++ (← bracketed i.bareNames) ++ ")"

/-- Names in brackets behind a blank, if there is an opening bracket. -/
def namesBehind (i : Inner) : Reader String := do
  if ← seesSymbol "(" then return " " ++ (← i.nameList) else return ""

/-- The texts of expressions, with commas between them. -/
def exprTexts (es : List Expr) : String := commas (es.map Expr.render)

/-- An expression. -/
def wholeText (i : Inner) : Reader String := do return (← i.whole).render

/-- Expressions in brackets. -/
def rowText (i : Inner) : Reader String := do return "(" ++ exprTexts (← i.row) ++ ")"

/-- Options with values, in brackets. -/
def optionList (i : Inner) : Reader String := do
  return "(" ++ commas (← bracketed (list i.budget do
    let n ← name
    symbol "="
    return n.render ++ " = " ++ (← i.wholeText))) ++ ")"

/-- Options with values after some keywords, if there are any. -/
def optionsAfter (i : Inner) (keywords : List String) : Reader String := clause keywords i.optionList

/-- Options with values after `WITH`, if there are any. -/
def withOptions (i : Inner) : Reader String := i.optionsAfter ["WITH"]

/-- The servers on which a statement runs, if they are named. -/
def onCluster : Reader String := clause ["ON", "CLUSTER"] (Name.render <$> name)

/-- Values that name a part of a table, in brackets. -/
def partition (i : Inner) : Reader String := do return "PARTITION " ++ (← i.rowText)

/-- The formats of files. -/
def fileFormat : Reader String :=
  oneOf ["AVRO", "JSONFILE", "ORC", "PARQUET", "RCFILE", "SEQUENCEFILE", "TEXTFILE"]

/-- A text that stands for itself between quotes. -/
def rawText : Reader String := do return "'" ++ (← literalText isKeywordText) ++ "'"

/-- `CASCADE` or `RESTRICT`, if one is next. -/
def dropMode : Reader String := firstPhrase [["CASCADE"], ["RESTRICT"]]

end SemanticLayer.Sql.Inner
