import SemanticLayer.Sql.Command

/-
# Statements of a text

Expressions, queries and statements nest in each other.  Each level of
nesting takes one step from a depth of fifty, and what nests deeper cannot be
read.  A text holds any number of statements with semicolons between them.
-/

namespace SemanticLayer.Sql

/-- The readers of nested forms at a depth. -/
structure Grammar where
  expr : Nat → Reader Expr
  query : Reader Query
  statement : Reader Statement

namespace Grammar

open Reader SemanticLayer.Sql.Inner

/-- The grammar in which nothing can be read. -/
def nothing : Grammar := ⟨fun _ => failure, failure, failure⟩

/-- The readers for what is inside a form. -/
def inner (g : Grammar) (budget : Nat) : Inner := ⟨budget, g.expr, g.query⟩

/-- A query whose parts are one level deeper. -/
def queryAbove (i : Inner) : Reader Query := do
  let w ← i.withClause
  if ← takes "INSERT" then return .mk w (.insert (← i.insert)) [] [] [] ""
  if ← takes "UPDATE" then return .mk w (.update (← i.update)) [] [] [] ""
  i.queryTail w (← i.body)

/-- A statement whose parts are one level deeper. -/
def statementAbove (i : Inner) (statement : Reader Statement) : Reader Statement := do
  match ← peek with
  | some (.symbol "(") => return .query (← i.query)
  | some (.word _ none k) =>
    if ["SELECT", "WITH", "VALUES"].contains k then return .query (← i.query)
    skip
    return .other (← i.command statement k)
  | _ => failure

/-- The grammar of forms that nest at most so deep; every list has at most `budget` elements. -/
def ofDepth (budget : Nat) : Nat → Grammar
  | 0 => nothing
  | depth + 1 =>
    let below := ofDepth budget depth
    let i := below.inner budget
    ⟨i.expression, queryAbove i, statementAbove i below.statement⟩

end Grammar

/-- How deep statements nest. -/
def maxDepth : Nat := 50

/-- The statements of a list of tokens. -/
def statementsOf (ts : List Token) : Except Breakdown (Option (List Statement)) := do
  let budget := ts.length + 1
  let read := Reader.statements (Grammar.ofDepth budget maxDepth).statement budget true
  return (← (read ts).run).map (·.1)

/-- The statements of a text; nothing when it is no SQL. -/
def parse (sql : String) : Except Breakdown (Option (List Statement)) :=
  match tokens sql.toList with
  | some ts => statementsOf ts
  | none => .ok none

end SemanticLayer.Sql
