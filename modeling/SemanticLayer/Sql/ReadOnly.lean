import SemanticLayer.Sql.Statement

/-
# Statements that only read

A text may be run only if it is a single query, and one that by its own blocks
writes nothing: neither its body, nor the operands of its set operators, nor
the queries of its `WITH` clause, nor queries in brackets in these places, may
insert, update, make a table or lock rows.
-/

namespace SemanticLayer.Sql

mutual

/-- Whether a query writes nothing and locks no rows. -/
def Query.readOnly : Query → Bool
  | .mk withClause body _ _ locks _ =>
    (match withClause with
      | some w => w.readOnly
      | none => true) && locks.isEmpty && body.readOnly

/-- Whether the queries of a `WITH` clause write nothing. -/
def With.readOnly : With → Bool
  | .mk _ tables => TableDef.allReadOnly tables

/-- Whether the queries of defined tables write nothing. -/
def TableDef.allReadOnly : List TableDef → Bool
  | [] => true
  | .mk _ _ q _ :: rest => q.readOnly && TableDef.allReadOnly rest

/-- Whether a body writes nothing. -/
def Body.readOnly : Body → Bool
  | .select (.mk _ _ into _ _ _ _ _ _ _) => into.isNone
  | .query q => q.readOnly
  | .setOp left _ right => left.readOnly && right.readOnly
  | .insert _ => false
  | .update _ => false
  | .values _ _ => true
  | .table _ => true

end

/-- Why a text may not be run. -/
inductive GateError where
  /-- The text is no SQL. -/
  | unreadable
  /-- The text is SQL, but no single query that only reads. -/
  | unsafeText (what : String)
deriving DecidableEq

namespace GateError

/-- The message of an error. -/
def message : GateError → String
  | .unreadable => "SQL parsing error"
  | .unsafeText what => "Only a single read-only query is allowed: " ++ what

/-- The name of an error. -/
def kind : GateError → String
  | .unreadable => "SqlParseError"
  | .unsafeText _ => "UnsafeStatement"

end GateError

/-- Refuses a statement that is no query, by its text if it has one. -/
def refuse : Wording → Fault GateError
  | .ok text => .error (.unsafeText text)
  | .error b => .broken b

/-- Lets the statements of a text pass if they are a single query that only reads. -/
def gate : List Statement → Except (Fault GateError) Unit
  | [.query q] => if q.readOnly then .ok () else .error (.error (.unsafeText "query writes data"))
  | [.other text] => .error (refuse text)
  | many => .error (.error (.unsafeText (toString many.length ++ " statements")))

/-- Lets a text pass if it is a single query that only reads. -/
def checkReadOnly (sql : String) : Except (Fault GateError) Unit :=
  match parse sql with
  | .ok (some statements) => gate statements
  | .ok none => .error (.error .unreadable)
  | .error b => .error (.broken b)

end SemanticLayer.Sql
