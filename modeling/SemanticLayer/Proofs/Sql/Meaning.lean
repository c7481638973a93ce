import SemanticLayer.Proofs.Query.Columns
import SemanticLayer.Proofs.Sql.Values

/-
# What queries mean

A query becomes a table over the tables of a database.  A block goes through
these steps:

| clause | what becomes of the rows |
| --- | --- |
| `FROM` | rows of the tables side by side, a row without a partner beside nulls in a left join |
| `WHERE` | those of which the condition is true |
| `GROUP BY` | groups with equal values of the terms; without the clause, every row by itself |
| `SELECT` | one line for every group |
| `DISTINCT` | every line once |

An expression has a value in a group: columns are those of its first row, and
aggregates run over all of its rows.  `ORDER BY` looks at the group behind a
line.  A table that a `WITH` clause defines hides the one of the same name, in
the tables defined after it and in the query itself.

This is the part of SQL that compiled statements are written in: forms they do
not use have no rows, or the value null.
-/

namespace SemanticLayer.Sql

/-! ### Rows of joined tables -/

/-- A value in a column of a row, with the name of the row's table. -/
structure Datum where
  table : String
  column : String
  value : Value

/-- Whether a path names the value, by its column alone or with its table. -/
def Datum.named (path : List String) (c : Datum) : Bool :=
  path = [c.table, c.column] ∨ path = [c.column]

/-- A row of tables side by side. -/
abbrev Joined := List Datum

/-- A row of a table under a name. -/
def Joined.ofRow (table : String) (columns : List String) (row : List Value) : Joined :=
  (columns.zip row).map fun c => ⟨table, c.1, c.2⟩

/-- The value that a path names, if it names one. -/
def Joined.get (data : Joined) (path : List String) : Value :=
  theOnly ((data.filter (Datum.named path)).map Datum.value)

/-- A line of a block: the rows behind it, and its values. -/
structure Line where
  group : List Joined
  values : List Value

/-! ### Operators and functions -/

/-- A literal beside a value is read as a value of its kind. -/
def Engine.beside (db : Engine) (v : Value) (literal : Expr) (w : Value) : Value :=
  match literal with
  | .text s => db.read v s
  | _ => w

/-- `a <= b`, unknown beside a null. -/
def Engine.atMost (db : Engine) (a b : Value) : Value :=
  if a = .null ∨ b = .null then .null else .truth (db.le a b)

/-- A cast; numbers are exact in every type. -/
def Engine.cast (db : Engine) (type : String) (v : Value) : Value :=
  if type = "DATE" then (db.day? v).elim .null .day
  else if type = "DOUBLE PRECISION" then v
  else .null

/-- Whether an expression is a number with a point; integers have another quotient. -/
def Expr.isDouble : Expr → Bool
  | .cast _ _ type _ => type = "DOUBLE PRECISION"
  | _ => false

/-- An operator between the values of two expressions. -/
def Engine.operate (db : Engine) (left : Expr) (operator : String) (right : Expr) (a b : Value) :
    Value :=
  if operator = "AND" then a.both b
  else if operator = "=" then a.equals (db.beside a right b)
  else if operator = "/" ∧ left.isDouble then a.quotient b
  else .null

/-- A function of the values of its arguments, an aggregate of their values in each row. -/
def callValue (function : List Name) (args : List Value) (rows : List (List Value)) : Value :=
  match function.map Name.value, args with
  | ["COALESCE"], vs => ((Value.present vs).head?).getD .null
  | ["NULLIF"], [a, b] => if a = b then .null else a
  | ["SUM"], [_] => Value.sum (rows.filterMap List.head?)
  | ["AVG"], [_] => Value.average (rows.filterMap List.head?)
  | ["COUNT"], [_] => Value.count (rows.filterMap List.head?)
  | _, _ => .null

/-- Whether what stands before the items asks for every line once. -/
def asksDistinct : List Part → Bool
  | [.word w] => w = "DISTINCT "
  | _ => false

/-- The order of lists by their first difference. -/
def Engine.listLe (db : Engine) : List Value → List Value → Bool
  | [], _ => true
  | _ :: _, [] => false
  | a :: as, b :: bs => db.le a b && (!db.le b a || db.listLe as bs)

/-- The name of the column that an item becomes. -/
def Item.name (i : Item) : String := i.column?.getD "?column?"

/-- A row beside the rows that a join finds for it. -/
def joinRows (words : String) (row : Joined) (found : List Joined) (nulls : Joined) :
    List Joined :=
  if words = "LEFT JOIN" then
    if found.isEmpty then [row ++ nulls] else found.map (row ++ ·)
  else if words = "CROSS JOIN" then found.map (row ++ ·)
  else []

/-- The groups of rows with equal values of some terms, or of every row by itself. -/
def groupsOf (grouped : Bool) (key : Joined → List Value) (rows : List Joined) :
    List (List Joined) :=
  if grouped then (firstOccurrences (rows.map key)).map fun k => rows.filter fun row => key row = k
  else rows.map ([·])

/-- The lines that are left when every line is asked for once, or all of them. -/
def onceIf (distinct : Bool) (lines : List Line) : List Line :=
  if distinct then (firstOccurrences (lines.map Line.values)).map (⟨[], ·⟩) else lines

/-- Lines in the order of their keys. -/
def Engine.sorted (db : Engine) (key : Line → List Value) (lines : List Line) : List Line :=
  lines.mergeSort fun a b => db.listLe (key a) (key b)

/-- A table under the names of an alias. -/
def Table.called (t : Table) (columns : List Name) : Table :=
  if columns.isEmpty then t else ⟨columns.map Name.folded, t.rows⟩

/-- The names of the columns of a body. -/
def Body.names : Body → List String
  | .select s => s.items.map Item.name
  | .setOp left _ _ => left.names
  | _ => []

/-- The name that a table goes by in a block. -/
def boundName (called : Option Alias) (name : List Name) : String :=
  match called with
  | some a => a.name.folded
  | none => (name.getLast?.map Name.folded).getD ""

/-! ### Queries -/

section

variable (db : Engine)

mutual

/-- The value of an expression in a group of rows. -/
def Expr.value (tables : Tables) (group : List Joined) : Expr → Value
  | .column path => (group.headD []).get (path.map Name.folded)
  | .number digits _ => digits.toNat?.elim .null fun n => .number n
  | .text v => .text v
  | .typed type v => if type = "DATE" then (Date.ofField? v).elim .null .day else .null
  | .binary left operator right =>
    db.operate left operator right (left.value tables group) (right.value tables group)
  | .distinct negated left right =>
    .truth (decide (left.value tables group = right.value tables group) == negated)
  | .inList negated e es =>
    Value.negated negated ((e.value tables group).among
      (List.zipWith (db.beside (e.value tables group)) es (Expr.values tables group es)))
  | .between negated e low high =>
    Value.negated negated ((db.atMost (low.value tables group) (e.value tables group)).both
      (db.atMost (e.value tables group) (high.value tables group)))
  | .cast _ e type _ => db.cast type (e.value tables group)
  | .call function _ args _ _ =>
    callValue function (Expr.values tables group args)
      (group.map fun row => Expr.values tables [row] args)
  | .exist negated q => .truth ((q.meaning tables).rows.isEmpty == negated)
  | _ => .null

def Expr.values (tables : Tables) (group : List Joined) : List Expr → List Value
  | [] => []
  | e :: rest => e.value tables group :: Expr.values tables group rest

/-- The values of the rows of a `VALUES` list. -/
def Expr.rowValues (tables : Tables) : List (List Expr) → List (List Value)
  | [] => []
  | es :: rest => Expr.values tables [] es :: Expr.rowValues tables rest

/-- The values of the terms of `ORDER BY`. -/
def Expr.orderValues (tables : Tables) (group : List Joined) : List (Expr × String) → List Value
  | [] => []
  | (e, _) :: rest => e.value tables group :: Expr.orderValues tables group rest

/-- The table that a query becomes. -/
def Query.meaning (tables : Tables) : Query → Table
  | .mk withClause body order _ _ _ =>
    let tables := With.tables tables withClause
    ⟨body.names, (db.sorted (fun line => Expr.orderValues tables line.group order)
      (body.lines tables)).map Line.values⟩

/-- The tables that the query behind a `WITH` clause sees. -/
def With.tables (tables : Tables) : Option With → Tables
  | none => tables
  | some (.mk _ defined) => TableDef.tables tables defined

def TableDef.tables (tables : Tables) : List TableDef → Tables
  | [] => tables
  | t :: rest => TableDef.tables (t.define tables) rest

/-- The tables with one more, in front of any that has its name. -/
def TableDef.define (tables : Tables) : TableDef → Tables
  | .mk called _ q _ =>
    Function.update tables [called.name.folded] ((q.meaning tables).called called.columns)

def Body.lines (tables : Tables) : Body → List Line
  | .select s => s.lines tables
  | .setOp left operator right =>
    if operator = "UNION ALL" then left.lines tables ++ right.lines tables else []
  | .values _ rows => (Expr.rowValues tables rows).map (⟨[], ·⟩)
  | _ => []

def Select.lines (tables : Tables) : Select → List Line
  | .mk distinct items _ sources _ condition groupBy _ _ _ =>
    let rows := Expr.passing tables (Source.joined tables [[]] sources) condition
    let groups := groupsOf (!groupBy.isEmpty) (fun row => Expr.values tables [row] groupBy) rows
    onceIf (asksDistinct distinct)
      (groups.map fun group => ⟨group, Item.values tables group items⟩)

/-- The rows of which a condition is true, if there is one. -/
def Expr.passing (tables : Tables) (rows : List Joined) : Option Expr → List Joined
  | none => rows
  | some e => rows.filter fun row => e.value tables [row] = Value.truth true

def Item.values (tables : Tables) (group : List Joined) : List Item → List Value
  | [] => []
  | i :: rest => i.value tables group :: Item.values tables group rest

def Item.value (tables : Tables) (group : List Joined) : Item → Value
  | .expr e => e.value tables group
  | .aliased e _ => e.value tables group
  | .star _ => .null

/-- Rows beside every row of sources. -/
def Source.joined (tables : Tables) (rows : List Joined) : List Source → List Joined
  | [] => rows
  | s :: rest =>
    Source.joined tables (rows.flatMap fun row => (s.rows tables).map (row ++ ·)) rest

def Source.rows (tables : Tables) : Source → List Joined
  | .mk first joins =>
    let (name, t) := first.bound tables
    Join.joined tables (t.rows.map (Joined.ofRow name t.columns)) joins

/-- Rows after some joins. -/
def Join.joined (tables : Tables) (rows : List Joined) : List Join → List Joined
  | [] => rows
  | j :: rest => Join.joined tables (rows.flatMap fun row => j.besides tables row) rest

/-- A row beside its partners in a table. -/
def Join.besides (tables : Tables) (row : Joined) : Join → List Joined
  | .mk words table condition =>
    let (name, t) := table.bound tables
    let found := (t.rows.map (Joined.ofRow name t.columns)).filter fun other =>
      condition.holds tables (row ++ other)
    joinRows words row found (Joined.ofRow name t.columns (t.columns.map fun _ => .null))

def Condition.holds (tables : Tables) (row : Joined) : Condition → Bool
  | .on e => e.value tables [row] = Value.truth true
  | .free => true
  | _ => false

/-- A table and the name that its columns go by. -/
def Factor.bound (tables : Tables) : Factor → String × Table
  | .table name called => (boundName called name, tables (name.map Name.folded))
  | .derived _ q called => (boundName called [], q.meaning tables)
  | _ => ("", ⟨[], []⟩)

end

end

/-! ### Cells -/

theorem Joined.get_append_left {a b : Joined} {path : List String}
    (h : ∀ c ∈ b, c.named path = false) : (a ++ b).get path = a.get path := by
  have hnone : b.filter (Datum.named path) = [] := by
    rw [List.filter_eq_nil_iff]
    exact fun c hc => by simp [h c hc]
  rw [get, List.filter_append, hnone, List.append_nil, get]

theorem Joined.get_append_right {a b : Joined} {path : List String}
    (h : ∀ c ∈ a, c.named path = false) : (a ++ b).get path = b.get path := by
  have hnone : a.filter (Datum.named path) = [] := by
    rw [List.filter_eq_nil_iff]
    exact fun c hc => by simp [h c hc]
  rw [get, List.filter_append, hnone, List.nil_append, get]

/-- A path into another table names nothing. -/
theorem Joined.not_named_ofRow {table other column : String} (h : table ≠ other)
    (columns : List String) (row : List Value) :
    ∀ c ∈ ofRow other columns row, c.named [table, column] = false := by
  intro c hc
  obtain ⟨p, -, rfl⟩ := List.mem_map.1 hc
  simp [Datum.named, h]

/-- What a path names in the row of one table, if it tells the columns by their names. -/
theorem Joined.get_ofRow_of_named {table column : String} {path : List String}
    (h : ∀ p : String × Value, Datum.named path ⟨table, p.1, p.2⟩ = decide (p.1 = column))
    (columns : List String) (row : List Value) :
    (ofRow table columns row).get path = valueAt columns row column := by
  rw [get, ofRow, List.filter_map, List.map_map, valueAt]
  simp only [Function.comp_def, h]

/-- **A path into a table names what stands in the column.** -/
theorem Joined.get_ofRow (table : String) (columns : List String) (row : List Value)
    (column : String) : (ofRow table columns row).get [table, column] = valueAt columns row column :=
  get_ofRow_of_named (fun p => by simp [Datum.named, eq_comm]) columns row

/-- So does a column of a single table by itself. -/
theorem Joined.get_ofRow_column (table : String) (columns : List String) (row : List Value)
    (column : String) : (ofRow table columns row).get [column] = valueAt columns row column :=
  get_ofRow_of_named (fun p => by simp [Datum.named, eq_comm]) columns row

/-! ### Values -/

section

variable (db : Engine) (tables : Tables) (group : List Joined)

theorem Expr.values_eq_map (es : List Expr) :
    Expr.values db tables group es = es.map (Expr.value db tables group) := by
  induction es with
  | nil => rfl
  | cons e es ih => exact congrArg (e.value db tables group :: ·) ih

theorem Expr.rowValues_eq_map (rows : List (List Expr)) :
    Expr.rowValues db tables rows = rows.map (Expr.values db tables []) := by
  induction rows with
  | nil => rfl
  | cons es rows ih => exact congrArg (Expr.values db tables [] es :: ·) ih

theorem Expr.orderValues_eq_map (terms : List (Expr × String)) :
    Expr.orderValues db tables group terms = terms.map fun t => t.1.value db tables group := by
  induction terms with
  | nil => rfl
  | cons t terms ih => exact congrArg (t.1.value db tables group :: ·) ih

theorem Item.values_eq_map (items : List Item) :
    Item.values db tables group items = items.map (Item.value db tables group) := by
  induction items with
  | nil => rfl
  | cons i items ih => exact congrArg (i.value db tables group :: ·) ih

theorem Expr.value_column (path : List Name) (row : Joined) :
    Expr.value db tables [row] (.column path) = row.get (path.map Name.folded) := rfl

/-- **A conjunction is true when all of its conditions are.** -/
theorem Expr.value_and (left right : Expr) :
    (Expr.binary left "AND" right).value db tables group = .truth true ↔
      left.value db tables group = .truth true ∧ right.value db tables group = .truth true :=
  Value.both_eq_true

theorem Item.value_expr (e : Expr) :
    Item.value db tables group (.expr e) = e.value db tables group := rfl

theorem Expr.value_equal (left right : Expr) :
    (Expr.binary left "=" right).value db tables group =
      (left.value db tables group).equals
        (db.beside (left.value db tables group) right (right.value db tables group)) := rfl

/-- `NOT EXISTS` is true of queries without rows. -/
theorem Expr.value_notExist (q : Query) :
    (Expr.exist true q).value db tables group = .truth true ↔ (q.meaning db tables).rows = [] := by
  change Value.truth ((q.meaning db tables).rows.isEmpty == true) = _ ↔ _
  simp

end

/-- Items that all have a name name the columns of their block. -/
theorem Item.map_name {items : List Item} (h : ∀ i ∈ items, i.column?.isSome) :
    items.map Item.name = items.filterMap Item.column? := by
  induction items with
  | nil => rfl
  | cons i items ih =>
    obtain ⟨hi, hrest⟩ := List.forall_mem_cons.1 h
    obtain ⟨column, hcolumn⟩ := Option.isSome_iff_exists.1 hi
    rw [List.map_cons, List.filterMap_cons_some hcolumn, ih hrest, name, hcolumn]
    rfl

/-! ### Lines -/

/-- Without terms, lines stay in their order. -/
theorem Engine.sorted_nil (db : Engine) (lines : List Line) :
    db.sorted (fun _ => []) lines = lines :=
  List.mergeSort_of_pairwise (List.pairwise_of_forall fun _ _ => rfl)

section

variable (db : Engine) (tables : Tables)

theorem Expr.passing_none (rows : List Joined) : Expr.passing db tables rows none = rows := rfl

theorem Expr.passing_some (rows : List Joined) (e : Expr) : Expr.passing db tables rows (some e) =
    rows.filter fun row => e.value db tables [row] = Value.truth true := rfl

/-- **A block without groups** has one line for every row that passes its condition. -/
theorem Select.lines_block (distinct : List Part) (items : List Item) (sources : List Source)
    (condition : Option Expr) :
    Select.lines db tables (.mk distinct items none sources [] condition [] [] none []) =
      onceIf (asksDistinct distinct) ((Expr.passing db tables (Source.joined db tables [[]] sources)
        condition).map fun row => ⟨[row], items.map (Item.value db tables [row])⟩) := by
  change onceIf (asksDistinct distinct) ((groupsOf false _ _).map _) = _
  simp only [groupsOf, Item.values_eq_map, Bool.false_eq_true, if_false, List.map_map,
    Function.comp_def]

theorem Body.lines_select (s : Select) : (Body.select s).lines db tables = s.lines db tables := rfl

theorem Body.lines_unionAll (left right : Body) :
    (Body.setOp left "UNION ALL" right).lines db tables =
      left.lines db tables ++ right.lines db tables := rfl

theorem Body.lines_values (before : String) (rows : List (List Expr)) :
    (Body.values before rows).lines db tables =
      rows.map fun es => ⟨[], es.map (Expr.value db tables [])⟩ := by
  change (Expr.rowValues db tables rows).map _ = _
  rw [Expr.rowValues_eq_map, List.map_map]
  exact List.map_congr_left fun es _ => congrArg _ (Expr.values_eq_map ..)

/-- A query without an order has the lines of its body. -/
theorem Query.meaning_body (body : Body) :
    (Query.mk none body [] [] [] "").meaning db tables =
      ⟨body.names, (body.lines db tables).map Line.values⟩ := by
  change (⟨_, (db.sorted (fun _ => []) _).map Line.values⟩ : Table) = _
  rw [Engine.sorted_nil]
  rfl

theorem Query.meaning_block (items : List Item) (sources : List Source) (condition : Option Expr) :
    (Query.mk none (.select (.mk [] items none sources [] condition [] [] none [])) [] [] []
        "").meaning db tables =
      ⟨items.map Item.name, (Expr.passing db tables (Source.joined db tables [[]] sources)
        condition).map fun row => items.map (Item.value db tables [row])⟩ := by
  rw [Query.meaning_body]
  change (⟨_, (Select.lines db tables _).map Line.values⟩ : Table) = _
  rw [Select.lines_block]
  change (⟨_, (List.map _ _).map Line.values⟩ : Table) = _
  rw [List.map_map]
  rfl

/-- The lines of a block behind a `WITH` clause, in the order of some terms. -/
theorem Query.meaning_ordered (defined : Option With) (s : Select) (order : List (Expr × String)) :
    (Query.mk defined (.select s) order [] [] "").meaning db tables =
      let inner := With.tables db tables defined
      ⟨s.items.map Item.name, (db.sorted (fun line => order.map fun t =>
        t.1.value db inner line.group) (s.lines db inner)).map Line.values⟩ := by
  change (⟨_, (db.sorted (fun line => Expr.orderValues db _ line.group order) _).map _⟩ : Table) = _
  simp only [Expr.orderValues_eq_map]
  rfl

theorem TableDef.define_mk (n : Name) (columns : List Name) (q : Query) (before behind : String) :
    TableDef.define db tables (.mk ⟨n, columns⟩ before q behind) =
      Function.update tables [n.folded] ((q.meaning db tables).called columns) := rfl

theorem Source.joined_nil (rows : List Joined) : Source.joined db tables rows [] = rows := rfl

theorem Source.joined_single (s : Source) : Source.joined db tables [[]] [s] = s.rows db tables := by
  change ([[]] : List Joined).flatMap (fun row => (s.rows db tables).map (row ++ ·)) = _
  simp

/-- The rows of a table come before its joins. -/
theorem Source.rows_table (n : Name) (joins : List Join) :
    (Source.mk (.table [n] none) joins).rows db tables =
      Join.joined db tables ((tables [n.folded]).rows.map
        (Joined.ofRow n.folded (tables [n.folded]).columns)) joins := rfl

theorem Join.joined_nil (rows : List Joined) : Join.joined db tables rows [] = rows := rfl

theorem Join.joined_single (rows : List Joined) (j : Join) :
    Join.joined db tables rows [j] = rows.flatMap fun row => j.besides db tables row := rfl

/-- A row stands beside all rows of a query. -/
theorem Join.besides_cross (row : Joined) (q : Query) (n : Name) :
    Join.besides db tables row (.mk "CROSS JOIN" (.derived false q (some ⟨n, []⟩)) .free) =
      (q.meaning db tables).rows.map fun values =>
        row ++ Joined.ofRow n.folded (q.meaning db tables).columns values := by
  change joinRows "CROSS JOIN" row (List.filter (fun _ => true) _) _ = _
  rw [List.filter_true, joinRows, if_neg (by decide), if_pos rfl, List.map_map]
  rfl

/-- A row stands beside the rows that a condition holds for, or beside nulls. -/
theorem Join.besides_left (row : Joined) (path : List Name) (called : Option Alias)
    (condition : Condition) :
    Join.besides db tables row (.mk "LEFT JOIN" (.table path called) condition) =
      let t := tables (path.map Name.folded)
      let name := boundName called path
      joinRows "LEFT JOIN" row ((t.rows.map (Joined.ofRow name t.columns)).filter fun other =>
        condition.holds db tables (row ++ other))
        (Joined.ofRow name t.columns (t.columns.map fun _ => .null)) := rfl

end

theorem joinRows_ne_nil {row nulls : Joined} {found : List Joined} (h : found ≠ []) :
    joinRows "LEFT JOIN" row found nulls = found.map (row ++ ·) := by
  rw [joinRows, if_pos rfl, if_neg (by simpa using h)]

end SemanticLayer.Sql
