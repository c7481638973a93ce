import SemanticLayer.Proofs.Sql.Nesting

/-
# Forms in which a name does not stand

A form avoids a name when the name is, at whatever depth, neither the last part
of a column nor what an item is called, in quotes (`Node.Avoids`).  What a form
avoids is what the forms that stand directly in it avoid (`Node.avoids_iff`);
the lemmas behind it say this form by form, down to the columns.
-/

namespace SemanticLayer.Sql.Node

variable {name : String} {n : Node}

/-- A form is a column of the name, or an item that is called so. -/
def Bears (name : String) : Node → Prop
  | .expr (.column path) => path.getLast? = some (.quoted name)
  | .item (.aliased _ called) => called = .quoted name
  | _ => False

/-- The name stands nowhere in a form. -/
def Avoids (name : String) (n : Node) : Prop := ∀ m, n.Holds m → ¬ m.Bears name

attribute [local simp] Bears children

/-- **A form avoids what its parts avoid,** if it does not bear it itself. -/
theorem avoids_iff : n.Avoids name ↔ ¬ n.Bears name ∧ ∀ m ∈ n.children, m.Avoids name := by
  constructor
  · exact fun h => ⟨h n .refl, fun m hm k hk => h k (.head hm hk)⟩
  · rintro ⟨hself, hparts⟩ m hm
    rcases Relation.ReflTransGen.cases_head_iff.1 hm with rfl | ⟨k, hk, hholds⟩
    · exact hself
    · exact hparts k hk m hholds

/-! ### Expressions -/

@[simp] theorem avoids_column {path : List Name} :
    (Node.expr (.column path)).Avoids name ↔ path.getLast? ≠ some (.quoted name) :=
  Iff.trans avoids_iff (by simp)

@[simp] theorem avoids_null : (Node.expr .null).Avoids name :=
  avoids_iff.2 (by simp)

@[simp] theorem avoids_number {digits : String} {long : Bool} :
    (Node.expr (.number digits long)).Avoids name :=
  avoids_iff.2 (by simp)

@[simp] theorem avoids_binary {left right : Expr} {operator : String} :
    (Node.expr (.binary left operator right)).Avoids name ↔
      (Node.expr left).Avoids name ∧ (Node.expr right).Avoids name :=
  Iff.trans avoids_iff (by simp)

@[simp] theorem avoids_distinct {negated : Bool} {left right : Expr} :
    (Node.expr (.distinct negated left right)).Avoids name ↔
      (Node.expr left).Avoids name ∧ (Node.expr right).Avoids name :=
  Iff.trans avoids_iff (by simp)

@[simp] theorem avoids_exist {negated : Bool} {q : Query} :
    (Node.expr (.exist negated q)).Avoids name ↔ (Node.query q).Avoids name :=
  Iff.trans avoids_iff (by simp)

/-! ### Items and tables -/

@[simp] theorem avoids_word {text : String} : (Node.part (.word text)).Avoids name :=
  avoids_iff.2 (by simp)

@[simp] theorem avoids_item {e : Expr} :
    (Node.item (.expr e)).Avoids name ↔ (Node.expr e).Avoids name :=
  Iff.trans avoids_iff (by simp)

@[simp] theorem avoids_aliased {e : Expr} {called : Name} :
    (Node.item (.aliased e called)).Avoids name ↔
      called ≠ .quoted name ∧ (Node.expr e).Avoids name :=
  Iff.trans avoids_iff (by simp)

@[simp] theorem avoids_table {path : List Name} {called : Option Alias} :
    (Node.factor (.table path called)).Avoids name :=
  avoids_iff.2 (by simp)

@[simp] theorem avoids_derived {lateral : Bool} {q : Query} {called : Option Alias} :
    (Node.factor (.derived lateral q called)).Avoids name ↔ (Node.query q).Avoids name :=
  Iff.trans avoids_iff (by simp)

@[simp] theorem avoids_on {e : Expr} :
    (Node.condition (.on e)).Avoids name ↔ (Node.expr e).Avoids name :=
  Iff.trans avoids_iff (by simp)

@[simp] theorem avoids_free : (Node.condition .free).Avoids name :=
  avoids_iff.2 (by simp)

@[simp] theorem avoids_join {words : String} {table : Factor} {c : Condition} :
    (Node.join (.mk words table c)).Avoids name ↔
      (Node.factor table).Avoids name ∧ (Node.condition c).Avoids name :=
  Iff.trans avoids_iff (by simp)

@[simp] theorem avoids_source {first : Factor} {joins : List Join} :
    (Node.source (.mk first joins)).Avoids name ↔
      (Node.factor first).Avoids name ∧ ∀ j ∈ joins, (Node.join j).Avoids name :=
  Iff.trans avoids_iff (by simp)

/-! ### Blocks and queries -/

/-- A block without grouping avoids what its items, tables and condition avoid. -/
@[simp] theorem avoids_select {distinct : List Part} {items : List Item} {sources : List Source}
    {condition : Option Expr} :
    (Node.select (.mk distinct items none sources [] condition [] [] none [])).Avoids name ↔
      (∀ p ∈ distinct, (Node.part p).Avoids name) ∧ (∀ i ∈ items, (Node.item i).Avoids name) ∧
      (∀ x ∈ sources, (Node.source x).Avoids name) ∧
      ∀ e ∈ condition, (Node.expr e).Avoids name := by
  rw [avoids_iff]
  simp only [Bears, children, List.forall_mem_append, List.forall_mem_map, Option.mem_toList]
  simp [and_assoc]

@[simp] theorem avoids_body {s : Select} :
    (Node.body (.select s)).Avoids name ↔ (Node.select s).Avoids name :=
  Iff.trans avoids_iff (by simp)

@[simp] theorem avoids_setOp {left right : Body} {operator : String} :
    (Node.body (.setOp left operator right)).Avoids name ↔
      (Node.body left).Avoids name ∧ (Node.body right).Avoids name :=
  Iff.trans avoids_iff (by simp)

@[simp] theorem avoids_query {b : Body} :
    (Node.query (.mk none b [] [] [] "")).Avoids name ↔ (Node.body b).Avoids name :=
  Iff.trans avoids_iff (by simp)

@[simp] theorem avoids_tableDef {called : Alias} {materialized source : String} {q : Query} :
    (Node.tableDef (.mk called materialized q source)).Avoids name ↔
      (Node.query q).Avoids name :=
  Iff.trans avoids_iff (by simp)

end SemanticLayer.Sql.Node
