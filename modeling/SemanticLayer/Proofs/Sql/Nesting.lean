import Mathlib.Logic.Relation
import SemanticLayer.Proofs.Outcome
import SemanticLayer.Sql.ReadOnly

/-
# What nests in a query, and how far the gate looks

A syntax tree is made of forms of twelve kinds (`Node`), and `Node.children`
lists what stands directly in each.  Queries, `WITH` clauses, the tables defined
in them, bodies and blocks are the outer forms; everything else is a form in
which a query can only stand as a value or as a table.

The gate follows outer forms alone (`Node.passes_iff_outer`).  So it sees every
block that is reached without entering an expression or a table of a `FROM`
clause, and none that is reached through one: `checkReadOnly_outer` gives the
condition under which an accepted text writes nothing at any depth.
-/

namespace SemanticLayer.Sql

/-! ### Forms and what stands in them -/

/-- A form of a syntax tree. -/
inductive Node where
  | expr (e : Expr)
  | part (p : Part)
  | query (q : Query)
  | withClause (w : With)
  | tableDef (t : TableDef)
  | body (b : Body)
  | select (s : Select)
  | item (i : Item)
  | source (s : Source)
  | join (j : Join)
  | condition (c : Condition)
  | factor (f : Factor)

namespace Node

/-- The forms that stand directly in a form. -/
def children : Node → List Node
  | .expr (.column _) | .expr (.star _) | .expr (.number ..) | .expr (.text _)
  | .expr (.literal _) | .expr .null | .expr (.typed ..) => []
  | .expr (.unary _ e) | .expr (.postfixed e _) | .expr (.nested e) | .expr (.test e _)
  | .expr (.cast _ e _ _) => [.expr e]
  | .expr (.binary left _ right) | .expr (.quantified left _ _ right)
  | .expr (.distinct _ left right) => [.expr left, .expr right]
  | .expr (.tuple es) => es.map .expr
  | .expr (.inList _ e values) => .expr e :: values.map .expr
  | .expr (.inQuery _ e q) => [.expr e, .query q]
  | .expr (.between _ e low high) => [.expr e, .expr low, .expr high]
  | .expr (.call _ _ args clauses suffix) => args.map .expr ++ (clauses ++ suffix).map .part
  | .expr (.case operand branches otherwise) =>
    operand.toList.map .expr ++ branches.flatMap (fun b => [.expr b.1, .expr b.2]) ++
      otherwise.toList.map .expr
  | .expr (.exist _ q) | .expr (.subquery q) => [.query q]
  | .expr (.phrase parts) => parts.map .part
  | .part (.word _) => []
  | .part (.expr e) => [.expr e]
  | .part (.query q) => [.query q]
  | .query (.mk w b order tail _ _) =>
    w.toList.map .withClause ++ .body b :: order.map (fun t => .expr t.1) ++ tail.map .part
  | .withClause (.mk _ tables) => tables.map .tableDef
  | .tableDef (.mk _ _ q _) => [.query q]
  | .body (.select s) => [.select s]
  | .body (.query q) => [.query q]
  | .body (.setOp left _ right) => [.body left, .body right]
  | .body (.values _ rows) => rows.flatten.map .expr
  | .body (.table _) | .body (.insert _) | .body (.update _) => []
  | .select (.mk distinct items _ sources views test groupBy clauses having tail) =>
    distinct.map .part ++ items.map .item ++ sources.map .source ++ views.map .part ++
      test.toList.map .expr ++ groupBy.map .expr ++ clauses.map .part ++
      having.toList.map .expr ++ tail.map .part
  | .item (.expr e) | .item (.aliased e _) => [.expr e]
  | .item (.star _) => []
  | .source (.mk first joins) => .factor first :: joins.map .join
  | .join (.mk _ table c) => [.factor table, .condition c]
  | .condition (.on e) => [.expr e]
  | .condition (.nearest test more) => [.expr test, .condition more]
  | .condition (.sharing _) | .condition .free => []
  | .factor (.table ..) => []
  | .factor (.derived _ q _) => [.query q]
  | .factor (.nestedJoin s _) => [.source s]
  | .factor (.phrase parts _ tail) => (parts ++ tail).map .part
  | .factor (.turned table parts _) => .factor table :: parts.map .part

attribute [local simp] children

/-- Whether a form itself writes: a body that inserts or updates, a block that makes a table, a
query that locks rows. -/
def writes : Node → Bool
  | .query (.mk _ _ _ _ locks _) => !locks.isEmpty
  | .body (.insert _) | .body (.update _) => true
  | .select (.mk _ _ into _ _ _ _ _ _ _) => into.isSome
  | _ => false

/-- The outer forms: queries and what they are made of down to their blocks. -/
def isOuter : Node → Bool
  | .query _ | .withClause _ | .tableDef _ | .body _ | .select _ => true
  | _ => false

/-- A form stands directly in another. -/
def Step (a b : Node) : Prop := b ∈ a.children

/-- An outer form stands directly in another form. -/
def OuterStep (a b : Node) : Prop := b ∈ a.children ∧ b.isOuter = true

/-- A form stands in another, at whatever depth. -/
def Holds : Node → Node → Prop := Relation.ReflTransGen Step

/-- A form is reached from another through outer forms only. -/
def Outer : Node → Node → Prop := Relation.ReflTransGen OuterStep

/-- A form is reached from another through an expression, a table or a part of one. -/
def Embeds (a b : Node) : Prop := ∃ n, a.Holds n ∧ n.isOuter = false ∧ n.Holds b

theorem Outer.holds {a b : Node} (h : a.Outer b) : a.Holds b := by
  induction h with
  | refl => exact .refl
  | tail _ hstep ih => exact ih.tail hstep.1

theorem Embeds.holds {a b : Node} : a.Embeds b → a.Holds b
  | ⟨_, hn, _, hb⟩ => hn.trans hb

/-- **What a form holds is reached through outer forms only or is embedded.** -/
theorem Holds.outer_or_embeds {a b : Node} (h : a.Holds b) : a.Outer b ∨ a.Embeds b := by
  -- The first form on the way that is no outer one decides: all below it is embedded.
  induction h with
  | refl => exact .inl .refl
  | @tail b d hb hstep ih =>
    rcases ih with ih | ⟨n, hn, hinner, hbelow⟩
    · by_cases hd : d.isOuter = true
      · exact .inl (ih.tail ⟨hstep, hd⟩)
      · exact .inr ⟨d, hb.tail hstep, by simpa using hd, .refl⟩
    · exact .inr ⟨n, hn, hinner, hbelow.tail hstep⟩

/-! ### What the gate looks at -/

/-- Whether the gate lets a form pass; it looks at outer forms only. -/
def passes : Node → Bool
  | .query q => q.readOnly
  | .withClause w => w.readOnly
  | .tableDef (.mk _ _ q _) => q.readOnly
  | .body b => b.readOnly
  | .select s => (Body.select s).readOnly
  | _ => true

theorem allReadOnly_iff {tables : List TableDef} :
    TableDef.allReadOnly tables = true ↔ ∀ t ∈ tables, (Node.tableDef t).passes = true := by
  induction tables with
  | nil => simp [TableDef.allReadOnly]
  | cons t tables ih =>
    obtain ⟨called, materialized, q, source⟩ := t
    rw [TableDef.allReadOnly, Bool.and_eq_true, ih, List.forall_mem_cons]
    rfl

/-- **One step of the gate:** an outer form passes when it does not write itself and the outer forms
that stand in it pass. -/
theorem passes_iff {n : Node} (hn : n.isOuter = true) :
    n.passes = true ↔ n.writes = false ∧ ∀ m ∈ n.children, m.isOuter = true → m.passes = true := by
  cases n with
  | query q =>
    obtain ⟨w, b, order, tail, locks, clause⟩ := q
    simp only [children, List.forall_mem_append, List.forall_mem_cons, List.forall_mem_map]
    cases w <;> simp [isOuter, passes, Query.readOnly, writes, and_assoc, and_left_comm]
  | withClause w =>
    obtain ⟨recursive, tables⟩ := w
    simp only [children, List.forall_mem_map]
    simp [isOuter, passes, With.readOnly, allReadOnly_iff, writes]
  | tableDef t =>
    obtain ⟨called, materialized, q, source⟩ := t
    simp [isOuter, passes, writes]
  | body b =>
    cases b <;> simp only [children, List.forall_mem_map] <;>
      simp [isOuter, passes, Body.readOnly, writes]
  | select s =>
    obtain ⟨distinct, items, into, sources, views, test, groupBy, clauses, having, tail⟩ := s
    simp only [children, List.forall_mem_append, List.forall_mem_map]
    simp [isOuter, passes, Body.readOnly, writes]
  | _ => cases hn

/-- The outer forms that stand in an outer form are smaller. -/
theorem sizeOf_lt {n : Node} (hn : n.isOuter = true) :
    ∀ m ∈ n.children, m.isOuter = true → sizeOf m < sizeOf n := by
  cases n with
  | query q =>
    obtain ⟨w, b, order, tail, locks, clause⟩ := q
    simp only [children, List.forall_mem_append, List.forall_mem_cons, List.forall_mem_map]
    cases w <;> simp [isOuter] <;> omega
  | withClause w =>
    obtain ⟨recursive, tables⟩ := w
    simp only [children, List.forall_mem_map]
    intro t ht _
    have := List.sizeOf_lt_of_mem ht
    simp
    omega
  | tableDef t =>
    obtain ⟨called, materialized, q, source⟩ := t
    simp
    omega
  | body b =>
    cases b with
    | setOp left operator right =>
      simp [isOuter]
      omega
    | _ =>
      simp only [children, List.forall_mem_map]
      simp [isOuter]
  | select s =>
    obtain ⟨distinct, items, into, sources, views, test, groupBy, clauses, having, tail⟩ := s
    simp only [children, List.forall_mem_append, List.forall_mem_map]
    simp [isOuter]
  | _ => cases hn

/-- A form passes if nothing that is reached from it through outer forms writes. -/
theorem passes_of_outer (n : Node) (hn : n.isOuter = true) (h : ∀ m, n.Outer m → m.writes = false) :
    n.passes = true :=
  (passes_iff hn).2 ⟨h n .refl, fun m hm hout =>
    passes_of_outer m hout fun k hk => h k (.head ⟨hm, hout⟩ hk)⟩
termination_by n
decreasing_by exact sizeOf_lt hn m hm hout

/-- **The gate follows outer forms, and all of them.**  A form passes exactly when nothing that is
reached from it through outer forms writes. -/
theorem passes_iff_outer {n : Node} (hn : n.isOuter = true) :
    n.passes = true ↔ ∀ m, n.Outer m → m.writes = false := by
  refine ⟨fun h m hm => ?_, passes_of_outer n hn⟩
  -- From the top down: what passes hands it on to the outer forms that stand in it.
  induction hm using Relation.ReflTransGen.head_induction_on with
  | refl => exact ((passes_iff hn).1 h).1
  | head hstep _ ih => exact ih hstep.2 (((passes_iff hn).1 h).2 _ hstep.1 hstep.2)

end Node

/-! ### Blocks and their tables -/

/-- The block of a query, if its body is one. -/
def Query.block? : Query → Option Select
  | .mk _ (.select s) _ _ _ _ => some s
  | _ => none

/-- The items of a block. -/
def Select.items : Select → List Item
  | .mk _ items _ _ _ _ _ _ _ _ => items

/-- The tables of a block. -/
def Select.sources : Select → List Source
  | .mk _ _ _ sources _ _ _ _ _ _ => sources

/-- The query in brackets that is a table, if it is one. -/
def Source.derived? : Source → Option Query
  | .mk (.derived _ q _) _ => some q
  | _ => none

/-- The queries in brackets among the tables of a query's block. -/
def Query.derived (q : Query) : List Query :=
  (q.block?.elim [] Select.sources).filterMap Source.derived?

/-- Such queries of a statement that is a query. -/
def Statement.derived : Statement → List Query
  | .query q => q.derived
  | .other _ => []

namespace Node

theorem holds_block {q : Query} {s : Select} (h : q.block? = some s) :
    (Node.query q).Holds (.select s) := by
  unfold Query.block? at h
  split at h
  · cases h
    refine .head (b := .body (.select s)) ?_ (.single (List.mem_singleton.2 rfl))
    simp [Step, children]
  · cases h

theorem holds_item {s : Select} {x : Item} (h : x ∈ s.items) : (Node.select s).Holds (.item x) := by
  obtain ⟨distinct, items, into, sources, views, test, groupBy, clauses, having, tail⟩ := s
  have hx : x ∈ items := h
  exact .single (by simp [Step, children, hx])

theorem holds_source {s : Select} {x : Source} (h : x ∈ s.sources) :
    (Node.select s).Holds (.source x) := by
  obtain ⟨distinct, items, into, sources, views, test, groupBy, clauses, having, tail⟩ := s
  have hx : x ∈ sources := h
  exact .single (by simp [Step, children, hx])

/-- **A query in brackets that is a table is embedded** in the query of that table. -/
theorem embeds_derived {q inner : Query} (h : inner ∈ q.derived) :
    (Node.query q).Embeds (.query inner) := by
  obtain ⟨x, hx, hinner⟩ := List.mem_filterMap.1 h
  cases hblock : q.block? with
  | none => simp [hblock] at hx
  | some s =>
    rw [hblock] at hx
    have htable := (holds_block hblock).trans (holds_source hx)
    obtain ⟨first, joins⟩ := x
    cases first with
    | derived lateral q' called =>
      cases hinner
      exact ⟨.factor (.derived lateral inner called), htable.tail List.mem_cons_self, rfl,
        .single (List.mem_singleton.2 rfl)⟩
    | _ => cases hinner

end Node

/-! ### Accepted texts -/

/-- **The gate accepts the texts that are one query** of which it lets everything pass. -/
theorem checkReadOnly_eq_ok_iff {sql : String} :
    checkReadOnly sql = .ok () ↔ ∃ q, parse sql = .ok (some [.query q]) ∧ q.readOnly = true := by
  unfold checkReadOnly
  constructor
  · intro h
    split at h
    · rename_i statements hparse
      unfold gate at h
      split at h
      · rename_i q
        split at h
        · exact ⟨q, hparse, ‹_›⟩
        · cases h
      · cases h
      · cases h
    · cases h
    · cases h
  · rintro ⟨q, hparse, hq⟩
    simp only [hparse, gate, hq, if_true]

/-- **The gate sees what is outside of expressions and tables.**  It accepts a text exactly when the
text is one query and no body, block or query that is reached in it through `WITH` clauses, set
operators and brackets writes or locks.  So a text that is one query writes nothing at any depth
exactly when the gate accepts it and nothing writes within its expressions and the tables of its
`FROM` clauses. -/
theorem checkReadOnly_outer (sql : String) :
    (checkReadOnly sql = .ok () ↔ ∃ q, parse sql = .ok (some [.query q]) ∧
      ∀ n, (Node.query q).Outer n → n.writes = false) ∧
    ∀ q, parse sql = .ok (some [.query q]) →
      ((∀ n, (Node.query q).Holds n → n.writes = false) ↔
        checkReadOnly sql = .ok () ∧ ∀ n, (Node.query q).Embeds n → n.writes = false) := by
  have houter : ∀ q : Query, q.readOnly = true ↔ ∀ n, (Node.query q).Outer n → n.writes = false :=
    fun q => Node.passes_iff_outer (n := .query q) rfl
  refine ⟨by simp only [checkReadOnly_eq_ok_iff, houter], fun q hq => ⟨fun h => ⟨?_, ?_⟩, ?_⟩⟩
  · exact checkReadOnly_eq_ok_iff.2 ⟨q, hq, (houter q).2 fun n hn => h n hn.holds⟩
  · exact fun n hn => h n hn.holds
  · rintro ⟨hok, hembedded⟩ n hn
    obtain ⟨q', hq', hpass⟩ := checkReadOnly_eq_ok_iff.1 hok
    obtain rfl : q = q' := by simpa [hq'] using hq.symm
    exact hn.outer_or_embeds.elim ((houter q).1 hpass n) (hembedded n)

/-- A query that locks rows, as a table of another. -/
def lockedTable : String := "SELECT * FROM (SELECT * FROM b FOR UPDATE) AS c"

/-- The gate accepts it. -/
theorem checkReadOnly_outer_locked :
    checkReadOnly lockedTable = .ok () ∧
      ∃ q, parse lockedTable = .ok (some [.query q]) ∧
        (∀ n, (Node.query q).Outer n → n.writes = false) ∧
        ∃ n, (Node.query q).Embeds n ∧ n.writes = true := by
  have hok : checkReadOnly lockedTable = .ok () := eq_ok_of_toOption (by decide +kernel)
  have hlocks : ((parse lockedTable).toOption.join.getD []).all (fun statement =>
      statement.derived.any fun inner => (Node.query inner).writes) = true := by decide +kernel
  obtain ⟨haccepts, hdepth⟩ := checkReadOnly_outer lockedTable
  obtain ⟨q, hq, houter⟩ := haccepts.1 hok
  rw [hq] at hlocks
  obtain ⟨inner, hinner, hwrites⟩ : ∃ inner ∈ q.derived, (Node.query inner).writes = true := by
    simpa [Except.toOption, Statement.derived] using hlocks
  refine ⟨hok, q, hq, houter, Classical.byContradiction fun hnone => ?_⟩
  have hall := (hdepth q hq).2 ⟨hok, fun n hn => by simpa using fun hw => hnone ⟨n, hn, hw⟩⟩
  rw [hall _ (Node.embeds_derived hinner).holds] at hwrites
  cases hwrites

end SemanticLayer.Sql
