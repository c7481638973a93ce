import SemanticLayer.Proofs.Service.Convergence
import SemanticLayer.Proofs.Service.Session

/-
# The gate before the store

What the invariant of a session says in the documents on the wire: a line has
sent at most one statement, only a cleared one, and its reply tells of that
statement exactly when there is one.
-/

namespace SemanticLayer

namespace ServiceError

/-- The kind of an error under which documents name it. -/
theorem get?_toJson (e : ServiceError) : e.toJson.get? "error" = some (.string e.kind) := by
  simp [toJson, Json.get?]

/-- **Only the store's errors are called `ExecutionError`.** -/
theorem kind_ne_executionError {e : ServiceError} (h : ∀ reason, e ≠ .execution reason) :
    e.kind ≠ "ExecutionError" := by
  cases e with
  | badRequest | tooLong => simp [kind]
  | validation e => cases e with
    | range e => cases e <;> simp [kind, ValidationError.kind, RangeError.kind]
    | _ => simp [kind, ValidationError.kind]
  | question e => cases e with
    | invalid e => cases e with
      | range e =>
        cases e <;> simp [kind, QuestionError.kind, ValidationError.kind, RangeError.kind]
      | _ => simp [kind, QuestionError.kind, ValidationError.kind]
    | _ => simp [kind, QuestionError.kind]
  | compile e => cases e with
    | gate e => cases e <;> simp [kind]
    | _ => simp [kind]
  | execution reason => exact absurd rfl (h reason)

end ServiceError

/-- A document that answers a line with the rows of a statement. -/
def Json.GivesRows (sql : String) (rows : List Row) (reply : Json) : Prop :=
  reply.get? "query_sql" = some (.string sql) ∧
    reply.get? "row_count" = some (.int rows.length) ∧ reply.get? "error" = none

/-- A document that answers a line with an error of a kind. -/
def Json.GivesError (kind : String) (reply : Json) : Prop :=
  reply.get? "error" = some (.string kind)

/-- **An outcome that tells of a statement says so in its document.** -/
theorem Outcome.Tells.reply {sql : String} {r : Except StoreError (List Row)} {o : Outcome}
    (h : o.Tells sql r) {reply : Json} (hr : o.toJson? = some reply) :
    match r with
    | .ok rows => reply.GivesRows sql rows
    | .error _ => reply.GivesError "ExecutionError" := by
  cases r with
  | ok rows =>
    obtain ⟨metric, rfl | ⟨q, text, rfl⟩⟩ := h <;> cases hr <;>
      simp [Json.GivesRows, Response.toJson, ResultTable.entries, Json.get?]
  | error e =>
    obtain rfl := h
    cases hr
    exact ServiceError.get?_toJson _

/-- A quiet outcome is the listing, or an error of another kind than `ExecutionError`. -/
theorem Service.Quiet.reply {s : Service} {o : Outcome} (h : s.Quiet o) {reply : Json}
    (hr : o.toJson? = some reply) :
    reply = (Response.metrics s.catalog.summaries).toJson ∨
      ∃ kind, reply.GivesError kind ∧ kind ≠ "ExecutionError" := by
  rcases h with rfl | ⟨e, rfl, he⟩ | ⟨b, rfl⟩
  · cases hr
    exact .inl rfl
  · cases hr
    exact .inr ⟨e.kind, e.get?_toJson, ServiceError.kind_ne_executionError he⟩
  · cases hr

/-- **Only cleared statements reach the store.**  In every session, whatever lines arrive, in
whatever order they go on, and whatever providers and store answer:

* a line sends at most one statement;
* a statement that is sent is compiled from a query that the service's own catalog and spine
  accept, and the gate lets it pass;
* once a line that has sent a statement is answered, the store has answered, and the reply gives
  that statement with the number of rows that the store gave, or is an `ExecutionError`;
* a line that is answered without having sent a statement is answered with the listing of the
  metrics, or with an error of another kind. -/
theorem session_sends_only_cleared {s : Service} {turns : List Turn} (h : Session s turns) :
    ∀ t ∈ turns,
      t.sent.length ≤ 1 ∧
      (∀ sql ∈ t.sent, ∃ (q : MetricQuery) (v : ValidQuery s.catalog s.spine),
        q.validate s.catalog s.spine = .ok v ∧ s.compiler.compile v = .ok sql ∧
          Sql.checkReadOnly sql = .ok ()) ∧
      ∀ reply, t.reply? = some reply →
        (∀ sql ∈ t.sent,
          (∃ rows, .executed sql (.ok rows) ∈ t.exchanges ∧ reply.GivesRows sql rows) ∨
          ∃ e, .executed sql (.error e) ∈ t.exchanges ∧ reply.GivesError "ExecutionError") ∧
        (t.sent = [] →
          reply = (Response.metrics s.catalog.summaries).toJson ∨
            ∃ kind, reply.GivesError kind ∧ kind ≠ "ExecutionError") := by
  intro t ht
  rcases h.lawful t ht with ⟨hnone, hl⟩ | ⟨sql, r, o, hone, hmem, hclear, hdone, htell⟩
  · obtain ⟨today, line, es, d⟩ := t
    dsimp only at hnone hl
    have hsent : Turn.sent ⟨today, line, es, d⟩ = d.pending := by simp [Turn.sent, hnone]
    rw [hsent]
    cases d with
    | done o =>
      refine ⟨by simp [Dialogue.pending], by simp [Dialogue.pending], fun reply hr => ?_⟩
      exact ⟨by simp [Dialogue.pending], fun _ => hl.reply hr⟩
    | ask p question next =>
      exact ⟨by simp [Dialogue.pending], by simp [Dialogue.pending], fun reply hr => by cases hr⟩
    | execute sql next =>
      refine ⟨by simp [Dialogue.pending], fun sql' hmem => ?_, fun reply hr => by cases hr⟩
      obtain rfl := List.mem_singleton.1 hmem
      exact hl.1
  · obtain ⟨today, line, es, d⟩ := t
    dsimp only at hone hmem hdone
    subst hdone
    have hsent : Turn.sent ⟨today, line, es, .done o⟩ = [sql] := by
      simp [Turn.sent, hone, Dialogue.pending]
    rw [hsent]
    refine ⟨by simp, fun sql' hmem => ?_, fun reply hr => ⟨fun sql' hmem' => ?_, by simp⟩⟩
    · obtain rfl := List.mem_singleton.1 hmem
      exact hclear
    · obtain rfl := List.mem_singleton.1 hmem'
      have hreply := htell.reply hr
      cases r with
      | ok rows => exact .inl ⟨rows, hmem, hreply⟩
      | error e => exact .inr ⟨e, hmem, hreply⟩

/-- A form of the visits to Lyon, answered from the one statement that is sent. -/
theorem session_sends_only_cleared_visits :
    ∃ (t : Turn) (sql : String), Session Visits.service [t] ∧ t.sent = [sql] ∧ t.reply?.isSome ∧
      Sql.checkReadOnly sql = .ok () := by
  obtain ⟨sql, hsql⟩ := Service.exists_statement (s := Visits.service) Visits.ofHorizon_newYear
    (by decide) (Compiler.sourced_inlined _ _) (Visits.valid "Lyon") (by decide)
    (List.forall_mem_singleton.2 (Sql.contained_iff.1 (by decide)))
  have hreceive := Session.start.receive (s := Visits.service) Visits.newYear
    (Request.form (Visits.query "Lyon").entries)
  rw [show Visits.query "Lyon" = (Visits.valid "Lyon").query from rfl,
    Service.answerLine_form hsql] at hreceive
  have hsession := @Session.exchange _ [] [] _ _ _ _ _ _ hreceive (.execute sql _ (.ok []))
  obtain ⟨-, hcleared, -⟩ := session_sends_only_cleared hsession _ List.mem_cons_self
  obtain ⟨q, v, -, -, hgate⟩ := hcleared sql List.mem_cons_self
  exact ⟨_, sql, hsession, rfl, rfl, hgate⟩

end SemanticLayer
