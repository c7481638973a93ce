import SemanticLayer.Proofs.Query.Validity
import SemanticLayer.Service.Service

/-
# Sessions: what reaches the store

A session is any number of lines under way at a service.  A line may arrive at
any time, and any open line may go on with one exchange: a provider is asked
and reads whatever it reads, or a statement is sent and the store answers
whatever it answers.  So the orders of steps and the behaviours of providers
and store are all there.

| what a line has sent | what it is answered with |
| --- | --- |
| nothing | the listing, or an error other than `ExecutionError` |
| one statement | the rows of that statement, or `ExecutionError` |

`Service.Lawful` says what the rest of a dialogue may still do, and
`Turn.Lawful` is the invariant of a line: a step keeps it
(`Turn.Lawful.step`), hence so does a session (`Session.lawful`).
-/

namespace SemanticLayer

/-- What passes between a service and the providers and the store it talks to. -/
inductive Exchange where
  /-- A provider was asked a question, and read it. -/
  | asked (p : Provider) (question : String) (r : Reading)
  /-- A statement was sent to the store, and the store answered. -/
  | executed (sql : String) (r : Except StoreError (List Row))

/-- The statement that an exchange sends to the store. -/
def Exchange.statement? : Exchange → Option String
  | asked .. => none
  | executed sql _ => some sql

/-- A dialogue goes on with one exchange. -/
inductive Dialogue.Step : Dialogue → Exchange → Dialogue → Prop where
  | ask (p question next r) : Step (.ask p question next) (.asked p question r) (next r)
  | execute (sql next r) : Step (.execute sql next) (.executed sql r) (next r)

/-- The statement that a dialogue has sent and that is not answered yet. -/
def Dialogue.pending : Dialogue → List String
  | done _ => []
  | ask _ _ _ => []
  | execute sql _ => [sql]

/-- A line under way: what has passed since it arrived, and the rest of its dialogue. -/
structure Turn where
  today : Date
  line : String
  exchanges : List Exchange
  rest : Dialogue

/-- The statements that a line has sent to the store, the one that waits for its answer included. -/
def Turn.sent (t : Turn) : List String :=
  t.exchanges.filterMap Exchange.statement? ++ t.rest.pending

/-- The document that a line is answered with, once it is. -/
def Turn.reply? (t : Turn) : Option Json :=
  match t.rest with
  | .done outcome => outcome.toJson?
  | _ => none

/-- The lines that may be under way at a service at the same time. -/
inductive Session (s : Service) : List Turn → Prop where
  | start : Session s []
  /-- A line arrives. -/
  | receive {turns : List Turn} (today : Date) (line : String) (h : Session s turns) :
    Session s (turns ++ [⟨today, line, [], s.answerLine today line⟩])
  /-- A line goes on with an exchange. -/
  | exchange {before after : List Turn} {today : Date} {line : String} {es : List Exchange}
      {d d' : Dialogue} {e : Exchange} (h : Session s (before ++ ⟨today, line, es, d⟩ :: after))
      (step : d.Step e d') :
    Session s (before ++ ⟨today, line, es ++ [e], d'⟩ :: after)

/-! ### What a dialogue may do -/

/-- An outcome that tells of a statement: its rows, or why the store did not give them. -/
def Outcome.Tells (sql : String) : Except StoreError (List Row) → Outcome → Prop
  | .ok rows, o => ∃ metric,
      o = .ok (.rows ⟨metric, rows, sql⟩) ∨
        ∃ q text, o = .ok (.understood ⟨metric, rows, sql⟩ q text)
  | .error e, o => o = .ofError (.execution e)

namespace Service

/-- An outcome without a statement: the listing, an error that is not the store's, or a
breakdown. -/
def Quiet (s : Service) (o : Outcome) : Prop :=
  o = .ok (.metrics s.catalog.summaries) ∨
    (∃ e, o = .ofError e ∧ ∀ reason, e ≠ .execution reason) ∨ ∃ b, o = .error (.broken b)

/-- A statement that may be sent: it is compiled from a query that the service's own catalog and
spine accept, and it passes the gate. -/
def Cleared (s : Service) (sql : String) : Prop :=
  ∃ (q : MetricQuery) (v : ValidQuery s.catalog s.spine),
    q.validate s.catalog s.spine = .ok v ∧ s.compiler.compile v = .ok sql ∧
    Sql.checkReadOnly sql = .ok ()

/-- A dialogue that sends at most one statement, which is cleared, and then tells of it. -/
def Lawful (s : Service) : Dialogue → Prop
  | .done o => s.Quiet o
  | .ask _ _ next => ∀ r, s.Lawful (next r)
  | .execute sql next => s.Cleared sql ∧ ∀ r, ∃ o, next r = .done o ∧ o.Tells sql r

/-- An error that is not the store's ends a dialogue lawfully. -/
theorem lawful_ofError {s : Service} {e : ServiceError} (h : ∀ reason, e ≠ .execution reason) :
    s.Lawful (.done (.ofError e)) :=
  .inr (.inl ⟨e, rfl, h⟩)

/-- So does a breakdown. -/
theorem lawful_broken (s : Service) (b : Breakdown) : s.Lawful (.done (.error (.broken b))) :=
  .inr (.inr ⟨b, rfl⟩)

/-- **A statement is what the compiler makes of a query and the gate lets through.** -/
theorem statement_eq_ok {s : Service} {v : ValidQuery s.catalog s.spine} {sql : String} :
    s.statement v = .ok sql ↔
      s.compiler.compile v = .ok sql ∧ Sql.checkReadOnly sql = .ok () := by
  unfold statement
  constructor
  · intro h
    split at h
    · cases h
    · cases h
    · rename_i text hcompile
      split at h
      · cases h
      · cases h
      · rename_i hgate
        cases h
        exact ⟨hcompile, hgate⟩
  · rintro ⟨hcompile, hgate⟩
    simp only [hcompile, hgate]

/-- The statement of a query is cleared. -/
theorem cleared_of_statement {s : Service} {v : ValidQuery s.catalog s.spine} {sql : String}
    (h : s.statement v = .ok sql) : s.Cleared sql :=
  ⟨v.query, v, v.validate_query, statement_eq_ok.1 h⟩

/-- A query without a statement fails with an error that is not the store's, or breaks down. -/
theorem statement_error {s : Service} {v : ValidQuery s.catalog s.spine} {f : Fault ServiceError}
    (h : s.statement v = .error f) : s.Lawful (.done (.error f)) := by
  unfold statement at h
  split at h
  · cases h
    exact lawful_ofError fun _ he => by cases he
  · cases h
    exact s.lawful_broken _
  · split at h
    · cases h
      exact lawful_ofError fun _ he => by cases he
    · cases h
      exact s.lawful_broken _
    · cases h

/-- **Executing a query is lawful**, whatever the response is made of its rows, as long as it tells
of them. -/
theorem lawful_execute {s : Service} {v : ValidQuery s.catalog s.spine}
    {respond : ResultTable → Response}
    (hr : ∀ t, respond t = .rows t ∨ ∃ q text, respond t = .understood t q text) :
    s.Lawful (s.execute v respond) := by
  unfold execute
  split
  · rename_i f hf
    exact statement_error hf
  · rename_i sql hs
    refine ⟨cleared_of_statement hs, fun r => ?_⟩
    cases r with
    | error e => exact ⟨_, rfl, rfl⟩
    | ok rows =>
      refine ⟨_, rfl, v.query.metric, ?_⟩
      rcases hr ⟨v.query.metric, rows, sql⟩ with h | ⟨q, text, h⟩
      · exact .inl (by rw [h])
      · exact .inr ⟨q, text, by rw [h]⟩

theorem lawful_query (s : Service) (q : MetricQuery) : s.Lawful (s.query q) := by
  unfold query
  split
  · exact lawful_ofError fun _ he => by cases he
  · exact lawful_execute fun _ => .inl rfl

theorem lawful_understand (s : Service) (q : Question) (today : Date) (r : Reading) :
    s.Lawful (s.understand q today r) := by
  unfold understand
  split
  · exact lawful_ofError fun _ he => by cases he
  · exact s.lawful_broken _
  · exact lawful_execute fun _ => .inr ⟨_, _, rfl⟩

theorem lawful_natural (s : Service) (q : Question) (today : Date) :
    s.Lawful (s.natural q today) := by
  unfold natural
  split
  · exact lawful_ofError fun _ he => by cases he
  · exact s.lawful_understand q today _
  · exact fun r => s.lawful_understand q today r

/-- **Every line starts a lawful dialogue.** -/
theorem lawful_answerLine (s : Service) (today : Date) (line : String) :
    s.Lawful (s.answerLine today line) := by
  unfold answerLine
  split
  · exact lawful_ofError fun _ he => by cases he
  · rename_i r _
    cases r with
    | listMetrics => exact .inl rfl
    | query q => exact s.lawful_query q
    | natural q => exact s.lawful_natural q today

end Service

/-! ### What a line may have done -/

/-- A line that has sent nothing and goes on lawfully, or that has sent one cleared statement, which
its outcome tells of. -/
def Turn.Lawful (s : Service) (t : Turn) : Prop :=
  (t.exchanges.filterMap Exchange.statement? = [] ∧ s.Lawful t.rest) ∨
    ∃ sql r o, t.exchanges.filterMap Exchange.statement? = [sql] ∧ .executed sql r ∈ t.exchanges ∧
      s.Cleared sql ∧ t.rest = .done o ∧ o.Tells sql r

/-- **An exchange keeps a line lawful.** -/
theorem Turn.Lawful.step {s : Service} {today : Date} {line : String} {es : List Exchange}
    {d d' : Dialogue} {e : Exchange} (h : Turn.Lawful s ⟨today, line, es, d⟩) (hs : d.Step e d') :
    Turn.Lawful s ⟨today, line, es ++ [e], d'⟩ := by
  rcases h with ⟨hnone, hd⟩ | ⟨_, _, o, _, _, _, hdone, _⟩
  · dsimp only at hnone hd
    cases hs with
    | ask p question next r =>
      exact .inl ⟨by simpa [Exchange.statement?] using hnone, hd r⟩
    | execute sql next r =>
      obtain ⟨o, ho, ht⟩ := hd.2 r
      refine .inr ⟨sql, r, o, ?_, by simp, hd.1, ho, ht⟩
      rw [List.filterMap_append, hnone]
      rfl
  -- A line that has sent its statement is answered, so it takes no further step.
  · dsimp only at hdone
    subst hdone
    cases hs

/-- **Every line of a session stays lawful.** -/
theorem Session.lawful {s : Service} {turns : List Turn} (h : Session s turns) :
    ∀ t ∈ turns, t.Lawful s := by
  induction h with
  | start => simp
  | @receive turns today line _ ih =>
    intro t ht
    rcases List.mem_append.1 ht with ht | ht
    · exact ih t ht
    · obtain rfl := List.mem_singleton.1 ht
      exact .inl ⟨rfl, s.lawful_answerLine today line⟩
  | @exchange before after today line es d d' e _ hstep ih =>
    intro t ht
    rcases List.mem_append.1 ht with ht | ht
    · exact ih t (List.mem_append_left _ ht)
    · rcases List.mem_cons.1 ht with rfl | ht
      · exact (ih ⟨today, line, es, d⟩ (by simp)).step hstep
      · exact ih t (List.mem_append_right _ (List.mem_cons_of_mem _ ht))

end SemanticLayer
