import SemanticLayer.Proofs.Json.RoundTrip
import SemanticLayer.Proofs.Query.Acceptance
import SemanticLayer.Proofs.Query.Document
import SemanticLayer.Proofs.Service.Session

/-
# Questions and forms come down to the same statement

The answer to a question says which query it was understood as.  Sent back as a
form, that query is read as it was written (`Request.read_form`), passes
validation unchanged (`ValidQuery.validate_query`), and so has the very
statement that the question had.
-/

namespace SemanticLayer

open Json

/-- The line of a form with the given fields. -/
def Request.form (fields : List (String × Json)) : String :=
  (Json.object (("op", .string "query") :: fields)).write

/-- The fields of a query hold no numbers, and no brackets deeper than a list of filter values. -/
theorem MetricQuery.plain_entries (q : MetricQuery) : ∀ e ∈ q.entries, Plain 2 e.2 := by
  have hfilters : Plain 2 q.filters.toJson := by
    refine .object fun e he => ?_
    obtain ⟨f, _, rfl⟩ := List.mem_map.1 he
    exact .strings f.2
  have hdimensions : Plain 2 (.strings q.dimensions) := by
    refine .list fun j hj => ?_
    obtain ⟨s, _, rfl⟩ := List.mem_map.1 hj
    exact .string s
  simp only [entries, List.forall_mem_cons]
  exact ⟨.string _, hdimensions, hfilters, .string _, .string _, .string _, nofun⟩

/-- No field of a query is called like the operation of a request. -/
theorem MetricQuery.key_ne_op (q : MetricQuery) : ∀ e ∈ q.entries, e.1 ≠ "op" := by
  simp [entries]

/-- **A form with the fields of a query asks for that query.** -/
theorem Request.read_form (q : MetricQuery) : Request.read (form q.entries) = .ok (.query q) := by
  refine Scan.Reads.run ?_
  have htagged : (Decoder.scanTagged "internally tagged enum Request" "op" operations
      depthLimit).Reads ((Json.object (("op", .string "query") :: q.entries)).writeChars ++ [])
      (.query, .object q.entries) [] :=
    Scan.reads_scanTagged rfl q.key_ne_op q.plain_entries (by decide) []
  rw [List.append_nil] at htagged
  rw [form, write, String.toList_ofList]
  refine htagged.bind ?_
  have hparts : ofParts .query (.object q.entries) = .ok (.query q) :=
    congrArg (query <$> ·) (q.decoder_toJson .setAside)
  dsimp only
  rw [hparts]
  exact .ofExcept _ _

namespace Service

variable {s : Service} {providers : Provider → String → Reading} {store : Store}

/-- A line that is a request is answered as that request. -/
theorem answerLine_of_read {line : String} {r : Request} (h : Request.read line = .ok r)
    (today : Date) : s.answerLine today line = s.answer today r := by
  rw [answerLine, h]

/-- A query that has a statement sends it. -/
theorem execute_of_ok {v : ValidQuery s.catalog s.spine} {sql : String}
    (h : s.statement v = .ok sql) (respond : ResultTable → Response) :
    s.execute v respond = .execute sql fun
      | .error e => .done (.ofError (.execution e))
      | .ok rows => .done (.ok (respond ⟨v.query.metric, rows, sql⟩)) := by
  unfold execute
  split
  · rename_i e he
    cases he.symm.trans h
  · rename_i sql' hsql
    cases hsql.symm.trans h
    rfl

/-- **A valid query of at most 23 dimensions has a statement** over a horizon that ends before the
calendar does, unless a value of its filters is unpaired. -/
theorem exists_statement {start stop : Date} (hs : Spine.ofHorizon start stop = .ok s.spine)
    (hstop : stop < Date.last) (hsource : s.compiler.Sourced) (v : ValidQuery s.catalog s.spine)
    (hfew : v.query.dimensions.length ≤ 23)
    (hvalues : ∀ value ∈ v.query.filterValues, ¬ Sql.Unpaired value.toList) :
    ∃ sql, s.statement v = .ok sql := by
  obtain ⟨m, ds, rows, hparts, hrows, hfilters⟩ :=
    Compiler.exists_parts (k := s.compiler) hs hstop v
  have hcompile := Compiler.compile_eq_ok.2
    ⟨_, Compiler.statement_eq_ok.2 ⟨m, ds, rows, hparts, rfl⟩, rfl⟩
  have hgate := Compiler.checkReadOnly_statement hsource hparts hrows hfilters hvalues
  rw [if_pos hfew] at hgate
  exact ⟨_, statement_eq_ok.2 ⟨hcompile, hgate⟩⟩

/-- **The form of a valid query sends the query's statement,** whatever day it is, and answers with
the rows that the store gives for it. -/
theorem answerLine_form {v : ValidQuery s.catalog s.spine} {sql : String}
    (h : s.statement v = .ok sql) (today : Date) :
    s.answerLine today (Request.form v.query.entries) = .execute sql fun
      | .error e => .done (.ofError (.execution e))
      | .ok rows => .done (.ok (.rows ⟨v.query.metric, rows, sql⟩)) := by
  have hanswer : s.answer today (.query v.query) = s.execute v .rows := by
    simp only [answer, query, v.validate_query]
  rw [answerLine_of_read (Request.read_form v.query), hanswer, execute_of_ok h]

end Service

namespace Visits

/-- A service that lets a provider of its own read questions. -/
def service : Service :=
  ⟨⟨catalog, spine, [("scribe", .other "scribe")], "scribe", 1⟩, .inline⟩

/-- What the provider reads. -/
def candidate : Candidate :=
  { Candidate.blank with
    metric := some "visits", dimensions := ["city"], filters := (query "Lyon").filters,
    start := some "2026-01-01", stop := some "2026-01-01" }

/-- The question of the visits to Lyon. -/
def line : String := "\x7b\"op\":\"natural\",\"query\":\"visits to Lyon\"\x7d"

end Visits

end SemanticLayer
