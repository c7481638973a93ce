import SemanticLayer.Service.Response

/-
# Dialogues with providers and stores

Answering a request may need a provider's reading of a question, and the rows
of a statement from a store.  A dialogue is an answer in which these are left
open: it goes on with whatever they turn out to be.
-/

namespace SemanticLayer

inductive Dialogue where
  | done (outcome : Outcome)
  /-- Asks a provider a question. -/
  | ask (p : Provider) (question : String) (next : Reading → Dialogue)
  /-- Sends a statement to the store. -/
  | execute (sql : String) (next : Except StoreError (List Row) → Dialogue)

/-- What a store answers to statements. -/
abbrev Store := String → Except StoreError (List Row)

namespace Dialogue

/-- The outcome of a dialogue, and the statements that were sent to the store. -/
def run (providers : Provider → String → Reading) (store : Store) : Dialogue → Outcome × List String
  | done outcome => (outcome, [])
  | ask p question next => run providers store (next (providers p question))
  | execute sql next =>
    let (outcome, sent) := run providers store (next (store sql))
    (outcome, sql :: sent)

end Dialogue

end SemanticLayer
