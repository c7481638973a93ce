import SemanticLayer.Question.Candidate

/-
# Replies in prose

A chat model is asked for a JSON object and may wrap it in prose.  What counts
is the span from the first opening brace of the reply to the last closing one.
-/

namespace SemanticLayer.Reply

/-- The span from the first opening brace to the last closing brace behind it. -/
def objectSpan? (cs : List Char) : Option (List Char) :=
  match ((cs.dropWhile (· != '\x7b')).reverse.dropWhile (· != '\x7d')).reverse with
  | [] => none
  | span => some span

/-- The candidate in a reply. -/
def read (reply : String) : Except ProviderError Candidate :=
  match objectSpan? reply.toList with
  | none => .error (.malformed ("no JSON object in reply: " ++ Text.quoted reply))
  | some span =>
    match Candidate.decoder.read (String.ofList span) with
    | .ok c => .ok c
    | .error p => .error (.malformed p.message)

end SemanticLayer.Reply
