import SemanticLayer.Question.Candidate
import SemanticLayer.Question.Hint
import SemanticLayer.Query.Validation
import SemanticLayer.Text.Mention

/-
# Reading a question by its keywords

The names, labels, synonyms and closed values of the catalog are looked for in
the question, letter case aside.  An ASCII term counts only where no ASCII
letter, digit or underscore stands beside it.  Of terms that overlap, the
longest in bytes is kept, and of equally long ones the first.

A question that names two metrics is ambiguous.
-/

namespace SemanticLayer.Keywords

open Text

/-- What a term stands for. -/
inductive Target where
  | metric (name : String)
  | dimension (name : String)
  /-- One of the closed values of a dimension. -/
  | value (dimension value : String)
deriving DecidableEq

/-- A term found in a question, from one byte offset up to another. -/
structure Found where
  start : Nat
  stop : Nat
  target : Target
deriving DecidableEq

namespace Found

/-- The number of bytes of the term. -/
def length (f : Found) : Nat := f.stop - f.start

/-- Whether two terms share bytes. -/
def overlaps (f g : Found) : Bool := f.start < g.stop ∧ g.start < f.stop

/-- Longer terms come first, and of equally long ones those that start first. -/
def before (f g : Found) : Bool :=
  g.length < f.length || (f.length == g.length && f.start ≤ g.start)

/-- Terms that start first come first. -/
def startsBefore (f g : Found) : Bool := f.start ≤ g.start

end Found

/-! ### Terms -/

/-- Whether a character is part of an ASCII word. -/
def isAsciiWord (c : Char) : Bool := c.isAlphanum || c == '_'

/-- Whether all characters are ASCII. -/
def isAscii (cs : List Char) : Bool := cs.all fun c => c.toNat < 128

/-- Whether a term counts between two characters. -/
def standsAlone (term : List Char) (before after : Option Char) : Bool :=
  !isAscii term || (!before.any isAsciiWord && !after.any isAsciiWord)

/-- Finds a term, and says whether it counts where it stands. -/
def findTerm (term : List Char) : Finder Bool := fun before cs =>
  if term.isPrefixOf cs && !term.isEmpty then
    some (standsAlone term before (cs.drop term.length).head?, term.length - 1)
  else none

/-- The byte offsets of the mentions that count, when the first piece starts at an offset. -/
def offsets (start : Nat) : List (Piece Bool) → List Nat
  | [] => []
  | .char c :: rest => offsets (start + c.utf8Size) rest
  | .mention m :: rest =>
    let more := offsets (start + byteCount m.text) rest
    if m.said then start :: more else more

/-- The places of a question in lower case where a term counts. -/
def places (question : List Char) (term : String) (target : Target) : List Found :=
  let needle := lowerFrom [] term.toList
  (offsets 0 (pieces (findTerm needle) none question)).map fun start =>
    ⟨start, start + byteCount needle, target⟩

/-- The terms that an entry goes by; blank ones do not count. -/
def terms (e : HintEntry) : List String :=
  (e.name :: e.label :: e.synonyms).filter fun t => !(trim t).isEmpty

/-- All terms of a hint with what they stand for. -/
def targets (h : Hint) : List (String × Target) :=
  h.metrics.flatMap (fun m => (terms m).map fun t => (t, .metric m.name)) ++
    h.dimensions.flatMap fun d =>
      (terms d).map (fun t => (t, .dimension d.name)) ++
        d.values.map fun v => (v, .value d.name v)

/-- All places of a question in lower case where a term of a hint counts. -/
def collect (h : Hint) (question : List Char) : List Found :=
  (targets h).flatMap fun (term, target) => places question term target

/-! ### Longest matches -/

/-- Keeps a term unless it overlaps one that has been kept. -/
def keep (kept : List Found) (f : Found) : List Found :=
  if kept.any (·.overlaps f) then kept else kept ++ [f]

/-- The terms that are kept, in the order of the question. -/
def longest (found : List Found) : List Found :=
  ((found.mergeSort Found.before).foldl keep []).mergeSort Found.startsBefore

/-! ### The candidate -/

/-- The name of the metric that a term stands for. -/
def Found.metric? (f : Found) : Option String :=
  match f.target with
  | .metric name => some name
  | _ => none

/-- The name of the dimension that a term stands for. -/
def Found.dimension? (f : Found) : Option String :=
  match f.target with
  | .dimension name => some name
  | _ => none

/-- The dimension and the value that a term stands for. -/
def Found.value? (f : Found) : Option (String × String) :=
  match f.target with
  | .value dimension value => some (dimension, value)
  | _ => none

/-- The filters of some values, each value once. -/
def filtersOf (values : List (String × String)) : Filters :=
  (values.foldl (fun f (dimension, value) => f.add dimension [value]) Filters.empty).mapValues
    firstOccurrences

/-- The words that name a grain. -/
def grainWords : List (Grain × List String) :=
  [(.week, ["按周", "每周", "weekly", "by week"]), (.month, ["按月", "每月", "monthly", "by month"]),
   (.quarter, ["按季度", "每季度", "quarterly", "by quarter"]),
   (.year, ["按年", "每年", "yearly", "by year"])]

/-- The first grain that a question in lower case names. -/
def grainOf (question : List Char) : Option Grain :=
  (grainWords.find? fun (_, words) => words.any fun w => occursIn w.toList question).map (·.1)

/-- What is left of a text behind so many bytes, if a character starts there. -/
def dropBytes : Nat → List Char → Option (List Char)
  | 0, cs => some cs
  | _ + 1, [] => none
  | n + 1, c :: rest => if c.utf8Size ≤ n + 1 then dropBytes (n + 1 - c.utf8Size) rest else none
termination_by _ cs => cs.length

/-- The characters of a text between two byte offsets, if characters start at both. -/
def sliceBytes (start stop : Nat) (cs : List Char) : Option (List Char) := do
  let rest ← dropBytes start cs
  let after ← dropBytes (stop - start) rest
  return rest.take (rest.length - after.length)

/-- A term as the question has it, or the whole question when lower case moves the offsets. -/
def asWritten (question lowered : List Char) (f : Found) : List Char :=
  if byteCount question = byteCount lowered then
    (sliceBytes f.start f.stop question).getD question
  else question

/-- The one metric of the terms kept. -/
def metricOf (question lowered : List Char) (kept : List Found) :
    Except ProviderError (Option String) :=
  match firstOccurrences (kept.filterMap Found.metric?) with
  | [] => .ok none
  | [name] => .ok (some name)
  | names =>
    let written := (kept.filter (·.metric?.isSome)).map fun f =>
      String.ofList (asWritten question lowered f)
    .error (.ambiguous (", ".intercalate written) names)

/-- The candidate of a question. -/
def read (h : Hint) (question : String) : Except ProviderError Candidate := do
  let text := question.toList
  let lowered := lowerFrom [] text
  let kept := longest (collect h lowered)
  let metric ← metricOf text lowered kept
  return { Candidate.blank with
    metric
    dimensions := firstOccurrences (kept.filterMap Found.dimension?)
    filters := filtersOf (kept.filterMap Found.value?)
    grain := grainOf lowered }

end SemanticLayer.Keywords
