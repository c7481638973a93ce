import Mathlib.Data.List.DropRight
import SemanticLayer.Proofs.Query.Document
import SemanticLayer.Question.Reply

/-
# Candidates in replies

A candidate is read from the document it is written as, whatever its texts
hold, and prose may stand around that document.  Where the document ends is not
told by the document but by what stands behind it, since the span that is read
reaches to the last closing brace of the reply:

| behind the document | the reply gives |
| --- | --- |
| no closing brace | the candidate |
| a closing brace | a problem: characters behind the document |

(`Reply.read_surrounded`.)
-/

namespace SemanticLayer

open Json Json.Decoder

/-! ### Candidates -/

/-- **Filters are read from their text,** key by key. -/
theorem Filters.decoder_readsFrom (f : Filters) : Filters.decoder.ReadsFrom 2 f.toJson f := by
  have hvalues : ∀ e ∈ f.entries,
      (oneOrMany "FilterValuesHelper").ReadsFrom 1 (.strings e.2) e.2 :=
    fun e _ => .oneOrMany _ e.2
  have hsame : f.entries.foldl (fun g e => g.set e.1 e.2) Filters.empty = f :=
    Filters.foldl_update (fun values _ => values) (fun _ => rfl) [] f.entries f.ascending .nil
  have htable : Filters.decoder.ReadsFrom 2 f.toJson
      (f.entries.foldl (fun g e => g.set e.1 e.2) Filters.empty) := ReadsFrom.table hvalues
  rwa [hsame] at htable

theorem Grain.decoder_readsFrom (g : Grain) : Grain.decoder.ReadsFrom 0 (.string g.name) g :=
  .choice (by cases g <;> rfl)

/-- **A candidate is read from its text,** whatever its fields hold or leave out. -/
theorem Candidate.decoder_readsFrom (c : Candidate) :
    Candidate.decoder.ReadsFrom 3 c.toJson c := by
  have htext : ∀ s : Option String, (optional text).ReadsFrom 2 (.optional s) s :=
    fun s => (ReadsFrom.optional_text s).mono (by decide)
  have hdimensions : (orDefault [] (Decoder.list text)).ReadsFrom 2 (.strings c.dimensions)
      c.dimensions := ((ReadsFrom.texts c.dimensions).orDefault nofun).mono (by decide)
  have hfilters : (orDefault .empty Filters.decoder).ReadsFrom 2 c.filters.toJson c.filters :=
    c.filters.decoder_readsFrom.orDefault nofun
  have hgrain : (optional Grain.decoder).ReadsFrom 2 (.optional (c.grain.map Grain.name))
      c.grain := by
    cases c.grain with
    | none => exact ReadsFrom.optional_null.mono (by decide)
    | some g => exact (g.decoder_readsFrom.optional_some nofun).mono (by decide)
  exact .record_inOrder (by decide) (.spare (htext c.metric) <| .spare hdimensions <|
    .spare hfilters <| .spare (htext c.timePhrase) <| .spare (htext c.start) <|
    .spare (htext c.stop) <| .spare hgrain <| .nil _)

namespace Reply

/-! ### The span of braces -/

/-- Nothing is dropped before a character that stops the dropping. -/
theorem rdropWhile_append_stop {p : Char → Bool} {stop : Char} (h : p stop = false)
    (before after : List Char) :
    (before ++ [stop] ++ after).rdropWhile p = before ++ [stop] ++ after.rdropWhile p := by
  induction after using List.reverseRecOn with
  | nil =>
    rw [List.append_nil, List.rdropWhile_nil, List.append_nil]
    exact List.rdropWhile_concat_neg _ _ _ (by simp [h])
  | append_singleton after last ih =>
    rw [← List.append_assoc, List.rdropWhile_concat, List.rdropWhile_concat, ih]
    split
    · rfl
    · rw [List.append_assoc]

/-- What is left between the first opening and the last closing brace is the span. -/
theorem objectSpan?_eq_some {cs : List Char} {ch : Char} {span : List Char}
    (h : (cs.dropWhile (· != '\x7b')).rdropWhile (· != '\x7d') = ch :: span) :
    objectSpan? cs = some (ch :: span) := by
  rw [List.rdropWhile] at h
  rw [objectSpan?, h]

/-- **The span starts with the first opening brace** and reaches to the last closing one, even where
the object ends before. -/
theorem objectSpan?_surrounded {before inner after : List Char} (h : '\x7b' ∉ before) :
    objectSpan? (before ++ ('\x7b' :: inner ++ ['\x7d'] ++ after)) =
      some ('\x7b' :: inner ++ ['\x7d'] ++ after.rdropWhile (· != '\x7d')) := by
  have hbefore : ∀ c ∈ before, (c != '\x7b') = true :=
    fun c hc => bne_iff_ne.2 fun heq => h (heq ▸ hc)
  have hstart : (before ++ ('\x7b' :: inner ++ ['\x7d'] ++ after)).dropWhile (· != '\x7b') =
      '\x7b' :: inner ++ ['\x7d'] ++ after := List.dropWhile_append_of_pos hbefore
  refine objectSpan?_eq_some ?_
  rw [hstart]
  exact rdropWhile_append_stop (by decide) _ _

/-! ### Replies -/

/-- A candidate is written between braces. -/
theorem exists_writeChars_toJson (c : Candidate) :
    ∃ inner, c.toJson.writeChars = '\x7b' :: inner ++ ['\x7d'] := ⟨_, rfl⟩

/-- **A candidate with prose around it is read back exactly when no closing brace follows it.**
Else the span that is read goes on behind the document, and the reply is malformed however well the
document reads by itself. -/
theorem read_surrounded (c : Candidate) {before : String} (hbefore : '\x7b' ∉ before.toList)
    (after : String) :
    (read (before ++ c.toJson.write ++ after) = .ok c ↔ '\x7d' ∉ after.toList) ∧
    ('\x7d' ∈ after.toList → ∃ place, read (before ++ c.toJson.write ++ after) =
      .error (.malformed (Problem.message ⟨.trailingCharacters, some place⟩))) := by
  have hspan : objectSpan? (before ++ c.toJson.write ++ after).toList =
      some (c.toJson.writeChars ++ after.toList.rdropWhile (· != '\x7d')) := by
    obtain ⟨inner, hinner⟩ := exists_writeChars_toJson c
    rw [String.toList_append, String.toList_append, Json.write, String.toList_ofList, hinner,
      List.append_assoc, objectSpan?_surrounded hbefore]
  have hread := c.decoder_readsFrom
  by_cases hafter : '\x7d' ∈ after.toList
  · have hlast : ∃ ch ∈ after.toList.rdropWhile (· != '\x7d'), Scan.isBlank ch = false := by
      refine ⟨'\x7d', ?_, by decide⟩
      rw [← List.rdropWhile_append_rtakeWhile (p := (· != '\x7d')) (l := after.toList)] at hafter
      refine (List.mem_append.1 hafter).resolve_right fun htake => ?_
      exact absurd (List.mem_rtakeWhile_imp htake) (by decide)
    obtain ⟨place, hplace⟩ := hread.read_trailing (by decide) hlast
    have herror : read (before ++ c.toJson.write ++ after) =
        .error (.malformed (Problem.message ⟨.trailingCharacters, some place⟩)) := by
      simp only [read, hspan, hplace]
    refine ⟨⟨fun hok => ?_, absurd hafter⟩, fun _ => ⟨place, herror⟩⟩
    rw [herror] at hok
    cases hok
  · have hnone : after.toList.rdropWhile (· != '\x7d') = [] :=
      List.rdropWhile_eq_nil_iff.2 fun ch hch => bne_iff_ne.2 fun heq => hafter (heq ▸ hch)
    have hok : read (before ++ c.toJson.write ++ after) = .ok c := by
      have hdocument := hread.read_write (by decide)
      rw [hnone, List.append_nil] at hspan
      rw [Json.write] at hdocument
      simp only [read, hspan, hdocument]
    exact ⟨⟨fun _ => hafter, fun _ => hok⟩, fun h => absurd h hafter⟩

/-- Behind one and the same document, a remark does no harm and braces do. -/
theorem read_surrounded_braces :
    '\x7b' ∉ "Sure: ".toList ∧
    read ("Sure: " ++ { Candidate.blank with metric := some "visits" }.toJson.write ++
      " (I am sure)") = .ok { Candidate.blank with metric := some "visits" } ∧
    ∃ place, read ("Sure: " ++ { Candidate.blank with metric := some "visits" }.toJson.write ++
      " (in \x7bbraces\x7d)") =
        .error (.malformed (Problem.message ⟨.trailingCharacters, some place⟩)) := by
  have hbefore : '\x7b' ∉ "Sure: ".toList := by decide
  exact ⟨hbefore, (read_surrounded _ hbefore _).1.2 (by decide),
    (read_surrounded _ hbefore _).2 (by decide)⟩

end Reply

end SemanticLayer
