import SemanticLayer.Text.Lowercase
import SemanticLayer.Text.Mention

/-
# What a separator parts

A character that no mention takes in or looks past parts the mentions of a text
into those before it and those behind it (`Stops.mentions_append`).  In the same
way a text without the character occurs on one side of it (`occursIn_append`),
and lower case is formed on each side alone if the character is neither a letter
nor one that case ignores (`lowerFrom_append`).
-/

namespace SemanticLayer.Text

/-! ### Mentions -/

section Mentions

variable {α : Type} {find : Finder α}

/-- **A mention is what its finder finds** at some place of the text. -/
theorem exists_of_mem_pieces {before : Option Char} {cs : List Char} {m : Mention α}
    (h : .mention m ∈ pieces find before cs) :
    ∃ left right beside more, cs = left ++ right ∧ find beside right = some (m.said, more) ∧
      m.text = right.take (more + 1) := by
  fun_induction pieces find before cs with
  | case1 => cases h
  | case2 before c rest a more hfind text ih =>
    rcases List.mem_cons.1 h with h | h
    · cases h
      exact ⟨[], c :: rest, before, more, rfl, hfind, rfl⟩
    · obtain ⟨left, right, beside, n, hcs, hright, hm⟩ := ih h
      refine ⟨text ++ left, right, beside, n, ?_, hright, hm⟩
      rw [List.append_assoc, ← hcs]
      exact (congrArg (c :: ·) (List.take_append_drop more rest)).symm
  | case3 before c rest hnone ih =>
    rcases List.mem_cons.1 h with h | h
    · cases h
    · obtain ⟨left, right, beside, n, rfl, hright, hm⟩ := ih h
      exact ⟨c :: left, right, beside, n, rfl, hright, hm⟩

theorem mem_mentions {cs : List Char} {m : Mention α} :
    m ∈ mentions find cs ↔ .mention m ∈ pieces find none cs := by
  rw [mentions, List.mem_filterMap]
  constructor
  · rintro ⟨piece, hpiece, hm⟩
    cases piece with
    | char c => cases hm
    | mention n =>
      cases hm
      exact hpiece
  · exact fun h => ⟨_, h, rfl⟩

/-- The mentions of a finder do not reach over a character, and what stands behind it is read as if
nothing stood before. -/
structure Stops (find : Finder α) (c : Char) : Prop where
  here : ∀ before rest, find before (c :: rest) = none
  within : ∀ before d cs rest, find before (d :: cs ++ c :: rest) = find before (d :: cs)
  short : ∀ before d cs a more, find before (d :: cs) = some (a, more) → more ≤ cs.length
  behind : ∀ rest, find (some c) rest = find none rest

/-- The character before a text counts for its first piece alone. -/
theorem pieces_congr {before before' : Option Char}
    (h : ∀ cs, find before cs = find before' cs) (cs : List Char) :
    pieces find before cs = pieces find before' cs := by
  cases cs with
  | nil => rw [pieces, pieces]
  | cons c cs => rw [pieces, pieces, h]

/-- **A separator parts the pieces of a text.** -/
theorem Stops.pieces_append {c : Char} (hstops : Stops find c) (before : Option Char)
    (left right : List Char) :
    pieces find before (left ++ c :: right) =
      pieces find before left ++ .char c :: pieces find none right := by
  fun_induction pieces find before left with
  | case1 before =>
    rw [List.nil_append, pieces, hstops.here]
    exact congrArg (Piece.char c :: ·) (pieces_congr hstops.behind right)
  | case2 before d rest a more hfind text ih =>
    have hmore : more ≤ rest.length := hstops.short _ _ _ _ _ hfind
    rw [List.cons_append, pieces, ← List.cons_append, hstops.within, hfind]
    dsimp only
    rw [List.take_append_of_le_length hmore, List.drop_append_of_le_length hmore]
    exact congrArg (Piece.mention ⟨text, a⟩ :: ·) ih
  | case3 before d rest hnone ih =>
    rw [List.cons_append, pieces, ← List.cons_append, hstops.within, hnone]
    exact congrArg (Piece.char d :: ·) ih

theorem Stops.mentions_append {c : Char} (hstops : Stops find c) (left right : List Char) :
    mentions find (left ++ c :: right) = mentions find left ++ mentions find right := by
  rw [mentions, hstops.pieces_append, List.filterMap_append]
  rfl

theorem Stops.withoutMentions_append {c : Char} (hstops : Stops find c) (left right : List Char) :
    withoutMentions find (left ++ c :: right) =
      withoutMentions find left ++ c :: withoutMentions find right := by
  rw [withoutMentions, hstops.pieces_append, List.map_append]
  rfl

end Mentions

/-- Characters are no mentions. -/
@[simp] theorem filterMap_mention?_map_char {α : Type} (cs : List Char) :
    (cs.map Piece.char).filterMap (Piece.mention? (α := α)) = [] := by
  rw [List.filterMap_map]
  exact List.filterMap_eq_nil_iff.2 fun _ _ => rfl

@[simp] theorem map_blanked_map_char {α : Type} (cs : List Char) :
    (cs.map Piece.char).map (Piece.blanked (α := α)) = cs := by
  rw [List.map_map]
  exact List.map_id cs

/-- A text at no place of which something is found is left in characters. -/
theorem pieces_of_none {α : Type} {find : Finder α} {plain : Char → Prop}
    (hnone : ∀ before c cs, (∀ d ∈ c :: cs, plain d) → find before (c :: cs) = none)
    (before : Option Char) {cs : List Char} (hcs : ∀ c ∈ cs, plain c) :
    pieces find before cs = cs.map Piece.char := by
  induction cs generalizing before with
  | nil => rw [pieces, List.map_nil]
  | cons c cs ih =>
    rw [pieces, hnone before c cs hcs, List.map_cons]
    exact congrArg _ (ih (some c) (List.forall_mem_cons.1 hcs).2)

/-- A text that mentions nothing is left as it is. -/
theorem withoutMentions_of_mentions_eq_nil {α : Type} {find : Finder α} {cs : List Char}
    (h : mentions find cs = []) : withoutMentions find cs = cs := by
  have hchars : ∀ piece ∈ pieces find none cs, [piece.blanked] = piece.text := by
    intro piece hpiece
    have hnone := List.filterMap_eq_nil_iff.1 h piece hpiece
    cases piece with
    | char c => rfl
    | mention m => cases hnone
  calc withoutMentions find cs = (pieces find none cs).flatMap fun piece => [piece.blanked] :=
        List.map_eq_flatMap
    _ = (pieces find none cs).flatMap Piece.text := by
      rw [List.flatMap_def, List.flatMap_def, List.map_congr_left hchars]
    _ = cs := flatMap_text_pieces find none cs

/-! ### Parts of a text -/

/-- A text without a character that starts a longer text with it ends before it. -/
theorem exists_of_append_cons_eq {c : Char} {left right start rest : List Char} (hc : c ∉ start)
    (h : left ++ c :: right = start ++ rest) :
    ∃ more, left = start ++ more ∧ rest = more ++ c :: right := by
  rcases List.append_eq_append_iff.1 h with ⟨more, rfl, hmore⟩ | ⟨more, rfl, hmore⟩
  · cases more with
    | nil => exact ⟨[], by simp, by simpa using hmore.symm⟩
    | cons d more =>
      cases hmore
      exact absurd (by simp) hc
  · exact ⟨more, rfl, hmore⟩

theorem isPrefixOf_append_cons {c : Char} {needle : List Char} (hc : c ∉ needle)
    (left right : List Char) :
    needle.isPrefixOf (left ++ c :: right) = needle.isPrefixOf left := by
  rw [Bool.eq_iff_iff, List.isPrefixOf_iff_prefix, List.isPrefixOf_iff_prefix]
  constructor
  · rintro ⟨rest, h⟩
    obtain ⟨more, rfl, -⟩ := exists_of_append_cons_eq hc h.symm
    exact List.prefix_append needle more
  · exact fun h => h.trans (List.prefix_append left _)

/-- **A text without the separator occurs on one side of it.** -/
theorem occursIn_append {c : Char} {needle : List Char} (hc : c ∉ needle) (hne : needle ≠ [])
    (left right : List Char) :
    occursIn needle (left ++ c :: right) = (occursIn needle left || occursIn needle right) := by
  have hempty : needle.isEmpty = false := by simpa using hne
  have hhere := isPrefixOf_append_cons hc [] right
  have hnil : needle.isPrefixOf [] = false := by
    cases needle with
    | nil => exact absurd rfl hne
    | cons d needle => rfl
  induction left with
  | nil =>
    rw [List.nil_append] at hhere ⊢
    rw [occursIn, occursIn, hhere, hnil, hempty]
  | cons d left ih =>
    rw [List.cons_append, occursIn, occursIn, ← List.cons_append, isPrefixOf_append_cons hc, ih,
      Bool.or_assoc]

/-- A text occurs only where its characters do. -/
theorem occursIn_eq_false {c : Char} {needle cs : List Char} (hc : c ∈ needle) (hcs : c ∉ cs) :
    occursIn needle cs = false := by
  induction cs with
  | nil =>
    rw [occursIn]
    simpa using List.ne_nil_of_mem hc
  | cons d cs ih =>
    have hprefix : needle.isPrefixOf (d :: cs) = false := by
      rw [Bool.eq_false_iff, ne_eq, List.isPrefixOf_iff_prefix]
      exact fun h => hcs (h.subset hc)
    rw [occursIn, hprefix, ih fun h => hcs (List.mem_cons_of_mem d h), Bool.or_false]

/-! ### Lower case -/

/-- Behind a character that is no cased letter and not ignored nothing is seen of what is cased. -/
theorem startsCased_append {c : Char} (hignored : isCaseIgnorable c = false)
    (hcased : isCased c = false) (left right : List Char) :
    startsCased (left ++ c :: right) = startsCased left := by
  have hhere : ((c :: right).dropWhile isCaseIgnorable) = c :: right :=
    List.dropWhile_cons_of_neg (by simp [hignored])
  unfold startsCased
  rw [List.dropWhile_append, hhere]
  cases hleft : left.dropWhile isCaseIgnorable with
  | nil => exact hcased
  | cons d ds => rfl

/-- What stands before a text counts for its lower case by its cased letters alone. -/
theorem lowerFrom_behind {c : Char} (hignored : isCaseIgnorable c = false)
    (hcased : isCased c = false) (before : List Char) (cs behind : List Char) :
    lowerFrom (behind ++ c :: before) cs = lowerFrom behind cs := by
  induction cs generalizing behind with
  | nil => rfl
  | cons d cs ih =>
    rw [lowerFrom, lowerFrom, startsCased_append hignored hcased, ← List.cons_append, ih]

/-- **A separator parts the lower case of a text.** -/
theorem lowerFrom_append {c : Char} (hignored : isCaseIgnorable c = false)
    (hcased : isCased c = false) (hplain : c ≠ 'İ' ∧ c ≠ 'Σ') (before left right : List Char) :
    lowerFrom before (left ++ c :: right) =
      lowerFrom before left ++ lowerChar c :: lowerFrom [] right := by
  induction left generalizing before with
  | nil =>
    rw [List.nil_append, lowerFrom, lowerFrom, if_neg hplain.1, if_neg hplain.2]
    exact congrArg (lowerChar c :: ·) (lowerFrom_behind hignored hcased before right [])
  | cons d left ih =>
    rw [List.cons_append, lowerFrom, lowerFrom, startsCased_append hignored hcased, ih]
    exact (List.append_assoc _ _ _).symm

end SemanticLayer.Text
