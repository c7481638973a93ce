import SemanticLayer.Proofs.Question.Order

/-
# Where a term occurs in a question

A term is looked for from left to right: where it stands it is passed over as a
whole, and elsewhere one character is (`search_induction`).  So what the search
marks are the leftmost occurrences: an occurrence is marked exactly if no marked
one starts before it and reaches into it (`mem_marks_iff`).  Whether the term
stands alone there is a second question, and a mark that does not count is
passed over as a whole all the same.
-/

namespace SemanticLayer.Keywords

open Text

/-! ### Bytes -/

theorem foldl_utf8Size (cs : List Char) (n : Nat) :
    cs.foldl (fun n c => n + c.utf8Size) n = n + byteCount cs := by
  induction cs generalizing n with
  | nil => rfl
  | cons c cs ih => rw [byteCount, List.foldl_cons, List.foldl_cons, ih, ih]; omega

theorem byteCount_cons (c : Char) (cs : List Char) :
    byteCount (c :: cs) = c.utf8Size + byteCount cs := by
  rw [byteCount, List.foldl_cons, foldl_utf8Size, Nat.zero_add]

theorem byteCount_append (cs ds : List Char) :
    byteCount (cs ++ ds) = byteCount cs + byteCount ds := by
  rw [byteCount, List.foldl_append, foldl_utf8Size]
  rfl

/-- The empty text is the one without bytes. -/
theorem byteCount_eq_zero {cs : List Char} : byteCount cs = 0 ↔ cs = [] := by
  refine ⟨fun h => ?_, fun h => h ▸ rfl⟩
  by_contra hne
  exact Nat.ne_of_gt (byteCount_pos hne) h

/-- Of two starts of a text the one with fewer bytes is a start of the other. -/
theorem exists_of_byteCount_le {left right lead rest : List Char}
    (h : lead ++ rest = left ++ right) (hle : byteCount lead ≤ byteCount left) :
    ∃ more, left = lead ++ more ∧ rest = more ++ right := by
  rcases List.append_eq_append_iff.1 h with ⟨more, rfl, rfl⟩ | ⟨more, rfl, rfl⟩
  · exact ⟨more, rfl, rfl⟩
  · rw [byteCount_append] at hle
    obtain rfl : more = [] := byteCount_eq_zero.1 (by omega)
    exact ⟨[], by simp, rfl⟩

/-! ### Marks -/

/-- Mentions with the byte offsets at which they start, when the first piece starts at an offset. -/
def marks (start : Nat) : List (Piece Bool) → List (Nat × Bool)
  | [] => []
  | .char c :: rest => marks (start + c.utf8Size) rest
  | .mention m :: rest => (start, m.said) :: marks (start + byteCount m.text) rest

theorem mem_offsets {start offset : Nat} {ps : List (Piece Bool)} :
    offset ∈ offsets start ps ↔ (offset, true) ∈ marks start ps := by
  fun_induction marks start ps with
  | case1 => simp [offsets]
  | case2 start c rest ih => rw [offsets, ih]
  | case3 start m rest ih =>
    rw [offsets, List.mem_cons]
    cases hsaid : m.said with
    | false => simpa using ih
    | true => simpa using or_congr_right ih

theorem le_of_mem_marks {start : Nat} {ps : List (Piece Bool)} {m : Nat × Bool}
    (h : m ∈ marks start ps) : start ≤ m.1 := by
  fun_induction marks start ps with
  | case1 => cases h
  | case2 start c rest ih => exact Nat.le_trans (Nat.le_add_right _ _) (ih h)
  | case3 start p rest ih =>
    rcases List.mem_cons.1 h with rfl | h
    · exact Nat.le_refl _
    · exact Nat.le_trans (Nat.le_add_right _ _) (ih h)

section Term

variable {term : List Char}

/-- A term that stands at the start of a text is found there, and the search goes on behind it. -/
theorem marks_term (hne : term ≠ []) (start : Nat) (before : Option Char) (rest : List Char) :
    marks start (pieces (findTerm term) before (term ++ rest)) =
      (start, standsAlone term before rest.head?) ::
        marks (start + byteCount term) (pieces (findTerm term) term.getLast? rest) := by
  obtain ⟨c, cs, rfl⟩ := List.exists_cons_of_ne_nil hne
  have hfind : findTerm (c :: cs) before (c :: (cs ++ rest)) =
      some (standsAlone (c :: cs) before rest.head?, cs.length) := by
    have hprefix : (c :: cs).isPrefixOf (c :: (cs ++ rest)) = true :=
      List.isPrefixOf_iff_prefix.2 (List.prefix_append (c :: cs) rest)
    have hrest : (c :: (cs ++ rest)).drop (c :: cs).length = rest := by
      rw [← List.cons_append, List.drop_left]
    rw [findTerm, hprefix, hrest]
    rfl
  rw [List.cons_append, pieces, hfind]
  dsimp only
  rw [List.take_left, List.drop_left, marks]

/-- Else the search goes on behind the first character. -/
theorem marks_char {c : Char} {rest : List Char} (hnone : ¬ term <+: c :: rest) (start : Nat)
    (before : Option Char) :
    marks start (pieces (findTerm term) before (c :: rest)) =
      marks (start + c.utf8Size) (pieces (findTerm term) (some c) rest) := by
  have hfind : findTerm term before (c :: rest) = none := by
    refine if_neg fun h => hnone ?_
    exact List.isPrefixOf_iff_prefix.1 (Bool.and_eq_true_iff.1 h).1
  rw [pieces, hfind]
  rfl

/-- **A text is searched from left to right:** a term that is found is passed over as a whole, and
else one character is. -/
@[elab_as_elim]
theorem search_induction (hne : term ≠ []) {motive : Option Char → List Char → Prop}
    (nil : ∀ before, motive before [])
    (found : ∀ before rest, motive term.getLast? rest → motive before (term ++ rest))
    (skipped : ∀ before c rest, ¬ term <+: c :: rest → motive (some c) rest →
      motive before (c :: rest))
    (before : Option Char) (cs : List Char) : motive before cs := by
  induction hlength : cs.length using Nat.strong_induction_on generalizing before cs with
  | h n ih =>
    subst hlength
    by_cases hprefix : term <+: cs
    · obtain ⟨rest, rfl⟩ := hprefix
      have hpos := List.length_pos_iff.2 hne
      refine found before rest (ih rest.length ?_ _ _ rfl)
      rw [List.length_append]
      omega
    · cases cs with
      | nil => exact nil before
      | cons c rest =>
        exact skipped before c rest hprefix (ih rest.length (Nat.lt_succ_self _) _ _ rfl)

/-- A text has a term at a byte offset, and the term stands alone there or not. -/
def IsMark (term : List Char) (start : Nat) (before : Option Char) (cs : List Char)
    (m : Nat × Bool) : Prop :=
  ∃ left right, cs = left ++ (term ++ right) ∧
    m = (start + byteCount left, standsAlone term (left.getLast?.or before) right.head?)

theorem IsMark.le {start : Nat} {before : Option Char} {cs : List Char} {m : Nat × Bool}
    (h : IsMark term start before cs m) : start ≤ m.1 := by
  obtain ⟨left, right, -, rfl⟩ := h
  exact Nat.le_add_right _ _

/-- What a text has at its very start. -/
theorem IsMark.eq_start {start : Nat} {before : Option Char} {cs : List Char} {m : Nat × Bool}
    (h : IsMark term start before cs m) (hstart : m.1 = start) :
    ∃ right, cs = term ++ right ∧ m = (start, standsAlone term before right.head?) := by
  obtain ⟨left, right, rfl, rfl⟩ := h
  obtain rfl : left = [] := byteCount_eq_zero.1 (by simpa using hstart)
  exact ⟨right, rfl, rfl⟩

variable (term) in
/-- What a text has behind its start, the rest has. -/
theorem isMark_append (start : Nat) (before : Option Char) (lead cs : List Char) (m : Nat × Bool) :
    IsMark term (start + byteCount lead) (lead.getLast?.or before) cs m ↔
      IsMark term start before (lead ++ cs) m ∧ start + byteCount lead ≤ m.1 := by
  have hshift : ∀ left right,
      (start + byteCount (lead ++ left),
        standsAlone term ((lead ++ left).getLast?.or before) right) =
      (start + byteCount lead + byteCount left,
        standsAlone term (left.getLast?.or (lead.getLast?.or before)) right) := by
    intro left right
    rw [byteCount_append, List.getLast?_append, Option.or_assoc, Nat.add_assoc]
  constructor
  · rintro ⟨left, right, rfl, rfl⟩
    refine ⟨⟨lead ++ left, right, (List.append_assoc _ _ _).symm, (hshift left _).symm⟩, ?_⟩
    exact Nat.le_add_right _ _
  · rintro ⟨⟨left, right, hcs, rfl⟩, hle⟩
    replace hle : byteCount lead ≤ byteCount left := Nat.le_of_add_le_add_left hle
    obtain ⟨more, rfl, rfl⟩ := exists_of_byteCount_le hcs hle
    exact ⟨more, right, rfl, hshift more _⟩

/-- **The marks are the leftmost occurrences:** an occurrence is marked exactly if no other is that
starts before it and reaches into it. -/
theorem mem_marks_iff (hne : term ≠ []) (start : Nat) (before : Option Char) (cs : List Char)
    (m : Nat × Bool) :
    m ∈ marks start (pieces (findTerm term) before cs) ↔ IsMark term start before cs m ∧
      ∀ other ∈ marks start (pieces (findTerm term) before cs),
        other.1 < m.1 → other.1 + byteCount term ≤ m.1 := by
  induction before, cs using search_induction hne generalizing start m with
  | nil before =>
    rw [pieces, marks]
    refine iff_of_false List.not_mem_nil ?_
    rintro ⟨⟨left, right, hnil, -⟩, -⟩
    simp [hne] at hnil
  | found before rest ih =>
    -- the rest has the term before it, and no longer what the text had
    have hbeside : term.getLast?.or before = term.getLast? := by
      obtain ⟨last, hlast⟩ := Option.ne_none_iff_exists'.1 (mt List.getLast?_eq_none_iff.1 hne)
      rw [hlast, Option.some_or]
    have hrest := isMark_append term start before term rest m
    rw [hbeside] at hrest
    rw [marks_term hne, List.mem_cons, List.forall_mem_cons, ih, hrest]
    -- the first mark bars what starts within it; what starts behind it is left to the rest
    constructor
    · rintro (rfl | ⟨⟨hmark, hle⟩, hleft⟩)
      · refine ⟨⟨[], rest, rfl, rfl⟩, fun h => absurd h (Nat.lt_irrefl _), fun other hother h => ?_⟩
        have hle := le_of_mem_marks hother
        dsimp only at h
        omega
      · exact ⟨hmark, fun _ => hle, hleft⟩
    · rintro ⟨hmark, hfirst, hleft⟩
      rcases Nat.eq_or_lt_of_le hmark.le with hstart | hlt
      · obtain ⟨right, hright, rfl⟩ := hmark.eq_start hstart.symm
        rw [List.append_cancel_left hright]
        exact .inl rfl
      · exact .inr ⟨⟨hmark, hfirst hlt⟩, hleft⟩
  | skipped before c rest hnone ih =>
    have hrest := isMark_append term start before [c] rest m
    rw [byteCount_cons, List.getLast?_singleton] at hrest
    rw [marks_char hnone, ih]
    -- no occurrence starts with the character that is skipped
    refine and_congr_left fun _ => hrest.trans (and_iff_left_of_imp ?_)
    rintro ⟨left, right, hcs, rfl⟩
    cases left with
    | nil => exact absurd ⟨right, hcs.symm⟩ hnone
    | cons d left =>
      obtain ⟨rfl, -⟩ := List.cons.inj hcs
      exact Nat.add_le_add_left (by rw [byteCount_cons]; exact Nat.le_add_right _ _) start

end Term

end SemanticLayer.Keywords
