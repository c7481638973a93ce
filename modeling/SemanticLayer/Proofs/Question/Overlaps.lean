import SemanticLayer.Proofs.Question.Spans
import SemanticLayer.Proofs.Text.Lowercase

/-
# Terms that overlap themselves

A term counts where it stands alone, but only the leftmost occurrences are
looked at: an occurrence that does not count is passed over as a whole, and with
it every other that starts within it (`mem_places_iff`).  So a term is missed
where it stands alone if an occurrence that does not reaches into it.  For that
it has to start again within itself, behind a character that is not part of a
word (`Interlocks`):

| question | `year over year` |
| --- | --- |
| `…midyear over year` | found nowhere, stands alone nowhere |
| `…midyear over year over year` | found nowhere, stands alone at the end |

A term that does not interlock is found wherever it stands alone, and one that
does is missed altogether in some question (`leftmost_terms_found`).
-/

namespace SemanticLayer.Keywords

open Text

/-! ### Leftmost occurrences -/

/-- A text has a term from one byte offset up to another, whatever is beside it. -/
def OccursAt (text term : List Char) (place : Nat × Nat) : Prop :=
  ∃ before after, text = before ++ (term ++ after) ∧
    place = (byteCount before, byteCount before + byteCount term)

/-- The occurrences of a term that are chosen from left to right: one is chosen unless a chosen one
starts before it and reaches into it. -/
def Leftmost (text term : List Char) (chosen : List (Nat × Nat)) : Prop :=
  ∀ place, place ∈ chosen ↔
    OccursAt text term place ∧ ∀ other ∈ chosen, other.1 < place.1 → other.2 ≤ place.1

section Occurrences

variable {text term : List Char} {place : Nat × Nat}

theorem StandsAt.occursAt (h : StandsAt text term place) : OccursAt text term place := by
  obtain ⟨-, before, after, htext, hplace, -⟩ := h
  exact ⟨before, after, htext, hplace⟩

/-- The first occurrence is chosen. -/
theorem Leftmost.mem_first {chosen : List (Nat × Nat)} (h : Leftmost text term chosen)
    (hoccurs : OccursAt text term place)
    (hfirst : ∀ other, OccursAt text term other → place.1 ≤ other.1) : place ∈ chosen := by
  refine (h place).2 ⟨hoccurs, fun other hother hlt => ?_⟩
  exact absurd hlt (Nat.not_lt.2 (hfirst other ((h other).1 hother).1))

/-- The occurrences that a search for a term marks, from their starts to their ends. -/
def marked (text term : List Char) : List (Nat × Nat) :=
  (marks 0 (pieces (findTerm term) none text)).map fun m => (m.1, m.1 + byteCount term)

/-- **A search marks the leftmost occurrences.** -/
theorem leftmost_marked (hne : term ≠ []) : Leftmost text term (marked text term) := by
  intro place
  have hforall : (∀ other ∈ marked text term, other.1 < place.1 → other.2 ≤ place.1) ↔
      ∀ m ∈ marks 0 (pieces (findTerm term) none text),
        m.1 < place.1 → m.1 + byteCount term ≤ place.1 := List.forall_mem_map
  rw [hforall, marked, List.mem_map]
  constructor
  · rintro ⟨m, hm, rfl⟩
    obtain ⟨⟨left, right, htext, rfl⟩, hleft⟩ := (mem_marks_iff hne 0 none text m).1 hm
    refine ⟨⟨left, right, htext, ?_⟩, hleft⟩
    rw [Nat.zero_add]
  · rintro ⟨⟨left, right, htext, rfl⟩, hleft⟩
    refine ⟨(byteCount left, standsAlone term (left.getLast?.or none) right.head?), ?_, rfl⟩
    refine (mem_marks_iff hne 0 none text _).2 ⟨⟨left, right, htext, ?_⟩, hleft⟩
    rw [Nat.zero_add]

end Occurrences

/-- **A term is found at the leftmost occurrences at which it stands alone.** -/
theorem mem_places_iff {question : List Char} {term : String} {target : Target} {f : Found} :
    f ∈ places question term target ↔ f.target = target ∧
      f.place ∈ marked question (lowerFrom [] term.toList) ∧
        StandsAt question (lowerFrom [] term.toList) f.place := by
  constructor
  · intro h
    obtain ⟨htarget, hstands⟩ := standsAt_of_mem_places h
    obtain ⟨start, hstart, rfl⟩ := List.mem_map.1 h
    exact ⟨htarget, List.mem_map_of_mem (mem_offsets.1 hstart), hstands⟩
  · rintro ⟨rfl, hmarked, hstands⟩
    have hne := hstands.1
    obtain ⟨m, hm, hplace⟩ := List.mem_map.1 hmarked
    obtain ⟨hstart, hstop⟩ := Prod.mk.inj hplace
    -- whether the term stands alone at a mark is told by the place
    have halone : (m.1, true) ∈
        marks 0 (pieces (findTerm (lowerFrom [] term.toList)) none question) := by
      have hleft := ((mem_marks_iff hne 0 none question m).1 hm).2
      refine (mem_marks_iff hne 0 none question _).2 ⟨(isMark_iff_standsAt hne).2 ?_, hleft⟩
      rwa [← hplace] at hstands
    refine List.mem_map.2 ⟨m.1, mem_offsets.2 halone, ?_⟩
    exact Found.ext_place (Prod.ext hstart hstop) rfl

/-! ### Terms that start again within themselves -/

/-- A term starts again within itself, behind a character that is not part of a word. -/
def Interlocks (term : List Char) : Prop :=
  ∃ n < term.length, 0 < n ∧ term.drop n <+: term ∧ (term.take n).getLast?.any isAsciiWord = false

instance (term : List Char) : Decidable (Interlocks term) :=
  inferInstanceAs (Decidable (∃ n < term.length, 0 < n ∧ term.drop n <+: term ∧
    (term.take n).getLast?.any isAsciiWord = false))

example : Interlocks "year over year".toList ∧ ¬ Interlocks "city".toList := by decide

section Overlap

variable {text term : List Char} {place other : Nat × Nat}

/-- **Only a term that interlocks** stands alone where another occurrence reaches into it. -/
theorem interlocks_of_overlap (hascii : isAscii term = true) (hstands : StandsAt text term place)
    (hother : OccursAt text term other) (hlt : other.1 < place.1) (hreach : place.1 < other.2) :
    Interlocks term := by
  obtain ⟨-, before, after, htext, rfl, hwords⟩ := hstands
  obtain ⟨left, right, hleft, rfl⟩ := hother
  dsimp only at hlt hreach
  obtain ⟨lead, rfl, hlead⟩ := exists_of_byteCount_le (hleft.symm.trans htext) (Nat.le_of_lt hlt)
  rw [byteCount_append] at hlt hreach
  obtain ⟨shared, hterm, hshared⟩ := exists_of_byteCount_le hlead.symm (by omega)
  have hne : lead ≠ [] := by
    rintro rfl
    exact Nat.lt_irrefl _ hlt
  have hnot : shared ≠ [] := by
    rintro rfl
    rw [List.append_nil] at hterm
    rw [hterm] at hreach
    exact Nat.lt_irrefl _ hreach
  have hpos := List.length_pos_iff.2 hnot
  have hlength : term.length = lead.length + shared.length := by rw [hterm, List.length_append]
  have hdrop : term.drop lead.length = shared := by rw [hterm, List.drop_left]
  have htake : term.take lead.length = lead := by rw [hterm, List.take_left]
  refine ⟨lead.length, by omega, List.length_pos_iff.2 hne, ?_, ?_⟩
  · rw [hdrop]
    exact List.prefix_of_prefix_length_le ⟨right, hshared.symm⟩ ⟨after, rfl⟩ (by omega)
  · rw [htake, Option.any_eq_false]
    intro c hc
    refine (hwords hascii).1 c ?_
    rw [List.getLast?_append, hc, Option.some_or]

/-- So a term that does not is found wherever it stands alone. -/
theorem mem_marked_of_standsAt (hascii : isAscii term = true) (hnot : ¬ Interlocks term)
    (hstands : StandsAt text term place) : place ∈ marked text term := by
  refine (leftmost_marked hstands.1 place).2 ⟨hstands.occursAt, fun other hother hlt => ?_⟩
  obtain ⟨hoccurs, -⟩ := (leftmost_marked hstands.1 other).1 hother
  by_contra hreach
  exact hnot (interlocks_of_overlap hascii hstands hoccurs hlt (Nat.not_le.1 hreach))

end Overlap

/-- What a term that interlocks is made of. -/
theorem Interlocks.exists_parts {term : List Char} (h : Interlocks term) :
    ∃ lead shared trail, term = lead ++ shared ∧ term = shared ++ trail ∧ lead ≠ [] ∧ shared ≠ [] ∧
      lead.getLast?.any isAsciiWord = false := by
  obtain ⟨n, hn, hpos, ⟨trail, htrail⟩, hword⟩ := h
  refine ⟨term.take n, term.drop n, trail, (List.take_append_drop n term).symm, htrail.symm, ?_, ?_,
    hword⟩
  · rw [← List.length_pos_iff, List.length_take]
    omega
  · rw [← List.length_pos_iff, List.length_drop]
    omega

/-- There is a letter or an underscore that a term does not start with. -/
theorem exists_beside (term : List Char) :
    ∃ x, isAsciiWord x = true ∧ IsLower x ∧ term.head? ≠ some x := by
  by_cases hhead : term.head? = some 'a'
  · exact ⟨'_', by decide, isLower_of_ascii (by decide) (by decide), by rw [hhead]; decide⟩
  · exact ⟨'a', by decide, isLower_of_ascii (by decide) (by decide), hhead⟩

section Beside

variable {x : Char} {term : List Char} (hne : term ≠ []) (hhead : term.head? ≠ some x)
include hne hhead

/-- Behind such a character a term occurs in the rest of the text alone. -/
theorem exists_of_cons_eq_append {rest before after : List Char}
    (h : x :: rest = before ++ (term ++ after)) :
    ∃ more, before = x :: more ∧ rest = more ++ (term ++ after) := by
  cases before with
  | nil =>
    obtain ⟨c, cs, rfl⟩ := List.exists_cons_of_ne_nil hne
    obtain ⟨rfl, -⟩ := List.cons.inj h
    exact absurd rfl hhead
  | cons c more =>
    obtain ⟨rfl, hrest⟩ := List.cons.inj h
    exact ⟨more, rfl, hrest⟩

/-- An occurrence right behind it hides all others, if what is left is shorter than the term. -/
theorem start_of_mem_marked {trail : List Char} (hshort : byteCount trail < byteCount term)
    {place : Nat × Nat} (h : place ∈ marked (x :: (term ++ trail)) term) :
    place.1 = x.utf8Size := by
  have hleftmost : Leftmost (x :: (term ++ trail)) term (marked (x :: (term ++ trail)) term) :=
    leftmost_marked hne
  have hfirst : (x.utf8Size, x.utf8Size + byteCount term) ∈ marked (x :: (term ++ trail)) term := by
    refine hleftmost.mem_first ⟨[x], trail, rfl, by rw [byteCount_cons]; rfl⟩ ?_
    rintro other ⟨before, after, htext, rfl⟩
    obtain ⟨more, rfl, -⟩ := exists_of_cons_eq_append hne hhead htext
    rw [byteCount_cons]
    exact Nat.le_add_right _ _
  obtain ⟨⟨before, after, htext, rfl⟩, hleft⟩ := (hleftmost place).1 h
  obtain ⟨more, rfl, hmore⟩ := exists_of_cons_eq_append hne hhead htext
  have hreach := hleft _ hfirst
  have hbytes := congrArg byteCount hmore
  simp only [byteCount_append, byteCount_cons] at hreach hbytes ⊢
  omega

end Beside

/-- **A term that interlocks is missed in some text,** in which it stands alone behind an occurrence
that does not. -/
theorem Interlocks.exists_missed {term : List Char} (h : Interlocks term)
    (hascii : isAscii term = true) (hlower : ∀ c ∈ term, IsLower c) :
    ∃ text : List Char, (∀ c ∈ text, IsLower c) ∧ (∃ place, StandsAt text term place) ∧
      ∀ place ∈ marked text term, ¬ StandsAt text term place := by
  obtain ⟨lead, shared, trail, hlead, htrail, hne, hshared, hword⟩ := h.exists_parts
  obtain ⟨x, hxword, hxlower, hhead⟩ := exists_beside term
  have hterm : term ≠ [] := by
    rw [hlead]
    exact List.append_ne_nil_of_left_ne_nil hne shared
  have hagain : lead ++ term = term ++ trail := by
    calc lead ++ term = lead ++ (shared ++ trail) := by rw [← htrail]
      _ = term ++ trail := by rw [← List.append_assoc, ← hlead]
  refine ⟨x :: (lead ++ term), ?_, ⟨_, hterm, x :: lead, [], by simp, rfl, ?_⟩, ?_⟩
  · refine List.forall_mem_cons.2 ⟨hxlower, List.forall_mem_append.2 ⟨fun c hc => ?_, hlower⟩⟩
    exact hlower c (hlead ▸ List.mem_append_left shared hc)
  · refine fun _ => ⟨fun c hc => (Option.any_eq_false _ _).1 hword c ?_, nofun⟩
    rwa [← List.singleton_append, List.getLast?_append_of_ne_nil _ hne] at hc
  · -- the only mark is that of the occurrence behind `x`
    have hshort : byteCount trail < byteCount term := by
      have hbytes := congrArg byteCount htrail
      have hpos := byteCount_pos hshared
      rw [byteCount_append] at hbytes
      omega
    rw [hagain]
    rintro place hmarked ⟨-, before, after, htext, rfl, hwords⟩
    have hstart := start_of_mem_marked hterm hhead hshort hmarked
    obtain ⟨more, rfl, -⟩ := exists_of_cons_eq_append hterm hhead htext
    rw [byteCount_cons] at hstart
    obtain rfl : more = [] := byteCount_eq_zero.1 (by omega)
    have hxnot := (hwords hascii).1 x rfl
    rw [hxword] at hxnot
    cases hxnot

/-! ### What is found and what is missed -/

/-- **A term is found at those of its leftmost occurrences at which it stands alone.**  Whatever the
question, a term of ASCII is found nowhere else, so what is found stands alone.  The other way round
it depends on the term: one that does not interlock is found wherever it stands alone, and one that
interlocks stands alone in some question in which it is not found at all. -/
theorem leftmost_terms_found {term : String} (hne : term ≠ "")
    (hascii : isAscii (lowered term) = true) (target : Target) :
    (∀ question, ∃ chosen, Leftmost (lowered question) (lowered term) chosen ∧
      ∀ f, f ∈ places (lowered question) term target ↔
        f.target = target ∧ f.place ∈ chosen ∧ StandsAt (lowered question) (lowered term) f.place) ∧
    ((∀ question, places (lowered question) term target ≠ [] ↔
        ∃ place, StandsAt (lowered question) (lowered term) place) ↔
      ¬ Interlocks (lowered term)) ∧
    (¬ Interlocks (lowered term) → ∀ question f, f ∈ places (lowered question) term target ↔
      f.target = target ∧ StandsAt (lowered question) (lowered term) f.place) := by
  have hlowered : lowered term ≠ [] := lowerFrom_ne_nil (by simpa using hne)
  have hall : ¬ Interlocks (lowered term) → ∀ question f,
      f ∈ places (lowered question) term target ↔
        f.target = target ∧ StandsAt (lowered question) (lowered term) f.place := by
    intro hnot question f
    rw [mem_places_iff]
    exact and_congr_right fun _ => and_iff_right_of_imp (mem_marked_of_standsAt hascii hnot)
  refine ⟨fun question => ⟨_, leftmost_marked hlowered, fun f => mem_places_iff⟩, ?_, hall⟩
  constructor
  · intro hfound hinterlocks
    have hlower : ∀ c ∈ lowered term, IsLower c := fun c hc =>
      isLower_of_mem_lowerFrom hc (of_decide_eq_true (List.all_eq_true.1 hascii c hc))
    obtain ⟨text, htext, hstands, hmissed⟩ := hinterlocks.exists_missed hascii hlower
    have hquestion : lowered (String.ofList text) = text := by
      rw [lowered, String.toList_ofList, lowerFrom_eq_self [] htext]
    rw [← hquestion] at hstands hmissed
    obtain ⟨f, hf⟩ := List.exists_mem_of_ne_nil _ ((hfound (String.ofList text)).2 hstands)
    obtain ⟨-, hmarked, hstands⟩ := mem_places_iff.1 hf
    exact hmissed f.place hmarked hstands
  · intro hnot question
    constructor
    · intro hfound
      obtain ⟨f, hf⟩ := List.exists_mem_of_ne_nil _ hfound
      exact ⟨f.place, (standsAt_of_mem_places hf).2⟩
    · rintro ⟨place, hstands⟩
      exact List.ne_nil_of_mem ((hall hnot question ⟨place.1, place.2, target⟩).2 ⟨rfl, hstands⟩)

/-- The first occurrence is the end of a longer word.  It is passed over as a whole, and with it the
start of the second, which stands alone. -/
theorem leftmost_terms_found_yearOverYear :
    "Year over year" ≠ "" ∧ isAscii (lowered "Year over year") = true ∧
      places (lowered "Midyear over year over year") "Year over year" (.metric "growth") = [] ∧
      StandsAt (lowered "Midyear over year over year") (lowered "Year over year") (13, 27) ∧
      ¬ ∀ question, places (lowered question) "Year over year" (.metric "growth") ≠ [] ↔
        ∃ place, StandsAt (lowered question) (lowered "Year over year") place := by
  have hascii : isAscii (lowered "Year over year") = true := by decide
  obtain ⟨-, hfound, -⟩ := leftmost_terms_found (by decide) hascii (.metric "growth")
  refine ⟨by decide, hascii, by decide +kernel, ?_, fun hall => hfound.1 hall (by decide +kernel)⟩
  have hlast : (lowered "Midyear over ").getLast? = some ' ' := by decide
  refine ⟨by decide, lowered "Midyear over ", [], by decide, by decide,
    fun _ => ⟨fun c hc => ?_, nofun⟩⟩
  cases hlast.symm.trans hc
  rfl

end SemanticLayer.Keywords
