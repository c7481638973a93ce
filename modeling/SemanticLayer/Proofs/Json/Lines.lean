import SemanticLayer.Json.Writer

/-
# Written values fit on a line

A written value has no control character in it (`Json.visible_writeChars`):
strings escape theirs, and numbers and punctuation have none.  So a line that
holds a value ends where its newline is.
-/

namespace SemanticLayer

/-- A text without control characters. -/
def Visible (cs : List Char) : Prop := ∀ c ∈ cs, 32 ≤ c.toNat

instance (cs : List Char) : Decidable (Visible cs) :=
  decidable_of_iff (cs.all (fun c => 32 ≤ c.toNat) = true) (by
    simp only [List.all_eq_true, decide_eq_true_eq, Visible])

namespace Visible

variable {cs ds : List Char}

theorem nil : Visible [] := nofun

theorem cons {c : Char} (hc : 32 ≤ c.toNat) (h : Visible cs) : Visible (c :: cs) :=
  List.forall_mem_cons.2 ⟨hc, h⟩

theorem append (hcs : Visible cs) (hds : Visible ds) : Visible (cs ++ ds) :=
  List.forall_mem_append.2 ⟨hcs, hds⟩

theorem sublist (h : Visible cs) (hsub : ds.Sublist cs) : Visible ds :=
  fun c hc => h c (hsub.subset hc)

theorem append_text {s t : String} (hs : Visible s.toList) (ht : Visible t.toList) :
    Visible (s ++ t).toList := by
  rw [String.toList_append]
  exact hs.append ht

theorem replicate {c : Char} (hc : 32 ≤ c.toNat) (n : Nat) : Visible (List.replicate n c) := by
  intro d hd
  rw [(List.mem_replicate.1 hd).2]
  exact hc

/-- A text without control characters is on one line. -/
theorem newline_not_mem (h : Visible cs) : '\n' ∉ cs := by
  intro hmem
  have hle : 32 ≤ '\n'.toNat := h _ hmem
  exact absurd hle (by decide)

/-- The digits of a number. -/
theorem nat (n : Nat) : Visible (toString n).toList := by
  intro c hc
  rw [Nat.toString_eq_ofList_toDigits, String.toList_ofList] at hc
  have hdigit := Nat.isDigit_of_mem_toDigits (by omega) (by omega) hc
  rw [Char.isDigit, Bool.and_eq_true, decide_eq_true_eq, ge_iff_le, UInt32.le_iff_toNat_le]
    at hdigit
  have hle : 48 ≤ c.toNat := hdigit.1
  omega

theorem int (n : Int) : Visible (toString n).toList := by
  cases n with
  | ofNat n => exact nat n
  | negSucc n =>
    have hminus : Visible "-".toList := by decide
    exact hminus.append_text (nat (n + 1))

end Visible

/-! ### Numbers -/

theorem Shortest.visible_text (digits : Nat) (scale : Int) :
    Visible (Shortest.text digits scale).toList := by
  have hdigits : Visible (toString digits).toList := .nat digits
  have hdot : Visible ".".toList := by decide
  have hzeros (n : Nat) : Visible (String.ofList (List.replicate n '0')).toList := by
    rw [String.toList_ofList]
    exact .replicate (by decide) n
  have hsub {cs : List Char} (h : cs.Sublist (toString digits).toList) :
      Visible (String.ofList cs).toList := by
    rw [String.toList_ofList]
    exact hdigits.sublist h
  unfold Shortest.text
  dsimp only
  split
  · split
    · have hend : Visible ".0".toList := by decide
      exact (hdigits.append_text (hzeros _)).append_text hend
    · split
      · exact ((hsub (List.take_sublist _ _)).append_text hdot).append_text
          (hsub (List.drop_sublist _ _))
      · have hzero : Visible "0.".toList := by decide
        exact (hzero.append_text (hzeros _)).append_text hdigits
  · have htail : Visible (if (String.ofList ((toString digits).toList.drop 1)).isEmpty then ""
        else "." ++ String.ofList ((toString digits).toList.drop 1)).toList := by
      split
      · exact .nil
      · exact hdot.append_text (hsub (List.drop_sublist _ _))
    have hmark : Visible "e".toList := by decide
    have hsign (p : Prop) [Decidable p] : Visible (if p then "-" else "+").toList := by
      split <;> decide
    exact ((((hsub (List.take_sublist _ _)).append_text htail).append_text hmark).append_text
      (hsign _)).append_text (.nat _)

theorem visible_floatText {x : Float} {s : String} (h : floatText? x = some s) :
    Visible s.toList := by
  have hsign (p : Prop) [Decidable p] : Visible (if p then "-" else "").toList := by
    split <;> decide
  unfold floatText? at h
  dsimp only at h
  split at h
  · cases h
  · split at h
    · cases h
      have hzero : Visible "0.0".toList := by decide
      exact (hsign _).append_text hzero
    · cases h
      exact (hsign _).append_text (Shortest.visible_text _ _)

/-! ### Values -/

namespace Json

/-- The characters that have a mark of their own behind a backslash, each with its mark. -/
def marks : List (Char × Char) :=
  [('"', '"'), ('\\', '\\'), ('\x08', 'b'), ('\t', 't'), ('\n', 'n'), ('\x0c', 'f'), ('\r', 'r')]

/-- **A character is written in one of three ways:** by its mark, by its number, or as it is. -/
theorem writeChar_cases (c : Char) :
    (∃ mark, (c, mark) ∈ marks ∧ writeChar c = ['\\', mark]) ∨
      (c.toNat < 32 ∧ writeChar c =
        ['\\', 'u', '0', '0', hexDigit (c.toNat / 16), hexDigit (c.toNat % 16)]) ∨
      (32 ≤ c.toNat ∧ c ≠ '"' ∧ c ≠ '\\' ∧ writeChar c = [c]) := by
  by_cases hmark : ∃ p ∈ marks, c = p.1
  · obtain ⟨⟨_, mark⟩, hp, rfl⟩ := hmark
    have hwritten : ∀ p ∈ marks, writeChar p.1 = ['\\', p.2] := by decide
    exact .inl ⟨mark, hp, hwritten _ hp⟩
  · have hne : ∀ p ∈ marks, c ≠ p.1 := fun p hp heq => hmark ⟨p, hp, heq⟩
    simp only [marks, List.forall_mem_cons, List.not_mem_nil, false_implies, implies_true,
      and_true] at hne
    obtain ⟨hquote, hbackslash, hback, htab, hline, hfeed, hreturn⟩ := hne
    unfold writeChar
    rw [if_neg hquote, if_neg hbackslash, if_neg hback, if_neg htab, if_neg hline, if_neg hfeed,
      if_neg hreturn]
    by_cases hlt : c.toNat < 32
    · exact .inr (.inl ⟨hlt, if_pos hlt⟩)
    · exact .inr (.inr ⟨Nat.not_lt.1 hlt, hquote, hbackslash, if_neg hlt⟩)

theorem visible_hexDigit : ∀ n < 16, 32 ≤ (hexDigit n).toNat := by decide

/-- A character is written without control characters, whatever character it is. -/
theorem visible_writeChar (c : Char) : Visible (writeChar c) := by
  have hescape {mark : Char} (hmark : 32 ≤ mark.toNat) : Visible ['\\', mark] :=
    .cons (by decide) (.cons hmark .nil)
  rcases writeChar_cases c with ⟨mark, hmark, hc⟩ | ⟨hlt, hc⟩ | ⟨hle, -, -, hc⟩
  · have hmarks : ∀ p ∈ marks, 32 ≤ p.2.toNat := by decide
    rw [hc]
    exact hescape (hmarks _ hmark)
  · have hhigh := visible_hexDigit (c.toNat / 16) (by omega)
    have hlow := visible_hexDigit (c.toNat % 16) (by omega)
    have hzeros : Visible ['0', '0'] := by decide
    rw [hc]
    exact (hescape (by decide)).append (hzeros.append (.cons hhigh (.cons hlow .nil)))
  · rw [hc]
    exact .cons hle .nil

theorem visible_writeString (s : String) : Visible (writeString s) := by
  have hchars : Visible (s.toList.flatMap writeChar) := by
    intro c hc
    obtain ⟨d, -, hmem⟩ := List.mem_flatMap.1 hc
    exact visible_writeChar d c hmem
  exact (Visible.cons (by decide) hchars).append (.cons (by decide) .nil)

mutual

/-- **A written value has no control characters.** -/
theorem visible_writeChars : ∀ j : Json, Visible j.writeChars
  | null => by
    rw [writeChars]
    decide
  | bool true => by
    rw [writeChars]
    decide
  | bool false => by
    rw [writeChars]
    decide
  | int n => by
    rw [writeChars]
    exact .int n
  | float x => by
    rw [writeChars]
    cases hx : floatText? x with
    | none =>
      have hnull : Visible "null".toList := by decide
      exact hnull
    | some s => exact visible_floatText hx
  | string s => by
    rw [writeChars]
    exact visible_writeString s
  | list items => by
    rw [writeChars]
    exact (Visible.cons (by decide) (visible_writeItems items)).append (.cons (by decide) .nil)
  | object entries => by
    rw [writeChars]
    exact (Visible.cons (by decide) (visible_writeEntries entries)).append (.cons (by decide) .nil)

theorem visible_writeItems : ∀ items : List Json, Visible (writeItems items)
  | [] => .nil
  | [j] => by
    rw [writeItems]
    exact visible_writeChars j
  | j :: i :: items => by
    rw [writeItems]
    · exact (visible_writeChars j).append (.cons (by decide) (visible_writeItems (i :: items)))
    · nofun

theorem visible_writeEntries : ∀ entries : List (String × Json), Visible (writeEntries entries)
  | [] => .nil
  | [(key, j)] => by
    rw [writeEntries]
    exact (visible_writeString key).append (.cons (by decide) (visible_writeChars j))
  | (key, j) :: e :: entries => by
    rw [writeEntries]
    · exact ((visible_writeString key).append (.cons (by decide) (visible_writeChars j))).append
        (.cons (by decide) (visible_writeEntries (e :: entries)))
    · nofun

end

end Json

end SemanticLayer
