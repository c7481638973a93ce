import SemanticLayer.Text.Utf8

/-
# Bytes of ASCII in a text

A byte below 80 follows no other, so it is read as a character of its own
wherever it stands, and what is before it is read as if it were not there
(`decodeUtf8_append_ascii`).  Blanks at the ends of what was read do not count,
and a text without blanks is all that is left of it.
-/

namespace SemanticLayer.Text

/-- A byte may be followed by none or by bytes from 80 on. -/
theorem least_of_following? {b : Nat} {f : Following} (h : following? b = some f) :
    0x80 ≤ f.least := by
  unfold following? at h
  repeat' split at h
  all_goals cases h
  all_goals decide

/-- What follows is found among the bytes. -/
theorem length_followers_le (n least greatest : Nat) (bytes : List UInt8) :
    (followers n least greatest bytes).length ≤ bytes.length := by
  fun_induction followers n least greatest bytes with
  | case1 => exact Nat.zero_le _
  | case2 => exact Nat.zero_le _
  | case3 n least greatest b rest hb ih => exact Nat.succ_le_succ ih
  | case4 => exact Nat.zero_le _

/-- A byte of ASCII follows no other, and so nothing behind it does. -/
theorem followers_append_ascii {b : UInt8} (hb : b.toNat < 0x80) {n least : Nat} (greatest : Nat)
    (hleast : 0x80 ≤ least) (bytes more : List UInt8) :
    followers n least greatest (bytes ++ b :: more) = followers n least greatest bytes := by
  induction bytes generalizing n least greatest with
  | nil =>
    cases n with
    | zero => rfl
    | succ n =>
      have hout : ¬ (least ≤ b.toNat ∧ b.toNat ≤ greatest) := by omega
      exact if_neg hout
  | cons c bytes ih =>
    cases n with
    | zero => rfl
    | succ n => rw [List.cons_append, followers, followers, ih 0xBF (Nat.le_refl 0x80)]

/-- The first character takes up bytes of the text. -/
theorem firstChar_le (c : UInt8) (rest : List UInt8) : (firstChar c rest).2 ≤ rest.length := by
  unfold firstChar
  cases following? c.toNat with
  | none => exact Nat.zero_le _
  | some f =>
    have hle := length_followers_le f.count f.least f.greatest rest
    dsimp only
    split <;> exact hle

/-- A byte of ASCII does not belong to the first character of the bytes before it. -/
theorem firstChar_append_ascii {b : UInt8} (hb : b.toNat < 0x80) (c : UInt8)
    (rest more : List UInt8) : firstChar c (rest ++ b :: more) = firstChar c rest := by
  unfold firstChar
  cases hfollowing : following? c.toNat with
  | none => rfl
  | some f =>
    have hleast := least_of_following? hfollowing
    dsimp only
    rw [followers_append_ascii hb f.greatest hleast]

/-- A byte of ASCII is a character. -/
theorem decodeUtf8_ascii {b : UInt8} (hb : b.toNat < 0x80) (more : List UInt8) :
    decodeUtf8 (b :: more) = Char.ofNat b.toNat :: decodeUtf8 more := by
  have hfollowing : following? b.toNat = some ⟨0, 0x80, 0xBF⟩ := if_pos (by omega)
  have hfirst : firstChar b more = (Char.ofNat b.toNat, 0) := by
    rw [firstChar, hfollowing]
    rfl
  rw [decodeUtf8, hfirst]
  rfl

/-- **A byte of ASCII is read as a character of its own,** and parts what is before it from what is
behind it. -/
theorem decodeUtf8_append_ascii {b : UInt8} (hb : b.toNat < 0x80) (bytes more : List UInt8) :
    decodeUtf8 (bytes ++ b :: more) =
      decodeUtf8 bytes ++ Char.ofNat b.toNat :: decodeUtf8 more := by
  fun_induction decodeUtf8 bytes with
  | case1 => exact decodeUtf8_ascii hb more
  | case2 c rest d count hfirst ih =>
    have hle : count ≤ rest.length := by
      have h := firstChar_le c rest
      rwa [hfirst] at h
    rw [List.cons_append, decodeUtf8, firstChar_append_ascii hb, hfirst]
    dsimp only
    rw [List.drop_append_of_le_length hle, ih, List.cons_append]

/-! ### Outer blanks -/

/-- A blank at the end of a text is no part of what is left when its blanks are cut off. -/
theorem trim_append_blank {c : Char} (hc : isBlank c = true) (cs : List Char) :
    trim (String.ofList (cs ++ [c])) = trim (String.ofList cs) := by
  have hskip : skipBlank (skipBlank (cs ++ [c])).reverse = skipBlank (skipBlank cs).reverse := by
    unfold skipBlank
    rw [List.dropWhile_append]
    split
    · rename_i hnone
      rw [List.isEmpty_iff] at hnone
      rw [hnone, List.dropWhile_cons_of_pos hc, List.dropWhile_nil, List.reverse_nil,
        List.dropWhile_nil]
    · rw [List.reverse_append, List.reverse_singleton, List.singleton_append,
        List.dropWhile_cons_of_pos hc]
  rw [trim, trim, String.toList_ofList, String.toList_ofList, hskip]

/-- A text without blanks is left as it is. -/
theorem trim_eq_self {s : String} (h : ∀ c ∈ s.toList, isBlank c = false) : trim s = s := by
  have hskip : ∀ cs : List Char, (∀ c ∈ cs, isBlank c = false) → skipBlank cs = cs := by
    intro cs hcs
    cases cs with
    | nil => rfl
    | cons c cs => exact List.dropWhile_cons_of_neg (by simp [hcs c List.mem_cons_self])
  rw [trim, hskip _ h, hskip _ fun c hc => h c (List.mem_reverse.1 hc), List.reverse_reverse,
    String.ofList_toList]

/-- So it is what is left of it, if it is not empty. -/
theorem nonBlank?_eq_some {s : String} (hne : s.toList ≠ [])
    (h : ∀ c ∈ s.toList, isBlank c = false) : nonBlank? s = some s := by
  have hs : s.isEmpty = false := by simpa using hne
  simp [nonBlank?, trim_eq_self h, hs]

end SemanticLayer.Text
