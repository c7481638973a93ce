import SemanticLayer.Json.Decoder
import SemanticLayer.Proofs.Json.Lines
import SemanticLayer.Proofs.Json.Reads

/-
# What is written is read

A string is read back whatever its characters are (`Scan.reads_writeString`),
and so is every value without numbers, as deep as the reader goes
(`Json.Plain.reads_value`).  `Json.Plain n` bounds the depth: each bracket that
is open takes one off `n`.

A value has many texts (`Json.Laid`), because blanks may stand around each of its
parts:

| text | blanks |
| --- | --- |
| as it is written here | none (`Plain.laid`) |
| with a line for each part | a line feed and an indentation before each part, a blank behind each colon |
-/

namespace SemanticLayer.Json
namespace Scan

variable {α β σ : Type} {a : α} {cs m rest : List Char}

/-! ### Strings -/

/-- The hexadecimal form of a control character gives its number. -/
theorem hexNumber?_hexDigit :
    ∀ n < 32, hexNumber? ['0', '0', hexDigit (n / 16), hexDigit (n % 16)] = some n := by
  decide

/-- **A character is read back from how it is written,** whatever character it is. -/
theorem reads_stringRest_writeChar {fuel : Nat} {done : List Char} {s : String} (ch : Char)
    (h : Reads (stringRest fuel (ch :: done)) m s rest) :
    Reads (stringRest (fuel + 1) done) (writeChar ch ++ m) s rest := by
  rcases writeChar_cases ch with ⟨mark, hmark, hwritten⟩ | ⟨hlt, hwritten⟩ |
    ⟨hle, hquote, hbackslash, hwritten⟩
  · have hmarks : ∀ p ∈ marks, p.2 ≠ 'u' ∧ escape? p.2 = some p.1 := by decide
    obtain ⟨hne, hescape⟩ : mark ≠ 'u' ∧ escape? mark = some ch := hmarks _ hmark
    rw [hwritten]
    change Reads _ ('\\' :: mark :: m) s rest
    refine (reads_next _).bind ((reads_eat _ _).bind (.bind (m := m) (a := ch) ?_ h))
    refine (reads_next _).bind ?_
    simp only [List.head?_cons, hescape]
    exact (reads_eat _ m).bind (.pure ch m)
  · rw [hwritten]
    refine (reads_next _).bind ((reads_eat _ _).bind (.bind (m := m) (a := ch) ?_ h))
    refine (reads_next _).bind ((reads_eat _ _).bind ?_)
    refine (reads_fourHex (hexNumber?_hexDigit ch.toNat hlt) m).bind ?_
    rw [if_neg (by omega), if_neg (by omega), Char.ofNat_toNat]
    exact .pure ch m
  · rw [hwritten]
    refine (reads_next _).bind ?_
    simp only [List.cons_append, List.nil_append, List.head?_cons, if_neg (Nat.not_lt.2 hle)]
    exact (reads_eat _ m).bind h

/-- The characters of a string are read up to its closing quote. -/
theorem reads_stringRest {fuel : Nat} (done chars : List Char) (hfuel : chars.length < fuel)
    (rest : List Char) :
    Reads (stringRest fuel done) (chars.flatMap writeChar ++ '"' :: rest)
      (String.ofList (done.reverse ++ chars)) rest := by
  induction chars generalizing fuel done with
  | nil =>
    obtain ⟨fuel, rfl⟩ := Nat.exists_eq_succ_of_ne_zero (Nat.ne_of_gt hfuel)
    refine (reads_next _).bind ((reads_eat _ rest).bind ?_)
    rw [List.append_nil]
    exact .pure _ rest
  | cons ch chars ih =>
    obtain ⟨fuel, rfl⟩ := Nat.exists_eq_succ_of_ne_zero (Nat.ne_of_gt (Nat.zero_lt_of_lt hfuel))
    rw [List.flatMap_cons, List.append_assoc]
    refine reads_stringRest_writeChar ch ?_
    have h := ih (ch :: done) (Nat.lt_of_succ_lt_succ hfuel)
    rwa [List.reverse_cons, List.append_assoc, List.singleton_append] at h

/-- Every character is written with at least one. -/
theorem length_flatMap_writeChar (chars : List Char) :
    chars.length ≤ (chars.flatMap writeChar).length := by
  induction chars with
  | nil => simp
  | cons ch chars ih =>
    have hone : 1 ≤ (writeChar ch).length := by
      unfold writeChar
      repeat' split
      all_goals simp
    rw [List.flatMap_cons, List.length_append, List.length_cons]
    omega

/-- **Every string is read back.** -/
theorem reads_writeString (s : String) (rest : List Char) :
    Reads quotedString (writeString s ++ rest) s rest := by
  have htext : writeString s ++ rest = '"' :: (s.toList.flatMap writeChar ++ '"' :: rest) := by
    simp [writeString]
  rw [htext]
  refine (reads_eat _ _).bind (.budget fun n hn => ?_)
  have hlen := length_flatMap_writeChar s.toList
  rw [List.length_append, List.length_cons] at hn
  have h := reads_stringRest [] s.toList
    (Nat.lt_of_le_of_lt hlen (Nat.lt_of_le_of_lt (Nat.le_add_right ..) hn)) rest
  rwa [List.reverse_nil, List.nil_append, String.ofList_toList] at h

/-! ### Objects -/

section

variable {b b' : List Char} (hb : Blanks b)
include hb

/-- An object ends before its brace. -/
theorem reads_foldEntries_end {step : σ → String → Scan σ} {fuel : Nat} (hfuel : 0 < fuel)
    (first : Bool) (s : σ) (rest : List Char) :
    Reads (foldEntries step fuel first s) (b ++ '\x7d' :: rest) s ('\x7d' :: rest) := by
  obtain ⟨fuel, rfl⟩ := Nat.exists_eq_succ_of_ne_zero (Nat.ne_of_gt hfuel)
  have hnext : Reads (nextKey? first) (b ++ '\x7d' :: rest) none ('\x7d' :: rest) :=
    (reads_peek_blanks hb rfl _).bind (.pure none _)
  exact hnext.bind (.pure s _)

/-- The first entry of an object stands behind its brace. -/
theorem reads_foldEntries_first {step : σ → String → Scan σ} {fuel : Nat} {s s' t : σ}
    {key : String}
    (hstep : Reads (step s key) cs s' m) (htail : Reads (foldEntries step fuel false s') m t rest) :
    Reads (foldEntries step (fuel + 1) true s) (b ++ (writeString key ++ cs)) t rest := by
  have hnext : Reads (nextKey? true) (b ++ (writeString key ++ cs)) (some key) cs :=
    (reads_peek_blanks hb rfl _).bind ((reads_writeString key cs).map some)
  exact hnext.bind (hstep.bind htail)

/-- Every other entry stands behind a comma. -/
theorem reads_foldEntries_next {step : σ → String → Scan σ} {fuel : Nat} {s s' t : σ} {key : String}
    (hb' : Blanks b')
    (hstep : Reads (step s key) cs s' m) (htail : Reads (foldEntries step fuel false s') m t rest) :
    Reads (foldEntries step (fuel + 1) false s) (b ++ ',' :: (b' ++ (writeString key ++ cs))) t
      rest := by
  have hnext : Reads (nextKey? false) (b ++ ',' :: (b' ++ (writeString key ++ cs))) (some key) cs :=
    (reads_peek_blanks hb rfl _).bind ((reads_eat _ _).bind ((reads_peek_blanks hb' rfl _).bind
      ((reads_writeString key cs).map some)))
  exact hnext.bind (hstep.bind htail)

end

end Scan

/-! ### Values -/

/-- A value without numbers in which at most `n` brackets are open at a time. -/
inductive Plain : Nat → Json → Prop where
  | null {n : Nat} : Plain n .null
  | bool {n : Nat} (b : Bool) : Plain n (.bool b)
  | string {n : Nat} (s : String) : Plain n (.string s)
  | list {n : Nat} {items : List Json} (h : ∀ j ∈ items, Plain n j) : Plain (n + 1) (.list items)
  | object {n : Nat} {entries : List (String × Json)} (h : ∀ e ∈ entries, Plain n e.2) :
    Plain (n + 1) (.object entries)

/-- A list of texts opens one bracket. -/
theorem Plain.strings (xs : List String) : Plain 1 (.strings xs) := by
  refine .list fun j hj => ?_
  obtain ⟨s, _, rfl⟩ := List.mem_map.1 hj
  exact .string s

/-- More brackets may be open than are. -/
theorem Plain.mono {n m : Nat} {j : Json} (h : Plain n j) (hm : n ≤ m) : Plain m j := by
  induction h generalizing m with
  | null => exact .null
  | bool b => exact .bool b
  | string s => exact .string s
  | list _ ih =>
    obtain ⟨m, rfl⟩ := Nat.exists_eq_add_of_lt hm
    exact .list fun j hj => ih j hj (Nat.le_add_right ..)
  | object _ ih =>
    obtain ⟨m, rfl⟩ := Nat.exists_eq_add_of_lt hm
    exact .object fun e he => ih e he (Nat.le_add_right ..)

/-! ### Texts of values -/

open Scan (Blanks)

/-- The texts of parts, each behind a comma; blanks may stand before and behind it. -/
inductive Behind {α : Type} (T : α → List Char → Prop) : List α → List Char → Prop where
  | nil {b : List Char} (hb : Blanks b) : Behind T [] b
  | cons {x : α} {xs : List α} {b c cs more : List Char} (hb : Blanks b) (hc : Blanks c)
    (h : T x cs) (hrest : Behind T xs more) : Behind T (x :: xs) (b ++ ',' :: (c ++ (cs ++ more)))

/-- The texts of parts with commas between them and blanks around them. -/
inductive Separated {α : Type} (T : α → List Char → Prop) : List α → List Char → Prop where
  | nil {b : List Char} (hb : Blanks b) : Separated T [] b
  | cons {x : α} {xs : List α} {b cs more : List Char} (hb : Blanks b) (h : T x cs)
    (hrest : Behind T xs more) : Separated T (x :: xs) (b ++ (cs ++ more))

/-- The text of an entry: its key, a colon with blanks around it, and a text of its value. -/
inductive LaidEntry (T : Json → List Char → Prop) : String × Json → List Char → Prop where
  | mk {key : String} {j : Json} {b c cs : List Char} (hb : Blanks b) (hc : Blanks c)
    (h : T j cs) : LaidEntry T (key, j) (writeString key ++ (b ++ ':' :: (c ++ cs)))

/-- The texts of a value without numbers: blanks may stand around each of its parts. -/
inductive Laid : Json → List Char → Prop where
  | null : Laid .null ['n', 'u', 'l', 'l']
  | bool (b : Bool) : Laid (.bool b) (Json.bool b).writeChars
  | string (s : String) : Laid (.string s) (writeString s)
  | list {items : List Json} {cs : List Char} (h : Separated Laid items cs) :
    Laid (.list items) ('[' :: (cs ++ [']']))
  | object {entries : List (String × Json)} {cs : List Char}
    (h : Separated (LaidEntry Laid) entries cs) : Laid (.object entries) ('\x7b' :: (cs ++ ['\x7d']))

/-- The whole texts of a value: blanks may stand before and behind it. -/
def IsText (j : Json) (s : String) : Prop :=
  ∃ b cs b', Blanks b ∧ Laid j cs ∧ Blanks b' ∧ s = String.ofList (b ++ (cs ++ b'))

theorem Laid.isText {j : Json} {cs : List Char} (h : Laid j cs) : j.IsText (String.ofList cs) :=
  ⟨[], cs, [], .nil, h, .nil, by simp⟩

/-- There are at least as many characters as parts. -/
theorem Behind.length_le {α : Type} {T : α → List Char → Prop} {xs : List α} {cs : List Char}
    (h : Behind T xs cs) : xs.length ≤ cs.length := by
  induction h with
  | nil => exact Nat.zero_le _
  | cons _ _ _ _ ih =>
    simp only [List.length_append, List.length_cons]
    omega

theorem Separated.length_le {α : Type} {T : α → List Char → Prop} {xs : List α} {cs : List Char}
    (h : Separated T xs cs) : xs.length ≤ cs.length + 1 := by
  cases h with
  | nil => exact Nat.zero_le _
  | cons _ _ hrest =>
    have hlen := hrest.length_le
    simp only [List.length_append, List.length_cons]
    omega

/-- The text of a value starts neither with a blank nor with the end of a list, and only that of null
starts with its letter. -/
theorem Laid.head {j : Json} {cs : List Char} (h : Laid j cs) :
    ∃ ch more, cs = ch :: more ∧ Scan.isBlank ch = false ∧ ch ≠ ']' ∧ (ch = 'n' → j = .null) := by
  cases h with
  | null => exact ⟨_, _, rfl, rfl, by decide, fun _ => rfl⟩
  | bool b => cases b <;> exact ⟨_, _, rfl, rfl, by decide, fun h => absurd h (by decide)⟩
  | string s => exact ⟨_, _, rfl, rfl, by decide, fun h => absurd h (by decide)⟩
  | list => exact ⟨_, _, rfl, rfl, by decide, fun h => absurd h (by decide)⟩
  | object => exact ⟨_, _, rfl, rfl, by decide, fun h => absurd h (by decide)⟩

/-- The elements behind the first, each with its comma. -/
def writeMoreItems (items : List Json) : List Char := items.flatMap fun j => ',' :: j.writeChars

theorem writeItems_cons (j : Json) (items : List Json) :
    writeItems (j :: items) = j.writeChars ++ writeMoreItems items := by
  induction items generalizing j with
  | nil => simp [writeItems, writeMoreItems]
  | cons i items ih => simp [writeItems, ih i, writeMoreItems]

/-- An entry of an object, as it is written. -/
def writeEntry (e : String × Json) : List Char := writeString e.1 ++ ':' :: e.2.writeChars

/-- The entries behind the first, each with its comma. -/
def writeMoreEntries (entries : List (String × Json)) : List Char :=
  entries.flatMap fun e => ',' :: writeEntry e

theorem writeEntries_cons (e : String × Json) (entries : List (String × Json)) :
    writeEntries (e :: entries) = writeEntry e ++ writeMoreEntries entries := by
  induction entries generalizing e with
  | nil => simp [writeEntries, writeMoreEntries, writeEntry]
  | cons f entries ih => simp [writeEntries, ih f, writeMoreEntries, writeEntry]

section

variable {α : Type} {T : α → List Char → Prop} {text : α → List Char} {xs : List α}

/-- Parts with the same blanks behind each comma. -/
theorem Behind.spaced {b c : List Char} (hb : Blanks b) (hc : Blanks c)
    (h : ∀ x ∈ xs, T x (text x)) :
    Behind T xs ((xs.flatMap fun x => ',' :: (c ++ text x)) ++ b) := by
  induction xs with
  | nil => exact .nil hb
  | cons x xs ih =>
    obtain ⟨hx, hxs⟩ := List.forall_mem_cons.1 h
    have htext : ((x :: xs).flatMap fun x => ',' :: (c ++ text x)) ++ b =
        [] ++ ',' :: (c ++ (text x ++ ((xs.flatMap fun x => ',' :: (c ++ text x)) ++ b))) := by simp
    rw [htext]
    exact .cons .nil hc hx (ih hxs)

/-- Parts behind commas, without blanks. -/
theorem Behind.commas (h : ∀ x ∈ xs, T x (text x)) :
    Behind T xs (xs.flatMap fun x => ',' :: text x) := by
  have htext := Behind.spaced .nil .nil h
  rwa [List.append_nil] at htext

end

/-- **What is written is a text of the value,** one without blanks. -/
theorem Plain.laid {n : Nat} {j : Json} (h : Plain n j) : Laid j j.writeChars := by
  induction h with
  | null => exact .null
  | bool b => exact .bool b
  | string s => exact .string s
  | @list n items _ ih =>
    refine .list ?_
    cases items with
    | nil => exact .nil .nil
    | cons j items =>
      obtain ⟨hj, hitems⟩ := List.forall_mem_cons.1 ih
      rw [writeItems_cons]
      exact .cons (b := []) .nil hj (.commas hitems)
  | @object n entries _ ih =>
    have hentry : ∀ e ∈ entries, LaidEntry Laid e (writeEntry e) := fun e he =>
      .mk (b := []) (c := []) .nil .nil (ih e he)
    refine .object ?_
    cases entries with
    | nil => exact .nil .nil
    | cons e entries =>
      obtain ⟨he, hentries⟩ := List.forall_mem_cons.1 hentry
      rw [writeEntries_cons]
      exact .cons (b := []) .nil he (.commas hentries)

/-! ### Reading values -/

namespace Scan

variable {α β σ : Type} {a : α} {j : Json} {cs m rest : List Char}

/-- From every text of a value, with blanks before it, a scanner reads `a`. -/
def ReadsLaid (x : Scan α) (j : Json) (a : α) : Prop :=
  ∀ b cs, Blanks b → Laid j cs → ∀ rest, Reads x (b ++ (cs ++ rest)) a rest

namespace ReadsLaid

variable {x : Scan α}

/-- What comes behind a value may read nothing. -/
theorem bind {b : β} {f : α → Scan β} (h : ReadsLaid x j a) (hf : ∀ rest, Reads (f a) rest b rest) :
    ReadsLaid (x >>= f) j b :=
  fun bs cs hbs hcs rest => (h bs cs hbs hcs rest).bind (hf rest)

theorem map (f : α → β) (h : ReadsLaid x j a) : ReadsLaid (f <$> x) j (f a) :=
  h.bind fun rest => .pure (f a) rest

/-- The written text of a value is read. -/
theorem reads_writeChars (h : ReadsLaid x j a) {n : Nat} (hj : Plain n j) (rest : List Char) :
    Reads x (j.writeChars ++ rest) a rest := h [] _ .nil hj.laid rest

end ReadsLaid

/-- A value behind a colon. -/
def ReadsBehindColon (x : Scan α) (j : Json) (a : α) : Prop :=
  ∀ b b' cs, Blanks b → Blanks b' → Laid j cs →
    ∀ rest, Reads x (b ++ ':' :: (b' ++ (cs ++ rest))) a rest

theorem ReadsLaid.colon {x : Scan α} (h : ReadsLaid x j a) :
    ReadsBehindColon (do Scan.colon; x) j a :=
  fun _ b' cs hb hb' hcs rest => (reads_colon hb _).bind (h b' cs hb' hcs rest)

/-- The steps of a fold read the elements of a list one after the other. -/
inductive ItemsRead (step : σ → Scan σ) : List Json → σ → σ → Prop where
  | nil (s : σ) : ItemsRead step [] s s
  | cons {j : Json} {items : List Json} {s s' t : σ} (hstep : ReadsLaid (step s) j s')
    (hrest : ItemsRead step items s' t) : ItemsRead step (j :: items) s t

/-- The steps of a fold read the entries of an object one after the other, each from its colon on. -/
inductive EntriesRead (step : σ → String → Scan σ) : List (String × Json) → σ → σ → Prop where
  | nil (s : σ) : EntriesRead step [] s s
  | cons {e : String × Json} {entries : List (String × Json)} {s s' t : σ}
    (hstep : ReadsBehindColon (step s e.1) e.2 s') (hrest : EntriesRead step entries s' t) :
    EntriesRead step (e :: entries) s t

/-- Elements are read one after the other when each of them is, wherever the fold stands. -/
theorem ItemsRead.foldl {f : σ → Scan σ} {p : σ → Json → σ} {items : List Json}
    (hstep : ∀ j ∈ items, ∀ s, ReadsLaid (f s) j (p s j)) (s : σ) :
    ItemsRead f items s (items.foldl p s) := by
  induction items generalizing s with
  | nil => exact .nil s
  | cons j items ih =>
    obtain ⟨hj, hitems⟩ := List.forall_mem_cons.1 hstep
    exact .cons (hj s) (ih hitems (p s j))

/-- So are entries. -/
theorem EntriesRead.foldl {f : σ → String → Scan σ} {p : σ → String × Json → σ}
    {entries : List (String × Json)}
    (hstep : ∀ e ∈ entries, ∀ s, ReadsBehindColon (f s e.1) e.2 (p s e)) (s : σ) :
    EntriesRead f entries s (entries.foldl p s) := by
  induction entries generalizing s with
  | nil => exact .nil s
  | cons e entries ih =>
    obtain ⟨he, hentries⟩ := List.forall_mem_cons.1 hstep
    exact .cons (he s) (ih hentries (p s e))

/-- **A list is folded element by element,** if its elements are read one after the other. -/
theorem reads_behind {step : σ → Scan σ} {items : List Json} {s t : σ}
    (h : ItemsRead step items s t) (hcs : Behind Laid items cs) {fuel : Nat}
    (hfuel : items.length < fuel) (rest : List Char) :
    Reads (foldElements step fuel false s) (cs ++ ']' :: rest) t (']' :: rest) := by
  induction h generalizing cs fuel with
  | nil s =>
    cases hcs with
    | nil hb => exact reads_foldElements_end hb hfuel false s rest
  | @cons j items s s' t hstep _ ih =>
    obtain ⟨fuel, rfl⟩ := Nat.exists_eq_succ_of_ne_zero (Nat.ne_of_gt (Nat.zero_lt_of_lt hfuel))
    cases hcs with
    | @cons _ _ b b' cs more hb hb' hj hmore =>
      have hread := hstep [] cs .nil hj (more ++ ']' :: rest)
      obtain ⟨ch, ds, rfl, hblank, hend, -⟩ := hj.head
      have htext : b ++ ',' :: (b' ++ (ch :: ds ++ more)) ++ ']' :: rest =
          b ++ ',' :: (b' ++ ch :: (ds ++ (more ++ ']' :: rest))) := by simp
      rw [htext]
      exact reads_foldElements_next hb hb' hblank hend hread (ih hmore (Nat.lt_of_succ_lt_succ hfuel))

/-- So are the elements behind a bracket. -/
theorem reads_separated {step : σ → Scan σ} {items : List Json} {s t : σ}
    (h : ItemsRead step items s t) (hcs : Separated Laid items cs) {fuel : Nat}
    (hfuel : items.length < fuel) (rest : List Char) :
    Reads (foldElements step fuel true s) (cs ++ ']' :: rest) t (']' :: rest) := by
  cases hcs with
  | nil hb =>
    cases h
    exact reads_foldElements_end hb hfuel true s rest
  | @cons j items b cs more hb hj hmore =>
    obtain ⟨fuel, rfl⟩ := Nat.exists_eq_succ_of_ne_zero (Nat.ne_of_gt (Nat.zero_lt_of_lt hfuel))
    cases h with
    | cons hstep hrest =>
      have hread := hstep [] cs .nil hj (more ++ ']' :: rest)
      obtain ⟨ch, ds, rfl, hblank, hend, -⟩ := hj.head
      have htext : b ++ (ch :: ds ++ more) ++ ']' :: rest =
          b ++ ch :: (ds ++ (more ++ ']' :: rest)) := by simp
      rw [htext]
      exact reads_foldElements_first hb hblank hend hread
        (reads_behind hrest hmore (Nat.lt_of_succ_lt_succ hfuel) rest)

/-- **An object is folded entry by entry,** if its entries are read one after the other. -/
theorem reads_behindEntries {step : σ → String → Scan σ} {entries : List (String × Json)} {s t : σ}
    (h : EntriesRead step entries s t) (hcs : Behind (LaidEntry Laid) entries cs) {fuel : Nat}
    (hfuel : entries.length < fuel) (rest : List Char) :
    Reads (foldEntries step fuel false s) (cs ++ '\x7d' :: rest) t ('\x7d' :: rest) := by
  induction h generalizing cs fuel with
  | nil s =>
    cases hcs with
    | nil hb => exact reads_foldEntries_end hb hfuel false s rest
  | @cons e entries s s' t hstep _ ih =>
    obtain ⟨fuel, rfl⟩ := Nat.exists_eq_succ_of_ne_zero (Nat.ne_of_gt (Nat.zero_lt_of_lt hfuel))
    cases hcs with
    | @cons _ _ b b' _ more hb hb' he hmore =>
      cases he with
      | @mk key j c c' cs hc hc' hj =>
        have htext : b ++ ',' :: (b' ++ (writeString key ++ (c ++ ':' :: (c' ++ cs)) ++ more)) ++
            '\x7d' :: rest = b ++ ',' :: (b' ++ (writeString key ++ (c ++ ':' ::
              (c' ++ (cs ++ (more ++ '\x7d' :: rest)))))) := by simp
        rw [htext]
        exact reads_foldEntries_next hb hb' (hstep c c' cs hc hc' hj _)
          (ih hmore (Nat.lt_of_succ_lt_succ hfuel))

/-- So are the entries behind a brace. -/
theorem reads_separatedEntries {step : σ → String → Scan σ} {entries : List (String × Json)}
    {s t : σ} (h : EntriesRead step entries s t) (hcs : Separated (LaidEntry Laid) entries cs)
    {fuel : Nat} (hfuel : entries.length < fuel) (rest : List Char) :
    Reads (foldEntries step fuel true s) (cs ++ '\x7d' :: rest) t ('\x7d' :: rest) := by
  cases hcs with
  | nil hb =>
    cases h
    exact reads_foldEntries_end hb hfuel true s rest
  | @cons _ entries b _ more hb he hmore =>
    obtain ⟨fuel, rfl⟩ := Nat.exists_eq_succ_of_ne_zero (Nat.ne_of_gt (Nat.zero_lt_of_lt hfuel))
    cases h with
    | cons hstep hrest =>
      cases he with
      | @mk key j c c' cs hc hc' hj =>
        have htext : b ++ (writeString key ++ (c ++ ':' :: (c' ++ cs)) ++ more) ++ '\x7d' :: rest =
            b ++ (writeString key ++ (c ++ ':' :: (c' ++ (cs ++ (more ++ '\x7d' :: rest))))) := by
          simp
        rw [htext]
        exact reads_foldEntries_first hb (hstep c c' cs hc hc' hj _)
          (reads_behindEntries hrest hmore (Nat.lt_of_succ_lt_succ hfuel) rest)

/-- **The text of a list is read from its bracket on,** with more fuel than it has elements. -/
theorem reads_list {items : List Json} {visit : Nat → Nat → Scan α} {depth : Nat} (hd : 1 < depth)
    (hcs : Separated Laid items cs) (hvisit : ∀ fuel, items.length < fuel →
      Reads (visit fuel (depth - 1)) (cs ++ ']' :: rest) a (']' :: rest)) :
    Reads (inList depth fun depth => do visit (← budget) depth) ('[' :: (cs ++ [']']) ++ rest) a
      rest := by
  have htext : '[' :: (cs ++ [']']) ++ rest = '[' :: (cs ++ ']' :: rest) := by simp
  have hlen := hcs.length_le
  rw [htext]
  refine reads_inList hd (.budget fun fuel hf => hvisit fuel ?_)
  rw [List.length_append, List.length_cons] at hf
  omega

/-- **So is the text of an object** from its brace on. -/
theorem reads_object {entries : List (String × Json)} {visit : Nat → Nat → Scan α} {depth : Nat}
    (hd : 1 < depth) (hcs : Separated (LaidEntry Laid) entries cs)
    (hvisit : ∀ fuel, entries.length < fuel →
      Reads (visit fuel (depth - 1)) (cs ++ '\x7d' :: rest) a ('\x7d' :: rest)) :
    Reads (inObject depth fun depth => do visit (← budget) depth)
      ('\x7b' :: (cs ++ ['\x7d']) ++ rest) a rest := by
  have htext : '\x7b' :: (cs ++ ['\x7d']) ++ rest = '\x7b' :: (cs ++ '\x7d' :: rest) := by simp
  have hlen := hcs.length_le
  rw [htext]
  refine reads_inObject hd (.budget fun fuel hf => hvisit fuel ?_)
  rw [List.length_append, List.length_cons] at hf
  omega

end Scan

/-- **Every value without numbers is read back,** if it opens fewer brackets than may be open. -/
theorem Plain.reads_value {n : Nat} {j : Json} (h : Plain n j) {depth : Nat} (hd : n < depth) :
    Scan.ReadsLaid (Scan.value depth) j j := by
  induction h generalizing depth with
  | null =>
    intro b _ hb hcs rest
    cases hcs
    unfold Scan.value
    refine (Scan.reads_peek_blanks hb rfl _).bind ((Scan.reads_eat _ _).bind ?_)
    exact (Scan.reads_word ['u', 'l', 'l'] rest).bind (.pure _ rest)
  | bool b =>
    intro bs _ hb hcs rest
    cases hcs
    unfold Scan.value
    cases b with
    | true =>
      refine (Scan.reads_peek_blanks hb rfl _).bind ((Scan.reads_eat _ _).bind ?_)
      exact (Scan.reads_word ['r', 'u', 'e'] rest).bind (.pure _ rest)
    | false =>
      refine (Scan.reads_peek_blanks hb rfl _).bind ((Scan.reads_eat _ _).bind ?_)
      exact (Scan.reads_word ['a', 'l', 's', 'e'] rest).bind (.pure _ rest)
  | string s =>
    intro b _ hb hcs rest
    cases hcs
    unfold Scan.value
    exact (Scan.reads_peek_blanks hb rfl _).bind ((Scan.reads_writeString s rest).map Json.string)
  | @list n items _ ih =>
    obtain ⟨depth, rfl⟩ := Nat.exists_eq_succ_of_ne_zero (Nat.ne_of_gt (Nat.zero_lt_of_lt hd))
    rintro b _ hb (_ | _ | _ | @⟨_, cs, hcs⟩) rest
    unfold Scan.value
    refine (Scan.reads_peek_blanks hb rfl _).bind (Scan.reads_list (by omega) hcs fun fuel hfuel => ?_)
    refine .bind (Scan.reads_separated (.foldl (p := fun items j => j :: items)
      (fun j hj s => ?_) []) hcs hfuel rest) ?_
    · have hd' : n < depth := by omega
      exact (ih j hj hd').bind fun rest => .pure _ rest
    · rw [show items.foldl (fun items j => j :: items) [] = items.reverse by simp,
        List.reverse_reverse]
      exact .pure _ _
  | @object n entries _ ih =>
    obtain ⟨depth, rfl⟩ := Nat.exists_eq_succ_of_ne_zero (Nat.ne_of_gt (Nat.zero_lt_of_lt hd))
    rintro b _ hb (_ | _ | _ | _ | @⟨_, cs, hcs⟩) rest
    unfold Scan.value
    refine (Scan.reads_peek_blanks hb rfl _).bind (Scan.reads_object (by omega) hcs fun fuel hfuel => ?_)
    refine .bind (Scan.reads_separatedEntries (.foldl (p := fun entries e => e :: entries)
      (fun e he s => ?_) []) hcs hfuel rest) ?_
    · have hd' : n < depth := by omega
      exact Scan.ReadsLaid.colon (.bind (ih e he hd') fun rest => .pure _ rest)
    · rw [show entries.foldl (fun entries e => e :: entries) [] = entries.reverse by simp,
        List.reverse_reverse]
      exact .pure _ _

/-- **Writing and reading are inverse** on values without numbers that are not too deep. -/
theorem Plain.read_write {n : Nat} {j : Json} (h : Plain n j) (hn : n < depthLimit) :
    read j.write = .ok j := by
  refine Scan.Reads.run ?_
  rw [write, String.toList_ofList]
  have hread := (h.reads_value hn).reads_writeChars h []
  rwa [List.append_nil] at hread

/-! ### Tagged values -/

/-- **A tagged object is read as its constant and the entries beside it,** as they were written. -/
theorem Scan.reads_scanTagged {α : Type} {what tag name : String}
    {constants : List (List String × α)} {a : α} (hname : Decoder.constant constants name = .ok a)
    {entries : List (String × Json)} (htag : ∀ e ∈ entries, e.1 ≠ tag) {n : Nat}
    (hplain : ∀ e ∈ entries, Plain n e.2) {depth : Nat} (hd : n + 1 < depth) (rest : List Char) :
    (Decoder.scanTagged what tag constants depth).Reads
      ((Json.object ((tag, .string name) :: entries)).writeChars ++ rest) (a, .object entries)
      rest := by
  have htagged : ReadsBehindColon (Decoder.scanTaggedEntry tag constants (depth - 1) (none, []) tag)
      (.string name) (some a, []) := by
    intro b b' _ hb hb' hcs rest
    cases hcs
    unfold Decoder.scanTaggedEntry
    rw [if_pos rfl]
    refine (reads_colon hb _).bind (.bind ((reads_peek_blanks hb' rfl _).bind (.placed
      ((reads_writeString name _).bind ?_))) (.pure _ _))
    rw [hname]
    exact .ofExcept a _
  have hbeside : ∀ done, EntriesRead (Decoder.scanTaggedEntry tag constants (depth - 1)) entries
      (some a, done) (some a, entries.reverse ++ done) := by
    induction entries with
    | nil => exact fun done => .nil _
    | cons e entries ih =>
      obtain ⟨hnot, htag⟩ := List.forall_mem_cons.1 htag
      obtain ⟨hvalue, hplain⟩ := List.forall_mem_cons.1 hplain
      have hd' : n < depth - 1 := by omega
      intro done
      have hmore := ih htag hplain (e :: done)
      rw [List.reverse_cons, List.append_assoc]
      refine .cons ?_ hmore
      unfold Decoder.scanTaggedEntry
      rw [if_neg hnot]
      exact ReadsLaid.colon (.bind (hvalue.reads_value hd') fun rest => .pure _ rest)
  have hlaid : Laid (.object ((tag, .string name) :: entries)) _ :=
    (Plain.object (List.forall_mem_cons.2 ⟨.string name, hplain⟩)).laid
  generalize (Json.object ((tag, .string name) :: entries)).writeChars = text at hlaid ⊢
  cases hlaid with
  | object hcs =>
    refine (reads_peek rfl _).bind (reads_object (by omega) hcs fun fuel hfuel => ?_)
    refine .bind (reads_separatedEntries (.cons htagged (hbeside [])) hcs hfuel rest) ?_
    simp only [List.append_nil, List.reverse_reverse]
    exact .pure _ _

end SemanticLayer.Json
