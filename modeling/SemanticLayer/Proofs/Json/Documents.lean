import SemanticLayer.Proofs.Json.RoundTrip
import SemanticLayer.Proofs.Outcome

/-
# What decoders read

A decoder reads a document from a value that has been read already (`ofJson`) or
from text.  `d.ReadsFrom n j a`: from every text of the document `j`, which opens
at most `n` brackets at a time, the decoder `d` reads `a`, whatever stands behind
it.  There is one lemma for each way in which decoders are built, so that a
document is read back along the structure of its type:

| decoder | document |
| --- | --- |
| `text`, `spelled`, `choice` | a string |
| `optional`, `orDefault` | null, or another document |
| `list`, `oneOrMany` | a list |
| `table` | an object, one entry for each key |
| `record` | an object, one entry for each field (`Fills`) |

Records are written in the order of their fields (`InOrder`), and then nothing
else has to be shown of their names (`ReadsFrom.record_inOrder`).
-/

namespace SemanticLayer.Json.Decoder

variable {α β σ : Type} {n m : Nat} {j : Json} {a : α} {d : Decoder α}

/-! ### Values that have been read -/

/-- A text is read as it is. -/
theorem text_ofJson (origin : Origin) (s : String) : text.ofJson origin (.string s) = .ok s := rfl

/-- A list of texts is read as it is. -/
theorem list_text_ofJson (origin : Origin) (xs : List String) :
    (Decoder.list text).ofJson origin (.strings xs) = .ok xs := by
  change (xs.map Json.string).mapM (text.ofJson origin) = .ok xs
  rw [mapM_eq_ok, List.map_map]
  rfl

/-- Either form of a filter is read as its values. -/
theorem oneOrMany_ofJson (name : String) (origin : Origin) (xs : List String) :
    (oneOrMany name).ofJson origin (.strings xs) = .ok xs := by
  have hmap : (xs.map Json.string).mapM Json.string? = some xs := by
    induction xs with
    | nil => rfl
    | cons x xs ih => simp [List.mapM_cons, ih, Json.string?]
  simp only [oneOrMany, oneOrMany.forms, Json.strings, hmap]

/-- What a changed decoder reads. -/
theorem map_ofJson {origin : Origin} (f : α → β) (h : d.ofJson origin j = .ok a) :
    (d.map f).ofJson origin j = .ok (f a) := by
  simp only [map, h]
  rfl

/-- The field of a key counts unless it has been seen. -/
theorem field?_eq_ok {ρ : Type} {fields : List (Field ρ)} {p : Partial ρ} {key : String}
    {f : Field ρ} (hfind : fields.find? (·.names.contains key) = some f)
    (hseen : p.seen.contains f.shown = false) : p.field? fields key = .ok (some f) := by
  simp only [Partial.field?, hfind, hseen, Bool.false_eq_true, if_false]

/-- **An entry is put into its field,** if that has not been seen, and then come the others. -/
theorem foldlM_entryOfJson {ρ : Type} {fields : List (Field ρ)} {origin : Origin}
    {p r : Partial ρ} {key : String} {f : Field ρ} {change : ρ → ρ}
    {entries : List (String × Json)} (hfind : fields.find? (·.names.contains key) = some f)
    (hseen : p.seen.contains f.shown = false) (hvalue : f.value.ofJson origin j = .ok change)
    (hrest : entries.foldlM (entryOfJson fields origin) (p.put f change) = .ok r) :
    ((key, j) :: entries).foldlM (entryOfJson fields origin) p = .ok r := by
  rw [List.foldlM_cons]
  refine bind_eq_ok.2 ⟨p.put f change, ?_, hrest⟩
  exact bind_eq_ok.2 ⟨some f, field?_eq_ok hfind hseen, bind_eq_ok.2 ⟨change, hvalue, rfl⟩⟩

/-- A record is complete when its fields have been seen. -/
theorem Partial.finish_eq_ok {ρ : Type} {fields : List (Field ρ)} {p : Partial ρ}
    (h : ∀ f ∈ fields, f.shown ∈ p.seen) : p.finish fields = .ok p.record := by
  have hnone : fields.find? (fun f => f.required && !p.seen.contains f.shown) = none := by
    refine List.find?_eq_none.2 fun f hf => ?_
    rw [List.contains_iff_mem.2 (h f hf), Bool.not_true, Bool.and_false]
    exact Bool.false_ne_true
  rw [finish, hnone]

/-! ### Text -/

/-- From every text of a document in which at most `n` brackets are open at a time, a decoder reads a
value. -/
structure ReadsFrom (d : Decoder α) (n : Nat) (j : Json) (a : α) : Prop where
  plain : Plain n j
  reads : ∀ depth, n < depth → Scan.ReadsLaid (d.scan depth) j a

namespace ReadsFrom

/-- **Every text of a document** is read. -/
theorem read_text (h : d.ReadsFrom n j a) (hn : n < depthLimit) {s : String} (hs : j.IsText s) :
    d.read s = .ok a := by
  obtain ⟨b, cs, b', hb, hcs, hb', rfl⟩ := hs
  refine Scan.Reads.run_blanks ?_ hb'
  rw [String.toList_ofList]
  exact h.reads depthLimit hn b cs hb hcs b'

/-- So is the text that is written. -/
theorem read_write (h : d.ReadsFrom n j a) (hn : n < depthLimit) : d.read j.write = .ok a :=
  h.read_text hn h.plain.laid.isText

/-- Nothing but blanks may stand behind it. -/
theorem read_trailing (h : d.ReadsFrom n j a) (hn : n < depthLimit) {rest : List Char}
    (hrest : ∃ ch ∈ rest, Scan.isBlank ch = false) :
    ∃ place, d.read (String.ofList (j.writeChars ++ rest)) =
      .error ⟨.trailingCharacters, some place⟩ := by
  have hread := (h.reads depthLimit hn).reads_writeChars h.plain rest
  rw [← String.toList_ofList (l := j.writeChars ++ rest)] at hread
  exact hread.run_trailing hrest

theorem mono (h : d.ReadsFrom n j a) (hm : n ≤ m) : d.ReadsFrom m j a :=
  ⟨h.plain.mono hm, fun depth hd => h.reads depth (Nat.lt_of_le_of_lt hm hd)⟩

theorem map (f : α → β) (h : d.ReadsFrom n j a) : (d.map f).ReadsFrom n j (f a) :=
  ⟨h.plain, fun depth hd => (h.reads depth hd).map f⟩

/-! ### Strings -/

theorem spelled {expected s : String} {spell : String → Except Flaw α} (h : spell s = .ok a) :
    (Decoder.spelled expected spell).ReadsFrom 0 (.string s) a := by
  refine ⟨.string s, fun depth _ b cs hb hcs rest => ?_⟩
  cases hcs
  refine (Scan.reads_peek_blanks hb rfl _).bind (.placed ((Scan.reads_writeString s rest).bind ?_))
  rw [h]
  exact .ofExcept a rest

theorem text (s : String) : Decoder.text.ReadsFrom 0 (.string s) s := spelled rfl

theorem choice {constants : List (List String × α)} {name : String}
    (h : constant constants name = .ok a) :
    (Decoder.choice constants).ReadsFrom 0 (.string name) a := by
  refine ⟨.string name, fun depth hd b cs hb hcs rest => ?_⟩
  have hname : (constantName constants).ReadsFrom 0 (.string name) a := spelled h
  have hread := hname.reads depth hd [] cs .nil hcs rest
  cases hcs
  exact (Scan.reads_peek_blanks hb rfl _).bind hread

/-! ### Values that may be absent -/

theorem optional_null : (optional d).ReadsFrom 0 .null none := by
  refine ⟨.null, fun _ _ b cs hb hcs rest => ?_⟩
  cases hcs
  exact (Scan.reads_peek_blanks hb rfl _).bind ((Scan.reads_eat _ _).bind
    ((Scan.reads_word ['u', 'l', 'l'] rest).bind (.pure none rest)))

theorem optional_some (h : d.ReadsFrom n j a) (hj : j ≠ .null) :
    (optional d).ReadsFrom n j (some a) := by
  refine ⟨h.plain, fun depth hd b cs hb hcs rest => ?_⟩
  have hread := ((h.reads depth hd).map some) [] cs .nil hcs rest
  obtain ⟨ch, more, rfl, hblank, -, hnull⟩ := hcs.head
  refine (Scan.reads_peek_blanks hb hblank _).bind ?_
  split
  · rename_i hch
    exact absurd (hnull (Option.some.inj hch)) hj
  · exact hread

/-- An optional text is read as it is. -/
theorem optional_text (s : Option String) :
    (optional Decoder.text).ReadsFrom 0 (.optional s) s := by
  cases s with
  | none => exact optional_null
  | some s => exact optional_some (text s) nofun

theorem orDefault {default : α} (h : d.ReadsFrom n j a) (hj : j ≠ .null) :
    (Decoder.orDefault default d).ReadsFrom n j a :=
  (h.optional_some hj).map fun s : Option α => s.getD default

/-! ### Lists and objects -/

/-- **A list is read element by element.** -/
theorem list {toJson : α → Json} {xs : List α} (h : ∀ x ∈ xs, d.ReadsFrom n (toJson x) x) :
    (Decoder.list d).ReadsFrom (n + 1) (.list (xs.map toJson)) xs := by
  have hplain : ∀ j ∈ xs.map toJson, Plain n j := List.forall_mem_map.2 fun x hx => (h x hx).plain
  refine ⟨.list hplain, fun depth hd b cs hb hcs rest => ?_⟩
  have hitems : ∀ done, Scan.ItemsRead (fun items => do return (← d.scan (depth - 1)) :: items)
      (xs.map toJson) done (xs.reverse ++ done) := by
    clear hplain hcs
    induction xs with
    | nil => exact .nil
    | cons x xs ih =>
      obtain ⟨hx, hxs⟩ := List.forall_mem_cons.1 h
      intro done
      rw [List.reverse_cons, List.append_assoc]
      exact .cons (.bind (hx.reads _ (by omega)) fun rest => .pure _ rest) (ih hxs (x :: done))
  cases hcs with
  | list hcs =>
    refine (Scan.reads_peek_blanks hb rfl _).bind (Scan.reads_list (by omega) hcs
      fun fuel hfuel => ?_)
    refine .bind (Scan.reads_separated (hitems []) hcs hfuel rest) ?_
    rw [List.append_nil, List.reverse_reverse]
    exact .pure xs _

/-- A list of texts is read as it is. -/
theorem texts (xs : List String) : (Decoder.list Decoder.text).ReadsFrom 1 (.strings xs) xs :=
  list fun x _ => text x

theorem oneOrMany (name : String) (xs : List String) :
    (Decoder.oneOrMany name).ReadsFrom 1 (.strings xs) xs := by
  refine ⟨.strings xs, fun depth hd => .bind ((Plain.strings xs).reads_value hd) fun rest => ?_⟩
  have hforms : oneOrMany.forms name (.strings xs) = .ok xs := oneOrMany_ofJson name .document xs
  rw [hforms]
  exact .ofExcept xs rest

/-- **An object is read entry by entry.** -/
theorem table {toJson : α → Json} {xs : List (String × α)} {start : σ}
    {put : σ → String → α → σ} (h : ∀ x ∈ xs, d.ReadsFrom n (toJson x.2) x.2) :
    (Decoder.table d start put).ReadsFrom (n + 1) (.object (xs.map fun x => (x.1, toJson x.2)))
      (xs.foldl (fun s x => put s x.1 x.2) start) := by
  refine ⟨.object (List.forall_mem_map.2 fun x hx => (h x hx).plain),
    fun depth hd b cs hb hcs rest => ?_⟩
  have hentries : ∀ s, Scan.EntriesRead
      (fun s key => do
        Scan.colon
        return put s key (← d.scan (depth - 1)))
      (xs.map fun x => (x.1, toJson x.2)) s (xs.foldl (fun s x => put s x.1 x.2) s) := by
    clear hcs
    induction xs with
    | nil => exact .nil
    | cons x xs ih =>
      obtain ⟨hx, hxs⟩ := List.forall_mem_cons.1 h
      exact fun s => .cons (Scan.ReadsLaid.colon (.bind (hx.reads _ (by omega))
        fun rest => .pure _ rest)) (ih hxs _)
  cases hcs with
  | object hcs =>
    refine (Scan.reads_peek_blanks hb rfl _).bind (Scan.reads_object (by omega) hcs
      fun fuel hfuel => ?_)
    exact Scan.reads_separatedEntries (hentries start) hcs hfuel rest

end ReadsFrom

/-! ### Records -/

/-- The entries of an object fill a record: each belongs to a field that has not been seen, and its
value is put there. -/
inductive Fills {ρ : Type} (fields : List (Field ρ)) (n : Nat) :
    List (String × Json) → Partial ρ → Partial ρ → Prop where
  | nil (p : Partial ρ) : Fills fields n [] p p
  | cons {key : String} {j : Json} {f : Field ρ} {change : ρ → ρ}
    {entries : List (String × Json)} {p q : Partial ρ}
    (hfind : fields.find? (·.names.contains key) = some f)
    (hseen : p.seen.contains f.shown = false) (hvalue : f.value.ReadsFrom n j change)
    (hrest : Fills fields n entries (p.put f change) q) : Fills fields n ((key, j) :: entries) p q

section Fills

variable {ρ : Type} {fields : List (Field ρ)} {entries : List (String × Json)} {p q : Partial ρ}

theorem Fills.plain (h : Fills fields n entries p q) : ∀ e ∈ entries, Plain n e.2 := by
  induction h with
  | nil => exact nofun
  | cons _ _ hvalue _ ih => exact List.forall_mem_cons.2 ⟨hvalue.plain, ih⟩

/-- What fills a record is read one after the other. -/
theorem Fills.entriesRead (h : Fills fields n entries p q) {depth : Nat} (hd : n < depth) :
    Scan.EntriesRead (scanEntry fields depth) entries p q := by
  induction h with
  | nil p => exact .nil p
  | @cons key j f change entries p q hfind hseen hvalue _ ih =>
    refine .cons ?_ ih
    unfold scanEntry
    rw [field?_eq_ok hfind hseen]
    exact Scan.ReadsLaid.colon (.bind (hvalue.reads depth hd) fun rest => .pure _ rest)

/-- **A record is read field by field,** if no needed field is missing. -/
theorem ReadsFrom.record {what : String} {start r : ρ} (h : Fills fields n entries ⟨start, []⟩ q)
    (hfinish : q.finish fields = .ok r) :
    (Decoder.record what fields start).ReadsFrom (n + 1) (.object entries) r := by
  refine ⟨.object h.plain, fun depth hd b cs hb hcs rest => ?_⟩
  cases hcs with
  | object hcs =>
    refine (Scan.reads_peek_blanks hb rfl _).bind (Scan.reads_object (by omega) hcs
      fun fuel hfuel => ?_)
    refine (Scan.reads_separatedEntries (h.entriesRead (by omega)) hcs hfuel rest).bind ?_
    rw [hfinish]
    exact .ofExcept r _

/-! ### Records in the order of their fields -/

/-- The entries of an object are the fields of a record in their order, each under its own name:
read into `r`, they give `t`. -/
inductive InOrder {ρ : Type} (n : Nat) :
    List (Field ρ) → List (String × Json) → ρ → ρ → Prop where
  | nil (r : ρ) : InOrder n [] [] r r
  | cons {f : Field ρ} {fields : List (Field ρ)} {key : String} {j : Json} {change : ρ → ρ}
    {entries : List (String × Json)} {r t : ρ} (hkey : f.names.head? = some key)
    (hvalue : f.value.ReadsFrom n j change) (hrest : InOrder n fields entries (change r) t) :
    InOrder n (f :: fields) ((key, j) :: entries) r t

section InOrder

variable {r t : ρ} {name : String} {put : α → ρ → ρ}

theorem InOrder.needed (h : d.ReadsFrom n j a) (hrest : InOrder n fields entries (put a r) t) :
    InOrder n (.needed name d put :: fields) ((name, j) :: entries) r t :=
  .cons rfl (h.map put) hrest

theorem InOrder.spare {others : List String} (h : d.ReadsFrom n j a)
    (hrest : InOrder n fields entries (put a r) t) :
    InOrder n (.spare (name :: others) d put :: fields) ((name, j) :: entries) r t :=
  .cons rfl (h.map put) hrest

/-- Fields that share no names are filled in their order, and none of them is missing.  The
induction goes through the entries; `before` are the fields that have been filled. -/
theorem InOrder.fills (before : List (Field ρ)) (h : InOrder n fields entries r t)
    (hnames : ((before ++ fields).flatMap Field.names).Nodup)
    (hbefore : ∀ f ∈ before, f.shown ∈ f.names) :
    ∃ q : Partial ρ,
      Fills (before ++ fields) n entries ⟨r, (before.map Field.shown).reverse⟩ q ∧
        q.finish (before ++ fields) = .ok t := by
  induction h generalizing before with
  | nil r =>
    refine ⟨_, .nil _, Partial.finish_eq_ok fun f hf => ?_⟩
    rw [List.append_nil] at hf
    exact List.mem_reverse.2 (List.mem_map_of_mem hf)
  | @cons f fields key j change entries r t hkey hvalue _ ih =>
    obtain ⟨more, hmore⟩ : ∃ more, f.names = key :: more := List.head?_eq_some_iff.1 hkey
    have hshown : f.shown = key := by rw [Field.shown, hmore, List.headD_cons]
    have hmem : key ∈ f.names := hmore ▸ List.mem_cons_self
    have hnew : key ∉ before.flatMap Field.names := by
      intro hold
      rw [List.flatMap_append, List.flatMap_cons, List.nodup_append] at hnames
      exact hnames.2.2 key hold key (List.mem_append_left _ hmem) rfl
    have hfind : (before ++ f :: fields).find? (·.names.contains key) = some f := by
      have hnone : before.find? (·.names.contains key) = none := by
        refine List.find?_eq_none.2 fun g hg hcontains => hnew ?_
        exact List.mem_flatMap.2 ⟨g, hg, List.contains_iff_mem.1 hcontains⟩
      rw [List.find?_append, hnone, Option.none_or]
      exact List.find?_cons_of_pos (List.contains_iff_mem.2 hmem)
    have hseen : (before.map Field.shown).reverse.contains f.shown = false := by
      rw [Bool.eq_false_iff, Ne, List.contains_iff_mem, List.mem_reverse, hshown]
      intro hold
      obtain ⟨g, hg, heq⟩ := List.mem_map.1 hold
      exact hnew (List.mem_flatMap.2 ⟨g, hg, heq ▸ hbefore g hg⟩)
    have hsplit : before ++ f :: fields = (before ++ [f]) ++ fields := by simp
    obtain ⟨q, hfills, hfinish⟩ := ih (before ++ [f]) (hsplit ▸ hnames) (by
      intro g hg
      rcases List.mem_append.1 hg with hg | hg
      · exact hbefore g hg
      · rw [List.mem_singleton.1 hg, hshown]
        exact hmem)
    rw [← hsplit, List.map_append, List.reverse_append] at hfills
    exact ⟨q, .cons hfind hseen hvalue hfills, hsplit ▸ hfinish⟩

/-- **A record that is written in the order of its fields is read.** -/
theorem ReadsFrom.record_inOrder {what : String} {start : ρ}
    (hnames : (fields.flatMap Field.names).Nodup) (h : InOrder n fields entries start r) :
    (Decoder.record what fields start).ReadsFrom (n + 1) (.object entries) r := by
  obtain ⟨q, hfills, hfinish⟩ := h.fills [] hnames nofun
  exact .record hfills hfinish

end InOrder

end Fills

end SemanticLayer.Json.Decoder
