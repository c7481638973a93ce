import SemanticLayer.Proofs.Sql.Lexemes
import SemanticLayer.Sql.Syntax

/-
# The lexemes of printed syntax

`Spells V s ls` says that the text `s` is that of the lexemes `ls`, whose words
all belong to the vocabulary `V`, and that they stay sound before a blank, a
comma or a closing bracket; `Leads V s ls` that they stay sound before
anything.  A printed tree alternates between the two: what varies is spelled,
the fixed text around it leads.  There is one lemma for each way in which
printed syntax is put together.
-/

namespace SemanticLayer.Sql

open Lexeme

/-! ### Fixed text -/

/-- The token of a text: a blank, a symbol, a number or a word. -/
def Token.ofText (s : String) : Token :=
  if s = " " then .blank " "
  else if s ∈ Lex.plainSymbols then .symbol s
  else if s.toList.all Char.isDigit then .number s false
  else .ofWord s.toList

/-- Whether a text is a word. -/
def Lex.isWord (cs : List Char) : Bool :=
  match cs with
  | [] => false
  | c :: part => isWordStart c && part.all isWordPart

/-- Whether a text is the text of one plain token. -/
def Lex.isPlainText (s : String) : Bool :=
  s = " " || s ∈ plainSymbols || (!s.isEmpty && s.toList.all Char.isDigit) || isWord s.toList

/-- The lexemes of fixed text, given token by token. -/
def lits (texts : List String) : List Lexeme := texts.map fun s => .fixed (.ofText s)

/-- Whether fixed text, given token by token, may stand before anything. -/
def leadsCheck : List String → Bool
  | [] => true
  | [s] => [" ", ",", "(", ")"].contains s
  | s :: t :: rest =>
    Lex.isPlainText s && t.toList.head?.all (Token.ofText s).endsBefore && !t.isEmpty &&
      leadsCheck (t :: rest)

theorem Lex.plain_ofWord {cs : List Char} (h : isWord cs = true) : (Token.ofWord cs).Plain := by
  cases cs with
  | nil => cases h
  | cons c part =>
    rw [isWord, Bool.and_eq_true, List.all_eq_true] at h
    exact .word h.1 h.2

theorem Lex.plain_ofText {s : String} (h : isPlainText s = true) : (Token.ofText s).Plain := by
  unfold Token.ofText
  split
  · exact .blank
  · rename_i hblank
    split
    · rename_i hsymbol
      simp only [plainSymbols, List.mem_cons, List.not_mem_nil, or_false] at hsymbol
      rcases hsymbol with rfl | rfl | rfl | rfl | rfl | rfl
      · exact .point
      · exact .equals
      · exact .slash
      · exact .comma
      · exact .opening
      · exact .closing
    · rename_i hsymbol
      simp only [isPlainText, hblank, hsymbol, decide_false, Bool.false_or] at h
      split
      · rename_i hdigits
        cases hs : s.toList with
        | nil =>
          obtain rfl : s = "" := by
            rw [← String.ofList_toList (s := s), hs]
          cases h
        | cons d ds =>
          rw [hs, List.all_eq_true] at hdigits
          have hplain := Token.Plain.number hdigits
          rwa [← hs, String.ofList_toList] at hplain
      · rename_i hdigits
        rw [Bool.eq_false_iff.2 hdigits, Bool.and_false, Bool.false_or] at h
        exact plain_ofWord h

theorem Token.written_ofText (s : String) : (Token.ofText s).written = s.toList := by
  unfold ofText
  split
  · rename_i h
    rw [h]
    rfl
  · split
    · rfl
    · split
      · rfl
      · simp [written, ofWord]

/-! ### Spelling -/

/-- The word of a token belongs to a vocabulary. -/
def Token.Known (V : String → Prop) : Token → Prop
  | .word w _ _ => V w
  | _ => True

/-- The word of a lexeme belongs to a vocabulary. -/
def Lexeme.Known (V : String → Prop) : Lexeme → Prop
  | .fixed t => t.Known V
  | .value _ => True

/-- A character that separates tokens. -/
def Separator (c : Char) : Prop := c = ' ' ∨ c = ',' ∨ c = ')'

/-- Lexemes that start with a separator, if with anything. -/
def Starts (ls : List Lexeme) : Prop := ∀ c ∈ (text ls).head?, Separator c

/-- The lexemes of a text that may stand before a separator. -/
structure Spells (V : String → Prop) (s : String) (ls : List Lexeme) : Prop where
  text : s.toList = text ls
  sound : ∀ rest, Sound rest → Starts rest → Sound (ls ++ rest)
  known : ∀ l ∈ ls, l.Known V

/-- The lexemes of a text that may stand before anything. -/
structure Leads (V : String → Prop) (s : String) (ls : List Lexeme) : Prop where
  text : s.toList = text ls
  sound : ∀ rest, Sound rest → Sound (ls ++ rest)
  known : ∀ l ∈ ls, l.Known V

/-- Every plain lexeme has a character. -/
theorem Lexeme.Plain.chars_eq_cons {l : Lexeme} (h : l.Plain) : ∃ c cs, l.chars = c :: cs := by
  cases l with
  | fixed t =>
    obtain ⟨c, cs, hwritten, -⟩ := Lex.step_written h (by simp : ∀ c ∈ ([] : List Char).head?, _)
    exact ⟨c, cs, hwritten⟩
  | value v =>
    have htext := chars_value v []
    rw [List.append_nil] at htext
    exact ⟨_, _, htext⟩

section

variable {V : String → Prop} {s t : String} {ls ms : List Lexeme}

theorem text_append (ls ms : List Lexeme) : text (ls ++ ms) = text ls ++ text ms :=
  List.flatMap_append

theorem Leads.spells (h : Leads V s ls) : Spells V s ls :=
  ⟨h.text, fun rest hr _ => h.sound rest hr, h.known⟩

/-- A text that may stand before a separator may stand at the end. -/
theorem Spells.sound_self (h : Spells V s ls) : Sound ls := by
  have hsound := h.sound [] trivial fun _ hc => absurd hc (Option.not_mem_none _)
  rwa [List.append_nil] at hsound

/-- The same text, put together otherwise. -/
theorem Spells.of_eq (h : Spells V s ls) (hst : t = s) : Spells V t ls := hst ▸ h

/-- Fixed text behind what has been spelled. -/
theorem Spells.leads (h : Spells V s ls) (h' : Leads V t ms) (hm : Starts ms) (hne : ms ≠ []) :
    Leads V (s ++ t) (ls ++ ms) where
  text := by rw [String.toList_append, h.text, h'.text, text_append]
  sound rest hr := by
    rw [List.append_assoc]
    refine h.sound _ (h'.sound rest hr) ?_
    have hsound := h'.sound [] trivial
    rw [List.append_nil] at hsound
    cases ms with
    | nil => exact absurd rfl hne
    | cons m ms =>
      obtain ⟨c, cs, hwritten⟩ := hsound.1.chars_eq_cons
      intro c' hc'
      refine hm c' ?_
      simp only [Lexeme.text, List.cons_append, List.flatMap_cons, hwritten,
        List.head?_cons] at hc' ⊢
      exact hc'
  known := List.forall_mem_append.2 ⟨h.known, h'.known⟩

/-- What varies, behind fixed text. -/
theorem Leads.spell (h : Leads V s ls) (h' : Spells V t ms) : Spells V (s ++ t) (ls ++ ms) where
  text := by rw [String.toList_append, h.text, h'.text, text_append]
  sound rest hr hs := by
    rw [List.append_assoc]
    exact h.sound _ (h'.sound rest hr hs)
  known := List.forall_mem_append.2 ⟨h.known, h'.known⟩

theorem Starts.append (h : Starts ls) (h' : Starts ms) : Starts (ls ++ ms) := by
  unfold Starts at *
  rw [text_append]
  cases hls : text ls with
  | nil => exact h'
  | cons c cs =>
    rw [hls] at h
    exact h

/-- One thing that varies behind another, which starts with a separator. -/
theorem Spells.append (h : Spells V s ls) (h' : Spells V t ms) (hm : Starts ms) :
    Spells V (s ++ t) (ls ++ ms) where
  text := by rw [String.toList_append, h.text, h'.text, text_append]
  sound rest hr hs := by
    rw [List.append_assoc]
    exact h.sound _ (h'.sound rest hr hs) (hm.append hs)
  known := List.forall_mem_append.2 ⟨h.known, h'.known⟩

/-- Fixed text behind fixed text. -/
theorem Leads.leads (h : Leads V s ls) (h' : Leads V t ms) : Leads V (s ++ t) (ls ++ ms) where
  text := by rw [String.toList_append, h.text, h'.text, text_append]
  sound rest hr := by
    rw [List.append_assoc]
    exact h.sound _ (h'.sound rest hr)
  known := List.forall_mem_append.2 ⟨h.known, h'.known⟩

/-- **Fixed text leads,** as a check of its tokens shows. -/
theorem leads_lits {texts : List String} (hs : s = String.join texts)
    (hcheck : leadsCheck texts = true) (hV : ∀ t ∈ texts, (Token.ofText t).Known V) :
    Leads V s (lits texts) where
  text := by
    rw [hs]
    clear hs hcheck hV
    induction texts with
    | nil => rfl
    | cons t texts ih =>
      rw [String.join_cons, String.toList_append, ih]
      simp only [lits, List.map_cons, Lexeme.text, List.flatMap_cons, chars, Token.written_ofText]
  sound rest hr := by
    clear hs hV
    induction texts with
    | nil => exact hr
    | cons t texts ih =>
      cases texts with
      | nil =>
        have hmem : t ∈ [" ", ",", "(", ")"] := List.contains_iff_mem.1 hcheck
        simp only [List.mem_cons, List.not_mem_nil, or_false] at hmem
        rcases hmem with rfl | rfl | rfl | rfl
        · exact ⟨.blank, fun _ _ => rfl, hr⟩
        · exact ⟨.comma, fun _ _ => rfl, hr⟩
        · exact ⟨.opening, fun _ _ => rfl, hr⟩
        · exact ⟨.closing, fun _ _ => rfl, hr⟩
      | cons u texts =>
        simp only [leadsCheck, Bool.and_eq_true] at hcheck
        obtain ⟨⟨⟨hplain, hend⟩, hne⟩, hrest⟩ := hcheck
        refine ⟨Lex.plain_ofText hplain, fun c hc => ?_, ih hrest⟩
        have hhead : (text (lits (u :: texts) ++ rest)).head? = u.toList.head? := by
          cases hu : u.toList with
          | nil =>
            obtain rfl : u = "" := by
              rw [← String.ofList_toList (s := u), hu]
            cases hne
          | cons d ds => simp [lits, Lexeme.text, chars, Token.written_ofText, hu]
        change c ∈ (text (lits (u :: texts) ++ rest)).head? at hc
        rw [hhead] at hc
        rw [Option.all_eq_true] at hend
        exact hend c hc
  known l hl := by
    obtain ⟨t, ht, rfl⟩ := List.mem_map.1 hl
    exact hV t ht

/-- Nothing. -/
theorem Leads.nil : Leads V "" [] := ⟨rfl, fun _ hr => hr, nofun⟩

/-- A word of the vocabulary. -/
theorem spells_word {w : String} (hw : Lex.isWord w.toList = true) (hV : V w) :
    Spells V w [.fixed (.ofWord w.toList)] where
  text := by simp [Lexeme.text, chars, Token.written, Token.ofWord]
  sound rest hr hs := by
    refine ⟨Lex.plain_ofWord hw, fun c hc => ?_, hr⟩
    rcases hs c hc with rfl | rfl | rfl <;> rfl
  known := by simpa [Lexeme.Known, Token.Known, Token.ofWord] using hV

/-- A fixed string without quotes. -/
theorem spells_text {value : String}
    (hv : quoteBody '\'' .plain value.toList = doubled '\'' value.toList) :
    Spells V (stringLiteral value) [.fixed (.text value)] where
  text := by simp [Lexeme.text, chars, Token.written, stringLiteral, enclose, hv]
  sound rest hr hs := by
    refine ⟨String.ofList_toList (s := value) ▸ Token.Plain.text value.toList, fun c hc => ?_, hr⟩
    rcases hs c hc with rfl | rfl | rfl <;> rfl
  known := by simp [Lexeme.Known, Token.Known]

/-- The value of a filter. -/
theorem spells_value (v : String) : Spells V (stringLiteral v) [.value v] where
  text := by simp [Lexeme.text, chars]
  sound rest hr hs := by
    refine ⟨trivial, fun c hc => ?_, hr⟩
    rcases hs c hc with rfl | rfl | rfl <;> rfl
  known := by simp [Lexeme.Known]

/-- A whole number. -/
theorem spells_number {digits : String} (hd : digits.toList ≠ [])
    (h : ∀ c ∈ digits.toList, c.isDigit = true) :
    Spells V digits [.fixed (.number digits false)] where
  text := by simp [Lexeme.text, chars, Token.written]
  sound rest hr hs := by
    refine ⟨?_, fun c hc => ?_, hr⟩
    · cases hds : digits.toList with
      | nil => exact absurd hds hd
      | cons d ds =>
        rw [hds] at h
        have hplain := Token.Plain.number h
        rwa [← hds, String.ofList_toList] at hplain
    · rcases hs c hc with rfl | rfl | rfl <;> rfl
  known := by simp [Lexeme.Known, Token.Known]

end

/-! ### Names -/

/-- A name as a lexeme. -/
def Name.lexeme (n : Name) : Lexeme :=
  match n.quote with
  | none => .fixed (.ofWord n.value.toList)
  | some quote => .fixed (.ofQuoted quote n.value.toList)

/-- A name that is a word of the vocabulary, or made of word characters and in double quotes. -/
def Name.Spelled (V : String → Prop) (n : Name) : Prop :=
  V n.value ∧ ((n.quote = none ∧ Lex.isWord n.value.toList = true) ∨
    (n.quote = some '"' ∧ ∀ c ∈ n.value.toList, Lex.isWordPart c = true))

/-- Names with points between them. -/
def pathLexemes : List Name → List Lexeme
  | [] => []
  | [n] => [n.lexeme]
  | n :: rest => n.lexeme :: .fixed (.symbol ".") :: pathLexemes rest

/-- Texts with commas between them. -/
def commaLexemes : List (List Lexeme) → List Lexeme
  | [] => []
  | [ls] => ls
  | ls :: rest => ls ++ lits [",", " "] ++ commaLexemes rest

section

variable {V : String → Prop}

/-- A quoted name of word characters is written as it is. -/
theorem toList_enclose {value : String} (h : ∀ c ∈ value.toList, Lex.isWordPart c = true) :
    (enclose '"' value).toList = '"' :: value.toList ++ ['"'] := by
  have hbody : ∀ cs : List Char, (∀ c ∈ cs, Lex.isWordPart c = true) →
      quoteBody '"' .plain cs = cs := by
    intro cs hcs
    induction cs with
    | nil => rfl
    | cons c cs ih =>
      have hc := Lex.ne_quote_of_isWordPart (hcs c List.mem_cons_self)
      rw [quoteBody, if_neg hc.2.1, if_neg hc.2.2, ih fun d hd => hcs d (List.mem_cons_of_mem _ hd)]
  rw [enclose, String.toList_ofList, hbody _ h]

theorem Name.Spelled.spells {n : Name} (h : n.Spelled V) : Spells V n.render [n.lexeme] := by
  obtain ⟨value, quote⟩ := n
  obtain ⟨hV, ⟨hq, hw⟩ | ⟨hq, hw⟩⟩ := h <;> dsimp only at hV hq hw <;> subst hq
  · exact spells_word hw hV
  · refine ⟨?_, fun rest hr hs => ⟨.quoted hw, fun c hc => ?_, hr⟩, ?_⟩
    · simp [Name.render, toList_enclose hw, Name.lexeme, text, chars, Token.written, Token.ofQuoted]
    · rcases hs c hc with rfl | rfl | rfl <;> rfl
    · simpa [Name.lexeme, Lexeme.Known, Token.Known, Token.ofQuoted] using hV

/-- A name ends before a point. -/
theorem Name.Spelled.sound_point {n : Name} (h : n.Spelled V) {rest : List Lexeme}
    (hr : Sound rest) (hpoint : ∀ c ∈ (text rest).head?, c.isDigit = false) :
    Sound (n.lexeme :: .fixed (.symbol ".") :: rest) := by
  have hsound : Sound (.fixed (.symbol ".") :: rest) := by
    refine ⟨.point, fun c hc => ?_, hr⟩
    simpa [EndsBefore, token, Token.endsBefore] using hpoint c hc
  have hplain := h.spells.sound_self
  refine ⟨hplain.1, fun c hc => ?_, hsound⟩
  obtain rfl : c = '.' := (Option.some.inj hc).symm
  obtain ⟨value, quote⟩ := n
  obtain ⟨_, ⟨hq, _⟩ | ⟨hq, _⟩⟩ := h <;> dsimp only at hq <;> subst hq <;> rfl

/-- No name starts with a digit. -/
theorem Name.Spelled.head_chars {n : Name} (h : n.Spelled V) (rest : List Char) :
    ∀ c ∈ (n.lexeme.chars ++ rest).head?, c.isDigit = false := by
  obtain ⟨value, quote⟩ := n
  obtain ⟨_, ⟨hq, hw⟩ | ⟨hq, hw⟩⟩ := h <;> dsimp only at hq hw <;> subst hq
  · cases hv : value.toList with
    | nil => rw [hv] at hw; cases hw
    | cons d ds =>
      intro c hc
      simp only [lexeme, chars, Token.written, Token.ofWord, hv, String.toList_ofList,
        List.cons_append, List.head?_cons, Option.mem_some_iff] at hc
      subst hc
      rw [hv, Lex.isWord, Bool.and_eq_true] at hw
      rw [Bool.eq_false_iff]
      intro hd
      rw [Lex.not_isWordStart_of_isDigit hd] at hw
      cases hw.1
  · intro c hc
    obtain rfl : c = '"' := (Option.some.inj hc).symm
    rfl

/-- Joined texts, the first set apart. -/
theorem joinWith_cons_cons (separator a b : String) (rest : List String) :
    joinWith separator (a :: b :: rest) = a ++ separator ++ joinWith separator (b :: rest) := by
  have hfold : ∀ (rest : List String) (s t : String),
      rest.foldl (fun joined t => joined ++ separator ++ t) (s ++ t) =
        s ++ rest.foldl (fun joined t => joined ++ separator ++ t) t := by
    intro rest
    induction rest with
    | nil => exact fun s t => rfl
    | cons r rest ih =>
      intro s t
      simp only [List.foldl_cons]
      rw [String.append_assoc, String.append_assoc, ih, String.append_assoc]
  simp only [joinWith, List.foldl_cons]
  rw [hfold]

/-- **A path is spelled name by name,** with points between them. -/
theorem spells_path {path : List Name} (hne : path ≠ []) (h : ∀ n ∈ path, n.Spelled V) :
    Spells V (renderPath path) (pathLexemes path) := by
  induction path with
  | nil => exact absurd rfl hne
  | cons n path ih =>
    have hn := h n List.mem_cons_self
    cases path with
    | nil => exact hn.spells
    | cons m path =>
      have hm := h m (List.mem_cons_of_mem _ List.mem_cons_self)
      have hrest := ih (List.cons_ne_nil _ _) fun k hk => h k (List.mem_cons_of_mem _ hk)
      obtain ⟨ms, hms⟩ : ∃ ms, pathLexemes (m :: path) = m.lexeme :: ms := by
        cases path with
        | nil => exact ⟨[], rfl⟩
        | cons k path => exact ⟨_, rfl⟩
      refine ⟨?_, fun rest hr hs => ?_, ?_⟩
      · have htext := hrest.text
        simp only [renderPath] at htext
        simp only [renderPath, List.map_cons, joinWith_cons_cons, String.toList_append] at htext ⊢
        rw [htext, hn.spells.text]
        simp [pathLexemes, Lexeme.text, chars, Token.written]
      · refine hn.sound_point (hrest.sound rest hr hs) fun c hc => ?_
        refine hm.head_chars (text (ms ++ rest)) c ?_
        rw [hms] at hc
        exact hc
      · refine List.forall_mem_cons.2 ⟨hn.spells.known _ List.mem_cons_self, ?_⟩
        exact List.forall_mem_cons.2 ⟨trivial, hrest.known⟩

/-- **Fixed text that starts with a separator** may stand behind anything that has been spelled. -/
theorem Spells.lead {s t : String} {ls : List Lexeme} {w : String} {texts : List String}
    (h : Spells V s ls) (h' : Leads V t (lits (w :: texts)))
    (hw : w ∈ [" ", ",", ")"]) : Leads V (s ++ t) (ls ++ lits (w :: texts)) := by
  refine h.leads h' (fun c hc => ?_) nofun
  simp only [List.mem_cons, List.not_mem_nil, or_false] at hw
  rcases hw with rfl | rfl | rfl
  · exact .inl (Option.some.inj hc).symm
  · exact .inr (.inl (Option.some.inj hc).symm)
  · exact .inr (.inr (Option.some.inj hc).symm)

/-- A comma and a blank. -/
theorem leads_comma : Leads V ", " (lits [",", " "]) :=
  leads_lits rfl rfl (by simp [Token.ofText, Lex.plainSymbols, Token.Known])

/-- **Texts with commas between them are spelled one by one.** -/
theorem spells_commas {α : Type} {xs : List α} {f : α → String} {lss : List (List Lexeme)}
    (h : List.Forall₂ (fun x ls => Spells V (f x) ls) xs lss) :
    Spells V (commas (xs.map f)) (commaLexemes lss) := by
  induction h with
  | nil => exact Leads.nil.spells
  | @cons x ls xs lss hx hxs ih =>
    cases hxs with
    | nil => exact hx
    | cons hy hys =>
      have hspell := (hx.lead leads_comma (by decide)).spell ih
      simp only [commas, List.map_cons, joinWith_cons_cons] at hspell ⊢
      exact hspell

/-- So are texts whose lexemes are given one by one. -/
theorem forall₂_spells {α : Type} {xs : List α} {f : α → String} {g : α → List Lexeme}
    (h : ∀ x ∈ xs, Spells V (f x) (g x)) :
    List.Forall₂ (fun x ls => Spells V (f x) ls) xs (xs.map g) :=
  List.forall₂_map_right_iff.2 (List.forall₂_same.2 h)

theorem forall₂_map_spells {α β : Type} {xs : List β} {t : β → α} {f : α → String}
    {g : β → List Lexeme} (h : ∀ x ∈ xs, Spells V (f (t x)) (g x)) :
    List.Forall₂ (fun y ls => Spells V (f y) ls) (xs.map t) (xs.map g) :=
  List.forall₂_map_left_iff.2 (forall₂_spells h)

/-- **Texts that start with a blank each are spelled one after another.** -/
theorem spells_join {α : Type} {xs : List α} {f : α → String} {g : α → List Lexeme}
    (h : ∀ x ∈ xs, Spells V (f x) (g x)) (hs : ∀ x ∈ xs, Starts (g x)) {s : String}
    {ls : List Lexeme} (hfirst : Spells V s ls) :
    Spells V (s ++ String.join (xs.map f)) (ls ++ xs.flatMap g) := by
  induction xs generalizing s ls with
  | nil => simpa using hfirst
  | cons x xs ih =>
    have hx := hfirst.append (h x List.mem_cons_self) (hs x List.mem_cons_self)
    have hrest := ih (fun y hy => h y (List.mem_cons_of_mem _ hy))
      (fun y hy => hs y (List.mem_cons_of_mem _ hy)) hx
    rw [List.map_cons, String.join_cons, ← String.append_assoc, List.flatMap_cons,
      ← List.append_assoc]
    exact hrest

end

end SemanticLayer.Sql
