import SemanticLayer.Proofs.Outcome

/-
# Checks and the requirements they enforce

A list of requirements says what is asked, in which order, and which error
tells of each.  A check enforces such a list when it passes if all of them are
met and otherwise fails with the error of the first that is not.  Checks that
run one after the other enforce their requirements one behind the other
(`Enforces.bind`, `Enforces.forM`).  Steps that give something need their
requirements in the same way (`Needs`).
-/

namespace SemanticLayer

variable {ε : Type}

/-- Something that is asked, and the error that tells that it is not met. -/
structure Requirement (ε : Type) where
  met : Prop
  error : ε

/-- The same requirement with its error told in other words. -/
def Requirement.map {ε' : Type} (f : ε → ε') (r : Requirement ε) : Requirement ε' :=
  ⟨r.met, f r.error⟩

/-- The error of the first requirement that is not met. -/
def FirstUnmet (rs : List (Requirement ε)) (e : ε) : Prop :=
  ∃ before r after, rs = before ++ r :: after ∧ (∀ x ∈ before, x.met) ∧ ¬ r.met ∧ e = r.error

/-- A check passes if all requirements are met, and else fails with the error of the first that is
not. -/
def Enforces (rs : List (Requirement ε)) : Except ε Unit → Prop
  | .ok () => ∀ r ∈ rs, r.met
  | .error e => FirstUnmet rs e

namespace FirstUnmet

variable {rs ss : List (Requirement ε)} {e : ε}

theorem not_met (h : FirstUnmet rs e) : ¬ ∀ r ∈ rs, r.met := by
  obtain ⟨before, r, after, rfl, -, hr, -⟩ := h
  exact fun hall => hr (hall r (by simp))

/-- What comes behind does not matter. -/
theorem append_left (h : FirstUnmet rs e) : FirstUnmet (rs ++ ss) e := by
  obtain ⟨before, r, after, rfl, hbefore, hr, he⟩ := h
  exact ⟨before, r, after ++ ss, by simp, hbefore, hr, he⟩

/-- What is met is passed over. -/
theorem append_right (hrs : ∀ r ∈ rs, r.met) (h : FirstUnmet ss e) : FirstUnmet (rs ++ ss) e := by
  obtain ⟨before, r, after, rfl, hbefore, hr, he⟩ := h
  refine ⟨rs ++ before, r, after, by simp, ?_, hr, he⟩
  intro x hx
  rcases List.mem_append.1 hx with hx | hx
  · exact hrs x hx
  · exact hbefore x hx

/-- The first requirement is it, unless it is met. -/
theorem cons_iff {r : Requirement ε} :
    FirstUnmet (r :: rs) e ↔ (¬ r.met ∧ e = r.error) ∨ (r.met ∧ FirstUnmet rs e) := by
  constructor
  · rintro ⟨before, x, after, heq, hbefore, hx, he⟩
    cases before with
    | nil =>
      obtain ⟨rfl, rfl⟩ := List.cons.inj heq
      exact .inl ⟨hx, he⟩
    | cons y before =>
      obtain ⟨rfl, rfl⟩ := List.cons.inj heq
      obtain ⟨hr, hbefore⟩ := List.forall_mem_cons.1 hbefore
      exact .inr ⟨hr, before, x, after, rfl, hbefore, hx, he⟩
  · rintro (⟨hr, he⟩ | ⟨hr, h⟩)
    · exact ⟨[], r, rs, rfl, nofun, hr, he⟩
    · exact append_right (List.forall_mem_singleton.2 hr) h

/-- **Only one requirement is the first that is not met.** -/
theorem unique {e' : ε} (h : FirstUnmet rs e) (h' : FirstUnmet rs e') : e = e' := by
  induction rs with
  | nil =>
    obtain ⟨before, r, after, heq, -⟩ := h
    cases before <;> cases heq
  | cons r rs ih =>
    rcases cons_iff.1 h with ⟨hr, rfl⟩ | ⟨hr, hrest⟩
    · rcases cons_iff.1 h' with ⟨-, rfl⟩ | ⟨hr', -⟩
      · rfl
      · exact absurd hr' hr
    · rcases cons_iff.1 h' with ⟨hr', -⟩ | ⟨-, hrest'⟩
      · exact absurd hr hr'
      · exact ih hrest hrest'

/-- The same requirements with their errors told in other words. -/
theorem map_iff {ε' : Type} {f : ε → ε'} {e : ε'} :
    FirstUnmet (rs.map (Requirement.map f)) e ↔ ∃ told, FirstUnmet rs told ∧ e = f told := by
  induction rs with
  | nil =>
    refine ⟨fun h => absurd nofun h.not_met, ?_⟩
    rintro ⟨told, h, -⟩
    exact absurd nofun h.not_met
  | cons r rs ih =>
    rw [List.map_cons, cons_iff, ih]
    constructor
    · rintro (⟨hr, rfl⟩ | ⟨hr, told, htold, rfl⟩)
      · exact ⟨r.error, cons_iff.2 (.inl ⟨hr, rfl⟩), rfl⟩
      · exact ⟨told, cons_iff.2 (.inr ⟨hr, htold⟩), rfl⟩
    · rintro ⟨told, htold, rfl⟩
      rcases cons_iff.1 htold with ⟨hr, rfl⟩ | ⟨hr, htold⟩
      · exact .inl ⟨hr, rfl⟩
      · exact .inr ⟨hr, told, htold, rfl⟩

end FirstUnmet

namespace Enforces

variable {rs ss : List (Requirement ε)} {x y : Except ε Unit}

/-- **A check passes exactly when all requirements are met.** -/
theorem eq_ok_iff (h : Enforces rs x) : x = .ok () ↔ ∀ r ∈ rs, r.met := by
  cases x with
  | ok u => exact ⟨fun _ => h, fun _ => rfl⟩
  | error e => exact ⟨nofun, fun hall => absurd hall h.not_met⟩

/-- **It fails exactly with the error of the first requirement that is not met.** -/
theorem eq_error_iff {e : ε} (h : Enforces rs x) : x = .error e ↔ FirstUnmet rs e := by
  cases x with
  | ok u => exact ⟨nofun, fun hunmet => absurd h hunmet.not_met⟩
  | error e' =>
    constructor
    · rintro ⟨⟩
      exact h
    · intro hunmet
      rw [FirstUnmet.unique h hunmet]

/-- Nothing is asked. -/
theorem nil : Enforces ([] : List (Requirement ε)) (.ok ()) := nofun

/-- What is met anyway may be asked as well. -/
theorem cons_of_met {r : Requirement ε} (hr : r.met) (h : Enforces rs x) : Enforces (r :: rs) x := by
  cases x with
  | ok u => exact List.forall_mem_cons.2 ⟨hr, h⟩
  | error e => exact FirstUnmet.cons_iff.2 (.inr ⟨hr, h⟩)

/-- What is not met is told of before everything else. -/
theorem cons_of_not_met {r : Requirement ε} (hr : ¬ r.met) : Enforces (r :: rs) (.error r.error) :=
  FirstUnmet.cons_iff.2 (.inl ⟨hr, rfl⟩)

/-- **What is asked first** is asked before everything else. -/
theorem guard {p q : Prop} [Decidable p] {e : ε} (h : p ↔ ¬ q) (hy : q → Enforces ss y) :
    Enforces (⟨q, e⟩ :: ss) (if p then .error e else y) := by
  by_cases hp : p
  · rw [if_pos hp]
    exact cons_of_not_met (h.1 hp)
  · have hq : q := Classical.not_not.1 fun hq => hp (h.2 hq)
    rw [if_neg hp]
    exact cons_of_met hq (hy hq)

/-- One thing is asked. -/
theorem single {p q : Prop} [Decidable p] {e : ε} (h : p ↔ q) :
    Enforces [⟨q, e⟩] (if p then .ok () else .error e) := by
  by_cases hp : p
  · rw [if_pos hp]
    exact cons_of_met (h.1 hp) nil
  · rw [if_neg hp]
    exact cons_of_not_met fun hq => hp (h.2 hq)

/-- **A check behind another** may rely on what that one asks. -/
theorem bind (hx : Enforces rs x) (hy : (∀ r ∈ rs, r.met) → Enforces ss y) :
    Enforces (rs ++ ss) (x >>= fun _ => y) := by
  cases x with
  | error e => exact FirstUnmet.append_left hx
  | ok u =>
    have hnext := hy hx
    change Enforces (rs ++ ss) y
    cases y with
    | ok u =>
      intro r hr
      rcases List.mem_append.1 hr with hr | hr
      · exact hx r hr
      · exact hnext r hr
    | error e => exact FirstUnmet.append_right hx hnext

/-- **A check of a list** asks what it asks of each element, one after the other. -/
theorem forM {α : Type} {check : α → Except ε Unit} {asks : α → List (Requirement ε)} {xs : List α}
    (h : ∀ a ∈ xs, Enforces (asks a) (check a)) : Enforces (xs.flatMap asks) (xs.forM check) := by
  induction xs with
  | nil => exact nil
  | cons a xs ih =>
    obtain ⟨ha, hxs⟩ := List.forall_mem_cons.1 h
    rw [List.flatMap_cons]
    exact ha.bind fun _ => ih hxs

/-- **A search for an element that fails a test** asks that every element passes it. -/
theorem find {α : Type} {asks : α → Requirement ε} (bad : α → Bool) {xs : List α}
    (h : ∀ a, bad a = true ↔ ¬ (asks a).met)
    (hfound : ∀ a, xs.find? bad = some a → x = .error (asks a).error)
    (hnone : xs.find? bad = none → Enforces rs x) : Enforces (xs.map asks ++ rs) x := by
  induction xs with
  | nil => exact hnone rfl
  | cons a xs ih =>
    rw [List.map_cons, List.cons_append]
    cases ha : bad a with
    | true =>
      rw [hfound a (List.find?_cons_of_pos ha)]
      exact cons_of_not_met ((h a).1 ha)
    | false =>
      have hskip : (a :: xs).find? bad = xs.find? bad := List.find?_cons_of_neg (by simp [ha])
      have hmet : (asks a).met := Classical.not_not.1 fun hno => by simp [(h a).2 hno] at ha
      rw [hskip] at hfound hnone
      exact cons_of_met hmet (ih hfound hnone)

/-- **A check that tells of its errors in other words** asks for the same. -/
theorem mapError {ε' : Type} {f : ε → ε'} (h : Enforces rs x) :
    Enforces (rs.map (Requirement.map f)) (x.mapError f) := by
  cases x with
  | ok u =>
    intro r hr
    obtain ⟨s, hs, rfl⟩ := List.mem_map.1 hr
    exact h s hs
  | error e =>
    obtain ⟨before, r, after, rfl, hbefore, hr, rfl⟩ := h
    refine ⟨before.map (.map f), r.map f, after.map (.map f), by simp, ?_, hr, rfl⟩
    intro x hx
    obtain ⟨s, hs, rfl⟩ := List.mem_map.1 hx
    exact hbefore s hs

end Enforces

/-! ### Steps that give something -/

/-- A step gives something if all requirements are met, and else fails with the error of the first
that is not. -/
def Needs {α : Type} (rs : List (Requirement ε)) (x : Except ε α) : Prop :=
  Enforces rs (x.map fun _ => ())

namespace Needs

variable {α β : Type} {rs ss : List (Requirement ε)} {x : Except ε α}

/-- **A step gives something exactly when all requirements are met.** -/
theorem exists_ok_iff (h : Needs rs x) : (∃ a, x = .ok a) ↔ ∀ r ∈ rs, r.met := by
  rw [← Enforces.eq_ok_iff h]
  cases x with
  | ok a => exact ⟨fun _ => rfl, fun _ => ⟨a, rfl⟩⟩
  | error e => exact ⟨nofun, nofun⟩

/-- **It fails exactly with the error of the first requirement that is not met.** -/
theorem eq_error_iff {e : ε} (h : Needs rs x) : x = .error e ↔ FirstUnmet rs e := by
  rw [← Enforces.eq_error_iff h]
  cases x with
  | ok a => exact ⟨nofun, nofun⟩
  | error e' => exact ⟨fun he => by cases he; rfl, fun he => by cases he; rfl⟩

/-- Nothing is asked. -/
theorem ok (a : α) : Needs ([] : List (Requirement ε)) (.ok a) := Enforces.nil

/-- One thing is asked. -/
theorem single {p : Prop} {e : ε} (hok : p → ∃ a, x = .ok a) (herror : ¬ p → x = .error e) :
    Needs [⟨p, e⟩] x := by
  by_cases hp : p
  · obtain ⟨a, rfl⟩ := hok hp
    exact List.forall_mem_singleton.2 hp
  · rw [herror hp]
    exact FirstUnmet.cons_iff.2 (.inl ⟨hp, rfl⟩)

/-- **A step behind another** may rely on what that one gives. -/
theorem bind {f : α → Except ε β} (hx : Needs rs x) (hf : ∀ a, x = .ok a → Needs ss (f a)) :
    Needs (rs ++ ss) (x >>= f) := by
  cases x with
  | error e => exact FirstUnmet.append_left hx
  | ok a => exact Enforces.bind (x := .ok ()) hx fun _ => hf a rfl

/-- **A step for each element of a list** asks what it asks of each, one after the other. -/
theorem mapM {asks : α → List (Requirement ε)} {f : α → Except ε β} {xs : List α}
    (h : ∀ a ∈ xs, Needs (asks a) (f a)) : Needs (xs.flatMap asks) (xs.mapM f) := by
  induction xs with
  | nil => exact ok []
  | cons a xs ih =>
    obtain ⟨ha, hxs⟩ := List.forall_mem_cons.1 h
    rw [List.flatMap_cons, List.mapM_cons]
    refine ha.bind fun b _ => ?_
    rw [← List.append_nil (xs.flatMap asks)]
    exact (ih hxs).bind fun bs _ => ok (b :: bs)

/-- **A run through a list** asks what it asks at each element, one after the other. -/
theorem foldlM {asks : α → List (Requirement ε)} {f : β → α → Except ε β} {xs : List α}
    (h : ∀ a ∈ xs, ∀ b, Needs (asks a) (f b a)) (b : β) :
    Needs (xs.flatMap asks) (xs.foldlM f b) := by
  induction xs generalizing b with
  | nil => exact ok b
  | cons a xs ih =>
    obtain ⟨ha, hxs⟩ := List.forall_mem_cons.1 h
    rw [List.flatMap_cons, List.foldlM_cons]
    exact (ha b).bind fun b' _ => ih hxs b'

/-- **A step that tells of its errors in other words** asks for the same. -/
theorem mapError {ε' : Type} {f : ε → ε'} (h : Needs rs x) :
    Needs (rs.map (Requirement.map f)) (x.mapError f) := by
  cases x with
  | ok a => exact Enforces.mapError (x := .ok ()) h
  | error e => exact Enforces.mapError (x := .error e) h

end Needs

end SemanticLayer
