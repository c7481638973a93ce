import SemanticLayer.Proofs.Query.Acceptance

/-
# Ranges that have rows and statements

The rows of a spine are enumerated by stepping from day to day, while a range is
accepted by comparing dates.  The two agree except at the ends of the calendar:
the week of its first four days starts before it, and its last day has no day
behind it.
-/

namespace SemanticLayer

namespace Compiler

/-- **A valid query over a range without rows has no statement.** -/
theorem compile_eq_broken {k : Compiler} (v : ValidQuery k.catalog k.spine)
    (h : k.spine.between v.query.start v.query.stop = .error (.broken .offCalendar)) :
    k.compile v = .error (.broken .offCalendar) := by
  obtain ⟨m, ds, hm, hds, -, -⟩ := exists_lookups v
  have hdays : k.daysOf v.query.start v.query.stop = .error (.broken .offCalendar) := by
    rw [daysOf, h]
  have hstatement : k.statement v.query = .error (.broken .offCalendar) := by
    rw [statement, hm, mapM_eq_ok.2 hds, hdays]
    rfl
  rw [compile, hstatement]
  rfl

end Compiler

namespace Spine

/-- **What a horizon promises.**  An ordered horizon that starts before the first Monday of the
calendar has no spine.  Any other has one, with a row for each of its days, save the last day of
the calendar.  Of every ordered range within it:

* a range that ends before the last day of the calendar has a row for each of its days, and every
  valid query over it has a statement;
* a range that ends on that day breaks off, and so does the statement of every valid query. -/
theorem rows_within_horizon {start stop : Date} (h : start ≤ stop) :
    (start < Date.firstMonday → ofHorizon start stop = .error (.broken .offCalendar)) ∧
    (Date.firstMonday ≤ start → ∃ s,
      ofHorizon start stop = .ok s ∧ s.start = start ∧ s.stop = stop ∧
      (s.length : Int) = stop.number - start.number + (if stop < Date.last then 1 else 0) ∧
      ∀ a b : Date, a ≤ b → s.contains a = true → s.contains b = true →
        (b < Date.last →
          (∃ rows, s.between a b = .ok rows ∧ (rows.length : Int) = b.number - a.number + 1) ∧
          ∀ (k : Compiler) (v : ValidQuery k.catalog k.spine), k.spine = s → v.query.start = a →
            v.query.stop = b → ∃ sql, k.compile v = .ok sql) ∧
        (¬ b < Date.last →
          s.between a b = .error (.broken .offCalendar) ∧
          ∀ (k : Compiler) (v : ValidQuery k.catalog k.spine), k.spine = s → v.query.start = a →
            v.query.stop = b → k.compile v = .error (.broken .offCalendar))) := by
  refine ⟨ofHorizon_eq_broken h, fun hmonday => ?_⟩
  obtain ⟨s, hs⟩ := exists_ofHorizon h hmonday
  obtain ⟨hstart, hstop, hlength⟩ := length_ofHorizon hs
  refine ⟨s, hs, hstart, hstop, ?_, fun a b hab ha hb => ?_⟩
  · have hordered : start.number ≤ stop.number := h
    have hend : stop.number ≤ Date.last.number := stop.inCalendar.2
    have hlt : stop < Date.last ↔ stop.number < Date.last.number := Iff.rfl
    rw [hlength, rowCount]
    split <;> rename_i hlast <;> rw [hlt] at hlast <;> omega
  · have hrange : s.checkRange a b = .ok () := checkRange_eq_ok.2 ⟨hab, ha, hb⟩
    constructor
    · intro hlast
      refine ⟨exists_between hs hrange hlast, ?_⟩
      rintro k v rfl rfl rfl
      obtain ⟨m, ds, rows, hparts, -, -⟩ := Compiler.exists_parts_of_lt hs v hlast
      exact ⟨_,
        Compiler.compile_eq_ok.2 ⟨_, Compiler.statement_eq_ok.2 ⟨m, ds, rows, hparts, rfl⟩, rfl⟩⟩
    · intro hlast
      refine ⟨between_eq_broken hs hrange hlast, ?_⟩
      rintro k v rfl rfl rfl
      exact Compiler.compile_eq_broken v (between_eq_broken hs hrange hlast)

/-- The visits of one day have a statement.  The last day of the calendar has no row, and the first
day no spine. -/
theorem rows_within_horizon_visits :
    (∃ sql, (Compiler.inlined Visits.catalog Visits.spine).compile (Visits.valid "Lyon") =
      .ok sql) ∧
    (∃ s, ofHorizon Date.last Date.last = .ok s ∧ s.length = 0 ∧ s.contains Date.last = true ∧
      s.between Date.last Date.last = .error (.broken .offCalendar)) ∧
    ofHorizon Date.first Date.first = .error (.broken .offCalendar) := by
  refine ⟨?_, ?_, (rows_within_horizon (Int.le_refl _)).1 (by decide)⟩
  · obtain ⟨s, hs, -, -, -, hranges⟩ := (rows_within_horizon (Int.le_refl Visits.newYear.number)).2
      (by decide)
    obtain rfl : Visits.spine = s := Except.ok.inj (Visits.ofHorizon_newYear.symm.trans hs)
    exact ((hranges Visits.newYear Visits.newYear (Int.le_refl _) (by decide) (by decide)).1
      (by decide)).2 (Compiler.inlined Visits.catalog Visits.spine)
        (Visits.valid "Lyon") rfl rfl rfl
  · obtain ⟨s, hs, hstart, hstop, hlength, hranges⟩ :=
      (rows_within_horizon (Int.le_refl Date.last.number)).2 (by decide)
    have hcontains : s.contains Date.last = true := by
      rw [contains_iff, hstart, hstop]
      exact ⟨Int.le_refl _, Int.le_refl _⟩
    have hbroken := (hranges Date.last Date.last (Int.le_refl _) hcontains hcontains).2
      (Int.lt_irrefl _)
    refine ⟨s, hs, ?_, hcontains, hbroken.1⟩
    rw [if_neg (show ¬ Date.last < Date.last from Int.lt_irrefl _)] at hlength
    omega

end Spine

end SemanticLayer
