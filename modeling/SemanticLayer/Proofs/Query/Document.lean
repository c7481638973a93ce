import SemanticLayer.Proofs.Calendar.DateText
import SemanticLayer.Proofs.Json.Documents
import SemanticLayer.Query.Document

/-
# Query documents and queries

`MetricQuery.toJson` and `MetricQuery.decoder` agree on every value of every
field: texts, lists of texts, filters (which are kept ascending, so that reading
them one by one builds the same list), grains and dates.
-/

namespace SemanticLayer

open Json Json.Decoder

/-! ### Fields -/

namespace Filters

/-- A key behind all others is added at the end. -/
theorem setEntry_append {key : String} {change : Option (List String) → List String}
    {entries : List (String × List String)} (h : ∀ e ∈ entries, e.1 < key) :
    setEntry key change entries = entries ++ [(key, change none)] := by
  induction entries with
  | nil => rfl
  | cons e entries ih =>
    obtain ⟨k, values⟩ := e
    have hk : k < key := h (k, values) List.mem_cons_self
    have hnot : ¬ key < k := fun hlt => Std.lt_irrefl (String.lt_trans hk hlt)
    have hne : key ≠ k := fun heq => Std.lt_irrefl (heq ▸ hk)
    rw [setEntry, if_neg hnot, if_neg hne, ih fun e he => h e (List.mem_cons_of_mem _ he)]
    rfl

/-- **Filters are built again from their entries,** one by one, if each key that is new gets its
values. -/
theorem foldl_update (change : List String → Option (List String) → List String)
    (hchange : ∀ values, change values none = values) (done rest : List (String × List String))
    (h : (done ++ rest).Pairwise (·.1 < ·.1)) (hd : done.Pairwise (·.1 < ·.1)) :
    rest.foldl (fun f e => f.update e.1 (change e.2)) (⟨done, hd⟩ : Filters) =
      ⟨done ++ rest, h⟩ := by
  induction rest generalizing done with
  | nil => exact ext (List.append_nil done).symm
  | cons e rest ih =>
    have hlast : ∀ f ∈ done, f.1 < e.1 :=
      fun f hf => (List.pairwise_append.1 h).2.2 f hf e List.mem_cons_self
    have hd' : (done ++ [e]).Pairwise (·.1 < ·.1) := h.sublist (by simp)
    have hupdate : update ⟨done, hd⟩ e.1 (change e.2) = ⟨done ++ [e], hd'⟩ :=
      ext ((setEntry_append hlast).trans (by rw [hchange]))
    rw [List.foldl_cons, hupdate, ih (done ++ [e]) (by simpa using h)]
    exact ext (by simp)

end Filters

/-- **Filters are read from the document they are written as.** -/
theorem Filters.decoder_toJson (origin : Origin) (f : Filters) :
    Filters.decoder.ofJson origin f.toJson = .ok f := by
  have hstep : ∀ e ∈ f.entries, ∀ g : Filters,
      (do return g.set e.1 (← (oneOrMany "FilterValuesHelper").ofJson origin (.strings e.2))) =
        (.ok (g.set e.1 e.2) : Except Flaw Filters) := fun e _ g => by
    rw [oneOrMany_ofJson]
    rfl
  refine List.foldlM_map.trans ((foldlM_eq_ok hstep .empty).trans (congrArg _ ?_))
  exact Filters.foldl_update (fun values _ => values) (fun _ => rfl) [] f.entries f.ascending
    .nil

theorem Grain.decoder_name (origin : Origin) (g : Grain) :
    Grain.decoder.ofJson origin (.string g.name) = .ok g := by
  cases g <;> rfl

theorem Date.decoder_iso (origin : Origin) (d : Date) :
    Date.decoder.ofJson origin (.string d.iso) = .ok d := by
  simp only [Date.decoder, spelled, d.ofDocument_iso]

/-! ### Queries -/

/-- **A query is read from the document it is written as.** -/
theorem MetricQuery.decoder_toJson (origin : Origin) (q : MetricQuery) :
    MetricQuery.decoder.ofJson origin q.toJson = .ok q := by
  refine bind_eq_ok.2 ⟨⟨q, ["end_date", "start_date", "granularity", "filters", "dimensions",
    "metric_name"]⟩, ?_, by rfl⟩
  refine foldlM_entryOfJson (by rfl) (by rfl) (map_ofJson _ (text_ofJson origin q.metric)) ?_
  refine foldlM_entryOfJson (by rfl) (by rfl) (map_ofJson _ (list_text_ofJson origin _)) ?_
  refine foldlM_entryOfJson (by rfl) (by rfl) (map_ofJson _ (q.filters.decoder_toJson origin)) ?_
  refine foldlM_entryOfJson (by rfl) (by rfl) (map_ofJson _ (q.grain.decoder_name origin)) ?_
  refine foldlM_entryOfJson (by rfl) (by rfl) (map_ofJson _ (q.start.decoder_iso origin)) ?_
  refine foldlM_entryOfJson (by rfl) (by rfl) (map_ofJson _ (q.stop.decoder_iso origin)) ?_
  rfl

end SemanticLayer
