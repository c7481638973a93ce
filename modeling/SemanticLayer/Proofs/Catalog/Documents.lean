import SemanticLayer.Catalog.Storage
import SemanticLayer.Proofs.Json.Documents
import SemanticLayer.Proofs.Json.Pretty
import SemanticLayer.Proofs.Query.Validity

/-
# Models survive being stored

Every record of a model is written in the order of its fields, with null for a
value that is absent, and is read back field by field.  So a file that holds a
text of a model's document gives the model, and its catalog is the one that the
model itself has (`Model.survives_storage`), however the text is laid out.
-/

namespace SemanticLayer

open Json Json.Decoder

theorem Aggregation.decoder_readsFrom (a : Aggregation) :
    Aggregation.decoder.ReadsFrom 0 (.string a.name) a :=
  .choice (by cases a <;> rfl)

theorem FactTable.decoder_readsFrom (t : FactTable) :
    FactTable.decoder.ReadsFrom 1 t.toJson t :=
  .record_inOrder (by decide) (.needed (.text t.table) <|
    .needed (.text t.dateColumn) <| .nil _)

theorem Join.decoder_readsFrom (j : Join) : Join.decoder.ReadsFrom 1 j.toJson j :=
  .record_inOrder (by decide) (.needed (.text j.table) <|
    .needed (.text j.foreignKey) <| .needed (.text j.primaryKey) <| .nil _)

theorem Metric.decoder_readsFrom (m : Metric) : Metric.decoder.ReadsFrom 2 m.toJson m := by
  have htext : ∀ s : String, text.ReadsFrom 1 (.string s) s :=
    fun s => (ReadsFrom.text s).mono (by decide)
  have haggregation : Aggregation.decoder.ReadsFrom 1 (.string m.aggregation.name) m.aggregation :=
    m.aggregation.decoder_readsFrom.mono (by decide)
  have hdenominator : (optional text).ReadsFrom 1 (.optional m.denominatorColumn)
      m.denominatorColumn := (ReadsFrom.optional_text m.denominatorColumn).mono (by decide)
  exact .record_inOrder (by decide) (.needed (htext m.name) <|
    .needed (htext m.label) <| .spare (htext m.unit) <| .spare (htext m.description) <|
    .spare haggregation <| .needed (htext m.sourceColumn) <| .spare hdenominator <|
    .spare (.texts m.allowedDimensions) <| .spare (.texts m.synonyms) <| .nil _)

theorem Dimension.decoder_readsFrom (d : Dimension) :
    Dimension.decoder.ReadsFrom 2 d.toJson d := by
  have htext : ∀ s : String, text.ReadsFrom 1 (.string s) s :=
    fun s => (ReadsFrom.text s).mono (by decide)
  have hjoin : (optional Join.decoder).ReadsFrom 1 (d.join.elim .null Join.toJson) d.join := by
    cases d.join with
    | none => exact ReadsFrom.optional_null.mono (by decide)
    | some j => exact j.decoder_readsFrom.optional_some nofun
  exact .record_inOrder (by decide) (.needed (htext d.name) <|
    .needed (htext d.label) <| .spare (htext d.description) <| .needed (htext d.sourceColumn) <|
    .spare hjoin <| .spare (.texts d.synonyms) <| .spare (.texts d.values) <| .nil _)

/-- **A model is read from every text of its document,** whatever its fields hold or leave out. -/
theorem Model.decoder_readsFrom (m : Model) : Model.decoder.ReadsFrom 4 m.toJson m := by
  have htext : ∀ s : String, text.ReadsFrom 3 (.string s) s :=
    fun s => (ReadsFrom.text s).mono (by decide)
  have hfact : FactTable.decoder.ReadsFrom 3 m.fact.toJson m.fact :=
    m.fact.decoder_readsFrom.mono (by decide)
  have hmetrics : (Decoder.list Metric.decoder).ReadsFrom 3 (.list (m.metrics.map Metric.toJson))
      m.metrics := .list fun x _ => x.decoder_readsFrom
  have hdimensions : (Decoder.list Dimension.decoder).ReadsFrom 3
      (.list (m.dimensions.map Dimension.toJson)) m.dimensions :=
    .list fun d _ => d.decoder_readsFrom
  exact .record_inOrder (by decide) (.needed (htext m.name) <| .spare (htext m.label) <|
    .spare (htext m.description) <| .needed hfact <| .needed hmetrics <| .needed hdimensions <|
    .nil _)

/-- A loaded model has the catalog that it has anyway. -/
theorem Catalog.ofLoaded_ok (m : Model) :
    Catalog.ofLoaded (.ok m) = (Catalog.ofModel m).mapError .catalog := by
  have hloaded : (.ok m : Except LoadError Model) = pure m := rfl
  rw [hloaded, ofLoaded, pure_bind]
  cases Catalog.ofModel m with
  | ok c => rfl
  | error e => rfl

/-- **Models survive being stored.**  A model is written without blanks or line by line; both are
texts of its document, and from every text of it the model is read back.  A file that holds one
gives the model, and then the catalog that the model has, or the error that tells why it has
none. -/
theorem Model.survives_storage (m : Model) (path : String) :
    m.toJson.IsText m.write ∧ m.toJson.IsText m.toJson.writePretty ∧
      ∀ text, m.toJson.IsText text →
        Model.read text = .ok m ∧ Model.ofFile path (some text) = .ok m ∧
          Catalog.ofLoaded (Model.ofFile path (some text)) =
            (Catalog.ofModel m).mapError .catalog := by
  have hplain := m.decoder_readsFrom.plain
  refine ⟨hplain.laid.isText, (hplain.laid_pretty 0).isText, fun text htext => ?_⟩
  have hread : Model.read text = .ok m := m.decoder_readsFrom.read_text (by decide) htext
  have hfile : Model.ofFile path (some text) = .ok m := by
    rw [ofFile, ofDocument, hread]
  exact ⟨hread, hfile, by rw [hfile, Catalog.ofLoaded_ok]⟩

/-- A model of visits that no catalog takes. -/
def Visits.unnamed : Model :=
  { Visits.catalog.model with metrics := [{ Visits.metric with name := "a \"visit\"" }] }

/-- The model of visits, stored in either way, and a model without a catalog. -/
theorem Model.survives_storage_visits :
    Model.read Visits.catalog.model.write = .ok Visits.catalog.model ∧
      Catalog.ofLoaded (Model.ofFile "model.json"
        (some Visits.catalog.model.toJson.writePretty)) = .ok Visits.catalog ∧
      Catalog.ofLoaded (Model.ofFile "model.json" (some Visits.unnamed.write)) =
        .error (.catalog (.invalidIdentifier "metric name" "a \"visit\"")) := by
  obtain ⟨hwrite, hpretty, hvisits⟩ := survives_storage Visits.catalog.model "model.json"
  obtain ⟨hunnamed, -, herror⟩ := survives_storage Visits.unnamed "model.json"
  have hrefused : Catalog.ofModel Visits.unnamed =
      .error (.invalidIdentifier "metric name" "a \"visit\"") := by rfl
  refine ⟨(hvisits _ hwrite).1, (hvisits _ hpretty).2.2, (herror _ hunnamed).2.2.trans ?_⟩
  rw [hrefused]
  rfl

end SemanticLayer
