import DocumentPipeline.Encoding.Pipeline
import DocumentPipeline.Proofs.Traversal

/-!
# Pipelines nested in pipelines

A union holds another pipeline, which may hold unions of its own:

* `Pipeline.stages_append`: a stage that is added comes after the others;
* `Pipeline.withNested`: a pipeline and every pipeline nested in it, at any depth;
* `Pipeline.stagesWithin`: the stages of all of them;
* `Pipeline.inductNested`: what holds of a pipeline whenever it holds of those its own stages unite
  it with holds of every pipeline;
* `checkPipeline_eq_forM`, `encodePipeline_eq_mapM`: stages are checked and encoded one after the
  other, up to the first that fails.
-/

namespace DocumentPipeline

theorem Pipeline.stages_append (p : Pipeline) (body : StageBody) (raw : RawOptions) :
    (p.append body raw).stages = p.stages ++ [⟨body, raw⟩] := rfl

theorem Pipeline.last_append (p : Pipeline) (body : StageBody) (raw : RawOptions) :
    (p.append body raw).last = ⟨body, raw⟩ := by
  simp [last, append]

mutual

/-- The pipelines inside what a stage does, at any depth. -/
def StageBody.nested : StageBody → List Pipeline
  | .union other => other.withNested
  | _ => []

def Stage.nested : Stage → List Pipeline
  | ⟨body, _⟩ => body.nested

def nestedIn : List Stage → List Pipeline
  | [] => []
  | s :: rest => s.nested ++ nestedIn rest

/-- A pipeline and the pipelines nested in it through unions, at any depth. -/
def Pipeline.withNested : Pipeline → List Pipeline
  | ⟨database, source, later, count⟩ =>
    ⟨database, source, later, count⟩ :: (source.nested ++ nestedIn later)

end

/-- The stages of a pipeline and of those nested in it. -/
def Pipeline.stagesWithin (p : Pipeline) : List Stage := p.withNested.flatMap (·.stages)

theorem nestedIn_eq (stages : List Stage) : nestedIn stages = stages.flatMap (·.nested) := by
  induction stages with
  | nil => rfl
  | cons s rest ih => rw [nestedIn, ih, List.flatMap_cons]

theorem Pipeline.withNested_eq (p : Pipeline) :
    p.withNested = p :: p.stages.flatMap (·.nested) := by
  obtain ⟨database, source, later, count⟩ := p
  rw [withNested, nestedIn_eq, stages, List.flatMap_cons]

theorem Stage.mem_nested {s : Stage} {q : Pipeline} :
    q ∈ s.nested ↔ ∃ other, s.body = .union other ∧ q ∈ other.withNested := by
  obtain ⟨body, raw⟩ := s
  cases body <;> simp [Stage.nested, StageBody.nested]

/-- The stages within a pipeline are its own and those within the pipelines it is united with. -/
theorem Pipeline.mem_stagesWithin {p : Pipeline} {s : Stage} :
    s ∈ p.stagesWithin ↔ s ∈ p.stages ∨
      ∃ t ∈ p.stages, ∃ other, t.body = .union other ∧ s ∈ other.stagesWithin := by
  simp only [stagesWithin, List.mem_flatMap]
  rw [withNested_eq]
  simp only [List.mem_cons, List.mem_flatMap, Stage.mem_nested]
  constructor
  · rintro ⟨q, rfl | ⟨t, ht, other, hb, hq⟩, hs⟩
    · exact .inl hs
    · exact .inr ⟨t, ht, other, hb, q, hq, hs⟩
  · rintro (hs | ⟨t, ht, other, hb, q, hq, hs⟩)
    · exact ⟨p, .inl rfl, hs⟩
    · exact ⟨q, .inr ⟨t, ht, other, hb, hq⟩, hs⟩

/-- `P` holds of a pipeline whenever it holds of those that its stages unite it with. -/
def Hereditary (P : Pipeline → Prop) : Prop :=
  ∀ p : Pipeline, (∀ s ∈ p.stages, ∀ other, s.body = .union other → P other) → P p

section
variable {P : Pipeline → Prop}

mutual

theorem StageBody.holds_of_hereditary (step : Hereditary P) :
    ∀ body other, body = StageBody.union other → P other
  | .union other, _, rfl => Pipeline.holds_of_hereditary step other

theorem Stage.holds_of_hereditary (step : Hereditary P) :
    ∀ (s : Stage) other, s.body = .union other → P other
  | ⟨body, _⟩, other, h => StageBody.holds_of_hereditary step body other h

theorem stages_hold_of_hereditary (step : Hereditary P) :
    ∀ stages : List Stage, ∀ s ∈ stages, ∀ other, s.body = .union other → P other
  | [] => by simp
  | s :: rest =>
    List.forall_mem_cons.2
      ⟨Stage.holds_of_hereditary step s, stages_hold_of_hereditary step rest⟩

theorem Pipeline.holds_of_hereditary (step : Hereditary P) : ∀ p, P p
  | ⟨database, source, later, count⟩ =>
    step ⟨database, source, later, count⟩ <| List.forall_mem_cons.2
      ⟨Stage.holds_of_hereditary step source, stages_hold_of_hereditary step later⟩

end

/-- **Induction over nested pipelines.** -/
theorem Pipeline.inductNested
    (step : ∀ p : Pipeline, (∀ s ∈ p.stages, ∀ other, s.body = .union other → P other) → P p) :
    ∀ p, P p :=
  Pipeline.holds_of_hereditary step

end

namespace Validation
variable (skipUndefined : Bool)

theorem checkStages_eq_forM (stages : List Stage) :
    checkStages skipUndefined stages = stages.forM (checkStage skipUndefined) := by
  induction stages with
  | nil => rfl
  | cons s rest ih => simp only [checkStages, ih]; rfl

theorem checkPipeline_eq_forM (p : Pipeline) :
    checkPipeline skipUndefined p = p.stages.forM (checkStage skipUndefined) := by
  obtain ⟨database, source, later, count⟩ := p
  simp only [checkPipeline, checkStages_eq_forM]
  rfl

end Validation

namespace Encoding
variable (skipUndefined : Bool)

theorem encodeStages_eq_mapM (stages : List Stage) :
    encodeStages skipUndefined stages = stages.mapM (encodeStage skipUndefined) := by
  induction stages with
  | nil => rfl
  | cons s rest ih => simp only [encodeStages, ih, List.mapM_cons]

theorem encodePipeline_eq_mapM (p : Pipeline) :
    encodePipeline skipUndefined p = p.stages.mapM (encodeStage skipUndefined) := by
  obtain ⟨database, source, later, count⟩ := p
  simp only [encodePipeline, encodeStages_eq_mapM, Pipeline.stages, List.mapM_cons]

end Encoding
end DocumentPipeline
