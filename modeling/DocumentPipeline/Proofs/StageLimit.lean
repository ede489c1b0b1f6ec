import DocumentPipeline.Proofs.CompiledRequests
import DocumentPipeline.Proofs.WellFormed

/-!
# The limit on stages

A client refuses a pipeline with more stages than its settings allow. It counts the stages of the
pipeline itself and not those of the pipelines that are nested in it through unions, which are sent
as they are:

* `Wire.withUnited`: a pipeline on the wire and every pipeline nested in it through unions;
* `StageBody.literalUnions`: the pipelines that a caller gives in wire form to a union of its own;
* `Pipeline.KeepsTo`: what a limit asks of a pipeline and of all that is nested in it;
* `encodePipeline_keepsTo`: a pipeline on the wire keeps to a limit just when the pipeline does that
  it was encoded from;
* `compile_keepsTo_iff`: the limit of a client holds for all that is sent just when it holds for all
  that is nested in the pipeline.
-/

namespace DocumentPipeline

namespace Wire

mutual

/-- The pipelines in a value that is one: itself and those nested in it through unions. -/
def Value.united : Value → List (List Stage)
  | .pipeline stages => stages :: unitedIn stages
  | _ => []

def unitedUnder : List Value → List (List Stage)
  | [] => []
  | v :: rest => v.united ++ unitedUnder rest

/-- The pipelines that a stage on the wire brings in, at any depth. Only a union does. -/
def Stage.united : Stage → List (List Stage)
  | ⟨name, arguments, _⟩ => if name = "union" then unitedUnder arguments else []

def unitedIn : List Stage → List (List Stage)
  | [] => []
  | s :: rest => s.united ++ unitedIn rest

end

/-- A pipeline on the wire and every pipeline nested in it through unions, at any depth. -/
def withUnited (stages : List Stage) : List (List Stage) := stages :: unitedIn stages

theorem unitedUnder_eq (values : List Value) : unitedUnder values = values.flatMap (·.united) := by
  induction values with
  | nil => rfl
  | cons v rest ih => rw [unitedUnder, ih, List.flatMap_cons]

theorem unitedIn_eq (stages : List Stage) : unitedIn stages = stages.flatMap (·.united) := by
  induction stages with
  | nil => rfl
  | cons s rest ih => rw [unitedIn, ih, List.flatMap_cons]

end Wire

/-- The pipelines of a parameter in wire form. -/
def Parameter.united : Parameter → List (List Wire.Stage)
  | .expression (.constant (.wire v)) => v.united
  | _ => []

/-- The pipelines in wire form that a stage of the caller's own, named like a union, is given. -/
def StageBody.literalUnions : StageBody → List (List Wire.Stage)
  | .custom name parameters => if name = "union" then parameters.flatMap (·.united) else []
  | _ => []

section
variable {skipUndefined : Bool}

open Encoding
open Wire (Value)

/-- No expression is encoded as a pipeline, unless it is one in wire form. -/
theorem encodeExpression_united {e : Expression} {v : Value}
    (h : encodeExpression skipUndefined e = .ok v) :
    v.united = Parameter.united (.expression e) := by
  cases e with
  | constant c =>
    cases c with
    | wire w =>
      cases h
      rfl
    | array items | map entries =>
      obtain ⟨_, -, h⟩ := bind_eq_ok.1 h
      cases h
      rfl
    | undefined =>
      cases skipUndefined <;> cases h
      rfl
    | transform t => cases h
    | _ =>
      cases h
      rfl
  | field f =>
    cases h
    rfl
  | call name arguments | list items | map entries =>
    obtain ⟨_, -, h⟩ := bind_eq_ok.1 h
    cases h
    rfl

theorem encodeParameter_united {parameter : Parameter} {v : Value}
    (h : encodeParameter skipUndefined parameter = .ok v) : v.united = parameter.united := by
  cases parameter with
  | expression e => exact encodeExpression_united h
  | aggregate a =>
    obtain ⟨_, -, h⟩ := bind_eq_ok.1 h
    cases h
    rfl

/-- The pipelines that a stage on the wire brings in: those of the pipeline that it unites, or those
that it was given in wire form. -/
theorem encodeStage_united {s : Stage} {w : Wire.Stage} (h : encodeStage skipUndefined s = .ok w) :
    (∃ other stages, s.body = .union other ∧ encodePipeline skipUndefined other = .ok stages ∧
      w.united = Wire.withUnited stages) ∨
    (∀ other, s.body ≠ .union other) ∧ w.united = s.body.literalUnions := by
  obtain ⟨arguments, options, harguments, -, rfl⟩ := encodeStage_eq_ok h
  obtain ⟨body, raw⟩ := s
  cases body with
  | union other =>
    obtain ⟨stages, hstages, h⟩ := bind_eq_ok.1 harguments
    cases h
    exact .inl ⟨other, stages, rfl, hstages, List.append_nil _⟩
  | custom name parameters =>
    refine .inr ⟨nofun, ?_⟩
    have each := mapM_eq_ok.1 (mapError_eq_ok.1 harguments)
    have same : arguments.flatMap (·.united) = parameters.flatMap (·.united) := by
      clear harguments h
      induction each with
      | nil => rfl
      | cons encoded _ ih =>
        rw [List.flatMap_cons, List.flatMap_cons, encodeParameter_united encoded, ih]
    simp only [Wire.Stage.united, Wire.unitedUnder_eq, same]
    rfl
  | mutation kind target =>
    refine .inr ⟨nofun, ?_⟩
    cases kind <;> rfl
  | _ => exact .inr ⟨nofun, rfl⟩

end

/-! ## Keeping to a limit -/

/-- Neither the pipeline nor any other that is nested in it is longer than a limit, and neither is
any that it holds in wire form. -/
def Pipeline.KeepsTo (limit : Nat) (p : Pipeline) : Prop :=
  (∀ q ∈ p.withNested, q.stages.length ≤ limit) ∧
    ∀ s ∈ p.stagesWithin, ∀ stages ∈ s.body.literalUnions, stages.length ≤ limit

/-- A pipeline keeps to a limit when its own stages do, and what they unite. -/
theorem Pipeline.keepsTo_iff {limit : Nat} {p : Pipeline} :
    p.KeepsTo limit ↔
      p.stages.length ≤ limit ∧ ∀ s ∈ p.stages,
        (∀ stages ∈ s.body.literalUnions, stages.length ≤ limit) ∧
          ∀ other, s.body = .union other → other.KeepsTo limit := by
  have nested : (∀ q ∈ p.withNested, q.stages.length ≤ limit) ↔
      p.stages.length ≤ limit ∧ ∀ s ∈ p.stages, ∀ other, s.body = .union other →
        ∀ q ∈ other.withNested, q.stages.length ≤ limit := by
    rw [withNested_eq, List.forall_mem_cons, List.forall_mem_flatMap]
    simp only [Stage.mem_nested]
    constructor
    · rintro ⟨own, inner⟩
      exact ⟨own, fun s hs other union q hq => inner s hs q ⟨other, union, hq⟩⟩
    · rintro ⟨own, inner⟩
      exact ⟨own, fun s hs q ⟨other, union, hq⟩ => inner s hs other union q hq⟩
  unfold KeepsTo
  rw [nested]
  constructor
  · rintro ⟨⟨own, inner⟩, literal⟩
    refine ⟨own, fun s hs => ⟨literal s (mem_stagesWithin.2 (.inl hs)), ?_⟩⟩
    intro other union
    refine ⟨inner s hs other union, fun t ht => literal t ?_⟩
    exact mem_stagesWithin.2 (.inr ⟨s, hs, other, union, ht⟩)
  · rintro ⟨own, each⟩
    refine ⟨⟨own, fun s hs other union => ((each s hs).2 other union).1⟩, ?_⟩
    intro t ht
    obtain ht | ⟨s, hs, other, union, ht⟩ := mem_stagesWithin.1 ht
    · exact (each t ht).1
    · exact ((each s hs).2 other union).2 t ht

section
variable {skipUndefined : Bool}

open Encoding

/-- A pipeline is sent with all its stages. -/
theorem encodePipeline_length {p : Pipeline} {stages : List Wire.Stage}
    (h : encodePipeline skipUndefined p = .ok stages) : stages.length = p.stages.length := by
  rw [encodePipeline_eq_mapM] at h
  exact (mapM_eq_ok.1 h).length_eq.symm

/-- **A pipeline on the wire keeps to a limit** just when the pipeline that it was encoded from
does: every nested pipeline is sent with all its stages. -/
theorem encodePipeline_keepsTo {limit : Nat} {p : Pipeline} {stages : List Wire.Stage}
    (h : encodePipeline skipUndefined p = .ok stages) :
    (∀ sent ∈ Wire.withUnited stages, sent.length ≤ limit) ↔ p.KeepsTo limit := by
  induction p using Pipeline.inductNested generalizing stages with
  | step p ih =>
    have length : stages.length = p.stages.length := encodePipeline_length h
    rw [encodePipeline_eq_mapM] at h
    have stage {s : Stage} (hs : s ∈ p.stages) {w : Wire.Stage}
        (hw : encodeStage skipUndefined s = .ok w) :
        (∀ sent ∈ w.united, sent.length ≤ limit) ↔
          (∀ sent ∈ s.body.literalUnions, sent.length ≤ limit) ∧
            ∀ other, s.body = .union other → other.KeepsTo limit := by
      obtain ⟨other, inner, union, hinner, same⟩ | ⟨plain, same⟩ := encodeStage_united hw
      · rw [same, ih s hs other union hinner, union]
        simp [StageBody.literalUnions]
      · rw [same]
        exact ⟨fun literal => ⟨literal, fun other union => absurd union (plain other)⟩, And.left⟩
    rw [Wire.withUnited, List.forall_mem_cons, Wire.unitedIn_eq, List.forall_mem_flatMap, length,
      Pipeline.keepsTo_iff]
    refine and_congr_right fun _ => ?_
    constructor
    · intro each s hs
      obtain ⟨w, hw⟩ := mapM_succeeds.1 ⟨stages, h⟩ s hs
      exact (stage hs hw).1 (each w ((mem_mapM h).2 ⟨s, hs, hw⟩))
    · intro each w hw
      obtain ⟨s, hs, hsw⟩ := (mem_mapM h).1 hw
      exact (stage hs hsw).2 (each s hs)

end

namespace Client

/-- **The limit on stages holds for what is sent** just when it holds for all that is nested in the
pipeline. Only the length of the pipeline itself is looked at when it is compiled, and that is the
number of its stages in every pipeline that calls lead to. -/
theorem compile_keepsTo_iff {c : Client} {p : Pipeline} {o : ExecuteOptions} {request : Request}
    (compiled : c.compile p o = .ok request) :
    (Reachable p → request.pipeline.stages.length ≤ c.settings.maxStages) ∧
      ((∀ sent ∈ Wire.withUnited request.pipeline.stages, sent.length ≤ c.settings.maxStages) ↔
        p.KeepsTo c.settings.maxStages) := by
  obtain ⟨-, short, stages, merged, hstages, -, rfl⟩ := compile_eq_ok.1 compiled
  obtain ⟨⟨⟩, -, encoded⟩ := bind_eq_ok.1 hstages
  refine ⟨fun reachable => ?_, encodePipeline_keepsTo encoded⟩
  have length : stages.length = p.stages.length := encodePipeline_length encoded
  have counted : p.length = p.stages.length := reachable.length_eq
  change stages.length ≤ c.settings.maxStages
  omega

/-- A client that allows for a number of stages. -/
def limitedTo (stages : Nat) : Client :=
  ⟨{ Settings.ofProject "library" with maxStages := stages }, false⟩

/-- One page of all documents. -/
def page : Pipeline := ((Pipeline.ofDatabase (.ofProject "library") []).offset 1 []).limit 1 []

/-- All documents, and after them a page of them: two stages, one of which nests three. -/
def unitedPage : Pipeline := (Pipeline.ofDatabase (.ofProject "library") []).append (.union page) []

theorem unitedPage_reachable : Reachable unitedPage := by
  have all : Reachable (.ofDatabase (.ofProject "library") []) :=
    @Reachable.source (.ofProject "library") (.database []) _ nofun rfl
  have later := @Reachable.stage _ _ (.offset 1 []) all ⟨nofun, nofun⟩ nofun rfl
  have inner : Reachable page := @Reachable.stage _ _ (.limit 1 []) later ⟨nofun, nofun⟩ nofun rfl
  refine @Reachable.stage _ _ (.union page []) all ⟨nofun, nofun⟩ ?_ rfl
  intro other raw same
  obtain ⟨rfl, -⟩ := StageCall.union.inj same
  exact inner

theorem compile_unitedPage (stages : Nat) (room : 2 ≤ stages) :
    (limitedTo stages).compile unitedPage .unset =
      .ok ⟨"projects/library/databases/(default)",
        ⟨[⟨"database", [], []⟩, ⟨"union", [.pipeline [⟨"database", [], []⟩,
          ⟨"offset", [.integer 1], []⟩, ⟨"limit", [.integer 1], []⟩]], []⟩], []⟩, none⟩ :=
  compile_eq_ok.2 ⟨rfl, room, _, _, rfl, rfl, rfl⟩

/-- A limit of three leaves room for the page that is nested in the pipeline. -/
theorem unitedPage_keepsTo_three :
    ∃ request, (limitedTo 3).compile unitedPage .unset = .ok request ∧
      ∀ sent ∈ Wire.withUnited request.pipeline.stages, sent.length ≤ 3 := by
  have compiled := compile_unitedPage 3 (by decide)
  have keeps : unitedPage.KeepsTo 3 := by
    unfold Pipeline.KeepsTo
    decide
  exact ⟨_, compiled, (compile_keepsTo_iff compiled).2.2 keeps⟩

/-- With a limit of two, the page with its three stages is sent inside the other pipeline. -/
theorem not_compile_keepsTo :
    ¬∀ (settings : Settings) (c : Client) (p : Pipeline) (o : ExecuteOptions) (request : Request),
      create settings false = .ok c → Reachable p → c.compile p o = .ok request →
        ∀ sent ∈ Wire.withUnited request.pipeline.stages,
          sent.length ≤ c.settings.maxStages := by
  intro claim
  have limited := claim (limitedTo 2).settings _ unitedPage .unset _ rfl unitedPage_reachable
    (compile_unitedPage 2 (by decide))
  have sent := limited [⟨"database", [], []⟩, ⟨"offset", [.integer 1], []⟩,
    ⟨"limit", [.integer 1], []⟩] (by simp [Wire.withUnited, Wire.unitedIn, Wire.unitedUnder,
      Wire.Stage.united, Wire.Value.united])
  have short : 3 ≤ 2 := sent
  omega

end Client
end DocumentPipeline
