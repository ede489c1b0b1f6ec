import DocumentPipeline.Proofs.WireRoundTrip
import DocumentPipeline.Protocol.Request
import DocumentPipeline.Protocol.Response

/-!
# Reading a request or a response undoes writing it

* `RoundTrips`: what writing and reading make of each other;
* `get?_insertAll_optional`, `optional?_toLiteral`: members that are left out when absent come back
  as absent;
* `structured_recovered`, `document_recovered`, `request_recovered`, `response_recovered`: each
  message comes back from what was written;
* `wire_format_roundTrips`: values, stages, pipelines and all messages round trip.
-/

namespace DocumentPipeline

open Json (Literal)

section
variable {α : Type}

/-- All numbers in a tree are ones that trees can hold. -/
def Json.NumbersFit (j : Json) : Prop := j.toLiteral.NumbersFit

/-- What is written can be read back just when all its doubles are finite, and cannot be read at all
otherwise. What was read once comes back from its own writing, so that reading and writing a second
time changes nothing. -/
structure RoundTrips (write : α → Json) (read : Literal → Option α) (Sorted : α → Prop)
    (doubles : α → List Double) : Prop where
  recovers : ∀ x, Sorted x →
    (read (write x).toLiteral = some x ↔ ∀ d ∈ doubles x, d.isFinite = true)
  refuses : ∀ x, Sorted x → (∃ d ∈ doubles x, d.isFinite = false) →
    read (write x).toLiteral = none
  stable : ∀ j : Json, j.NumbersFit → ∀ x, read j.toLiteral = some x →
    read (write x).toLiteral = some x
  idempotent : ∀ j : Json, j.NumbersFit → ∀ again, (read j.toLiteral).map write = some again →
    (read again.toLiteral).map write = some again

/-- What makes a round trip: what was written comes back, and what is read is sorted and finite. -/
theorem RoundTrips.of_recovered {write : α → Json} {read : Literal → Option α} {Sorted : α → Prop}
    {doubles : α → List Double}
    (recovered : ∀ x, Sorted x → Recovered (read (write x).toLiteral) x (doubles x))
    (regular : ∀ l : Literal, l.NumbersFit → ∀ x, read l = some x →
      Sorted x ∧ ∀ d ∈ doubles x, d.isFinite = true) :
    RoundTrips write read Sorted doubles := by
  have stable : ∀ j : Json, j.NumbersFit → ∀ x, read j.toLiteral = some x →
      read (write x).toLiteral = some x := by
    intro j fit x hx
    obtain ⟨sorted, finite⟩ := regular j.toLiteral fit x hx
    exact (recovered x sorted).some_iff.2 finite
  refine ⟨fun x sorted => (recovered x sorted).some_iff,
    fun x sorted => (recovered x sorted).none, stable, ?_⟩
  intro j fit again h
  obtain ⟨x, hx, rfl⟩ := Option.map_eq_some_iff.1 h
  rw [stable j fit x hx, Option.map_some]

/-- An optional member stands under its name if it is there. -/
theorem get?_insertAll_optional (name key : String) (o : Option Json) (m : FieldMap Json) :
    (FieldMap.insertAll (Json.optional name o) m).get? key =
      if name = key then o.or (m.get? key) else m.get? key := by
  cases o with
  | none => simp [Json.optional, FieldMap.insertAll]
  | some j => simp [Json.optional, FieldMap.insertAll, FieldMap.get?_insert]

theorem nullable_eq_some {read : Literal → Option α} (null : read .null = none) {l : Literal}
    {x : α} (h : read l = some x) : Literal.nullable read l = some (some x) := by
  cases l with
  | null =>
    rw [null] at h
    cases h
  | _ => simp [Literal.nullable, h]

/-- An optional part is read back from what was written. -/
theorem optional?_toLiteral {write : α → Json} {read : Literal → Option α}
    (null : read .null = none) (back : ∀ x, read (write x).toLiteral = some x) (o : Option α) :
    optional? read ((o.map write).map Json.toLiteral) = some o := by
  cases o with
  | none => rfl
  | some x => exact nullable_eq_some null (back x)

end

namespace Wire

/-- All maps in a pipeline and in its options are sorted by key. -/
def StructuredPipeline.Sorted (p : StructuredPipeline) : Prop :=
  (∀ s ∈ p.stages, s.Sorted) ∧ FieldMap.Sorted p.options ∧ ∀ option ∈ p.options, option.2.Sorted

def StructuredPipeline.doubles (p : StructuredPipeline) : List Double :=
  p.stages.flatMap (·.doubles) ++ p.options.flatMap (·.2.doubles)

theorem structured_recovered {p : StructuredPipeline} (sorted : p.Sorted) :
    Recovered (StructuredPipeline.ofLiteral? p.toJson.toLiteral) p p.doubles := by
  obtain ⟨stages, options⟩ := p
  obtain ⟨inStages, keys, inOptions⟩ := sorted
  have stagesBack := pipeline_recovered inStages
  have optionsBack := fields_recovered keys fun option h => value_recovered (inOptions option h)
  cases options with
  | nil => exact stagesBack.bind (.of_some rfl)
  | cons option rest => exact stagesBack.bind optionsBack.bind_return

/-- A map that may be missing is regular when it is read from a literal whose numbers fit. -/
theorem optionalFields_regular {o : Option Literal} {m : FieldMap Value}
    (fit : ∀ l, o = some l → l.NumbersFit) (h : o.elim (some []) fields? = some m) :
    FieldsRegular m := by
  cases o with
  | none =>
    cases h
    exact ⟨List.Pairwise.nil, nofun⟩
  | some l => exact (readsRegular (fit l rfl)).fields m h

theorem FieldsRegular.finite {m : FieldMap Value} (h : FieldsRegular m) :
    ∀ d ∈ m.flatMap (·.2.doubles), d.isFinite = true :=
  List.forall_mem_flatMap.2 fun field hfield => (h.2 field hfield).2

theorem structured_regular {l : Literal} (fit : l.NumbersFit) {p : StructuredPipeline}
    (h : StructuredPipeline.ofLiteral? l = some p) :
    p.Sorted ∧ ∀ d ∈ p.doubles, d.isFinite = true := by
  obtain ⟨found, hfound, h⟩ := Option.bind_eq_some_iff.1 h
  have fits : ∀ part, some part ∈ found → part.NumbersFit :=
    fun part hpart => fit.part (Literal.mem_of_fields? hfound part hpart)
  split at h
  · next stagesPart optionsPart =>
    obtain ⟨stages, hstages, h⟩ := Option.bind_eq_some_iff.1 h
    obtain ⟨options, hoptions, h⟩ := Option.bind_eq_some_iff.1 h
    cases h
    have stagesRegular := (readsRegular (fits stagesPart (by simp))).pipeline stages hstages
    have optionsRegular := optionalFields_regular (fun l same => fits l (by simp [same])) hoptions
    refine ⟨⟨fun s hs => (stagesRegular s hs).sorted, optionsRegular.1,
      fun option hoption => (optionsRegular.2 option hoption).1⟩, ?_⟩
    exact List.forall_mem_append.2
      ⟨List.forall_mem_flatMap.2 fun s hs => (stagesRegular s hs).finite, optionsRegular.finite⟩
  · cases h

end Wire

theorem Consistency.ofLiteral?_toJson (c : Consistency) :
    Consistency.ofLiteral? c.toJson.toLiteral = some c := by
  cases c with
  | transaction id => exact congrArg (Option.map transaction) (Wire.bytes?_toLiteral id)
  | readTime t => exact congrArg (Option.map readTime) t.ofLiteral?_toJson

theorem Payload.ofLiteral?_toJson (p : Payload) :
    Payload.ofLiteral? p.toJson.toLiteral = some p := by
  rw [ofLiteral?, toJson, Json.fields?_ofMembers]
  simp [FieldMap.ofList, FieldMap.get?_insert, string?_toLiteral, Wire.bytes?_toLiteral]

theorem ExplainStats.ofLiteral?_toJson (s : ExplainStats) :
    ExplainStats.ofLiteral? s.toJson.toLiteral = some s := by
  rw [ofLiteral?, toJson, Json.fields?_ofMembers, FieldMap.ofList_eq_insertAll]
  simp only [List.map_cons, List.map_nil, get?_insertAll_optional, if_true, FieldMap.get?_nil,
    Option.or_none, Option.bind_eq_bind, Option.bind_some,
    optional?_toLiteral rfl Payload.ofLiteral?_toJson]
  rfl

namespace Document

/-- The maps in the fields of a document are sorted by key. -/
def Sorted (d : Document) : Prop := FieldMap.Sorted d.fields ∧ ∀ field ∈ d.fields, field.2.Sorted

def doubles (d : Document) : List Double := d.fields.flatMap (·.2.doubles)

end Document

theorem document_recovered {d : Document} (sorted : d.Sorted) :
    Recovered (Document.ofLiteral? d.toJson.toLiteral) d d.doubles := by
  obtain ⟨keys, inFields⟩ := sorted
  have fieldsBack :=
    Wire.fields_recovered keys fun field h => Wire.value_recovered (inFields field h)
  rw [Document.ofLiteral?, Document.toJson, Json.fields?_ofMembers, FieldMap.ofList_eq_insertAll]
  simp only [List.map_cons, List.map_nil, FieldMap.insertAll_append, FieldMap.insertAll_cons,
    FieldMap.insertAll_nil, get?_insertAll_optional, FieldMap.get?_insert, FieldMap.get?_nil,
    String.reduceEq, if_true, if_false, Option.or_none, Option.bind_eq_bind, Option.bind_some]
  rw [optional?_toLiteral rfl string?_toLiteral,
    optional?_toLiteral rfl Timestamp.ofLiteral?_toJson,
    optional?_toLiteral rfl Timestamp.ofLiteral?_toJson]
  exact fieldsBack.bind_return

theorem document_regular {l : Literal} (fit : l.NumbersFit) {d : Document}
    (h : Document.ofLiteral? l = some d) : d.Sorted ∧ ∀ x ∈ d.doubles, x.isFinite = true := by
  obtain ⟨found, hfound, h⟩ := Option.bind_eq_some_iff.1 h
  have fits : ∀ part, some part ∈ found → part.NumbersFit :=
    fun part hpart => fit.part (Literal.mem_of_fields? hfound part hpart)
  split at h
  · next name fieldsPart createTime updateTime =>
    obtain ⟨_, -, h⟩ := Option.bind_eq_some_iff.1 h
    obtain ⟨fields, hfields, h⟩ := Option.bind_eq_some_iff.1 h
    obtain ⟨_, -, h⟩ := Option.bind_eq_some_iff.1 h
    obtain ⟨_, -, h⟩ := Option.bind_eq_some_iff.1 h
    cases h
    have regular := Wire.optionalFields_regular (fun l same => fits l (by simp [same])) hfields
    exact ⟨⟨regular.1, fun field hfield => (regular.2 field hfield).1⟩, regular.finite⟩
  · cases h

namespace Response

/-- The maps in all documents of a response are sorted by key. -/
def Sorted (r : Response) : Prop := ∀ d ∈ r.results, d.Sorted

def doubles (r : Response) : List Double := r.results.flatMap (·.doubles)

end Response

theorem response_recovered {r : Response} (sorted : r.Sorted) :
    Recovered (Response.ofLiteral? r.toJson.toLiteral) r r.doubles := by
  have resultsBack : Recovered
      (documents? (Json.array (r.results.map (·.toJson))).toLiteral) r.results r.doubles := by
    rw [Json.toLiteral, documents?, Json.toLiterals_eq, List.map_map]
    exact .mapM fun d hd => document_recovered (sorted d hd)
  rw [Response.ofLiteral?, Response.toJson, Json.fields?_ofMembers, FieldMap.ofList_eq_insertAll]
  simp only [List.map_cons, List.map_nil, FieldMap.insertAll_append, FieldMap.insertAll_cons,
    FieldMap.insertAll_nil, get?_insertAll_optional, FieldMap.get?_insert, FieldMap.get?_nil,
    String.reduceEq, if_true, if_false, Option.or_none, Option.bind_eq_bind, Option.bind_some]
  rw [optional?_toLiteral rfl Wire.bytes?_toLiteral,
    optional?_toLiteral rfl Timestamp.ofLiteral?_toJson,
    optional?_toLiteral rfl ExplainStats.ofLiteral?_toJson]
  exact resultsBack.bind_return

theorem response_regular {l : Literal} (fit : l.NumbersFit) {r : Response}
    (h : Response.ofLiteral? l = some r) : r.Sorted ∧ ∀ x ∈ r.doubles, x.isFinite = true := by
  obtain ⟨found, hfound, h⟩ := Option.bind_eq_some_iff.1 h
  have fits : ∀ part, some part ∈ found → part.NumbersFit :=
    fun part hpart => fit.part (Literal.mem_of_fields? hfound part hpart)
  split at h
  · next transaction resultsPart executionTime stats =>
    obtain ⟨_, -, h⟩ := Option.bind_eq_some_iff.1 h
    obtain ⟨results, hresults, h⟩ := Option.bind_eq_some_iff.1 h
    obtain ⟨_, -, h⟩ := Option.bind_eq_some_iff.1 h
    obtain ⟨_, -, h⟩ := Option.bind_eq_some_iff.1 h
    cases h
    have regular : ∀ d ∈ results, d.Sorted ∧ ∀ x ∈ d.doubles, x.isFinite = true := by
      intro d hd
      cases resultsPart with
      | none =>
        cases hresults
        cases hd
      | some part =>
        cases part with
        | array items =>
          obtain ⟨item, hitem, hd⟩ := exists_of_mem_mapM hresults hd
          have fit := fits (.array items) (by simp)
          exact document_regular (fit.part hitem) hd
        | _ => cases hresults
    exact ⟨fun d hd => (regular d hd).1, List.forall_mem_flatMap.2 fun d hd => (regular d hd).2⟩
  · cases h

namespace Request

/-- The maps in the pipeline of a request are sorted by key. -/
def Sorted (r : Request) : Prop := r.pipeline.Sorted

def doubles (r : Request) : List Double := r.pipeline.doubles

end Request

theorem request_recovered {r : Request} (sorted : r.Sorted) :
    Recovered (Request.ofLiteral? r.toJson.toLiteral) r r.doubles := by
  have pipelineBack := Wire.structured_recovered sorted
  have consistencyBack :
      ((r.consistency.map (·.toJson)).map Json.toLiteral).elim (some none)
        (Literal.nullable Consistency.ofLiteral?) = some r.consistency :=
    optional?_toLiteral rfl Consistency.ofLiteral?_toJson r.consistency
  rw [Request.ofLiteral?, Request.toJson, Json.fields?_ofMembers, FieldMap.ofList_eq_insertAll]
  simp only [List.map_cons, List.map_nil, FieldMap.insertAll_append, FieldMap.insertAll_cons,
    FieldMap.insertAll_nil, get?_insertAll_optional, FieldMap.get?_insert, FieldMap.get?_nil,
    String.reduceEq, if_true, if_false, Option.or_none, Option.bind_eq_bind, Option.bind_some,
    Option.map_some, string?_toLiteral]
  rw [consistencyBack]
  exact pipelineBack.bind_return

theorem request_regular {l : Literal} (fit : l.NumbersFit) {r : Request}
    (h : Request.ofLiteral? l = some r) : r.Sorted ∧ ∀ x ∈ r.doubles, x.isFinite = true := by
  obtain ⟨found, hfound, h⟩ := Option.bind_eq_some_iff.1 h
  split at h
  · next database pipelinePart consistency =>
    obtain ⟨_, -, h⟩ := Option.bind_eq_some_iff.1 h
    obtain ⟨pipeline, hpipeline, h⟩ := Option.bind_eq_some_iff.1 h
    obtain ⟨_, -, h⟩ := Option.bind_eq_some_iff.1 h
    cases h
    exact Wire.structured_regular
      (fit.part (Literal.mem_of_fields? hfound pipelinePart (by simp))) hpipeline
  · cases h

/-- **The whole wire format round trips**: values, stages, pipelines with and without options,
documents, requests and responses. -/
theorem wire_format_roundTrips :
    RoundTrips Wire.Value.toJson Wire.Value.ofLiteral? Wire.Value.Sorted Wire.Value.doubles ∧
    RoundTrips Wire.Stage.toJson Wire.Stage.ofLiteral? Wire.Stage.Sorted Wire.Stage.doubles ∧
    RoundTrips Wire.pipelineToJson Wire.pipeline? (fun stages => ∀ s ∈ stages, s.Sorted)
      (fun stages => stages.flatMap (·.doubles)) ∧
    RoundTrips Wire.StructuredPipeline.toJson Wire.StructuredPipeline.ofLiteral?
      Wire.StructuredPipeline.Sorted Wire.StructuredPipeline.doubles ∧
    RoundTrips Document.toJson Document.ofLiteral? Document.Sorted Document.doubles ∧
    RoundTrips Request.toJson Request.ofLiteral? Request.Sorted Request.doubles ∧
    RoundTrips Response.toJson Response.ofLiteral? Response.Sorted Response.doubles := by
  refine ⟨?value, ?stage, ?pipeline, ?structured, ?document, ?request, ?response⟩
  case value =>
    exact .of_recovered (fun _ => Wire.value_recovered)
      fun l fit v h => (Wire.readsRegular fit).value v h
  case stage =>
    refine .of_recovered (fun _ => Wire.stage_recovered) fun l fit s h => ?_
    obtain ⟨⟨name, arguments, options⟩, hparts, rfl⟩ := Option.map_eq_some_iff.1 h
    have regular : Wire.Stage.Regular ⟨name, arguments, options⟩ :=
      (Wire.readsRegular fit).parts name arguments options hparts
    exact ⟨regular.sorted, regular.finite⟩
  case pipeline =>
    refine .of_recovered (fun _ => Wire.pipeline_recovered) fun l fit stages h => ?_
    have regular := (Wire.readsRegular fit).pipeline stages h
    exact ⟨fun s hs => (regular s hs).sorted,
      List.forall_mem_flatMap.2 fun s hs => (regular s hs).finite⟩
  case structured =>
    exact .of_recovered (fun _ => Wire.structured_recovered)
      fun l fit p h => Wire.structured_regular fit h
  case document =>
    exact .of_recovered (fun _ => document_recovered) fun l fit d h => document_regular fit h
  case request =>
    exact .of_recovered (fun _ => request_recovered) fun l fit r h => request_regular fit h
  case response =>
    exact .of_recovered (fun _ => response_recovered) fun l fit r h => response_regular fit h

/-- A shelf with one book, whose price is nested three deep. -/
def shelf (price : Double) : Wire.Value :=
  .map [("books", .array [.map [("price", .double price), ("title", .string "Dune")]]),
    ("room", .integer 3)]

theorem shelf_sorted (price : Double) : (shelf price).Sorted := by
  simp only [shelf, Wire.Value.Sorted, Wire.Value.within, Wire.withinFields, Wire.withinItems,
    List.append_nil, List.forall_mem_append, List.forall_mem_cons, Wire.Value.KeysSorted,
    FieldMap.Sorted, List.pairwise_cons]
  simp only [List.not_mem_nil, List.Pairwise.nil, false_imp_iff, implies_true, and_true, true_and]
  decide

/-- A shelf with a finite price comes back, and so does what is read of it. With an infinite price
nothing can be read. -/
theorem shelf_roundTrips :
    Wire.Value.ofLiteral? (shelf ⟨0x4024000000000000⟩).toJson.toLiteral =
        some (shelf ⟨0x4024000000000000⟩) ∧
      (Wire.Value.ofLiteral? (shelf ⟨0x4024000000000000⟩).toJson.toLiteral).map (·.toJson) =
        some (shelf ⟨0x4024000000000000⟩).toJson ∧
      Wire.Value.ofLiteral? (shelf .infinity).toJson.toLiteral = none := by
  obtain ⟨value, -⟩ := wire_format_roundTrips
  have finite : ∀ d ∈ (shelf ⟨0x4024000000000000⟩).doubles, d.isFinite = true := by decide
  have infinite : ∃ d ∈ (shelf .infinity).doubles, d.isFinite = false := by decide
  have back := (value.recovers _ (shelf_sorted _)).2 finite
  have fit : (shelf ⟨0x4024000000000000⟩).toJson.NumbersFit := by
    have fits : (⟨0x4024000000000000⟩ : Double).isFinite = true := by decide
    simp [Json.NumbersFit, shelf, Wire.Value.toJson, Wire.tagged, Wire.itemsToJson,
      Wire.fieldsToJson, Json.ofDouble, Json.ofInt64, fits, Json.toLiteral, Json.toLiterals,
      Json.toMembers, Json.Literal.NumbersFit, Json.Literal.itemsFit, Json.Literal.membersFit,
      Json.Number.Fits]
  refine ⟨value.stable _ fit _ back, ?_, value.refuses _ (shelf_sorted _) infinite⟩
  exact value.idempotent _ fit _ (congrArg (Option.map (·.toJson)) back)

end DocumentPipeline
