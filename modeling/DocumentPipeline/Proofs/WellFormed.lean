import DocumentPipeline.Proofs.BuilderCalls

/-!
# Well-formed pipelines

Whatever calls a pipeline is built by, its stages are in order, and what they refer to by themselves
is in its database. Literals may refer to documents anywhere:

* `StageBody.Proper`, `Stage.Proper`: what a stage of a pipeline on a database may hold;
* `Pipeline.WellFormed`: a source first and no other, stages that are proper, and the same of every
  pipeline that is nested in it;
* `SourceCall.run_wellFormed`, `Query.toPipeline_wellFormed`, `StageCall.run_wellFormed`: what one
  call keeps;
* `built_pipelines_wellFormed`: every reachable pipeline is well-formed, and a call that would make
  it something else fails;
* `not_references_within_database`: a literal that refers to another database.
-/

namespace DocumentPipeline

/-- The stages that a pipeline begins with. -/
def StageBody.isSource : StageBody → Bool
  | .collection .. | .collectionGroup .. | .database | .documents _ => true
  | _ => false

/-- A number of rows as a stage holds it. -/
def IsCount (n : Int64) : Prop := 0 ≤ n.toInt ∧ n.toInt < 0x100000000

/-- A number of rows that a caller asks for fits into one that a stage holds. -/
theorem isCount_widen (n : UInt32) : IsCount (widen n) := by
  have small : n.toNat < 0x100000000 := n.toNat_lt
  have kept : (widen n).toInt = n.toNat := Int64.toInt_ofNat_of_lt (by omega)
  rw [IsCount, kept]
  omega

/-- What a stage of a pipeline on a database may do. -/
def StageBody.Proper (db : DatabaseId) : StageBody → Prop
  | .collection c _ => c.database = db ∧ Path.Proper 1 c.segments
  | .collectionGroup id _ => Path.IsSegment id
  | .documents ds => ds ≠ [] ∧ ∀ d ∈ ds, d.database = db ∧ Path.Proper 0 d.segments
  | .offset n | .limit n | .sample (.documents n) => IsCount n
  | .sample (.percent x) => IsPercentage x
  | .findNearest search => ∀ n ∈ search.limit, IsCount n
  | .sort keys => keys ≠ []
  | .mutation _ target => ∀ c ∈ target, c.database = db ∧ Path.Proper 1 c.segments
  | _ => True

/-- What a stage may hold. A reference that stands in an expression as a literal is a value like any
other, and names its database itself. -/
structure Stage.Proper (db : DatabaseId) (s : Stage) : Prop where
  body : s.body.Proper db
  literals : ∀ d ∈ s.references, Path.Proper 0 d.segments

theorem Stage.Proper.of_plain {db : DatabaseId} {body : StageBody} (proper : body.Proper db)
    (plain : body.expressions = []) : Stage.Proper db ⟨body, []⟩ :=
  ⟨proper, by simp [Stage.references, Stage.expressions, plain]⟩

/-- A pipeline whose own stages are as they should be. -/
structure Pipeline.Regular (p : Pipeline) : Prop where
  first : ∀ s ∈ p.stages.head?, s.body.isSource = true
  later : ∀ s ∈ p.stages.tail, s.body.isSource = false
  length : p.length = p.stages.length ∧ 1 ≤ p.length
  proper : ∀ s ∈ p.stages, s.Proper p.database

/-- A pipeline that is regular and on one database, and so is all that is nested in it. -/
def Pipeline.WellFormed (p : Pipeline) : Prop :=
  ∀ q ∈ p.withNested, q.database = p.database ∧ q.Regular

theorem Pipeline.wellFormed_iff {p : Pipeline} :
    p.WellFormed ↔
      p.Regular ∧ ∀ s ∈ p.stages, ∀ q ∈ s.nested, q.database = p.database ∧ q.Regular := by
  rw [WellFormed, withNested_eq, List.forall_mem_cons]
  simp only [List.mem_flatMap, true_and]
  exact and_congr_right fun _ =>
    ⟨fun h s hs q hq => h q ⟨s, hs, hq⟩, fun h q ⟨s, hs, hq⟩ => h s hs q hq⟩

theorem Stage.nested_of_isSource {s : Stage} (first : s.body.isSource = true) : s.nested = [] := by
  obtain ⟨body, raw⟩ := s
  cases body with
  | union other => cases first
  | _ => rfl

/-- **A source** is well-formed. -/
theorem Pipeline.start_wellFormed {db : DatabaseId} {body : StageBody} {raw : RawOptions}
    (first : body.isSource = true) (proper : Stage.Proper db ⟨body, raw⟩) :
    (Pipeline.start db body raw).WellFormed := by
  have alone : Stage.nested ⟨body, raw⟩ = [] := Stage.nested_of_isSource first
  rw [wellFormed_iff]
  refine ⟨⟨?_, nofun, ⟨rfl, Nat.le_refl 1⟩, List.forall_mem_singleton.2 proper⟩, ?_⟩
  · rintro _ ⟨⟩
    exact first
  · exact List.forall_mem_singleton.2 fun q hq => nomatch (alone ▸ hq : q ∈ [])

/-- **A pipeline stays well-formed** with a stage more, and counts it. -/
theorem Pipeline.append_wellFormed {p : Pipeline} {body : StageBody} {raw : RawOptions}
    (hp : p.WellFormed) (later : body.isSource = false)
    (proper : Stage.Proper p.database ⟨body, raw⟩)
    (nested : ∀ q ∈ body.nested, q.database = p.database ∧ q.Regular) :
    (p.append body raw).WellFormed := by
  obtain ⟨regular, before⟩ := wellFormed_iff.1 hp
  obtain ⟨counted, some⟩ := regular.length
  have length : (p.append body raw).length = p.length + 1 := rfl
  rw [wellFormed_iff]
  refine ⟨⟨regular.first, ?_, ⟨?_, by omega⟩, ?_⟩, ?_⟩
  · exact List.forall_mem_append.2 ⟨regular.later, List.forall_mem_singleton.2 later⟩
  · rw [length, counted, stages_append, List.length_append]
    rfl
  · exact List.forall_mem_append.2 ⟨regular.proper, List.forall_mem_singleton.2 proper⟩
  · refine List.forall_mem_append.2 ⟨before, List.forall_mem_singleton.2 fun q hq => ?_⟩
    exact nested q hq

/-! ## Queries -/

/-- A stage without raw options that may follow others and nests no pipeline. -/
structure StageBody.Follows (db : DatabaseId) (body : StageBody) : Prop where
  later : body.isSource = false
  proper : Stage.Proper db ⟨body, []⟩
  plain : body.nested = []

theorem Pipeline.appendAll_wellFormed {p : Pipeline} {bodies : List StageBody}
    (hp : p.WellFormed) (follow : ∀ body ∈ bodies, body.Follows p.database) :
    (p.appendAll bodies).WellFormed := by
  induction bodies generalizing p with
  | nil => exact hp
  | cons body rest ih =>
    obtain ⟨next, others⟩ := List.forall_mem_cons.1 follow
    exact ih (append_wellFormed hp next.later next.proper (by simp [next.plain])) others

section
variable {db : DatabaseId}

theorem filter_follows {c : Condition}
    (literals : ∀ d ∈ c.expression.references, Path.Proper 0 d.segments) :
    (StageBody.filter c).Follows db where
  later := rfl
  proper := ⟨trivial, by simpa [Stage.references, Stage.expressions, StageBody.expressions]⟩
  plain := rfl

theorem sort_follows {keys : List SortKey} (given : keys ≠ [])
    (fields : ∀ k ∈ keys, k.expression.references = []) : (StageBody.sort keys).Follows db where
  later := rfl
  proper := by
    refine ⟨given, fun d hd => ?_⟩
    obtain ⟨e, he, hd⟩ := List.mem_flatMap.1 hd
    obtain ⟨k, hk, rfl⟩ : ∃ k ∈ keys, k.expression = e := by
      simpa [Stage.expressions, StageBody.expressions] using he
    rw [fields k hk] at hd
    cases hd
  plain := rfl

theorem offset_follows (n : UInt32) : (StageBody.offset (widen n)).Follows db :=
  ⟨rfl, .of_plain (isCount_widen n) rfl, rfl⟩

theorem limit_follows (n : UInt32) : (StageBody.limit (widen n)).Follows db :=
  ⟨rfl, .of_plain (isCount_widen n) rfl, rfl⟩

end

namespace Query
variable (q : Query) {db : DatabaseId}

theorem guardSlot_follows : ∀ body ∈ q.guardSlot, body.Follows db := by
  rw [guardSlot]
  generalize hguards : q.order.map (fun key => Expression.call "exists" [.field key.1]) = guards
  have plain : ∀ guard ∈ guards, guard.references = [] := by
    rw [← hguards]
    exact List.forall_mem_map.2 fun key _ => rfl
  obtain _ | ⟨guard, _ | ⟨guard', rest⟩⟩ := guards
  · simp
  · exact List.forall_mem_singleton.2 (filter_follows (by simp [plain]))
  · have none : referencesWithin (guard :: guard' :: rest) = [] := by
      rw [referencesWithin_eq, List.flatMap_eq_nil_iff]
      exact plain
    exact List.forall_mem_singleton.2 (filter_follows (by simp [Expression.references, none]))

theorem windowSlots_follow : ∀ body ∈ q.windowSlots, body.Follows db := by
  have forward : (StageBody.sort (forwardKeys q.rowOrder)).Follows db :=
    sort_follows (by simpa [forwardKeys] using q.rowOrder_ne_nil)
      (List.forall_mem_map.2 fun _ _ => rfl)
  have backward : (StageBody.sort (backwardKeys q.rowOrder)).Follows db := by
    refine sort_follows (by simpa [backwardKeys] using q.rowOrder_ne_nil) ?_
    refine List.forall_mem_map.2 fun key _ => ?_
    obtain ⟨f, direction⟩ := key
    cases direction <;> rfl
  have offset : ∀ body ∈ q.offsetSlot, body.Follows db := by
    rw [offsetSlot]
    cases q.offset with
    | none => simp
    | some n => exact List.forall_mem_singleton.2 (offset_follows n)
  have limit : ∀ body ∈ q.limitSlot, body.Follows db := by
    rw [limitSlot]
    cases q.limit with
    | none => simp
    | some n => exact List.forall_mem_singleton.2 (limit_follows n)
  rw [windowSlots]
  split
  · simp only [List.forall_mem_append, List.forall_mem_singleton]
    exact ⟨⟨⟨backward, offset⟩, limit⟩, forward⟩
  · simp only [List.forall_mem_append]
    refine ⟨⟨?_, offset⟩, limit⟩
    split
    · exact List.forall_mem_singleton.2 forward
    · simp

theorem projectionSlot_follows : ∀ body ∈ q.projectionSlot, body.Follows db := by
  intro body hbody
  obtain ⟨fields, -, rfl⟩ : ∃ fields, q.projection = some fields ∧ _ = body := by
    simpa [projectionSlot] using hbody
  refine ⟨rfl, ⟨trivial, fun d hd => ?_⟩, rfl⟩
  obtain ⟨e, he, hd⟩ := List.mem_flatMap.1 hd
  obtain ⟨path, -, rfl⟩ : ∃ path ∈ fields.map (·.path), Expression.field ⟨path⟩ = e := by
    simpa [Stage.expressions, StageBody.expressions] using he
  cases hd

variable {q}

/-- **The pipeline of a query is well-formed.** -/
theorem toPipeline_wellFormed {p : Pipeline} (obtained : q.Obtained)
    (h : q.toPipeline = .ok p) : p.WellFormed := by
  obtain ⟨source, -, conditions, hconditions, rfl⟩ := q.toPipeline_eq_ok.1 h
  have first : q.sourceBody.isSource = true := by
    rw [sourceBody]
    split <;> rfl
  have proper : Stage.Proper q.database ⟨q.sourceBody, []⟩ := by
    obtain ⟨origin⟩ := q
    cases origin with
    | collection c => exact .of_plain ⟨rfl, CollectionReference.Obtained.proper obtained.source⟩ rfl
    | group db id => exact .of_plain source rfl
  have filtered : ∀ c ∈ conditions, (StageBody.filter c).Follows q.database := by
    intro c hc
    obtain ⟨f, hf, hfc⟩ := (mem_mapM hconditions).1 hc
    refine filter_follows fun d hd => (obtained.literals d ?_).proper
    exact List.mem_flatMap.2 ⟨f, hf, references_toCondition hfc hd⟩
  refine Pipeline.appendAll_wellFormed (Pipeline.start_wellFormed first proper) ?_
  simp only [laterSlots, List.forall_mem_append]
  exact ⟨⟨⟨List.forall_mem_map.2 filtered, q.guardSlot_follows⟩, q.windowSlots_follow⟩,
    q.projectionSlot_follows⟩

end Query

/-! ## Calls -/

/-- Literals that a stage has from a call refer to documents, if the caller can get hold of them. -/
theorem LiteralsObtained.proper {given : List Expression} {s : Stage}
    (obtained : LiteralsObtained given) (among : ∀ e ∈ s.expressions, e ∈ given) :
    ∀ d ∈ s.references, Path.Proper 0 d.segments := by
  intro d hd
  obtain ⟨e, he, hd⟩ := List.mem_flatMap.1 hd
  exact (obtained d (List.mem_flatMap.2 ⟨e, among e he, hd⟩)).proper

/-- **A call that begins a pipeline begins a well-formed one.** -/
theorem SourceCall.run_wellFormed {db : DatabaseId} {call : SourceCall} {p : Pipeline}
    (obtained : call.Obtained) (h : call.run db = .ok p) : p.WellFormed := by
  have started (body : StageBody) (raw : RawOptions) (first : body.isSource = true)
      (plain : body.expressions = []) (proper : body.Proper db)
      (literals : LiteralsObtained (raw.map (·.2))) :
      (Pipeline.start db body raw).WellFormed := by
    refine Pipeline.start_wellFormed first ⟨proper, literals.proper ?_⟩
    simp [Stage.expressions, plain]
  cases call with
  | collection target forceIndex raw =>
    obtain ⟨target, literals⟩ := obtained
    obtain ⟨c, hc, h⟩ := bind_eq_ok.1 h
    cases h
    exact started (.collection c forceIndex) raw rfl rfl (CollectionTarget.resolve_proper target hc)
      literals
  | collectionGroup id forceIndex raw =>
    have whole : Path.IsSegment id := run_succeeds.1 ⟨p, h⟩
    rw [run, Pipeline.ofCollectionGroup, if_neg (not_or.2 whole)] at h
    cases h
    exact started (.collectionGroup id forceIndex) raw rfl rfl whole obtained
  | database raw =>
    cases h
    exact started .database raw rfl rfl trivial obtained
  | documents targets raw =>
    obtain ⟨given, -⟩ : targets ≠ [] ∧ _ := run_succeeds.1 ⟨p, h⟩
    rw [run, Pipeline.ofDocuments, if_neg (by simpa using given)] at h
    obtain ⟨documents, hdocuments, h⟩ := bind_eq_ok.1 h
    cases h
    refine started (.documents documents) raw rfl rfl ⟨?_, ?_⟩ obtained.2
    · rintro rfl
      cases mapM_eq_ok.1 hdocuments
      exact given rfl
    · intro d hd
      obtain ⟨target, htarget, hresolve⟩ := (mem_mapM hdocuments).1 hd
      exact DocumentTarget.resolve_proper (obtained.1 target htarget) hresolve
  | query q =>
    obtain ⟨-, h⟩ := then_eq_ok.1 h
    exact Query.toPipeline_wellFormed obtained h

theorem SampleRequest.rate_proper {r : SampleRequest} {rate : SampleRate} (h : r.rate = .ok rate)
    (db : DatabaseId) : (StageBody.sample rate).Proper db := by
  obtain ⟨documents, percentage⟩ := r
  cases documents with
  | some n =>
    cases percentage <;> cases h
    exact isCount_widen n
  | none =>
    cases percentage with
    | none => cases h
    | some x =>
      by_cases valid : x.isFiniteNonnegative
      · simp only [SampleRequest.rate, if_pos valid] at h
        cases h
        exact isFiniteNonnegative_iff.1 valid
      · simp [SampleRequest.rate, valid] at h

theorem mem_of_mem_toMap {items : List Selectable} {e : Expression}
    (he : e ∈ (Selectable.toMap items).map (·.2)) : e ∈ items.map (·.entry.2) := by
  rw [Selectable.toMap_eq] at he
  obtain ⟨entry, hentry, rfl⟩ := List.mem_map.1 he
  obtain ⟨item, hitem, rfl⟩ := List.mem_map.1 (OrderedMap.mem_of_mem_ofList hentry)
  exact List.mem_map.2 ⟨item, hitem, rfl⟩

/-- What a call adds to a pipeline. All expressions of the stage are ones that the call is given. -/
theorem StageCall.run_appends {p p' : Pipeline} {call : StageCall} (obtained : call.Obtained)
    (h : call.run p = .ok p') :
    ∃ body raw, p' = p.append body raw ∧ body.isSource = false ∧ body.Proper p.database ∧
      (∀ e ∈ Stage.expressions ⟨body, raw⟩, e ∈ call.expressions) ∧
      (body.nested = [] ∨
        ∃ other, body = .union other ∧ call = .union other raw ∧ other.database = p.database) := by
  have sound : call.Sound p := run_succeeds.1 ⟨p', h⟩
  cases call with
  | addFields items raw | select items raw | distinct items raw =>
    cases h
    refine ⟨_, _, rfl, rfl, trivial, fun e he => ?_, .inl rfl⟩
    exact List.mem_append.2 ((List.mem_append.1 he).imp_left mem_of_mem_toMap)
  | aggregate accumulators groups raw =>
    cases h
    refine ⟨_, _, rfl, rfl, trivial, fun e he => ?_, .inl rfl⟩
    simp only [Stage.expressions, StageBody.expressions, StageCall.expressions,
      List.mem_append] at he ⊢
    refine he.imp_left (Or.imp (fun he => ?_) mem_of_mem_toMap)
    obtain ⟨entry, hentry, he⟩ := List.mem_flatMap.1 he
    exact List.mem_flatMap.2 ⟨entry, OrderedMap.mem_of_mem_ofList hentry, he⟩
  | unnest item indexField raw =>
    cases h
    cases item <;> exact ⟨_, _, rfl, rfl, trivial, fun _ he => he, .inl rfl⟩
  | offset n raw | limit n raw =>
    cases h
    exact ⟨_, _, rfl, rfl, isCount_widen n, fun _ he => he, .inl rfl⟩
  | sampleDocuments n =>
    cases h
    exact ⟨_, _, rfl, rfl, isCount_widen n, fun _ he => he, .inl rfl⟩
  | findNearest request raw =>
    cases h
    refine ⟨_, _, rfl, rfl, fun n hn => ?_, fun _ he => he, .inl rfl⟩
    obtain ⟨count, -, rfl⟩ := Option.map_eq_some_iff.1 hn
    exact isCount_widen count
  | sample request raw =>
    obtain ⟨rate, hrate, h⟩ := bind_eq_ok.1 h
    cases h
    exact ⟨_, _, rfl, rfl, SampleRequest.rate_proper (mapError_eq_ok.1 hrate) _, fun _ he => he,
      .inl rfl⟩
  | union other raw =>
    obtain ⟨same, h⟩ := then_eq_ok.1 h
    cases h
    exact ⟨_, _, rfl, rfl, trivial, fun _ he => he, .inr ⟨other, rfl, rfl, sound⟩⟩
  | sort keys raw =>
    have given : keys ≠ [] := sound
    rw [run, Pipeline.sort, if_neg (by simpa using given)] at h
    cases h
    exact ⟨_, _, rfl, rfl, given, fun _ he => he, .inl rfl⟩
  | mutate kind target raw =>
    obtain ⟨resolved, hresolved, h⟩ := bind_eq_ok.1 h
    cases h
    refine ⟨.mutation kind resolved, _, rfl, rfl, ?_, fun _ he => he, .inl rfl⟩
    intro c hc
    cases target with
    | none =>
      cases hresolved
      cases hc
    | some t =>
      rw [Option.mapM_some, map_eq_ok] at hresolved
      obtain ⟨c', hc', rfl⟩ := hresolved
      cases hc
      exact CollectionTarget.resolve_proper (obtained.target t rfl) hc'
  | _ =>
    cases h
    exact ⟨_, _, rfl, rfl, trivial, fun _ he => he, .inl rfl⟩

/-- **A call that adds a stage keeps a pipeline well-formed.** -/
theorem StageCall.run_wellFormed {p p' : Pipeline} {call : StageCall} (hp : p.WellFormed)
    (obtained : call.Obtained)
    (united : ∀ other raw, call = .union other raw → other.WellFormed)
    (h : call.run p = .ok p') : p'.WellFormed := by
  obtain ⟨body, raw, rfl, later, proper, among, nested⟩ := run_appends obtained h
  refine Pipeline.append_wellFormed hp later ⟨proper, obtained.literals.proper among⟩ ?_
  obtain plain | ⟨other, rfl, hcall, same⟩ := nested
  · simp [plain]
  · intro q hq
    obtain ⟨hq, regular⟩ := united other raw hcall q hq
    exact ⟨hq.trans same, regular⟩

theorem Reachable.wellFormed {p : Pipeline} (h : Reachable p) : p.WellFormed := by
  induction h with
  | source obtained run => exact SourceCall.run_wellFormed obtained run
  | query obtained run => exact Query.toPipeline_wellFormed obtained run
  | stage _ obtained _ run ih united => exact StageCall.run_wellFormed ih obtained united run

/-- A pipeline that calls lead to counts its stages. -/
theorem Reachable.length_eq {p : Pipeline} (h : Reachable p) : p.length = p.stages.length :=
  (Pipeline.wellFormed_iff.1 h.wellFormed).1.length.1

/-- **Every pipeline that calls lead to is well-formed.** It begins with a source and holds no
other, and it counts its stages; whatever its stages refer to by themselves, and every pipeline
nested in it, belongs to its database, while literals may refer to documents anywhere; its paths,
lists, ids, percentages and counts are as they should be. A call fails when it is given something
unsound, and in no other case. -/
theorem built_pipelines_wellFormed :
    (∀ p, Reachable p → p.WellFormed) ∧
    (∀ db (call : SourceCall), (∃ e, call.run db = .error e) ↔ ¬call.Sound db) ∧
    (∀ q : Query, (∃ e, q.toPipeline = .error e) ↔ ¬q.Sound) ∧
    ∀ p (call : StageCall), (∃ e, call.run p = .error e) ↔ ¬call.Sound p := by
  refine ⟨fun p h => h.wellFormed, fun db call => ?_, fun q => ?_, fun p call => ?_⟩
  · rw [fails_iff, SourceCall.run_succeeds]
  · rw [fails_iff, Query.toPipeline_succeeds]
  · rw [fails_iff, StageCall.run_succeeds]

/-- A document, the rows of a collection below it, and a copy of them all elsewhere. -/
theorem copied_reviews_wellFormed :
    ∃ p, Reachable p ∧ p.stages.map (·.name) = ["documents", "union", "insert"] ∧ p.WellFormed := by
  let db : DatabaseId := ⟨"library", "main"⟩
  have reviews : CollectionReference.Obtained ⟨db, ["books", "b", "reviews"]⟩ :=
    @CollectionReference.Obtained.ofPath db "books/b/reviews" _ rfl
  have book : Reachable (.start db (.documents [⟨db, ["books", "b"]⟩]) []) :=
    @Reachable.source db (.documents [.path "/books/b"] []) _
      ⟨List.forall_mem_singleton.2 trivial, nofun⟩ rfl
  have rated : Reachable (.start db (.collection ⟨db, ["books", "b", "reviews"]⟩ none) []) :=
    @Reachable.source db (.collection (.reference _) none []) _ ⟨reviews, nofun⟩ rfl
  have united : ∀ other raw,
      StageCall.union (.start db (.collection ⟨db, ["books", "b", "reviews"]⟩ none) []) [] =
        .union other raw → Reachable other := by
    intro other raw same
    obtain ⟨rfl, -⟩ := StageCall.union.inj same
    exact rated
  have joined := @Reachable.stage _ _ (.union _ []) book ⟨nofun, nofun⟩ united rfl
  have named : StageCall.Obtained (.mutate .insert (some (.path "copies")) []) :=
    ⟨by rintro _ ⟨⟩; trivial, nofun⟩
  have copied := Reachable.stage joined named (by rintro _ _ ⟨⟩) rfl
  exact ⟨_, copied, rfl, built_pipelines_wellFormed.1 _ copied⟩

/-- Holds for the reviews of a book in a database of its own. -/
def reviewsArchived : Condition :=
  (Expression.field ⟨"book"⟩).equal (.constant (.reference ⟨.ofProject "archive", ["books", "b"]⟩))

/-- The documents of one database that refer to a book of another one. -/
def foreignReviews : Pipeline :=
  (Pipeline.ofDatabase (.ofProject "library") []).filter reviewsArchived []

theorem foreignReviews_reachable : Reachable foreignReviews := by
  have all : Reachable (.ofDatabase (.ofProject "library") []) :=
    @Reachable.source (.ofProject "library") (.database []) _ nofun rfl
  have book : DocumentReference.Obtained ⟨.ofProject "archive", ["books", "b"]⟩ :=
    @DocumentReference.Obtained.ofPath (.ofProject "archive") "books/b" _ rfl
  have given : StageCall.Obtained (.filter reviewsArchived []) :=
    ⟨nofun, List.forall_mem_singleton.2 book⟩
  exact Reachable.stage all given nofun rfl

/-- A literal may refer to a document of another database: the calls that take it do not ask. -/
theorem not_references_within_database :
    ¬∀ p, Reachable p → ∀ s ∈ p.stages, ∀ d ∈ s.references, d.database = p.database := by
  intro claim
  have within := claim foreignReviews foreignReviews_reachable _
    (List.mem_cons_of_mem _ List.mem_cons_self) _ List.mem_cons_self
  exact absurd within (by decide)

end DocumentPipeline
