import DocumentPipeline.Builder
import DocumentPipeline.Client
import DocumentPipeline.Proofs.Success

/-!
# Whole and streamed answers

A reply may be given as a whole or part by part. Both ways lead to the same rows:

* `Response.combine_eq`: partial responses as one have all their results, and of everything else
  the last that one of them has;
* `Row.IsOf`: what a row is to the document that it was read from;
* `Row.ofDocument_eq_ok`, `Row.ofDocument_eq_error`: a document gives its row, unless its name
  cannot be read;
* `stream_agrees_with_execute`: the rows of a stream are those of the whole answer, up to the first
  document whose name cannot be read.
-/

namespace DocumentPipeline

/-! ## Partial responses -/

namespace Response
variable {α : Type}

/-- The last value that responses have in a field. -/
def last? (field : Response → Option α) (chunks : List Response) : Option α :=
  (chunks.filterMap field).getLast?

theorem last?_cons (field : Response → Option α) (r : Response) (rest : List Response) :
    last? field (r :: rest) = (last? field rest).or (field r) := by
  unfold last?
  cases found : field r with
  | none => rw [List.filterMap_cons_none found, Option.or_none]
  | some a =>
    rw [List.filterMap_cons_some found, List.getLast?_cons]
    cases (rest.filterMap field).getLast? <;> rfl

theorem foldl_join (chunks : List Response) (before : Response) :
    chunks.foldl join before =
      ⟨(last? (·.transaction) chunks).or before.transaction,
        before.results ++ chunks.flatMap (·.results),
        (last? (·.executionTime) chunks).or before.executionTime,
        (last? (·.explainStats) chunks).or before.explainStats⟩ := by
  induction chunks generalizing before with
  | nil => simp [last?]
  | cons r rest ih =>
    rw [List.foldl_cons, ih]
    simp only [join, last?_cons, Option.or_assoc, List.flatMap_cons, List.append_assoc]

/-- **Partial responses as one.** The results follow one another; of the transactions, the times and
the statistics the last counts. -/
theorem combine_eq (chunks : List Response) :
    combine chunks =
      ⟨last? (·.transaction) chunks, chunks.flatMap (·.results), last? (·.executionTime) chunks,
        last? (·.explainStats) chunks⟩ := by
  unfold combine
  rw [foldl_join]
  simp [empty]

/-- The documents of partial responses in order, each with the time of its response. -/
def timed (chunks : List Response) : List (Option Timestamp × Document) :=
  chunks.flatMap fun r => r.results.map fun d => (r.executionTime, d)

theorem map_snd_timed (chunks : List Response) :
    (timed chunks).map (·.2) = (combine chunks).results := by
  rw [combine_eq, timed, List.map_flatMap]
  simp [Function.comp_def]

end Response

/-- The partial responses of a reply that is no error. -/
def Reply.chunks? : Reply → Option (List Response)
  | .response r => some [r]
  | .error _ => none
  | .chunks rs => some rs

theorem Reply.whole_eq {reply : Reply} {chunks : List Response}
    (h : reply.chunks? = some chunks) : reply.whole = .ok (.combine chunks) := by
  cases reply with
  | response r =>
    cases h
    rw [Response.combine_eq]
    simp [whole, Response.last?_cons]
    simp [Response.last?]
  | error message => cases h
  | chunks rs =>
    cases h
    rfl

theorem Reply.parts_eq {reply : Reply} {chunks : List Response}
    (h : reply.chunks? = some chunks) : reply.parts = chunks.map .ok := by
  cases reply with
  | error message => cases h
  | response r | chunks rs =>
    cases h
    rfl

/-! ## Rows -/

/-- The document that a result is; a computed one is none. -/
def Document.reference (d : Document) : Except PathFault (Option DocumentReference) :=
  d.name.mapM DocumentReference.ofResourceName

/-- A row that holds what its document holds, with the time of a response. -/
structure Row.IsOf (time : Option Timestamp) (d : Document) (row : Row) : Prop where
  reference : d.reference = .ok row.reference
  fields : row.fields = d.fields
  createTime : row.createTime = d.createTime
  updateTime : row.updateTime = d.updateTime
  executionTime : row.executionTime = time

/-- The name of a document is all that may keep it from giving a row. -/
theorem Row.ofDocument_eq (time : Option Timestamp) (d : Document) :
    ofDocument time d = (do
      let reference ← d.reference.mapError fun fault => .documentName (.ofPath fault)
      return ⟨reference, d.fields, d.createTime, d.updateTime, time⟩) := by
  obtain ⟨name, fields, createTime, updateTime⟩ := d
  cases name with
  | none => rfl
  | some name =>
    simp only [ofDocument, Document.reference, Option.mapM_some]
    cases DocumentReference.ofResourceName name <;> rfl

theorem Row.ofDocument_eq_ok {time : Option Timestamp} {d : Document} {row : Row} :
    ofDocument time d = .ok row ↔ IsOf time d row := by
  rw [ofDocument_eq, bind_eq_ok]
  constructor
  · rintro ⟨reference, known, h⟩
    cases h
    exact ⟨mapError_eq_ok.1 known, rfl, rfl, rfl, rfl⟩
  · rintro ⟨known, fields, createTime, updateTime, executionTime⟩
    refine ⟨row.reference, mapError_eq_ok.2 known, ?_⟩
    rw [← fields, ← createTime, ← updateTime, ← executionTime]
    rfl

theorem Row.ofDocument_succeeds {time : Option Timestamp} {d : Document}
    (known : ∃ reference, d.reference = .ok reference) : ∃ row, ofDocument time d = .ok row := by
  obtain ⟨reference, known⟩ := known
  exact ⟨⟨reference, d.fields, d.createTime, d.updateTime, time⟩,
    ofDocument_eq_ok.2 ⟨known, rfl, rfl, rfl, rfl⟩⟩

theorem Row.ofDocument_eq_error {time : Option Timestamp} {d : Document} {fault : PathFault}
    (misnamed : d.reference = .error fault) :
    ofDocument time d = .error (.documentName (.ofPath fault)) := by
  rw [ofDocument_eq, misnamed]
  rfl

/-- The time of a response makes no other difference to a row. -/
theorem Row.ofDocument_at {time : Option Timestamp} {d : Document} {row : Row}
    (h : ofDocument time d = .ok row) (other : Option Timestamp) :
    ofDocument other d = .ok { row with executionTime := other } := by
  obtain ⟨known, fields, createTime, updateTime, -⟩ := ofDocument_eq_ok.1 h
  exact ofDocument_eq_ok.2 ⟨known, fields, createTime, updateTime, rfl⟩

/-! ## Answers -/

/-- The items of a stream as one list, if none of them is an error. -/
def collect {α : Type} (items : List (Except ClientError α)) : Except ClientError (List α) :=
  items.mapM id

/-- The snapshot of partial responses has the rows of all their documents, with the last time. -/
theorem Snapshot.ofResponse_combine (chunks : List Response) :
    ofResponse (.combine chunks) = (do
      let rows ← (Response.timed chunks).mapM fun e =>
        Row.ofDocument (Response.last? (·.executionTime) chunks) e.2
      return ⟨rows, Response.last? (·.executionTime) chunks,
        Response.last? (·.explainStats) chunks, Response.last? (·.transaction) chunks⟩) := by
  have documents : (Response.combine chunks).results = (Response.timed chunks).map (·.2) :=
    (Response.map_snd_timed chunks).symm
  unfold ofResponse
  rw [documents, List.mapM_map, Response.combine_eq]
  rfl

namespace Client

/-- The row of a document, or why there is none. -/
def itemOf (e : Option Timestamp × Document) : Except ClientError Row :=
  (Row.ofDocument e.1 e.2).mapError .decode

theorem flatMap_rowsOf (chunks : List Response) :
    (chunks.map Except.ok).flatMap rowsOf = (Response.timed chunks).map itemOf := by
  rw [List.flatMap_map, Response.timed, List.map_flatMap]
  simp [rowsOf, itemOf, Function.comp_def]

/-- Documents with names that can be read are streamed as their rows. -/
theorem map_itemOf {documents : List (Option Timestamp × Document)}
    (known : ∀ e ∈ documents, ∃ reference, e.2.reference = .ok reference) :
    ∃ rows, documents.map itemOf = rows.map .ok ∧
      List.Forall₂ (fun e row => Row.IsOf e.1 e.2 row) documents rows := by
  have each : ∀ e ∈ documents, ∃ row, itemOf e = .ok row := by
    intro e he
    obtain ⟨row, hrow⟩ : ∃ row, Row.ofDocument e.1 e.2 = .ok row :=
      Row.ofDocument_succeeds (known e he)
    exact ⟨row, mapError_eq_ok.2 hrow⟩
  obtain ⟨rows, hrows⟩ := mapM_succeeds.2 each
  refine ⟨rows, map_eq_of_mapM hrows, (mapM_eq_ok.1 hrows).imp ?_⟩
  intro e row hrow
  exact Row.ofDocument_eq_ok.1 (mapError_eq_ok.1 hrow)

/-- Rows at one time instead of that of each. -/
theorem mapM_ofDocument {documents : List (Option Timestamp × Document)} {rows : List Row}
    (h : List.Forall₂ (fun e row => Row.IsOf e.1 e.2 row) documents rows)
    (time : Option Timestamp) :
    (documents.mapM fun e => Row.ofDocument time e.2) =
      .ok (rows.map fun row => { row with executionTime := time }) := by
  rw [mapM_eq_ok, List.forall₂_map_right_iff]
  refine h.imp ?_
  intro e row hrow
  exact Row.ofDocument_at (Row.ofDocument_eq_ok.2 hrow) time

section
variable {c : Client} {p : Pipeline} {o : ExecuteOptions} {request : Request}
  {requests : List Request} {reply : Reply} {replies : List Reply}

theorem execute_eq (compiled : c.compile p o = .ok request) :
    (c.execute ⟨requests, reply :: replies⟩ p o).1 = (do
      let response ← reply.whole
      (Snapshot.ofResponse response).mapError .decode) := by
  simp only [execute, compiled, Executor.receive, List.headD_cons]

theorem stream_eq (streamed : c.batched = false) (compiled : c.compile p o = .ok request) :
    (c.stream ⟨requests, reply :: replies⟩ p o).1 = reply.parts.flatMap rowsOf := by
  simp only [stream, compiled, Executor.receive, List.headD_cons, streamed, Bool.false_eq_true,
    if_false]

/-- **A stream gives the rows of the whole answer.** Let a pipeline be compiled and let a reply be
the next one. An error is the answer in both ways. Otherwise take the documents of all parts of the
reply in order.

* If the name of one cannot be read, and those of the documents before it can, the whole answer is
  that error, and the stream gives the rows of the documents before it and then that error.
* If all names can be read, the stream gives the row of each document, with the time of the part
  that it came in, and the whole answer has the same rows with the last time of all parts. -/
theorem stream_agrees_with_execute (streamed : c.batched = false)
    (compiled : c.compile p o = .ok request) :
    (∀ message, reply = .error message →
      (c.execute ⟨requests, reply :: replies⟩ p o).1 = .error (.execution message) ∧
        collect (c.stream ⟨requests, reply :: replies⟩ p o).1 = .error (.execution message)) ∧
    ∀ chunks, reply.chunks? = some chunks →
      (∀ before time d after fault, Response.timed chunks = before ++ (time, d) :: after →
        (∀ e ∈ before, ∃ reference, e.2.reference = .ok reference) → d.reference = .error fault →
        (c.execute ⟨requests, reply :: replies⟩ p o).1 =
            .error (.decode (.documentName (.ofPath fault))) ∧
          ∃ rows rest, (c.stream ⟨requests, reply :: replies⟩ p o).1 =
              rows.map .ok ++ .error (.decode (.documentName (.ofPath fault))) :: rest ∧
            List.Forall₂ (fun e row => Row.IsOf e.1 e.2 row) before rows) ∧
      ((∀ e ∈ Response.timed chunks, ∃ reference, e.2.reference = .ok reference) →
        ∃ snapshot rows, (c.execute ⟨requests, reply :: replies⟩ p o).1 = .ok snapshot ∧
          (c.stream ⟨requests, reply :: replies⟩ p o).1 = rows.map .ok ∧
          List.Forall₂ (fun e row => Row.IsOf e.1 e.2 row) (Response.timed chunks) rows ∧
          snapshot.rows = rows.map fun row =>
            { row with executionTime := Response.last? (·.executionTime) chunks }) := by
  rw [execute_eq compiled, stream_eq streamed compiled]
  refine ⟨?_, fun chunks delivered => ?_⟩
  · rintro message rfl
    exact ⟨rfl, rfl⟩
  rw [Reply.whole_eq delivered, Reply.parts_eq delivered, flatMap_rowsOf, ok_bind,
    Snapshot.ofResponse_combine]
  constructor
  · intro before time d after fault documents known misnamed
    rw [documents]
    refine ⟨?_, ?_⟩
    · rw [mapM_eq_error_of_first (fun e he => Row.ofDocument_succeeds (known e he))
        (Row.ofDocument_eq_error misnamed)]
      rfl
    · obtain ⟨rows, streamedRows, each⟩ := map_itemOf known
      refine ⟨rows, after.map itemOf, ?_, each⟩
      have failed : itemOf (time, d) = .error (.decode (.documentName (.ofPath fault))) := by
        rw [itemOf, Row.ofDocument_eq_error misnamed]
        rfl
      rw [List.map_append, List.map_cons, streamedRows, failed]
  · intro known
    obtain ⟨rows, streamedRows, each⟩ := map_itemOf known
    rw [mapM_ofDocument each]
    exact ⟨_, rows, rfl, streamedRows, each, rfl⟩

end

/-- A reply in three parts: a document, nothing, and a document whose name cannot be read before a
computed row. -/
def interruptedReply : List Response :=
  [⟨none, [⟨some "projects/library/databases/main/documents/books/b", [], none, none⟩],
      some ⟨1, 0⟩, none⟩,
    .empty, ⟨none, [⟨some "books/b", [], none, none⟩, ⟨none, [], none, none⟩], none, none⟩]

/-- The rows of the whole database in a client that streams them. -/
theorem interruptedReply_agrees :
    let c : Client := ⟨.ofProject "library", false⟩
    let p := Pipeline.ofDatabase (.ofProject "library") []
    let x : Executor := ⟨[], [.chunks interruptedReply]⟩
    let error := ClientError.decode (.documentName (.ofPath (.resourceName "books/b")))
    (∃ request, c.compile p .unset = .ok request) ∧ (c.execute x p .unset).1 = .error error ∧
      ∃ row rest, (c.stream x p .unset).1 = .ok row :: .error error :: rest ∧
        row.executionTime = some ⟨1, 0⟩ := by
  intro c p x error
  have compiled : c.compile p .unset = .ok ⟨"projects/library/databases/(default)",
      ⟨[⟨"database", [], []⟩], []⟩, none⟩ := rfl
  obtain ⟨-, delivered⟩ :=
    @stream_agrees_with_execute c p .unset _ [] (.chunks interruptedReply) [] rfl compiled
  obtain ⟨interrupted, -⟩ := delivered interruptedReply rfl
  obtain ⟨whole, rows, rest, streamedRows, each⟩ :=
    interrupted [_] none _ [_] (.resourceName "books/b") rfl
      (List.forall_mem_singleton.2 ⟨some ⟨⟨"library", "main"⟩, ["books", "b"]⟩, rfl⟩) rfl
  obtain ⟨row, rfl⟩ : ∃ row, rows = [row] := List.length_eq_one_iff.1 each.length_eq.symm
  obtain ⟨-, -, -, -, time⟩ := (List.forall₂_cons.1 each).1
  exact ⟨⟨_, compiled⟩, whole, row, rest, streamedRows, time⟩

end Client
end DocumentPipeline
