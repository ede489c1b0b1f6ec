import DocumentPipeline.Executor
import DocumentPipeline.Proofs.StreamedAnswers

/-!
# Responses that come in other groups

How an answer is cut into partial responses is up to whoever sends it. Some of the parts may have
been made one already, and it is the same answer still.

* `Response.join_assoc`, `Response.empty_join`, `Response.join_empty`: joining responses is
  associative, and the empty response changes nothing;
* `Response.combine_append`: partial responses as one, cut anywhere in two;
* `Response.combine_map_combine`: cut into groups, empty ones among them;
* `Response.last?_eq_none_iff`: when nothing is found in a field;
* `Response.combine_regroups`: groups that are made one first change nothing.
-/

namespace DocumentPipeline

namespace Response

theorem join_assoc (a b c : Response) : join (join a b) c = join a (join b c) := by
  simp only [join, Option.or_assoc, List.append_assoc]

theorem empty_join (r : Response) : join empty r = r := by
  simp only [join, empty, Option.or_none, List.nil_append]

theorem join_empty (r : Response) : join r empty = r := by
  simp only [join, empty, Option.none_or, List.append_nil]

theorem combine_nil : combine [] = empty := rfl

/-- What was joined before stays in front. -/
theorem foldl_join_eq_join (chunks : List Response) (before : Response) :
    chunks.foldl join before = join before (combine chunks) := by
  induction chunks generalizing before with
  | nil => rw [combine_nil, join_empty, List.foldl_nil]
  | cons r rest ih =>
    rw [combine, List.foldl_cons, List.foldl_cons, ih, ih, empty_join, join_assoc]

/-- **Partial responses cut in two** are one when both pieces are. -/
theorem combine_append (first second : List Response) :
    combine (first ++ second) = join (combine first) (combine second) := by
  rw [combine, List.foldl_append, foldl_join_eq_join, ← combine]

theorem combine_cons (r : Response) (rest : List Response) :
    combine (r :: rest) = join r (combine rest) := by
  rw [combine, List.foldl_cons, foldl_join_eq_join, empty_join]

/-- **Partial responses cut into groups** are one when the groups are. -/
theorem combine_map_combine (groups : List (List Response)) :
    combine (groups.map combine) = combine groups.flatten := by
  induction groups with
  | nil => rfl
  | cons group rest ih =>
    rw [List.map_cons, List.flatten_cons, combine_cons, combine_append, ih]

theorem last?_eq_none_iff {α : Type} {field : Response → Option α} {chunks : List Response} :
    last? field chunks = none ↔ ∀ r ∈ chunks, field r = none := by
  rw [last?, List.getLast?_eq_none_iff, List.filterMap_eq_nil_iff]

/-- A field of a response is the last that parts have in it, and it is absent when it is in all. -/
def IsLast {α : Type} (field : Response → Option α) (chunks : List Response) (whole : Response) :
    Prop :=
  field whole = (chunks.filterMap field).getLast? ∧
    (field whole = none ↔ ∀ r ∈ chunks, field r = none)

theorem isLast_of_eq {α : Type} {field : Response → Option α} {chunks : List Response}
    {whole : Response} (found : field whole = last? field chunks) : IsLast field chunks whole :=
  ⟨found, found ▸ last?_eq_none_iff⟩

/-- **Making groups of partial responses one first** does not change the whole, and an executor
gives it as the same answer. The results of the whole follow one another; its transaction, its time
and its statistics are, each for itself, the last that a part has. -/
theorem combine_regroups :
    (∀ groups : List (List Response),
      combine (groups.map combine) = combine groups.flatten ∧
        (Reply.chunks (groups.map combine)).whole = (Reply.chunks groups.flatten).whole) ∧
    ∀ chunks : List Response,
      (combine chunks).results = chunks.flatMap (·.results) ∧
        IsLast (·.transaction) chunks (combine chunks) ∧
        IsLast (·.executionTime) chunks (combine chunks) ∧
        IsLast (·.explainStats) chunks (combine chunks) := by
  refine ⟨fun groups => ?_, fun chunks => ?_⟩
  · have same := combine_map_combine groups
    exact ⟨same, congrArg Except.ok same⟩
  · have whole := combine_eq chunks
    refine ⟨?_, isLast_of_eq ?_, isLast_of_eq ?_, isLast_of_eq ?_⟩ <;> rw [whole]

/-- A part without results keeps what it has of the rest, also in a group of its own. -/
example (d : Document) (t : Timestamp) :
    combine ([[⟨none, [d], some t, none⟩], [], [⟨some [1], [], none, none⟩]].map combine) =
      ⟨some [1], [d], some t, none⟩ := rfl

end Response
end DocumentPipeline
