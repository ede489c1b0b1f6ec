import DocumentPipeline.Error
import DocumentPipeline.Proofs.Paths
import Mathlib.Data.List.DropRight
import Mathlib.Data.List.TakeWhile

/-!
# Texts that name a path

A text names a path by its segments, with slashes between them. More slashes may stand before the
first segment and after the last one, any number of them, where the documentation allows for one.

* `Text.exists_trimChars`, `Text.trimChars_between`: what trimming takes away and what it leaves;
* `Path.Spells`: a text that spells segments, with so many slashes at its ends;
* `Path.segments_eq_ok_iff_spells`, `Path.Spells.unique`: a text has the segments that it spells,
  and spells them in one way;
* `CollectionReference.ofPath_eq_ok_iff_spells`, `DocumentReference.ofPath_eq_ok_iff_spells`: the
  texts that name collections and documents;
* `DatabaseId.Reads`: reading texts with an allowed number of slashes at their ends;
* `DatabaseId.reads_tolerating_one_iff`: any number is allowed, where one is documented.
-/

namespace DocumentPipeline

namespace Text
variable {c : Char}

/-- Trimming takes away a run of the character at either end. -/
theorem exists_trimChars (c : Char) (s : List Char) :
    ∃ before after, s = List.replicate before c ++ trimChars c s ++ List.replicate after c := by
  have leading : s.takeWhile (· == c) = List.replicate (s.takeWhile (· == c)).length c :=
    List.eq_replicate_iff.2 ⟨rfl, fun x hx => by simpa using List.mem_takeWhile_imp hx⟩
  let rest := s.dropWhile (· == c)
  have trailing : rest.rtakeWhile (· == c) = List.replicate (rest.rtakeWhile (· == c)).length c :=
    List.eq_replicate_iff.2 ⟨rfl, fun x hx => by simpa using List.mem_rtakeWhile_imp hx⟩
  refine ⟨(s.takeWhile (· == c)).length, (rest.rtakeWhile (· == c)).length, ?_⟩
  calc s = s.takeWhile (· == c) ++ rest := List.takeWhile_append_dropWhile.symm
    _ = s.takeWhile (· == c) ++ (rest.rdropWhile (· == c) ++ rest.rtakeWhile (· == c)) := by
      rw [List.rdropWhile_append_rtakeWhile]
    _ = _ := by
      rw [← leading, ← trailing, List.append_assoc]
      rfl

theorem dropWhile_replicate_append {core : List Char} (head : core.head? ≠ some c) (n : Nat) :
    (List.replicate n c ++ core).dropWhile (· == c) = core := by
  rw [List.dropWhile_append_of_pos fun x hx => beq_iff_eq.2 (List.eq_of_mem_replicate hx)]
  cases core with
  | nil => rfl
  | cons x rest =>
    have differs : x ≠ c := by simpa using head
    exact List.dropWhile_cons_of_neg (by simpa using differs)

/-- Trimming leaves what neither begins nor ends with the character. -/
theorem trimChars_between {core : List Char} (nonempty : core ≠ []) (head : core.head? ≠ some c)
    (last : core.getLast? ≠ some c) (before after : Nat) :
    trimChars c (List.replicate before c ++ core ++ List.replicate after c) = core := by
  have head : (core ++ List.replicate after c).head? ≠ some c := by
    rwa [List.head?_append_of_ne_nil core nonempty]
  have last : core.reverse.head? ≠ some c := by rwa [List.head?_reverse]
  rw [trimChars, List.append_assoc, dropWhile_replicate_append head, List.reverse_append,
    List.reverse_replicate, dropWhile_replicate_append last, List.reverse_reverse]

end Text

namespace Path

def slashes (n : Nat) : String := String.ofList (List.replicate n '/')

theorem toList_slashes (n : Nat) : (slashes n).toList = List.replicate n '/' :=
  String.toList_ofList

/-- A text that spells a path: its segments with slashes between them, and so many more slashes
before and after them. -/
structure Spells (before after : Nat) (segments : List String) (text : String) : Prop where
  nonempty : segments ≠ []
  segment : ∀ s ∈ segments, IsSegment s
  text_eq : text = slashes before ++ join segments ++ slashes after

theorem IsSegment.toList_ne_nil {s : String} (h : IsSegment s) : s.toList ≠ [] := by
  simpa using h.1

theorem join_singleton (s : String) : join [s] = s := String.intercalate_singleton

/-- A path that goes on below another. -/
theorem join_append {segments more : List String} (nonempty : segments ≠ []) (deeper : more ≠ []) :
    join (segments ++ more) = below (join segments) (join more) :=
  String.intercalate_append_of_ne_nil nonempty deeper

theorem exists_join_cons (first : String) (rest : List String) :
    ∃ more, (join (first :: rest)).toList = first.toList ++ more := by
  by_cases alone : rest = []
  · exact ⟨[], by rw [alone, join_singleton, List.append_nil]⟩
  · have same := join_append (List.cons_ne_nil first []) alone
    rw [List.singleton_append, join_singleton] at same
    exact ⟨"/".toList ++ (join rest).toList, by simp [same, below]⟩

theorem exists_join_concat (first : List String) (last : String) :
    ∃ more, (join (first ++ [last])).toList = more ++ last.toList := by
  by_cases alone : first = []
  · exact ⟨[], by rw [alone, List.nil_append, join_singleton, List.nil_append]⟩
  · have same := join_append alone (List.cons_ne_nil last [])
    rw [join_singleton] at same
    exact ⟨(join first).toList ++ "/".toList, by simp [same, below]⟩

section
variable {segments : List String} (nonempty : segments ≠ []) (h : ∀ s ∈ segments, IsSegment s)
include nonempty h

theorem join_toList_ne_nil : (join segments).toList ≠ [] := by
  obtain ⟨first, rest, rfl⟩ := List.exists_cons_of_ne_nil nonempty
  obtain ⟨more, same⟩ := exists_join_cons first rest
  have segment := h first List.mem_cons_self
  rw [same]
  exact List.append_ne_nil_of_left_ne_nil segment.toList_ne_nil more

/-- A path does not begin with a slash. -/
theorem join_head? : (join segments).toList.head? ≠ some '/' := by
  obtain ⟨first, rest, rfl⟩ := List.exists_cons_of_ne_nil nonempty
  obtain ⟨more, same⟩ := exists_join_cons first rest
  have segment := h first List.mem_cons_self
  rw [same, List.head?_append_of_ne_nil _ segment.toList_ne_nil]
  exact fun slash => segment.2 (List.mem_of_head? slash)

/-- A path does not end with a slash. -/
theorem join_getLast? : (join segments).toList.getLast? ≠ some '/' := by
  obtain rfl | ⟨first, last, rfl⟩ := List.eq_nil_or_concat' segments
  · exact absurd rfl nonempty
  · obtain ⟨more, same⟩ := exists_join_concat first last
    have segment := h last (by simp)
    rw [same, List.getLast?_append_of_ne_nil _ segment.toList_ne_nil]
    exact fun slash => segment.2 (List.mem_of_getLast? slash)

end

/-- The pieces of a text make up what is left of it when it is trimmed. -/
theorem join_pieces (text : String) :
    (join ((pieces text).map String.ofList)).toList = Text.trimChars '/' text.toList := by
  have toList_ofList : String.toList ∘ String.ofList = id := funext fun _ => String.toList_ofList
  rw [join, String.toList_intercalate, List.map_map, toList_ofList, List.map_id, pieces,
    Text.splitChars_eq_splitOn]
  exact List.intercalate_splitOn '/'

section
variable {before after : Nat} {segments : List String} {text : String}

theorem Spells.toList_eq (h : Spells before after segments text) :
    text.toList =
      List.replicate before '/' ++ (join segments).toList ++ List.replicate after '/' := by
  rw [h.text_eq, String.toList_append, String.toList_append, toList_slashes, toList_slashes]

/-- Trimming leaves the path. -/
theorem Spells.trimmed (h : Spells before after segments text) :
    Text.trimChars '/' text.toList = (join segments).toList := by
  rw [h.toList_eq]
  exact Text.trimChars_between (join_toList_ne_nil h.nonempty h.segment)
    (join_head? h.nonempty h.segment) (join_getLast? h.nonempty h.segment) before after

/-- **The segments that are spelled are found again.** -/
theorem Spells.pieces_eq (h : Spells before after segments text) :
    (pieces text).map String.ofList = segments := by
  have cut := split_join h.nonempty h.segment
  rwa [Text.split, ← h.trimmed] at cut

theorem Spells.filled (h : Spells before after segments text) : [] ∉ pieces text := by
  intro blank
  have member : String.ofList [] ∈ segments := h.pieces_eq ▸ List.mem_map_of_mem blank
  exact (h.segment _ member).1 String.ofList_nil

/-- A path spells its segments, without more slashes. -/
theorem Proper.spells {parity : Nat} (h : Proper parity segments) :
    Spells 0 0 segments (join segments) :=
  ⟨h.ne_nil, h.segment, by simp [slashes]⟩

theorem exists_spells (filled : [] ∉ pieces text) :
    ∃ before after, Spells before after ((pieces text).map String.ofList) text := by
  have proper : Proper ((pieces text).length % 2) ((pieces text).map String.ofList) :=
    Names.proper ⟨filled, rfl⟩
  obtain ⟨before, after, same⟩ := Text.exists_trimChars '/' text.toList
  refine ⟨before, after, proper.ne_nil, proper.segment, ?_⟩
  apply String.toList_injective
  rw [String.toList_append, String.toList_append, toList_slashes, toList_slashes, join_pieces]
  exact same

/-- **A text has the segments that it spells**, however many slashes stand at its ends. -/
theorem segments_eq_ok_iff_spells {parts : List String} :
    Path.segments text = .ok parts ↔ ∃ before after, Spells before after parts text := by
  rw [segments_eq_ok]
  constructor
  · rintro ⟨filled, rfl⟩
    exact exists_spells filled
  · rintro ⟨before, after, spells⟩
    exact ⟨spells.filled, spells.pieces_eq.symm⟩

/-- The slashes at the ends of a text and the segments between them are determined by it. -/
theorem Spells.unique {before' after' : Nat} {segments' : List String}
    (h : Spells before after segments text) (h' : Spells before' after' segments' text) :
    before = before' ∧ after = after' ∧ segments = segments' := by
  have same : segments = segments' := h.pieces_eq.symm.trans h'.pieces_eq
  subst same
  -- Without the slashes at the front the texts differ by those at the end alone.
  have rest {before after : Nat} (h : Spells before after segments text) :
      text.toList.dropWhile (· == '/') =
        (join segments).toList ++ List.replicate after '/' := by
    rw [h.toList_eq, List.append_assoc]
    refine Text.dropWhile_replicate_append ?_ before
    rw [List.head?_append_of_ne_nil _ (join_toList_ne_nil h.nonempty h.segment)]
    exact join_head? h.nonempty h.segment
  have whole := congrArg List.length (h.toList_eq.symm.trans h'.toList_eq)
  have ending := congrArg List.length ((rest h).symm.trans (rest h'))
  simp only [List.length_append, List.length_replicate] at whole ending
  exact ⟨by omega, by omega, rfl⟩

end
end Path

section
variable {db : DatabaseId} {text : String}

/-- **A text names a collection** if it spells an odd number of segments. -/
theorem CollectionReference.ofPath_eq_ok_iff_spells {c : CollectionReference} :
    ofPath db text = .ok c ↔
      c.database = db ∧ c.segments.length % 2 = 1 ∧
        ∃ before after, Path.Spells before after c.segments text := by
  simp only [ofPath, bind_eq_ok, Path.segments_eq_ok_iff_spells, return_unless_eq_ok]
  constructor
  · rintro ⟨segments, spells, odd, rfl⟩
    exact ⟨rfl, by simpa using odd, spells⟩
  · rintro ⟨rfl, odd, spells⟩
    exact ⟨c.segments, spells, by omega, rfl⟩

/-- **A text names a document** if it spells an even number of segments. -/
theorem DocumentReference.ofPath_eq_ok_iff_spells {d : DocumentReference} :
    ofPath db text = .ok d ↔
      d.database = db ∧ d.segments.length % 2 = 0 ∧
        ∃ before after, Path.Spells before after d.segments text := by
  simp only [ofPath, bind_eq_ok, Path.segments_eq_ok_iff_spells, return_unless_eq_ok]
  constructor
  · rintro ⟨segments, spells, even, rfl⟩
    exact ⟨rfl, by simpa using even, spells⟩
  · rintro ⟨rfl, even, spells⟩
    exact ⟨d.segments, spells, by omega, rfl⟩

/-- A collection is found again by its path. -/
theorem CollectionReference.ofPath_path {c : CollectionReference}
    (proper : Path.Proper 1 c.segments) : ofPath c.database c.path = .ok c :=
  ofPath_eq_ok_iff_spells.2 ⟨rfl, proper.length, 0, 0, proper.spells⟩

/-- A document is found again by its path. -/
theorem DocumentReference.ofPath_path {d : DocumentReference} (proper : Path.Proper 0 d.segments) :
    ofPath d.database d.path = .ok d :=
  ofPath_eq_ok_iff_spells.2 ⟨rfl, proper.length, 0, 0, proper.spells⟩

end

namespace DatabaseId

/-- A text is read by the grammar of paths, with an allowed number of slashes before the first
segment and after the last one: it names a collection if it spells an odd number of segments and a
document if it spells an even number of them, and all other texts are refused as arguments. -/
structure Reads (allowed : Nat → Prop) (db : DatabaseId) (text : String) : Prop where
  collection (c : CollectionReference) : CollectionReference.ofPath db text = .ok c ↔
    c.database = db ∧ c.segments.length % 2 = 1 ∧
      ∃ before after, allowed before ∧ allowed after ∧ Path.Spells before after c.segments text
  document (d : DocumentReference) : DocumentReference.ofPath db text = .ok d ↔
    d.database = db ∧ d.segments.length % 2 = 0 ∧
      ∃ before after, allowed before ∧ allowed after ∧ Path.Spells before after d.segments text
  noCollection : (∀ c, CollectionReference.ofPath db text ≠ .ok c) →
    ∃ fault, (CollectionReference.ofPath db text).mapError PipelineError.ofPath =
      .error (.invalidArgument (.path fault))
  noDocument : (∀ d, DocumentReference.ofPath db text ≠ .ok d) →
    ∃ fault, (DocumentReference.ofPath db text).mapError PipelineError.ofPath =
      .error (.invalidArgument (.path fault))

/-- What is no reference is an argument that is refused. -/
theorem refused_of_ne_ok {α : Type} {x : Except PathFault α} (h : ∀ a, x ≠ .ok a) :
    ∃ fault, x.mapError PipelineError.ofPath = .error (.invalidArgument (.path fault)) := by
  cases x with
  | ok a => exact absurd rfl (h a)
  | error fault => exact ⟨fault, rfl⟩

/-- **A text is read with so many slashes at its ends** as are allowed just when it spells no
segments with others: whatever their number, they are trimmed away. -/
theorem reads_iff {allowed : Nat → Prop} {db : DatabaseId} {text : String} :
    db.Reads allowed text ↔ ∀ before after segments,
      Path.Spells before after segments text → allowed before ∧ allowed after := by
  constructor
  · intro reads before after segments spells
    -- The text names a reference, which spells the same segments with slashes that are allowed.
    suffices ∃ before' after',
        allowed before' ∧ allowed after' ∧ Path.Spells before' after' segments text by
      obtain ⟨before', after', hbefore, hafter, spells'⟩ := this
      obtain ⟨rfl, rfl, -⟩ := spells.unique spells'
      exact ⟨hbefore, hafter⟩
    obtain even | odd := Nat.mod_two_eq_zero_or_one segments.length
    · have named : DocumentReference.ofPath db text = .ok ⟨db, segments⟩ :=
        DocumentReference.ofPath_eq_ok_iff_spells.2 ⟨rfl, even, before, after, spells⟩
      exact ((reads.document _).1 named).2.2
    · have named : CollectionReference.ofPath db text = .ok ⟨db, segments⟩ :=
        CollectionReference.ofPath_eq_ok_iff_spells.2 ⟨rfl, odd, before, after, spells⟩
      exact ((reads.collection _).1 named).2.2
  · intro within
    have spelled (segments : List String) :
        (∃ before after, Path.Spells before after segments text) ↔ ∃ before after,
          allowed before ∧ allowed after ∧ Path.Spells before after segments text := by
      constructor
      · rintro ⟨before, after, spells⟩
        obtain ⟨hbefore, hafter⟩ := within before after segments spells
        exact ⟨before, after, hbefore, hafter, spells⟩
      · rintro ⟨before, after, -, -, spells⟩
        exact ⟨before, after, spells⟩
    constructor
    · intro c
      rw [CollectionReference.ofPath_eq_ok_iff_spells, spelled]
    · intro d
      rw [DocumentReference.ofPath_eq_ok_iff_spells, spelled]
    · exact refused_of_ne_ok
    · exact refused_of_ne_ok

/-- **Slashes at the ends of a path.** Any number of them is read. One at either end is tolerated,
as it is documented, just when the text does not spell segments with more of them. -/
theorem reads_tolerating_one_iff (db : DatabaseId) (text : String) :
    db.Reads (fun _ => True) text ∧
      (db.Reads (· ≤ 1) text ↔
        ∀ before after segments, Path.Spells before after segments text →
          before ≤ 1 ∧ after ≤ 1) := by
  constructor
  · exact reads_iff.2 fun _ _ _ _ => ⟨trivial, trivial⟩
  · exact reads_iff

/-- A collection is named although two slashes stand before it. -/
theorem not_reads_tolerating_one : ¬∀ (db : DatabaseId) (text : String), db.Reads (· ≤ 1) text := by
  intro claim
  have named : CollectionReference.ofPath (.ofProject "library") "//books" =
      .ok ⟨.ofProject "library", ["books"]⟩ := by decide
  have doubled : Path.Spells 2 0 ["books"] "//books" := by
    refine ⟨by decide, ?_, by decide⟩
    intro s hs
    obtain rfl := List.mem_singleton.1 hs
    exact ⟨by decide, by decide⟩
  obtain ⟨-, -, before, after, few, -, spells⟩ := ((claim _ _).collection _).1 named
  obtain ⟨rfl, -, -⟩ := doubled.unique spells
  omega

end DatabaseId
end DocumentPipeline
