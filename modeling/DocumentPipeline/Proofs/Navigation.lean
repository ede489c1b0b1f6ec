import DocumentPipeline.Proofs.PathTexts

/-!
# Walks through references

A walk starts at a database and goes down to collections and documents, up to what they lie in, or
to the document of a resource name. Paths stay plain on the way, and going up undoes going down.

* `Path.Plain`: a path of segments, an odd or an even number of them, with no slash at its ends;
* `Place.Move`, `Place.Reached`: one step of a walk inside a database, and what walks lead to;
* `Place.Reached.wellFormed`: the path of every reference on a walk is plain;
* `Path.Spells.below`: a path that is spelled below another one begins with it;
* `DocumentReference.document_parent`, `CollectionReference.collection_parent`: down again after up;
* `DocumentReference.cut_path`, `CollectionReference.cut_path`: up is what stands before the last
  slash of a path;
* `Place.navigation_inverse`: all of this of the references that walks lead to.
-/

namespace DocumentPipeline

namespace Path

/-- A path in the form in which references keep it. -/
structure Plain (parity : Nat) (path : String) : Prop where
  length : (Text.split '/' path).length % 2 = parity
  segment : ∀ s ∈ Text.split '/' path, IsSegment s
  head : path.toList.head? ≠ some '/'
  last : path.toList.getLast? ≠ some '/'

variable {parity : Nat} {segments : List String}

theorem Proper.plain (h : Proper parity segments) : Plain parity (join segments) where
  length := by rw [h.cut, h.length]
  segment := by
    rw [h.cut]
    exact h.segment
  head := join_head? h.ne_nil h.segment
  last := join_getLast? h.ne_nil h.segment

/-- A path is what it lies in, followed by its last segment. -/
theorem join_eq_below (long : 1 < segments.length) :
    join segments = below (join segments.dropLast) (segments.getLastD "") := by
  obtain rfl | ⟨first, last, rfl⟩ := List.eq_nil_or_concat' segments
  · cases long
  · have deeper : first ≠ [] := by
      rintro rfl
      exact absurd long (Nat.lt_irrefl 1)
    rw [List.dropLast_concat, List.getLastD_concat, join_append deeper (by simp), join_singleton]

/-- One more segment below a path. -/
theorem Proper.spells_concat (h : Proper parity segments) {id : String} (segment : IsSegment id) :
    Spells 0 0 (segments ++ [id]) (below (join segments) id) := by
  refine ⟨by simp, ?_, ?_⟩
  · intro s hs
    obtain member | member := List.mem_append.1 hs
    · exact h.segment s member
    · rwa [List.mem_singleton.1 member]
  · rw [join_append h.ne_nil (by simp), join_singleton]
    simp [slashes]

/-- **What is spelled below a path begins with it**, if it is another path: the slashes that are
trimmed away do not reach into it. -/
theorem Spells.below (h : Proper parity segments) {id : String} {before after : Nat}
    {parts : List String} (spells : Spells before after parts (below (join segments) id))
    (other : parts ≠ segments) : ∃ rest, join parts = join segments ++ "/" ++ rest := by
  have leading : before = 0 := by
    by_contra slash
    obtain ⟨n, rfl⟩ := Nat.exists_eq_succ_of_ne_zero slash
    have head := congrArg List.head? spells.toList_eq
    rw [Path.below, String.toList_append, String.toList_append, List.append_assoc,
      List.head?_append_of_ne_nil _ (join_toList_ne_nil h.ne_nil h.segment)] at head
    exact join_head? h.ne_nil h.segment head
  subst leading
  have same : (join segments ++ "/").toList ++ id.toList =
      (join parts).toList ++ List.replicate after '/' := by
    rw [← String.toList_append]
    simpa [Path.below] using spells.toList_eq
  obtain ⟨rest, same, -⟩ | ⟨gap, inside, trailing⟩ := List.append_eq_append_iff.1 same
  · exact ⟨String.ofList rest, String.toList_injective (by simpa using same)⟩
  · -- The slash below the path would be trimmed away, and nothing would be left below it.
    obtain ⟨-, blank, -⟩ := List.append_eq_replicate_iff.1 trailing.symm
    have spells : Spells 0 gap.length parts (join segments ++ "/") := by
      refine ⟨spells.nonempty, spells.segment, String.toList_injective ?_⟩
      rw [inside, String.toList_append, String.toList_append, toList_slashes, toList_slashes,
        ← blank]
      rfl
    have slash : Spells 0 1 segments (join segments ++ "/") :=
      ⟨h.ne_nil, h.segment, by simp [slashes]⟩
    exact absurd (spells.unique slash).2.2 other

end Path

section
variable {c : CollectionReference} {d : DocumentReference}

/-! ## Documents below collections -/

/-- A document lies below its collection, under its id. -/
theorem DocumentReference.path_eq (proper : Path.Proper 0 d.segments) :
    d.path = Path.below d.parent.path d.id := by
  have nonempty := List.length_pos_of_ne_nil proper.ne_nil
  have even := proper.length
  exact Path.join_eq_below (by omega)

/-- **A document is found again from its collection.** -/
theorem DocumentReference.document_parent (proper : Path.Proper 0 d.segments) :
    d.parent.document d.id = .ok d := by
  rw [CollectionReference.document, ← d.path_eq proper]
  exact ofPath_path proper

/-- The path of a document begins with that of the collection that it was looked for in. -/
theorem CollectionReference.path_of_document (proper : Path.Proper 1 c.segments) {id : String}
    (h : c.document id = .ok d) : ∃ rest, d.path = c.path ++ "/" ++ rest := by
  obtain ⟨-, even, before, after, spells⟩ := DocumentReference.ofPath_eq_ok_iff_spells.1 h
  have odd := proper.length
  refine spells.below proper ?_
  intro same
  rw [same] at even
  omega

/-- **A segment leads to a document**, and up from there again. -/
theorem CollectionReference.document_of_segment (proper : Path.Proper 1 c.segments) {id : String}
    (segment : Path.IsSegment id) : ∃ d, c.document id = .ok d ∧ d.parent = c ∧ d.id = id := by
  refine ⟨⟨c.database, c.segments ++ [id]⟩, ?_, ?_, List.getLastD_concat⟩
  · refine DocumentReference.ofPath_eq_ok_iff_spells.2 ⟨rfl, ?_, 0, 0, proper.spells_concat segment⟩
    have odd := proper.length
    simp only [List.length_append, List.length_singleton]
    omega
  · rw [DocumentReference.parent, List.dropLast_concat]

/-! ## Collections below documents -/

theorem CollectionReference.parent?_eq_some :
    c.parent? = some d ↔ 1 < c.segments.length ∧ d = ⟨c.database, c.segments.dropLast⟩ := by
  rw [parent?]
  split
  · next short =>
    constructor
    · exact nofun
    · rintro ⟨long, -⟩
      omega
  · next long =>
    rw [Option.some.injEq, eq_comm]
    exact ⟨fun same => ⟨by omega, same⟩, And.right⟩

/-- A collection is at the root if its path is one segment. -/
theorem CollectionReference.parent?_eq_none (proper : Path.Proper 1 c.segments) :
    c.parent? = none ↔ Path.IsSegment c.path := by
  have short : c.parent? = none ↔ c.segments.length ≤ 1 := by
    rw [parent?]
    split
    · next short => exact ⟨fun _ => short, fun _ => rfl⟩
    · next long => exact ⟨nofun, fun short => absurd short long⟩
  rw [short]
  constructor
  · intro short
    obtain ⟨s, alone⟩ : ∃ s, c.segments = [s] := by
      have nonempty := List.length_pos_of_ne_nil proper.ne_nil
      exact List.length_eq_one_iff.1 (by omega)
    rw [path, alone, Path.join_singleton]
    exact proper.segment s (by rw [alone]; exact List.mem_singleton_self s)
  · intro segment
    have cut : Text.split '/' c.path = c.segments := proper.cut
    rw [Text.split, Text.splitChars_eq_splitOn, List.splitOn_eq_singleton segment.2] at cut
    exact (congrArg List.length cut).ge

/-- A collection that is not at the root lies below its document, under its id. -/
theorem CollectionReference.path_eq (inside : c.parent? = some d) :
    c.path = Path.below d.path c.id := by
  obtain ⟨long, rfl⟩ := parent?_eq_some.1 inside
  exact Path.join_eq_below long

/-- **A collection is found again from its document.** -/
theorem CollectionReference.collection_parent (proper : Path.Proper 1 c.segments)
    (inside : c.parent? = some d) : d.collection c.id = .ok c := by
  obtain ⟨-, rfl⟩ := parent?_eq_some.1 inside
  rw [DocumentReference.collection, ← path_eq inside]
  exact ofPath_path proper

/-- The path of a collection begins with that of the document that it was looked for in. -/
theorem DocumentReference.path_of_collection (proper : Path.Proper 0 d.segments) {id : String}
    (h : d.collection id = .ok c) : ∃ rest, c.path = d.path ++ "/" ++ rest := by
  obtain ⟨-, odd, before, after, spells⟩ := CollectionReference.ofPath_eq_ok_iff_spells.1 h
  have even := proper.length
  refine spells.below proper ?_
  intro same
  rw [same] at odd
  omega

/-- **A segment leads to a collection**, and up from there again. -/
theorem DocumentReference.collection_of_segment (proper : Path.Proper 0 d.segments) {id : String}
    (segment : Path.IsSegment id) :
    ∃ c, d.collection id = .ok c ∧ c.parent? = some d ∧ c.id = id := by
  refine ⟨⟨d.database, d.segments ++ [id]⟩, ?_, ?_, List.getLastD_concat⟩
  · refine CollectionReference.ofPath_eq_ok_iff_spells.2
      ⟨rfl, ?_, 0, 0, proper.spells_concat segment⟩
    have even := proper.length
    simp only [List.length_append, List.length_singleton]
    omega
  · have nonempty := List.length_pos_of_ne_nil proper.ne_nil
    refine CollectionReference.parent?_eq_some.2 ⟨?_, ?_⟩
    · simpa using nonempty
    · rw [List.dropLast_concat]

/-! ## The last slash of a path -/

/-- What stands before and after the last separator of a text, if there is one. -/
def Text.cutAtLast? (sep : Char) (text : String) : Option (String × String) :=
  match text.toList.reverse.dropWhile (· ≠ sep) with
  | [] => none
  | _ :: before =>
    some (String.ofList before.reverse,
      String.ofList (text.toList.reverse.takeWhile (· ≠ sep)).reverse)

theorem Path.cutAtLast?_below (path : String) {id : String} (segment : Path.IsSegment id) :
    Text.cutAtLast? '/' (Path.below path id) = some (path, id) := by
  have reversed : (Path.below path id).toList.reverse =
      id.toList.reverse ++ '/' :: path.toList.reverse := by
    simp [Path.below]
  have apart : ∀ c ∈ id.toList.reverse, decide (c ≠ '/') = true := by
    intro c hc
    exact decide_eq_true fun slash => segment.2 (slash ▸ List.mem_reverse.1 hc)
  rw [Text.cutAtLast?, reversed, List.dropWhile_append_of_pos apart,
    List.takeWhile_append_of_pos apart]
  simp

theorem Path.cutAtLast?_segment {s : String} (segment : Path.IsSegment s) :
    Text.cutAtLast? '/' s = none := by
  have apart : s.toList.reverse.dropWhile (· ≠ '/') = [] := by
    rw [List.dropWhile_eq_nil_iff]
    intro c hc
    exact decide_eq_true fun slash => segment.2 (slash ▸ List.mem_reverse.1 hc)
  rw [Text.cutAtLast?, apart]

theorem Path.Proper.last {parity : Nat} {segments : List String}
    (proper : Path.Proper parity segments) : Path.IsSegment (segments.getLastD "") := by
  rw [List.getLastD_eq_getLast?, List.getLast?_eq_some_getLast proper.ne_nil]
  exact proper.segment _ (List.getLast_mem proper.ne_nil)

/-- **The collection of a document** is what stands before the last slash of its path, and its id is
what stands after it. -/
theorem DocumentReference.cut_path (proper : Path.Proper 0 d.segments) :
    Text.cutAtLast? '/' d.path = some (d.parent.path, d.id) := by
  rw [d.path_eq proper]
  exact Path.cutAtLast?_below _ proper.last

/-- **The document of a collection** is what stands before the last slash of its path, and its id is
what stands after it. There is no slash in the path of a collection at the root. -/
theorem CollectionReference.cut_path (proper : Path.Proper 1 c.segments) :
    Text.cutAtLast? '/' c.path = c.parent?.map fun d => (d.path, c.id) := by
  cases inside : c.parent? with
  | none => exact Path.cutAtLast?_segment ((c.parent?_eq_none proper).1 inside)
  | some d =>
    rw [path_eq inside]
    exact Path.cutAtLast?_below _ proper.last

end

/-! ## Walks -/

/-- Where a walk can be. -/
inductive Place where
  | database (db : DatabaseId)
  | collection (c : CollectionReference)
  | document (d : DocumentReference)

namespace Place

def databaseId : Place → DatabaseId
  | .database db => db
  | .collection c => c.database
  | .document d => d.database

/-- A step down by a text, or a step up. -/
inductive Move : Place → Place → Prop where
  | collection {db : DatabaseId} {path : String} {c : CollectionReference} :
    CollectionReference.ofPath db path = .ok c → Move (.database db) (.collection c)
  | document {db : DatabaseId} {path : String} {d : DocumentReference} :
    DocumentReference.ofPath db path = .ok d → Move (.database db) (.document d)
  | below {c : CollectionReference} {id : String} {d : DocumentReference} :
    c.document id = .ok d → Move (.collection c) (.document d)
  | inside {d : DocumentReference} {id : String} {c : CollectionReference} :
    d.collection id = .ok c → Move (.document d) (.collection c)
  | owner {c : CollectionReference} {d : DocumentReference} :
    c.parent? = some d → Move (.collection c) (.document d)
  | parent {d : DocumentReference} : Move (.document d) (.collection d.parent)

/-- Where a walk from a database leads. Resource names lead anywhere. -/
inductive Reached (db : DatabaseId) : Place → Prop where
  | start : Reached db (.database db)
  | move {a b : Place} : Reached db a → Move a b → Reached db b
  | named {a : Place} {name : String} {d : DocumentReference} :
    Reached db a → DocumentReference.ofResourceName name = .ok d → Reached db (.document d)

/-- **A step inside a database stays in it.** -/
theorem Move.databaseId_eq {a b : Place} (h : Move a b) : b.databaseId = a.databaseId := by
  cases h with
  | collection h => exact (CollectionReference.ofPath_eq_ok_iff_spells.1 h).1
  | document h => exact (DocumentReference.ofPath_eq_ok_iff_spells.1 h).1
  | below h => exact (DocumentReference.ofPath_eq_ok_iff_spells.1 h).1
  | inside h => exact (CollectionReference.ofPath_eq_ok_iff_spells.1 h).1
  | owner h =>
    obtain ⟨-, rfl⟩ := CollectionReference.parent?_eq_some.1 h
    rfl
  | parent => rfl

/-- What a walk leads to can be got hold of. -/
def Obtained : Place → Prop
  | .database _ => True
  | .collection c => c.Obtained
  | .document d => d.Obtained

theorem Move.obtained {a b : Place} (h : Move a b) (obtained : a.Obtained) : b.Obtained := by
  cases h with
  | collection h => exact .ofPath h
  | document h => exact .ofPath h
  | below h => exact .inside obtained h
  | inside h => exact .inside obtained h
  | owner h => exact .around obtained h
  | parent => exact .around obtained

theorem Reached.obtained {db : DatabaseId} {p : Place} (h : Reached db p) : p.Obtained := by
  induction h with
  | start => trivial
  | move _ step ih => exact step.obtained ih
  | named _ found _ => exact .ofResourceName found

/-- A collection at a path of an odd number of segments, or a document at one of an even number. -/
def WellFormed : Place → Prop
  | .database _ => True
  | .collection c => Path.Plain 1 c.path
  | .document d => Path.Plain 0 d.path

/-- **Walks keep to plain paths.** -/
theorem Reached.wellFormed {db : DatabaseId} {p : Place} (h : Reached db p) : p.WellFormed := by
  have obtained := h.obtained
  cases p with
  | database _ => trivial
  | collection c => exact (CollectionReference.Obtained.proper obtained).plain
  | document d => exact (DocumentReference.Obtained.proper obtained).plain

/-- **Walks through references.** All paths on a walk are plain, and only resource names lead to
another database. From what a document or a collection lies in, its id leads back to it; a
collection lies in nothing just when its path is one segment. What is found below a reference has a
path that begins with its path, and a segment always leads down, and from there up again. -/
theorem navigation_inverse (db : DatabaseId) :
    (∀ p, Reached db p → p.WellFormed) ∧
      (∀ a b, Move a b → b.databaseId = a.databaseId) ∧
      (∀ d, Reached db (.document d) →
        d.parent.document d.id = .ok d ∧
          (∀ id c, d.collection id = .ok c → ∃ rest, c.path = d.path ++ "/" ++ rest) ∧
          ∀ id, Path.IsSegment id →
            ∃ c, d.collection id = .ok c ∧ c.parent? = some d ∧ c.id = id) ∧
      ∀ c, Reached db (.collection c) →
        (∀ d, c.parent? = some d → d.collection c.id = .ok c) ∧
          (c.parent? = none ↔ Path.IsSegment c.path) ∧
          (∀ id d, c.document id = .ok d → ∃ rest, d.path = c.path ++ "/" ++ rest) ∧
          ∀ id, Path.IsSegment id → ∃ d, c.document id = .ok d ∧ d.parent = c ∧ d.id = id := by
  refine ⟨fun p => Reached.wellFormed, fun a b => Move.databaseId_eq, ?_, ?_⟩
  · intro d reached
    have proper := DocumentReference.Obtained.proper reached.obtained
    exact ⟨d.document_parent proper, fun id c => d.path_of_collection proper,
      fun id => d.collection_of_segment proper⟩
  · intro c reached
    have proper := CollectionReference.Obtained.proper reached.obtained
    exact ⟨fun d => c.collection_parent proper, c.parent?_eq_none proper,
      fun id d => c.path_of_document proper, fun id => c.document_of_segment proper⟩

def library : DatabaseId := .ofProject "library"

def book : DocumentReference := ⟨library, ["books", "b1"]⟩

def reviews : CollectionReference := ⟨library, ["books", "b1", "reviews"]⟩

/-- The reviews of a book, reached from the book, lead back to it and down again. -/
theorem reviews_lead_back :
    Reached library (.collection reviews) ∧ Path.Plain 1 "books/b1/reviews" ∧
      reviews.parent? = some book ∧ book.collection "reviews" = .ok reviews ∧
      book.parent.document "b1" = .ok book := by
  have down : Reached library (.document book) :=
    .move .start (@Move.document library "/books/b1/" book (by decide))
  have deeper : Reached library (.collection reviews) :=
    .move down (@Move.inside book "reviews" reviews (by decide))
  have inside : reviews.parent? = some book := by decide
  obtain ⟨plain, -, document, collection⟩ := navigation_inverse library
  exact ⟨deeper, plain _ deeper, inside, (collection reviews deeper).1 book inside,
    (document book down).1⟩

end Place
end DocumentPipeline
