import DocumentPipeline.Proofs.PathTexts
import Mathlib.Data.Option.Basic
import Mathlib.Data.String.Basic

/-!
# Resource names

The resource name of a document holds the ids of its project and of its database, each of them up to
a mark, and then its path. A reader cuts at the place where a mark first stands, so the ids must not
hold the mark themselves, nor a beginning of it that what follows completes.

* `Text.cutAt_eq_some_iff`: cutting is cutting at the first occurrence;
* `Text.OnlyAtEnd`: a mark that stands, after a text, nowhere before the end of that text;
* `DocumentReference.ofResourceName_eq_ok`: the names that stand for documents;
* `DocumentReference.resourceName_roundTrips`: a document is found again by its name just when its
  ids can be told from the marks, and the document of a name always is.
-/

namespace DocumentPipeline

namespace Text

/-- **A text is cut where the separator first stands.** -/
theorem cutAt_eq_some_iff {sep s before after : List Char} :
    cutAt sep s = some (before, after) ↔
      s = before ++ sep ++ after ∧
        ∀ before' after', s = before' ++ sep ++ after' → before.length ≤ before'.length := by
  -- Where the separator does not begin the text, all its occurrences lie in the rest of it.
  induction s generalizing before after with
  | nil =>
    rw [cutAt]
    constructor
    · intro cut
      split at cut
      · next blank =>
        cases cut
        exact ⟨by rw [blank]; rfl, fun _ _ _ => Nat.zero_le _⟩
      · cases cut
    · rintro ⟨same, -⟩
      simp at same
      simp [same]
  | cons c rest ih =>
    rw [cutAt]
    split
    · next after' found =>
      have begins : sep ++ after' = c :: rest := List.isPrefixOf?_eq_some_iff_append_eq.1 found
      constructor
      · rintro ⟨⟩
        exact ⟨begins.symm, fun _ _ _ => Nat.zero_le _⟩
      · rintro ⟨same, first⟩
        have short := first [] after' begins.symm
        obtain rfl : before = [] := List.eq_nil_of_length_eq_zero (Nat.le_zero.1 short)
        have rests : after' = after := List.append_cancel_left (begins.trans same)
        rw [rests]
    · next missing =>
      have later {before after : List Char} (same : c :: rest = before ++ sep ++ after) :
          ∃ before', before = c :: before' ∧ rest = before' ++ sep ++ after := by
        cases before with
        | nil =>
          have found : sep.isPrefixOf? (c :: rest) = some after :=
            List.isPrefixOf?_eq_some_iff_append_eq.2 same.symm
          rw [missing] at found
          cases found
        | cons x before' =>
          rw [List.cons_append, List.cons_append, List.cons.injEq] at same
          obtain ⟨rfl, same⟩ := same
          exact ⟨before', rfl, same⟩
      rw [Option.map_eq_some_iff]
      constructor
      · rintro ⟨⟨before', after'⟩, cut, ⟨⟩⟩
        obtain ⟨rfl, first⟩ := ih.1 cut
        refine ⟨rfl, fun other after' same => ?_⟩
        obtain ⟨other', rfl, rests⟩ := later same
        exact Nat.succ_le_succ (first other' after' rests)
      · rintro ⟨same, first⟩
        obtain ⟨before', rfl, rfl⟩ := later same
        refine ⟨(before', after), ih.2 ⟨rfl, fun other after' same => ?_⟩, rfl⟩
        exact Nat.le_of_succ_le_succ (first (c :: other) after' (congrArg (c :: ·) same))

/-- Where a text is followed by a mark, the mark stands only at the end: its first occurrence is the
final one. -/
def OnlyAtEnd (mark s : String) : Prop :=
  ∀ before after : String, s ++ mark = before ++ mark ++ after → after = ""

theorem onlyAtEnd_iff {mark s : String} :
    OnlyAtEnd mark s ↔ ∀ before after : List Char,
      s.toList ++ mark.toList = before ++ mark.toList ++ after → after = [] := by
  constructor
  · intro h before after same
    have blank := h (String.ofList before) (String.ofList after) (String.toList_injective (by
      simpa using same))
    exact String.ofList_eq_empty_iff.1 blank
  · intro h before after same
    have blank := h before.toList after.toList (by simpa using congrArg String.toList same)
    simpa using blank

/-- **What stands before a mark is found again** just when the mark stands only after it. -/
theorem cutAt_append_iff {mark s : String} {rest : List Char} :
    cutAt mark.toList (s.toList ++ mark.toList ++ rest) = some (s.toList, rest) ↔
      OnlyAtEnd mark s := by
  rw [cutAt_eq_some_iff, onlyAtEnd_iff]
  constructor
  · rintro ⟨-, first⟩ before after same
    have early := first before (after ++ rest) (by rw [same, List.append_assoc])
    have length := congrArg List.length same
    simp only [List.length_append] at length
    exact List.eq_nil_of_length_eq_zero (by omega)
  · refine fun h => ⟨rfl, fun before after same => ?_⟩
    by_contra early
    have within : before ++ mark.toList <+: s.toList ++ mark.toList :=
      List.prefix_of_prefix_length_le ⟨after, same.symm⟩ ⟨rest, rfl⟩ (by simp; omega)
    obtain ⟨more, same⟩ := within
    have length := congrArg List.length same
    rw [h before more same.symm] at length
    simp only [List.length_append, List.length_nil] at length
    omega

/-- A text is cut into what stands before its mark and what stands after it. -/
theorem cutAt_mark_iff {mark before after : String} {s : List Char} :
    cutAt mark.toList s = some (before.toList, after.toList) ↔
      s = (before ++ mark ++ after).toList ∧ OnlyAtEnd mark before := by
  have whole : OnlyAtEnd mark before ↔
      cutAt mark.toList (before.toList ++ mark.toList ++ after.toList) =
        some (before.toList, after.toList) := cutAt_append_iff.symm
  rw [whole, String.toList_append, String.toList_append]
  constructor
  · intro cut
    have same := (cutAt_eq_some_iff.1 cut).1
    exact ⟨same, same ▸ cut⟩
  · rintro ⟨rfl, cut⟩
    exact cut

instance (mark s : String) : Decidable (OnlyAtEnd mark s) :=
  decidable_of_iff (cutAt mark.toList (s.toList ++ mark.toList ++ []) = some (s.toList, []))
    cutAt_append_iff

/-- The end of the text begins the mark, and what follows completes it. -/
example : ¬OnlyAtEnd "/databases/" "library/databases" := by decide

/-- Where a text lacks the first character of the mark, the mark stands only after it. -/
theorem onlyAtEnd_of_notMem {mark s : String} {c : Char} (begins : mark.toList.head? = some c)
    (h : c ∉ s.toList) : OnlyAtEnd mark s := by
  rw [onlyAtEnd_iff]
  intro before after same
  rw [List.append_assoc] at same
  obtain ⟨gap, -, overlap⟩ | ⟨gap, inside, overlap⟩ := List.append_eq_append_iff.1 same
  · have length := congrArg List.length overlap
    simp only [List.length_append] at length
    exact List.eq_nil_of_length_eq_zero (by omega)
  · cases gap with
    | nil => simpa using overlap
    | cons x gap =>
      -- The mark would begin inside the text.
      have first : some c = some x := by
        have heads := congrArg List.head? overlap
        rwa [List.head?_append, begins] at heads
      obtain rfl := Option.some.inj first
      exact absurd (by rw [inside]; simp) h

end Text

/-- The ids of a database can be told from the marks between them. -/
structure DatabaseId.Recoverable (db : DatabaseId) : Prop where
  project : db.project ≠ ""
  database : db.database ≠ ""
  projectEnd : Text.OnlyAtEnd "/databases/" db.project
  databaseEnd : Text.OnlyAtEnd "/documents/" db.database

/-- Ids without a slash can be told from the marks. -/
theorem DatabaseId.recoverable_of_segments {db : DatabaseId} (project : Path.IsSegment db.project)
    (database : Path.IsSegment db.database) : db.Recoverable where
  project := project.1
  database := database.1
  projectEnd := Text.onlyAtEnd_of_notMem rfl project.2
  databaseEnd := Text.onlyAtEnd_of_notMem rfl database.2

namespace DocumentReference

/-- The parts of a resource name, cut at the marks between them. -/
theorem resourceParts?_eq_some {name project database text : String} :
    resourceParts? name = some (project, database, text) ↔
      name = "projects/" ++ (project ++ "/databases/" ++ (database ++ "/documents/" ++ text)) ∧
        DatabaseId.Recoverable ⟨project, database⟩ := by
  simp only [resourceParts?, Option.bind_eq_bind, Option.bind_eq_some_iff,
    List.isPrefixOf?_eq_some_iff_append_eq]
  constructor
  · rintro ⟨rest, begins, ⟨p, rest'⟩, cut, ⟨q, t⟩, cut', ⟨⟩, checked, same⟩
    have named := (Option.guard_eq_some' _).1 checked
    obtain ⟨rfl, rfl, rfl⟩ : p = project.toList ∧ q = database.toList ∧ t = text.toList := by
      simpa [String.ofList_eq] using same
    have cut' : Text.cutAt "/documents/".toList rest' = some (database.toList, text.toList) := cut'
    obtain ⟨rfl, databaseEnd⟩ := Text.cutAt_mark_iff.1 cut'
    obtain ⟨rfl, projectEnd⟩ := Text.cutAt_mark_iff.1 cut
    refine ⟨String.toList_injective ?_, ?_, ?_, projectEnd, databaseEnd⟩
    · rw [String.toList_append, begins]
    · simpa using named.1
    · simpa using named.2
  · rintro ⟨rfl, ids⟩
    have named : project.toList ≠ [] ∧ database.toList ≠ [] := by
      simpa using And.intro ids.project ids.database
    refine ⟨_, String.toList_append.symm, _, Text.cutAt_mark_iff.2 ⟨rfl, ids.projectEnd⟩, _,
      Text.cutAt_mark_iff.2 ⟨rfl, ids.databaseEnd⟩, (), (Option.guard_eq_some' _).2 named, ?_⟩
    simp

/-- A name below the root of a database, by its parts. -/
theorem documentsRoot_append (db : DatabaseId) (text : String) : db.documentsRoot ++ "/" ++ text =
    "projects/" ++ (db.project ++ "/databases/" ++ (db.database ++ "/documents/" ++ text)) := by
  have mark : "/documents/" = "/documents" ++ "/" := by decide
  simp only [mark, DatabaseId.documentsRoot, DatabaseId.resourceName, String.append_assoc]

/-- **The documents that names stand for.** A name is cut at its marks, and what comes after them is
a path. -/
theorem ofResourceName_eq_ok {name : String} {d : DocumentReference} :
    ofResourceName name = .ok d ↔
      d.database.Recoverable ∧
        ∃ text, name = d.database.documentsRoot ++ "/" ++ text ∧ ofPath d.database text = .ok d := by
  rw [ofResourceName]
  constructor
  · intro found
    split at found
    · cases found
    · next project database text parts =>
      obtain ⟨rfl, ids⟩ := resourceParts?_eq_some.1 parts
      obtain ⟨inside, -⟩ := ofPath_eq_ok_iff_spells.1 found
      rw [inside]
      exact ⟨ids, text, (documentsRoot_append ⟨project, database⟩ text).symm, found⟩
  · rintro ⟨ids, text, rfl, found⟩
    have parts : resourceParts? (d.database.documentsRoot ++ "/" ++ text) =
        some (d.database.project, d.database.database, text) :=
      resourceParts?_eq_some.2 ⟨documentsRoot_append d.database text, ids⟩
    rw [parts]
    exact found

/-- A document at a proper path is found again by its name just when its ids can be told from the
marks. -/
theorem ofResourceName_resourceName {d : DocumentReference} (proper : Path.Proper 0 d.segments) :
    ofResourceName d.resourceName = .ok d ↔ d.database.Recoverable := by
  rw [ofResourceName_eq_ok]
  constructor
  · rintro ⟨ids, -⟩
    exact ids
  · intro ids
    exact ⟨ids, d.path, rfl, ofPath_path proper⟩

/-- **Names and documents.** A document that a caller can get hold of is found again by its name
just when its ids can be told from the marks, which is so at least when they have no slash. A name
that stands for a document has its ids before the marks, none of them empty, and after them a text
that spells its path, and the document is found again by its own name. -/
theorem resourceName_roundTrips :
    (∀ d : DocumentReference, d.Obtained →
      (ofResourceName d.resourceName = .ok d ↔ d.database.Recoverable) ∧
        (Path.IsSegment d.database.project → Path.IsSegment d.database.database →
          ofResourceName d.resourceName = .ok d)) ∧
      ∀ (name : String) (d : DocumentReference), ofResourceName name = .ok d →
        d.database.project ≠ "" ∧ d.database.database ≠ "" ∧
          (∃ text before after,
            name = "projects/" ++ d.database.project ++ "/databases/" ++ d.database.database ++
              "/documents/" ++ text ∧
            Path.Spells before after d.segments text) ∧
          ofResourceName d.resourceName = .ok d := by
  constructor
  · intro d obtained
    have found := ofResourceName_resourceName obtained.proper
    refine ⟨found, fun project database => found.2 ?_⟩
    exact DatabaseId.recoverable_of_segments project database
  · intro name d named
    have proper := (Obtained.ofResourceName named).proper
    obtain ⟨ids, text, same, path⟩ := ofResourceName_eq_ok.1 named
    obtain ⟨-, -, before, after, spells⟩ := ofPath_eq_ok_iff_spells.1 path
    refine ⟨ids.project, ids.database, ⟨text, before, after, ?_, spells⟩, ?_⟩
    · rw [same, documentsRoot_append]
      simp only [String.append_assoc]
    · exact (ofResourceName_resourceName proper).2 ids

/-- A document whose path has the words of the marks in it. -/
def marked : DocumentReference := ⟨⟨"library", "main"⟩, ["databases", "documents"]⟩

theorem marked_found_again :
    marked.Obtained ∧ ofResourceName marked.resourceName = .ok marked ∧
      ofResourceName "projects/library/databases/main/documents//databases/documents/" =
        .ok marked ∧
      ∃ text before after,
        "projects/library/databases/main/documents//databases/documents/" =
          "projects/library/databases/main/documents/" ++ text ∧
        Path.Spells before after ["databases", "documents"] text := by
  have path : ofPath ⟨"library", "main"⟩ "databases/documents" = .ok marked := by decide
  have named : ofResourceName "projects/library/databases/main/documents//databases/documents/" =
      .ok marked := by decide
  have obtained : marked.Obtained := .ofPath path
  have slashFree : Path.IsSegment "library" ∧ Path.IsSegment "main" :=
    ⟨⟨by decide, by decide⟩, by decide, by decide⟩
  obtain ⟨-, -, ⟨text, before, after, same, spells⟩, -⟩ := resourceName_roundTrips.2 _ _ named
  refine ⟨obtained, (resourceName_roundTrips.1 marked obtained).2 slashFree.1 slashFree.2, named,
    text, before, after, same, spells⟩

end DocumentReference

end DocumentPipeline
