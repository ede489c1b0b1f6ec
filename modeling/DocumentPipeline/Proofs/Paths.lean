import DocumentPipeline.Proofs.Success
import DocumentPipeline.Reference

/-!
# Paths and references

A path is cut into segments at its slashes, and whatever reference a caller can get hold of has a
path that can be cut again:

* `Text.splitChars_eq_splitOn`: the pieces of a text are those of `List.splitOn`;
* `Path.split_join`: segments are found again in the path that joins them;
* `Path.Proper`: paths of segments, an odd or an even number of them, and `Path.Names`: the texts
  that lead to such paths;
* `CollectionReference.ofPath_eq_ok`, `DocumentReference.ofPath_eq_ok`: which texts name a
  collection and which a document;
* `CollectionReference.Obtained.proper`, `DocumentReference.Obtained.proper`: every collection that
  can be got hold of has a proper path of odd length, every document one of even length.
-/

namespace DocumentPipeline

namespace Text

theorem splitChars_eq_splitOn (sep : Char) (s : List Char) :
    splitChars sep s = s.splitOn sep := by
  induction s with
  | nil => rfl
  | cons c rest ih =>
    rw [splitChars, List.splitOn_cons_eq_if_modifyHead, ih]
    by_cases h : c = sep
    · rw [if_pos h, if_pos (beq_iff_eq.2 h)]
    · rw [if_neg h, if_neg (by simpa using h)]
      obtain ⟨piece, more, pieces⟩ := List.exists_cons_of_ne_nil (List.splitOn_ne_nil sep rest)
      rw [pieces]
      rfl

theorem split_ne_nil (sep : Char) (s : String) : split sep s ≠ [] := by
  rw [split, splitChars_eq_splitOn, Ne, List.map_eq_nil_iff]
  exact List.splitOn_ne_nil sep s.toList

theorem notMem_of_mem_splitChars {sep : Char} {s piece : List Char}
    (h : piece ∈ splitChars sep s) : sep ∉ piece := by
  induction s generalizing piece with
  | nil =>
    obtain rfl := List.mem_singleton.1 h
    exact List.not_mem_nil
  | cons c rest ih =>
    rw [splitChars] at h
    split at h
    · obtain rfl | h := List.mem_cons.1 h
      · exact List.not_mem_nil
      · exact ih h
    · next differs =>
      split at h
      · next none =>
        rw [splitChars_eq_splitOn] at none
        exact absurd none (List.splitOn_ne_nil sep rest)
      · next first more cut =>
        obtain rfl | h := List.mem_cons.1 h
        · have hfirst := ih (cut ▸ List.mem_cons_self)
          simp [hfirst, Ne.symm differs]
        · exact ih (cut ▸ List.mem_cons_of_mem _ h)

end Text

namespace Path

/-- A segment of a path: neither empty nor cut by a slash. -/
def IsSegment (s : String) : Prop := s ≠ "" ∧ '/' ∉ s.toList

/-- **Segments are found again in the path that they make.** -/
theorem split_join {segments : List String} (nonempty : segments ≠ [])
    (h : ∀ s ∈ segments, IsSegment s) : Text.split '/' (join segments) = segments := by
  have slashFree : ∀ piece ∈ segments.map String.toList, '/' ∉ piece := by
    rw [List.forall_mem_map]
    exact fun s hs => (h s hs).2
  have nonempty : segments.map String.toList ≠ [] := by simpa using nonempty
  rw [Text.split, Text.splitChars_eq_splitOn, join, String.toList_intercalate,
    show "/".toList = ['/'] from rfl, List.splitOn_intercalate '/' slashFree nonempty]
  simp

/-- A path that can be cut into its segments again. Their number is odd or even. -/
structure Proper (parity : Nat) (segments : List String) : Prop where
  cut : Text.split '/' (join segments) = segments
  length : segments.length % 2 = parity
  segment : ∀ s ∈ segments, IsSegment s

/-- What stands between the slashes of a text. Slashes at either end do not count. -/
def pieces (text : String) : List (List Char) :=
  Text.splitChars '/' (Text.trimChars '/' text.toList)

/-- A text that names a path of segments, an odd or an even number of them. -/
def Names (parity : Nat) (text : String) : Prop :=
  [] ∉ pieces text ∧ (pieces text).length % 2 = parity

theorem segments_eq_ok {text : String} {parts : List String} :
    segments text = .ok parts ↔ [] ∉ pieces text ∧ parts = (pieces text).map String.ofList := by
  rw [segments, pieces]
  split
  · next blank => simp [blank, Text.splitChars]
  · by_cases empty : [] ∈ Text.splitChars '/' (Text.trimChars '/' text.toList)
    · simp [empty]
    · simp [empty, eq_comm]

theorem Names.proper {parity : Nat} {text : String} (h : Names parity text) :
    Proper parity ((pieces text).map String.ofList) := by
  obtain ⟨filled, length⟩ := h
  have nonempty : (pieces text).map String.ofList ≠ [] := by
    rw [Ne, List.map_eq_nil_iff, pieces, Text.splitChars_eq_splitOn]
    exact List.splitOn_ne_nil _ _
  have segment : ∀ s ∈ (pieces text).map String.ofList, IsSegment s := by
    rw [List.forall_mem_map]
    intro piece hpiece
    constructor
    · intro blank
      have : piece = [] := by simpa using blank
      exact filled (this ▸ hpiece)
    · rw [String.toList_ofList]
      exact Text.notMem_of_mem_splitChars hpiece
  exact ⟨split_join nonempty segment, by rw [List.length_map, length], segment⟩

theorem Proper.ne_nil {parity : Nat} {segments : List String} (h : Proper parity segments) :
    segments ≠ [] := by
  intro none
  exact Text.split_ne_nil _ _ (h.cut.trans none)

/-- Without its last segment a path leads to what it lies in. -/
theorem Proper.dropLast {parity : Nat} {segments : List String} (h : Proper parity segments)
    (long : 1 < segments.length) : Proper ((parity + 1) % 2) segments.dropLast := by
  have length : segments.dropLast.length = segments.length - 1 := List.length_dropLast
  have nonempty : segments.dropLast ≠ [] := List.ne_nil_of_length_pos (by omega)
  have segment : ∀ s ∈ segments.dropLast, IsSegment s :=
    fun s hs => h.segment s (List.dropLast_subset _ hs)
  refine ⟨split_join nonempty segment, ?_, segment⟩
  have parity := h.length
  omega

end Path

theorem CollectionReference.ofPath_eq_ok {db : DatabaseId} {text : String}
    {c : CollectionReference} :
    ofPath db text = .ok c ↔
      Path.Names 1 text ∧ c = ⟨db, (Path.pieces text).map String.ofList⟩ := by
  simp only [ofPath, bind_eq_ok, Path.segments_eq_ok, return_unless_eq_ok, Path.Names]
  constructor
  · rintro ⟨segments, ⟨filled, rfl⟩, odd, rfl⟩
    rw [List.length_map] at odd
    exact ⟨⟨filled, by omega⟩, rfl⟩
  · rintro ⟨⟨filled, odd⟩, rfl⟩
    refine ⟨_, ⟨filled, rfl⟩, ?_, rfl⟩
    rw [List.length_map]
    omega

theorem DocumentReference.ofPath_eq_ok {db : DatabaseId} {text : String} {d : DocumentReference} :
    ofPath db text = .ok d ↔
      Path.Names 0 text ∧ d = ⟨db, (Path.pieces text).map String.ofList⟩ := by
  simp only [ofPath, bind_eq_ok, Path.segments_eq_ok, return_unless_eq_ok, Path.Names]
  constructor
  · rintro ⟨segments, ⟨filled, rfl⟩, even, rfl⟩
    rw [List.length_map] at even
    exact ⟨⟨filled, by omega⟩, rfl⟩
  · rintro ⟨⟨filled, even⟩, rfl⟩
    refine ⟨_, ⟨filled, rfl⟩, ?_, rfl⟩
    rw [List.length_map]
    omega

theorem CollectionReference.proper_of_path {db : DatabaseId} {text : String}
    {c : CollectionReference} (h : ofPath db text = .ok c) : Path.Proper 1 c.segments := by
  obtain ⟨names, rfl⟩ := ofPath_eq_ok.1 h
  exact names.proper

theorem DocumentReference.proper_of_path {db : DatabaseId} {text : String}
    {d : DocumentReference} (h : ofPath db text = .ok d) : Path.Proper 0 d.segments := by
  obtain ⟨names, rfl⟩ := ofPath_eq_ok.1 h
  exact names.proper

mutual

/-- The collections that a caller can get hold of. -/
inductive CollectionReference.Obtained : CollectionReference → Prop where
  | ofPath {db : DatabaseId} {path : String} {c : CollectionReference} :
    CollectionReference.ofPath db path = .ok c → CollectionReference.Obtained c
  | inside {d : DocumentReference} {id : String} {c : CollectionReference} :
    DocumentReference.Obtained d → d.collection id = .ok c → CollectionReference.Obtained c
  | around {d : DocumentReference} :
    DocumentReference.Obtained d → CollectionReference.Obtained d.parent

/-- The documents that a caller can get hold of. -/
inductive DocumentReference.Obtained : DocumentReference → Prop where
  | ofPath {db : DatabaseId} {path : String} {d : DocumentReference} :
    DocumentReference.ofPath db path = .ok d → DocumentReference.Obtained d
  | ofResourceName {name : String} {d : DocumentReference} :
    DocumentReference.ofResourceName name = .ok d → DocumentReference.Obtained d
  | inside {c : CollectionReference} {id : String} {d : DocumentReference} :
    CollectionReference.Obtained c → c.document id = .ok d → DocumentReference.Obtained d
  | around {c : CollectionReference} {d : DocumentReference} :
    CollectionReference.Obtained c → c.parent? = some d → DocumentReference.Obtained d

end

mutual

/-- **Every collection that can be got hold of lies at a path of an odd number of segments.** -/
theorem CollectionReference.Obtained.proper {c : CollectionReference} :
    c.Obtained → Path.Proper 1 c.segments
  | .ofPath h => CollectionReference.proper_of_path h
  | .inside _ h => CollectionReference.proper_of_path h
  | .around hd => by
    have proper := hd.proper
    have nonempty := List.length_pos_of_ne_nil proper.ne_nil
    have even := proper.length
    exact proper.dropLast (by omega)

/-- **Every document that can be got hold of lies at a path of an even number of segments.** -/
theorem DocumentReference.Obtained.proper {d : DocumentReference} :
    d.Obtained → Path.Proper 0 d.segments
  | .ofPath h => DocumentReference.proper_of_path h
  | .ofResourceName h => by
    rw [DocumentReference.ofResourceName] at h
    split at h
    · cases h
    · exact DocumentReference.proper_of_path h
  | .inside _ h => DocumentReference.proper_of_path h
  | .around hc h => by
    rw [CollectionReference.parent?] at h
    split at h
    · cases h
    · next long =>
      cases h
      exact hc.proper.dropLast (by omega)

end

end DocumentPipeline
