import DocumentPipeline.Proofs.QueryStages
import Mathlib.Data.List.DropRight
import Mathlib.Data.List.Sort

/-!
# What an engine makes of stages

An engine takes lists of rows through the stages of a pipeline. Conditions keep rows, sorting is
stable and lexicographic in its keys, an offset drops rows and a limit takes some:

* `Engine`: what an engine knows of rows, and what it has to do with conditions and with the values
  of fields;
* `Engine.orderLe`: the order of rows by several fields;
* `orderLe_total`, `orderLe_trans`, `orderLe_antisymm`: it orders all rows, and in one way only if
  the name of the document is one of the fields;
* `keysLe_forwardKeys`, `keysLe_backwardKeys`: the keys of an order sort by it, and those from its
  end sort by its reverse;
* `sortBy_backwardKeys`, `inOrder_cut`: what is cut from the reversed order and sorted back is cut
  from the end of the order.
-/

namespace DocumentPipeline

/-- An engine. Where it reads rows from, what the values of expressions are and what stages other
than those of a query do is its own affair. -/
structure Engine (Row : Type) where
  /-- The name of the document that a row is about. -/
  name : Row → String
  /-- The rows of a source. -/
  rows : DatabaseId → StageBody → List Row
  /-- Whether a condition holds for a row. -/
  holds : Expression → Row → Bool
  has : Field → Row → Bool
  /-- Whether one row may stand before another, going by the value of an expression. -/
  le : Expression → Row → Row → Bool
  project : ExpressionMap → Row → Row
  other : Stage → List Row → List Row
  holds_and : ∀ conditions r, holds (.call "and" conditions) r = conditions.all (holds · r)
  holds_or : ∀ conditions r, holds (.call "or" conditions) r = conditions.any (holds · r)
  holds_exists : ∀ f r, holds (.call "exists" [.field f]) r = has f r
  le_total : ∀ (f : Field) a b, le (.field f) a b = true ∨ le (.field f) b a = true
  le_trans : ∀ (f : Field) a b c,
    le (.field f) a b = true → le (.field f) b c = true → le (.field f) a c = true
  name_eq : ∀ a b, le (.field ⟨"__name__"⟩) a b = true → le (.field ⟨"__name__"⟩) b a = true →
    name a = name b

namespace Engine
variable {Row : Type} (E : Engine Row)

/-! ## Stages -/

/-- Whether one row may stand before another, going by one key. -/
def keyLe (k : SortKey) (a b : Row) : Bool :=
  match k.direction with
  | .ascending => E.le k.expression a b
  | .descending => E.le k.expression b a

/-- The lexicographic order of several keys: the first that tells two rows apart decides. -/
def keysLe : List SortKey → Row → Row → Bool
  | [], _, _ => true
  | k :: rest, a, b => E.keyLe k a b && (!E.keyLe k b a || keysLe rest a b)

/-- The rows in the order of the keys; rows that the keys do not tell apart stay as they are. -/
def sortBy (keys : List SortKey) (rows : List Row) : List Row := rows.mergeSort (E.keysLe keys)

/-- What a stage does with the rows of the stage before. -/
def step (rows : List Row) : Stage → List Row
  | ⟨.filter c, []⟩ => rows.filter (E.holds c.expression)
  | ⟨.sort keys, []⟩ => E.sortBy keys rows
  | ⟨.offset n, []⟩ => rows.drop n.toInt.toNat
  | ⟨.limit n, []⟩ => rows.take n.toInt.toNat
  | ⟨.select entries, []⟩ => rows.map (E.project entries)
  | s => E.other s rows

/-- The rows that a pipeline gives. -/
def run (p : Pipeline) : List Row :=
  p.later.foldl E.step (E.rows p.database p.source.body)

/-! ## The order of fields -/

/-- Whether one row may stand before another, going by one field in a direction. -/
def fieldLe (key : Field × Direction) (a b : Row) : Bool :=
  match key with
  | (f, .ascending) => E.le (.field f) a b
  | (f, .descending) => E.le (.field f) b a

/-- Whether one row may stand before another in an order. The first field that tells the rows apart
decides. -/
def orderLe : List (Field × Direction) → Row → Row → Bool
  | [], _, _ => true
  | key :: rest, a, b => E.fieldLe key a b && (!E.fieldLe key b a || orderLe rest a b)

/-- The rows in an order; rows that it does not tell apart stay as they are. -/
def inOrder (order : List (Field × Direction)) (rows : List Row) : List Row :=
  rows.mergeSort (E.orderLe order)

theorem orderLe_cons {key : Field × Direction} {rest : List (Field × Direction)} {a b : Row} :
    E.orderLe (key :: rest) a b = true ↔
      E.fieldLe key a b = true ∧ (E.fieldLe key b a = true → E.orderLe rest a b = true) := by
  simp only [orderLe]
  cases E.fieldLe key a b <;> cases E.fieldLe key b a <;> simp

section
variable {E} {order : List (Field × Direction)}

theorem fieldLe_total (key : Field × Direction) (a b : Row) :
    E.fieldLe key a b = true ∨ E.fieldLe key b a = true := by
  obtain ⟨f, direction⟩ := key
  cases direction with
  | ascending => exact E.le_total f a b
  | descending => exact E.le_total f b a

theorem fieldLe_trans {key : Field × Direction} {a b c : Row} (hab : E.fieldLe key a b = true)
    (hbc : E.fieldLe key b c = true) : E.fieldLe key a c = true := by
  obtain ⟨f, direction⟩ := key
  cases direction with
  | ascending => exact E.le_trans f a b c hab hbc
  | descending => exact E.le_trans f c b a hbc hab

theorem orderLe_total (a b : Row) : E.orderLe order a b = true ∨ E.orderLe order b a = true := by
  induction order with
  | nil => exact .inl rfl
  | cons key rest ih =>
    simp only [orderLe_cons]
    have first := fieldLe_total (E := E) key a b
    tauto

theorem orderLe_trans {a b c : Row} (hab : E.orderLe order a b = true)
    (hbc : E.orderLe order b c = true) : E.orderLe order a c = true := by
  induction order with
  | nil => rfl
  | cons key rest ih =>
    rw [orderLe_cons] at hab hbc ⊢
    refine ⟨fieldLe_trans hab.1 hbc.1, fun hca => ?_⟩
    -- A row that may stand at either end of the chain ties with the row in the middle.
    have hba : E.fieldLe key b a = true := fieldLe_trans hbc.1 hca
    have hcb : E.fieldLe key c b = true := fieldLe_trans hca hab.1
    exact ih (hab.2 hba) (hbc.2 hcb)

/-- Rows that may stand either way round tie in every field. -/
theorem fieldLe_of_tie {a b : Row} (hab : E.orderLe order a b = true)
    (hba : E.orderLe order b a = true) :
    ∀ key ∈ order, E.fieldLe key a b = true ∧ E.fieldLe key b a = true := by
  induction order with
  | nil => exact fun _ hkey => nomatch hkey
  | cons key rest ih =>
    rw [orderLe_cons] at hab hba
    exact List.forall_mem_cons.2 ⟨⟨hab.1, hba.1⟩, ih (hab.2 hba.1) (hba.2 hab.1)⟩

/-- **With the name of the document among the fields, two rows that may stand either way round are
about one document.** -/
theorem orderLe_antisymm (named : ⟨"__name__"⟩ ∈ order.map (·.1)) {a b : Row}
    (hab : E.orderLe order a b = true) (hba : E.orderLe order b a = true) :
    E.name a = E.name b := by
  obtain ⟨⟨f, direction⟩, hkey, rfl⟩ := List.mem_map.1 named
  obtain ⟨forth, back⟩ := fieldLe_of_tie hab hba _ hkey
  cases direction with
  | ascending => exact E.name_eq a b forth back
  | descending => exact E.name_eq a b back forth

end

/-! ## Keys -/

/-- **The keys of an order** compare as the order does. -/
theorem keysLe_forwardKeys (order : List (Field × Direction)) :
    E.keysLe (forwardKeys order) = E.orderLe order := by
  funext a b
  induction order with
  | nil => rfl
  | cons key rest ih =>
    have first (a b : Row) : E.keyLe ⟨.field key.1, key.2⟩ a b = E.fieldLe key a b := by
      obtain ⟨f, direction⟩ := key
      cases direction <;> rfl
    rw [forwardKeys, List.map_cons, keysLe, orderLe, first, first, ← ih]
    rfl

/-- **The keys of an order from its end** compare the other way round. -/
theorem keysLe_backwardKeys (order : List (Field × Direction)) (a b : Row) :
    E.keysLe (backwardKeys order) a b = E.orderLe order b a := by
  induction order with
  | nil => rfl
  | cons key rest ih =>
    obtain ⟨f, direction⟩ := key
    rw [orderLe, ← ih]
    cases direction <;> rfl

section
variable {E} {order : List (Field × Direction)} {rows : List Row}

/-! ## Sorting -/

theorem sortBy_forwardKeys : E.sortBy (forwardKeys order) rows = E.inOrder order rows := by
  rw [sortBy, inOrder, keysLe_forwardKeys]

/-- Rows that an order puts in one way only. -/
def Separates (E : Engine Row) (order : List (Field × Direction)) (rows : List Row) : Prop :=
  ∀ a ∈ rows, ∀ b ∈ rows, E.orderLe order a b = true → E.orderLe order b a = true → a = b

theorem inOrder_pairwise (order : List (Field × Direction)) (rows : List Row) :
    (E.inOrder order rows).Pairwise fun a b => E.orderLe order a b = true :=
  List.pairwise_mergeSort (fun _ _ _ => orderLe_trans) (fun a b => by simpa using orderLe_total a b)
    rows

/-- What is in order already is what sorting gives, if there is one order only. -/
theorem inOrder_eq {sorted : List Row} (separates : E.Separates order rows)
    (perm : sorted.Perm rows) (pairwise : sorted.Pairwise fun a b => E.orderLe order a b = true) :
    E.inOrder order rows = sorted := by
  have same : (E.inOrder order rows).Perm rows := List.mergeSort_perm rows _
  refine List.Perm.eq_of_pairwise ?_ (inOrder_pairwise order rows) pairwise
    (same.trans perm.symm)
  intro a b ha hb
  exact separates a (same.mem_iff.1 ha) b (perm.mem_iff.1 hb)

/-- **Sorting by the keys from the end** reverses the order. -/
theorem sortBy_backwardKeys (separates : E.Separates order rows) :
    E.sortBy (backwardKeys order) rows = (E.inOrder order rows).reverse := by
  have perm : (E.sortBy (backwardKeys order) rows).Perm rows := List.mergeSort_perm rows _
  have pairwise : (E.sortBy (backwardKeys order) rows).Pairwise fun a b =>
      E.orderLe order b a = true := by
    refine (List.pairwise_mergeSort (fun a b c => ?_) (fun a b => ?_) rows).imp fun {a b} h => ?_
    · simp only [keysLe_backwardKeys]
      exact fun hba hcb => orderLe_trans hcb hba
    · simpa [keysLe_backwardKeys] using orderLe_total b a
    · exact (keysLe_backwardKeys E order a b).symm.trans h
  have sorted := inOrder_eq separates ((List.reverse_perm _).trans perm)
    (List.pairwise_reverse.2 pairwise)
  rw [sorted, List.reverse_reverse]

/-- **What is cut from the reversed order and sorted back** is in order again. -/
theorem inOrder_cut {part : List Row} (separates : E.Separates order rows)
    (cut : part.Sublist (E.inOrder order rows)) : E.inOrder order part.reverse = part := by
  have within {c : Row} (hc : c ∈ part.reverse) : c ∈ rows :=
    List.mem_mergeSort.1 (cut.subset (List.mem_reverse.1 hc))
  refine inOrder_eq (fun a ha b hb => separates a (within ha) b (within hb))
    (List.reverse_perm _).symm ((inOrder_pairwise order rows).sublist cut)

end

end Engine
end DocumentPipeline
