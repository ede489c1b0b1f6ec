import Mathlib.Data.List.Forall2

/-!
# Success of a computation that may fail

What it takes for a sequence, a traversal or a relabelled computation to succeed. A traversal
succeeds when each of its steps does, and it fails with the error of the first step that does not.
-/

namespace DocumentPipeline

section
variable {ε ε' α β γ : Type}

theorem fails_iff {x : Except ε α} : (∃ e, x = .error e) ↔ ¬∃ a, x = .ok a := by
  cases x <;> simp

theorem bind_eq_ok {x : Except ε α} {f : α → Except ε β} {b : β} :
    x >>= f = .ok b ↔ ∃ a, x = .ok a ∧ f a = .ok b := by
  cases x <;> simp [bind, Except.bind]

theorem bind_eq_error {x : Except ε α} {f : α → Except ε β} {e : ε} :
    x >>= f = .error e ↔ x = .error e ∨ ∃ a, x = .ok a ∧ f a = .error e := by
  cases x <;> simp [bind, Except.bind]

@[simp] theorem ok_bind (a : α) (f : α → Except ε β) : (Except.ok a >>= f) = f a := rfl

@[simp] theorem error_bind (e : ε) (f : α → Except ε β) :
    (Except.error e >>= f : Except ε β) = .error e := rfl

/-- A computation without a value and one after it. -/
theorem then_eq_ok {x : Except ε Unit} {y : Except ε α} {a : α} :
    (do x; y) = .ok a ↔ x = .ok () ∧ y = .ok a := by
  cases x <;> simp [bind, Except.bind]

theorem pure_eq_ok {a b : α} : (pure a : Except ε α) = .ok b ↔ a = b := by
  simp [pure, Except.pure]

/-- A result that is refused in a certain case. -/
theorem return_unless_eq_ok {c : Prop} [Decidable c] {e : ε} {a b : α} :
    (do
      if c then throw e
      return a : Except ε α) = .ok b ↔ ¬c ∧ a = b := by
  by_cases h : c
  · rw [if_pos h]
    exact ⟨nofun, fun ⟨accepted, _⟩ => absurd h accepted⟩
  · rw [if_neg h, pure_eq_ok]
    exact ⟨fun same => ⟨h, same⟩, fun ⟨_, same⟩ => same⟩

theorem map_eq_ok {f : α → β} {x : Except ε α} {b : β} :
    f <$> x = .ok b ↔ ∃ a, x = .ok a ∧ f a = b := by
  cases x <;> simp

theorem map_eq_error {f : α → β} {x : Except ε α} {e : ε} : f <$> x = .error e ↔ x = .error e := by
  cases x <;> simp

@[simp] theorem mapError_ok (f : ε → ε') (a : α) :
    (Except.ok a : Except ε α).mapError f = .ok a := rfl

theorem mapError_eq_ok {f : ε → ε'} {x : Except ε α} {a : α} :
    x.mapError f = .ok a ↔ x = .ok a := by
  cases x <;> simp [Except.mapError]

theorem mapError_eq_error {f : ε → ε'} {x : Except ε α} {e : ε'} :
    x.mapError f = .error e ↔ ∃ e', x = .error e' ∧ f e' = e := by
  cases x <;> simp [Except.mapError]

theorem toOption_eq_some {x : Except ε α} {a : α} : x.toOption = some a ↔ x = .ok a := by
  cases x <;> simp [Except.toOption]

theorem toOption_eq_none {x : Except ε α} : x.toOption = none ↔ ∃ e, x = .error e := by
  cases x <;> simp [Except.toOption]

theorem bind_succeeds {x : Except ε α} {f : α → Except ε β} :
    (∃ b, x >>= f = .ok b) ↔ ∃ a, x = .ok a ∧ ∃ b, f a = .ok b := by
  cases x <;> simp

theorem mapError_succeeds {f : ε → ε'} {x : Except ε α} :
    (∃ a, x.mapError f = .ok a) ↔ ∃ a, x = .ok a := by
  simp only [mapError_eq_ok]

theorem bind_return_succeeds {x : Except ε α} {g : α → β} :
    (∃ b, (do return g (← x)) = Except.ok b) ↔ ∃ a, x = .ok a := by
  cases x <;> simp [pure, Except.pure]

theorem forM_eq_ok {f : α → Except ε Unit} {l : List α} :
    l.forM f = .ok () ↔ ∀ a ∈ l, f a = .ok () := by
  rw [List.forM_eq_forM]
  induction l with
  | nil => simp [pure, Except.pure]
  | cons a l ih =>
    simp only [List.forM_cons, bind_eq_ok, ih, List.mem_cons, forall_eq_or_imp]
    exact ⟨fun ⟨_, ha, hl⟩ => ⟨ha, hl⟩, fun ⟨ha, hl⟩ => ⟨_, ha, hl⟩⟩

/-- A traversal that fails does so with the error of one of its steps. -/
theorem forM_eq_error {f : α → Except ε Unit} {l : List α} {e : ε} (h : l.forM f = .error e) :
    ∃ a ∈ l, f a = .error e := by
  rw [List.forM_eq_forM] at h
  induction l with
  | nil => cases h
  | cons a l ih =>
    rw [List.forM_cons, bind_eq_error] at h
    obtain ha | ⟨_, -, hl⟩ := h
    · exact ⟨a, List.mem_cons_self, ha⟩
    · obtain ⟨b, hb, he⟩ := ih hl
      exact ⟨b, List.mem_cons_of_mem a hb, he⟩

theorem forM_congr {f g : α → Except ε Unit} {l : List α} (h : ∀ a ∈ l, f a = g a) :
    l.forM f = l.forM g := by
  rw [List.forM_eq_forM]
  induction l with
  | nil => rfl
  | cons a l ih =>
    obtain ⟨ha, hl⟩ := List.forall_mem_cons.1 h
    rw [List.forM_cons, List.forM_cons, ha, ih hl]

/-- Steps that do nothing may be left out of a traversal. -/
theorem forM_filter {f : α → Except ε Unit} {p : α → Bool} {l : List α}
    (h : ∀ a ∈ l, p a = false → f a = .ok ()) : (l.filter p).forM f = l.forM f := by
  rw [List.forM_eq_forM]
  induction l with
  | nil => rfl
  | cons a l ih =>
    obtain ⟨ha, hl⟩ := List.forall_mem_cons.1 h
    cases hp : p a with
    | true => rw [List.filter_cons_of_pos hp, List.forM_cons, List.forM_cons, ih hl]
    | false =>
      rw [List.filter_cons_of_neg (by simp [hp]), List.forM_cons, ha hp, ok_bind, ih hl]

theorem mapM_congr {f g : α → Except ε β} {l : List α} (h : ∀ a ∈ l, f a = g a) :
    l.mapM f = l.mapM g := by
  induction l with
  | nil => rfl
  | cons a l ih =>
    obtain ⟨ha, hl⟩ := List.forall_mem_cons.1 h
    rw [List.mapM_cons, List.mapM_cons, ha, ih hl]

theorem mapM_eq_ok {f : α → Except ε β} {l : List α} {bs : List β} :
    l.mapM f = .ok bs ↔ List.Forall₂ (fun a b => f a = .ok b) l bs := by
  induction l generalizing bs with
  | nil => cases bs <;> simp [pure, Except.pure]
  | cons a l ih =>
    simp only [List.mapM_cons, bind_eq_ok, pure_eq_ok, ih]
    constructor
    · rintro ⟨b, hb, bs, hbs, rfl⟩
      exact .cons hb hbs
    · intro h
      cases h with
      | cons hb hbs => exact ⟨_, hb, _, hbs, rfl⟩

/-- A traversal whose steps all give what a function says. -/
theorem mapM_eq_ok_map {f : α → Except ε β} {g : α → β} {l : List α}
    (h : ∀ a ∈ l, f a = .ok (g a)) : l.mapM f = .ok (l.map g) :=
  (mapM_congr h).trans List.mapM_pure

/-- What a traversal gives is what its steps give. -/
theorem mem_mapM {f : α → Except ε β} {l : List α} {bs : List β} (h : l.mapM f = .ok bs) {b : β} :
    b ∈ bs ↔ ∃ a ∈ l, f a = .ok b := by
  rw [mapM_eq_ok] at h
  induction h with
  | nil => simp
  | cons hab _ ih =>
    simp only [List.mem_cons, ih, or_and_right, exists_or, exists_eq_left, hab, Except.ok.injEq]
    rw [eq_comm]

/-- A traversal succeeds when each of its steps does. -/
theorem mapM_succeeds {f : α → Except ε β} {l : List α} :
    (∃ bs, l.mapM f = .ok bs) ↔ ∀ a ∈ l, ∃ b, f a = .ok b := by
  induction l with
  | nil => simp [pure, Except.pure]
  | cons a l ih =>
    simp only [List.mapM_cons, bind_eq_ok, pure_eq_ok, List.mem_cons, forall_eq_or_imp, ← ih]
    constructor
    · rintro ⟨_, b, hb, bs, hbs, _⟩
      exact ⟨⟨b, hb⟩, bs, hbs⟩
    · rintro ⟨⟨b, hb⟩, bs, hbs⟩
      exact ⟨_, b, hb, bs, hbs, rfl⟩

/-- A traversal fails with the first step that does. -/
theorem mapM_eq_error_of_first {f : α → Except ε β} {before after : List α} {a : α} {e : ε}
    (earlier : ∀ b ∈ before, ∃ c, f b = .ok c) (fails : f a = .error e) :
    (before ++ a :: after).mapM f = .error e := by
  obtain ⟨bs, hbs⟩ := mapM_succeeds.2 earlier
  rw [List.mapM_append, hbs, ok_bind, List.mapM_cons, fails]
  rfl

/-- A traversal that fails has a first step that does. -/
theorem mapM_eq_error {f : α → Except ε β} {l : List α} {e : ε} :
    l.mapM f = .error e ↔
      ∃ before a after, l = before ++ a :: after ∧ (∀ b ∈ before, ∃ c, f b = .ok c) ∧
        f a = .error e := by
  constructor
  · intro h
    induction l with
    | nil => cases h
    | cons a l ih =>
      rw [List.mapM_cons, bind_eq_error] at h
      obtain fails | ⟨c, first, h⟩ := h
      · exact ⟨[], a, l, rfl, by simp, fails⟩
      · obtain rest | ⟨cs, -, h⟩ := bind_eq_error.1 h
        · obtain ⟨before, b, after, rfl, earlier, fails⟩ := ih rest
          exact ⟨a :: before, b, after, rfl, List.forall_mem_cons.2 ⟨⟨c, first⟩, earlier⟩, fails⟩
        · cases h
  · rintro ⟨before, a, after, rfl, earlier, fails⟩
    exact mapM_eq_error_of_first earlier fails

/-- Steps that all succeed, one by one. -/
theorem map_eq_of_mapM {f : α → Except ε β} {l : List α} {bs : List β} (h : l.mapM f = .ok bs) :
    l.map f = bs.map .ok := by
  have each := mapM_eq_ok.1 h
  clear h
  induction each with
  | nil => rfl
  | cons step _ ih => rw [List.map_cons, List.map_cons, step, ih]

theorem option_forM_eq_ok {f : α → Except ε Unit} {o : Option α} :
    o.forM f = .ok () ↔ ∀ a, o = some a → f a = .ok () := by
  cases o <;> simp [Option.forM, pure, Except.pure]

/-- What a traversal gives comes from its steps. -/
theorem exists_of_mem_mapM {f : α → Option β} {l : List α} {bs : List β} (h : l.mapM f = some bs)
    {b : β} (hb : b ∈ bs) : ∃ a ∈ l, f a = some b := by
  induction l generalizing bs with
  | nil =>
    cases h
    cases hb
  | cons a l ih =>
    simp only [List.mapM_cons, Option.bind_eq_bind, Option.bind_eq_some_iff] at h
    obtain ⟨c, hc, cs, hcs, hbs⟩ := h
    cases hbs
    obtain rfl | hb := List.mem_cons.1 hb
    · exact ⟨a, List.mem_cons_self, hc⟩
    · obtain ⟨a', ha', hb'⟩ := ih hcs hb
      exact ⟨a', List.mem_cons_of_mem a ha', hb'⟩

end
end DocumentPipeline
