import DocumentPipeline.Proofs.Contents

/-!
# What is checked can be encoded

A pipeline that passes its checks has a wire form unless a raw option has a key with an empty
segment, which no check looks at. Encoding never meets a literal that it has no wire form for:

* `SettledByKeys`: a computation that succeeds if every key is a dotted path and otherwise fails for
  one that is not; such computations follow one another and run over lists;
* `encodePipeline_settled`: encoding a pipeline that passed its checks is one of them;
* `toWire_ok_iff_checked`: the same for checking and encoding together, with every way to fail.
-/

namespace DocumentPipeline

/-- The keys of all raw options in a pipeline and in the pipelines nested in it. -/
def Pipeline.rawKeys (p : Pipeline) : List String := p.stagesWithin.flatMap (·.rawOptions.keys)

section
variable {α β : Type}

/-- Succeeds if every key is a dotted path, and otherwise fails for one that is not. -/
def SettledByKeys (r : Except PipelineError α) (keys : List String) : Prop :=
  ((∀ key ∈ keys, Dotted key) ∧ ∃ a, r = .ok a) ∨
    ∃ key ∈ keys, ¬Dotted key ∧ r = .error (.invalidArgument (.emptyOptionSegment key))

theorem SettledByKeys.of_succeeds {r : Except PipelineError α} (h : ∃ a, r = .ok a) :
    SettledByKeys r [] :=
  .inl ⟨by simp, h⟩

/-- The order of the keys and how often each occurs make no difference. -/
theorem SettledByKeys.congr {r : Except PipelineError α} {ks ls : List String}
    (h : SettledByKeys r ks) (same : ∀ key, key ∈ ks ↔ key ∈ ls) : SettledByKeys r ls := by
  simpa only [SettledByKeys, same] using h

theorem SettledByKeys.bind {x : Except PipelineError α} {f : α → Except PipelineError β}
    {ks ls : List String} (hx : SettledByKeys x ks) (hf : ∀ a, SettledByKeys (f a) ls) :
    SettledByKeys (x >>= f) (ks ++ ls) := by
  obtain ⟨hks, a, rfl⟩ | ⟨key, hkey, bad, rfl⟩ := hx
  · obtain ⟨hls, b, hb⟩ | ⟨key, hkey, bad, hb⟩ := hf a
    · exact .inl ⟨List.forall_mem_append.2 ⟨hks, hls⟩, b, hb⟩
    · exact .inr ⟨key, List.mem_append_right ks hkey, bad, hb⟩
  · exact .inr ⟨key, List.mem_append_left ls hkey, bad, rfl⟩

theorem SettledByKeys.bind_return {x : Except PipelineError α} {g : α → β} {ks : List String}
    (hx : SettledByKeys x ks) : SettledByKeys (do return g (← x)) ks := by
  obtain ⟨hks, a, rfl⟩ | ⟨key, hkey, bad, rfl⟩ := hx
  · exact .inl ⟨hks, g a, rfl⟩
  · exact .inr ⟨key, hkey, bad, rfl⟩

theorem SettledByKeys.mapM {f : α → Except PipelineError β} {keys : α → List String}
    {l : List α} (h : ∀ a ∈ l, SettledByKeys (f a) (keys a)) :
    SettledByKeys (l.mapM f) (l.flatMap keys) := by
  induction l with
  | nil => exact .of_succeeds ⟨[], rfl⟩
  | cons a l ih =>
    rw [List.mapM_cons, List.flatMap_cons]
    obtain ⟨ha, hl⟩ := List.forall_mem_cons.1 h
    exact ha.bind fun b => (ih hl).bind_return

end

section
variable {skipUndefined : Bool}

open Validation Encoding
open Wire (Value)

theorem mergeComputed_succeeds (body : StageBody) :
    ∃ m, (optionScope body).mergeComputed skipUndefined body.computedOptions = .ok m := by
  cases body with
  | collection c forceIndex | collectionGroup id forceIndex =>
    cases forceIndex <;> exact ⟨_, rfl⟩
  | findNearest search =>
    obtain ⟨field, vector, measure, limit, distanceField⟩ := search
    cases limit <;> cases distanceField <;> exact ⟨_, rfl⟩
  | unnest e name indexField => cases indexField <;> exact ⟨_, rfl⟩
  | _ => exact ⟨_, rfl⟩

theorem applyRaw_settled (scope : OptionScope) (m : FieldMap Value) (key : String)
    {e : Expression} (he : ∃ v, encodeExpression skipUndefined e = .ok v) :
    SettledByKeys (scope.applyRaw skipUndefined m key e) [key] := by
  obtain ⟨v, hv⟩ := he
  by_cases h : "" ∈ Text.split '.' key
  · exact .inr ⟨key, by simp, by simpa [Dotted] using h, by simp [OptionScope.applyRaw, hv, h]; rfl⟩
  · exact .inl ⟨by simpa [Dotted] using h, _, by simp [OptionScope.applyRaw, hv, h]; rfl⟩

theorem mergeRaw_settled (scope : OptionScope) {raw : RawOptions} (m : FieldMap Value)
    (h : ∀ entry ∈ raw, ∃ v, encodeExpression skipUndefined entry.2 = .ok v) :
    SettledByKeys (scope.mergeRaw skipUndefined raw m) raw.keys := by
  induction raw generalizing m with
  | nil => exact .of_succeeds ⟨m, rfl⟩
  | cons entry rest ih =>
    obtain ⟨hentry, hrest⟩ := List.forall_mem_cons.1 h
    exact (applyRaw_settled scope m entry.1 hentry).bind fun r => ih r.1 hrest

/-- The options of a stage can be encoded unless a raw option has a malformed key. -/
theorem merge_settled (body : StageBody) {raw : RawOptions}
    (h : ∀ entry ∈ raw, ∃ v, encodeExpression skipUndefined entry.2 = .ok v) :
    SettledByKeys ((optionScope body).merge skipUndefined body.computedOptions raw) raw.keys :=
  (SettledByKeys.of_succeeds (mergeComputed_succeeds body)).bind fun m =>
    mergeRaw_settled (optionScope body) m h

/-- The keys of the raw options in the pipeline that a stage unites, if it is a union. -/
def Stage.innerKeys (s : Stage) : List String :=
  match s.body with
  | .union other => other.rawKeys
  | _ => []

theorem Pipeline.mem_rawKeys {p : Pipeline} {key : String} :
    key ∈ p.rawKeys ↔ key ∈ p.stages.flatMap fun s => s.innerKeys ++ s.rawOptions.keys := by
  have mem_innerKeys {s : Stage} : key ∈ s.innerKeys ↔
      ∃ other, s.body = .union other ∧ key ∈ other.rawKeys := by
    obtain ⟨body, raw⟩ := s
    cases body <;> simp [Stage.innerKeys]
  simp only [rawKeys, List.mem_flatMap, List.mem_append] at mem_innerKeys ⊢
  simp only [mem_innerKeys]
  constructor
  · rintro ⟨s, hs, hkey⟩
    obtain hs | ⟨t, ht, other, hb, hs⟩ := mem_stagesWithin.1 hs
    · exact ⟨s, hs, .inr hkey⟩
    · exact ⟨t, ht, .inl ⟨other, hb, s, hs, hkey⟩⟩
  · rintro ⟨t, ht, ⟨other, hb, s, hs, hkey⟩ | hkey⟩
    · exact ⟨s, mem_stagesWithin.2 (.inr ⟨t, ht, other, hb, hs⟩), hkey⟩
    · exact ⟨t, mem_stagesWithin.2 (.inl ht), hkey⟩

theorem encodeStage_settled {s : Stage} (checked : checkStage skipUndefined s = .ok ())
    (inner : ∀ other, s.body = .union other → checkPipeline skipUndefined other = .ok () →
      SettledByKeys (encodePipeline skipUndefined other) other.rawKeys) :
    SettledByKeys (encodeStage skipUndefined s) (s.innerKeys ++ s.rawOptions.keys) := by
  obtain ⟨body, raw⟩ := s
  obtain ⟨hbody, hraw⟩ := checkStage_eq_ok.1 checked
  obtain ⟨hexpressions, -, hunion⟩ := checkBody_eq_ok.1 hbody
  have encodes : ∀ {e}, checkExpression skipUndefined e = .ok () →
      ∃ v, encodeExpression skipUndefined e = .ok v := fun he => (checkExpression_eq_ok.1 he).2
  have arguments : SettledByKeys (encodeBody skipUndefined body) (Stage.innerKeys ⟨body, raw⟩) := by
    by_cases union : ∃ other, body = .union other
    · obtain ⟨other, rfl⟩ := union
      rw [encodeBody]
      exact (inner other rfl (hunion other rfl)).bind_return
    · have : Stage.innerKeys ⟨body, raw⟩ = [] := by
        cases body <;> first | rfl | simp at union
      rw [this]
      refine .of_succeeds (encodeBody_succeeds.2 ⟨fun e he => encodes (hexpressions e he), ?_⟩)
      exact fun other h => absurd ⟨other, h⟩ union
  have options := merge_settled body fun entry hentry => encodes (hraw entry hentry)
  rw [encodeStage]
  exact arguments.bind fun _ => options.bind_return

/-- **A pipeline that passed its checks can be encoded** unless a raw option has a malformed key. -/
theorem encodePipeline_settled {p : Pipeline} (checked : checkPipeline skipUndefined p = .ok ()) :
    SettledByKeys (encodePipeline skipUndefined p) p.rawKeys := by
  induction p using Pipeline.inductNested with
  | step p ih =>
    rw [encodePipeline_eq_mapM]
    refine SettledByKeys.congr (.mapM fun s hs => ?_) fun key => Pipeline.mem_rawKeys.symm
    exact encodeStage_settled (checkPipeline_eq_ok.1 checked s hs) fun other h => ih s hs other h

/-- An error of a check names a method and what was found there. -/
def PipelineError.IsViolation (err : PipelineError) : Prop := ∃ m v, err = .validation m v

theorem isViolation_of_mapError {m : String} {r : Check} {err : PipelineError}
    (h : r.mapError (.validation m) = .error err) : err.IsViolation := by
  obtain ⟨v, -, rfl⟩ := mapError_eq_error.1 h
  exact ⟨m, v, rfl⟩

theorem checkPipeline_isViolation {p : Pipeline} {err : PipelineError}
    (h : checkPipeline skipUndefined p = .error err) : err.IsViolation := by
  induction p using Pipeline.inductNested with
  | step p ih =>
    rw [checkPipeline_eq_forM] at h
    obtain ⟨⟨body, raw⟩, hs, hstage⟩ := forM_eq_error h
    rw [checkStage, bind_eq_error] at hstage
    obtain hbody | ⟨_, -, hraw⟩ := hstage
    · cases body with
      | union other => exact ih _ hs other rfl hbody
      | collection | collectionGroup | database | documents | offset | limit | sample | mutation =>
        cases hbody
      | _ => exact isViolation_of_mapError hbody
    · exact isViolation_of_mapError hraw

/-- **What is checked can be sent.** A pipeline has a wire form when it passes its checks and the
keys of all raw options are dotted paths; it fails with what the checks found, or for such a key. An
expression without a wire form fails its check, and one whose fields have dotted paths has a wire
form when it passes. -/
theorem toWire_ok_iff_checked (skipUndefined : Bool) :
    (∀ p : Pipeline,
      ((∃ w, p.toWire skipUndefined = .ok w) ↔
        checkPipeline skipUndefined p = .ok () ∧ ∀ key ∈ p.rawKeys, Dotted key) ∧
      ∀ err, p.toWire skipUndefined = .error err →
        (checkPipeline skipUndefined p = .error err ∧ err.IsViolation) ∨
        (checkPipeline skipUndefined p = .ok () ∧ ∃ key ∈ p.rawKeys,
          ¬Dotted key ∧ err = .invalidArgument (.emptyOptionSegment key))) ∧
    ∀ e : Expression,
      ((∃ fault, encodeExpression skipUndefined e = .error fault) →
        ∃ violation, checkExpression skipUndefined e = .error violation) ∧
      ((∀ f ∈ e.fields, Dotted f.path) →
        ((∃ v, encodeExpression skipUndefined e = .ok v) ↔
          checkExpression skipUndefined e = .ok ())) := by
  refine ⟨fun p => ?_, fun e => ⟨?_, fun dotted => ?_⟩⟩
  · rw [Pipeline.toWire]
    cases checked : checkPipeline skipUndefined p with
    | error err =>
      refine ⟨by simp, ?_⟩
      rintro _ ⟨⟩
      exact .inl ⟨rfl, checkPipeline_isViolation checked⟩
    | ok =>
      rw [ok_bind]
      obtain ⟨dotted, w, hw⟩ | ⟨key, hkey, bad, hw⟩ := encodePipeline_settled checked
      · exact ⟨⟨fun _ => ⟨rfl, dotted⟩, fun _ => ⟨w, hw⟩⟩, by simp [hw]⟩
      · rw [hw]
        refine ⟨⟨nofun, fun ⟨_, dotted⟩ => absurd (dotted key hkey) bad⟩, ?_⟩
        rintro _ ⟨⟩
        exact .inr ⟨rfl, key, hkey, bad, rfl⟩
  · rintro ⟨fault, hfault⟩
    cases checked : checkExpression skipUndefined e with
    | error violation => exact ⟨violation, rfl⟩
    | ok =>
      obtain ⟨-, v, hv⟩ := checkExpression_eq_ok.1 checked
      rw [hfault] at hv
      cases hv
  · rw [checkExpression_eq_ok, and_iff_right dotted]

end
end DocumentPipeline
