import RecipePins.Proofs.Resolution.Entry

/-!
# Faithful resolvers

A resolver is faithful to a source if everything it remembers is what the source would answer now. A
fresh resolver is faithful, every step keeps it so, and a faithful resolver answers like the
resolution that has no memory.
-/
namespace RecipePins

/-- A resolver of the given policy whose catalogs and rankings are those of the source. A failed
catalog is remembered as a catalog and never as a ranking. -/
structure Faithful (source : Source) (policy : Policy) (r : Resolver) : Prop where
  policy_eq : r.policy = policy
  catalogs : ∀ name known, r.catalogs[name]? = some known → known = source.versions name
  ranked : ∀ name known, r.ranked[name]? = some known → ∃ versions,
    source.versions name = .ok versions ∧
      known = ranking policy (source.annotate name) name versions

/-- A step that gives an answer and ends in a faithful resolver. -/
structure Answers {α : Type} (source : Source) (policy : Policy) (step : α × Resolver)
    (answer : α) : Prop where
  answer_eq : step.1 = answer
  faithful : Faithful source policy step.2

namespace Resolver

@[simp] theorem record_policy (r : Resolver) (event : Event) : (r.record event).policy = r.policy := rfl

@[simp] theorem record_catalogs (r : Resolver) (event : Event) :
    (r.record event).catalogs = r.catalogs := rfl

@[simp] theorem record_ranked (r : Resolver) (event : Event) : (r.record event).ranked = r.ranked := rfl

@[simp] theorem note_policy (r : Resolver) (name : String) (problems : List History.Problem) :
    (r.note name problems).policy = r.policy := rfl

@[simp] theorem note_catalogs (r : Resolver) (name : String) (problems : List History.Problem) :
    (r.note name problems).catalogs = r.catalogs := rfl

@[simp] theorem note_ranked (r : Resolver) (name : String) (problems : List History.Problem) :
    (r.note name problems).ranked = r.ranked := rfl

end Resolver

variable {source : Source} {policy : Policy} {r : Resolver}

theorem faithful_fresh (source : Source) (policy : Policy) : Faithful source policy { policy } where
  policy_eq := rfl
  catalogs name known h := by simp at h
  ranked name known h := by simp at h

/-- Faithfulness hangs on the policy and the two memories only. -/
theorem Faithful.of_memory_eq {r' : Resolver} (h : Faithful source policy r)
    (hp : r'.policy = r.policy) (hc : r'.catalogs = r.catalogs) (hr : r'.ranked = r.ranked) :
    Faithful source policy r' where
  policy_eq := hp.trans h.policy_eq
  catalogs name known hk := h.catalogs name known (hc ▸ hk)
  ranked name known hk := h.ranked name known (hr ▸ hk)

theorem Faithful.record (h : Faithful source policy r) (event : Event) :
    Faithful source policy (r.record event) :=
  h.of_memory_eq rfl rfl rfl

theorem Faithful.note (h : Faithful source policy r) (name : String)
    (problems : List History.Problem) : Faithful source policy (r.note name problems) :=
  h.of_memory_eq rfl rfl rfl

theorem Faithful.takeNotes (h : Faithful source policy r) :
    Faithful source policy r.takeNotes.2 :=
  h.of_memory_eq rfl rfl rfl

theorem Faithful.insertCatalog (h : Faithful source policy r) (name : String) :
    Faithful source policy { r with catalogs := r.catalogs.insert name (source.versions name) } where
  policy_eq := h.policy_eq
  catalogs other known hk := by
    rw [Std.ExtTreeMap.getElem?_insert] at hk
    split at hk
    · next he =>
      obtain rfl := Std.LawfulEqCmp.compare_eq_iff_eq.1 he
      exact (Option.some.inj hk).symm
    · exact h.catalogs other known hk
  ranked := h.ranked

theorem Faithful.insertRanked (h : Faithful source policy r) {name : String}
    {versions : List String} (hv : source.versions name = .ok versions) :
    Faithful source policy
      { r with ranked := r.ranked.insert name (ranking policy (source.annotate name) name versions) } where
  policy_eq := h.policy_eq
  catalogs := h.catalogs
  ranked other known hk := by
    rw [Std.ExtTreeMap.getElem?_insert] at hk
    split at hk
    · next he =>
      obtain rfl := Std.LawfulEqCmp.compare_eq_iff_eq.1 he
      exact ⟨versions, hv, (Option.some.inj hk).symm⟩
    · exact h.ranked other known hk

namespace Resolver

theorem catalog_answers (h : Faithful source policy r) (name : String) :
    Answers source policy (r.catalog source name) (source.versions name) := by
  rw [catalog]
  split
  · next known hk => exact ⟨h.catalogs name known hk, h⟩
  · exact ⟨rfl, (h.insertCatalog name).record _⟩

theorem rankFreeForm_answers (h : Faithful source policy r) (name : String)
    (versions : List String) :
    Answers source policy (r.rankFreeForm source name versions)
      (historicalRanking policy (source.annotate name) name versions) := by
  unfold rankFreeForm historicalRanking
  cases source.annotate name with
  | error e => exact ⟨rfl, h.record _⟩
  | ok lines =>
    simp only [record_policy, h.policy_eq]
    have hf := ((h.record (.lookedUpHistory name)).record (.rankedByHistory name versions.length
      (History.rank versions lines policy.strippedStarts).problems.length)).note name
        (History.rank versions lines policy.strippedStarts).problems
    cases (History.rank versions lines policy.strippedStarts).chosen with
    | none => exact ⟨rfl, hf⟩
    | some chosen => exact ⟨rfl, hf⟩

theorem rankVersions_answers (h : Faithful source policy r) (name : String) (versions : List String) :
    Answers source policy (r.rankVersions source name versions)
      (ranking policy (source.annotate name) name versions) := by
  rw [rankVersions, VersionSet.ofList, mapM_ofString?, ranking]
  cases versions with
  | nil => exact ⟨rfl, h⟩
  | cons v vs =>
    cases hn : allNumeric (v :: vs) with
    | false => exact rankFreeForm_answers h name (v :: vs)
    | true =>
      simp only [List.isEmpty_cons, Bool.false_eq_true, if_false, if_true, numericRanking]
      cases Version.DottedNumber.latest? ((v :: vs).filterMap Version.DottedNumber.ofString?) with
      | none => exact ⟨rfl, h.record _⟩
      | some latest => exact ⟨rfl, h.record _⟩

theorem rankAnew_answers (h : Faithful source policy r) {name : String} {versions : List String}
    (hv : source.versions name = .ok versions) :
    Answers source policy (r.rankAnew source name versions)
      (ranking policy (source.annotate name) name versions) := by
  have ha := rankVersions_answers h name versions
  refine ⟨ha.answer_eq, ?_⟩
  have hi := ha.faithful.insertRanked hv
  rw [← ha.answer_eq] at hi
  exact hi

theorem resolve_answers (h : Faithful source policy r) (overrides : Overrides)
    {name declared : String} (hn : overrides[name]? = none) :
    Answers source policy (r.resolve source name declared)
      ((source.entry overrides name).resolution policy name declared) := by
  rw [resolve, Entry.resolution, Policy.isSentinel, h.policy_eq]
  by_cases hs : declared ∈ policy.sentinels
  · simp only [List.contains_iff_mem, hs, if_true]
    exact ⟨rfl, h⟩
  · simp only [List.contains_iff_mem, hs, if_false, Source.entry, Entry.choose, hn]
    cases hk : r.ranked[name]? with
    | some known =>
      obtain ⟨versions, hv, rfl⟩ := h.ranked name known hk
      simp only [hv]
      exact ⟨rfl, h⟩
    | none =>
      have hc := catalog_answers h name
      generalize r.catalog source name = step at hc ⊢
      obtain ⟨answer, r⟩ := step
      obtain ⟨rfl, hf⟩ := hc
      cases hv : source.versions name with
      | error e => exact ⟨rfl, hf⟩
      | ok versions =>
        have ha := rankAnew_answers hf hv
        exact ⟨congrArg (Except.map some) ha.answer_eq, ha.faithful⟩

end Resolver

namespace Rewriter

variable (overrides : Overrides)

theorem overrideBy_answers (h : Faithful source policy r) {name declared : String} {rule : Override}
    (hr : overrides[name]? = some rule) (hs : declared ∉ policy.sentinels) :
    Answers source policy (overrideBy source rule name declared r)
      ((source.entry overrides name).resolution policy name declared) := by
  have hc := Resolver.catalog_answers h name
  simp only [overrideBy, Entry.resolution, hs, if_false, Source.entry, Entry.choose, hr]
  generalize r.catalog source name = step at hc ⊢
  obtain ⟨answer, r⟩ := step
  obtain ⟨rfl, hf⟩ := hc
  cases source.versions name with
  | error e => exact ⟨rfl, hf⟩
  | ok versions =>
    cases rule.apply name declared with
    | error e => exact ⟨rfl, hf⟩
    | ok chosen =>
      simp only [strategyFor_eq_catalogStrategy]
      exact ⟨rfl, hf.record _⟩

theorem resolveWith_answers (h : Faithful source policy r) (name declared : String) :
    Answers source policy (resolveWith source overrides name declared r)
      ((source.entry overrides name).resolution policy name declared) := by
  unfold resolveWith
  by_cases hs : declared ∈ policy.sentinels
  · simp only [Policy.isSentinel, h.policy_eq, List.contains_iff_mem, hs, if_true, Entry.resolution]
    exact ⟨rfl, h⟩
  · simp only [Policy.isSentinel, h.policy_eq, List.contains_iff_mem, hs, if_false]
    cases hr : overrides[name]? with
    | none => exact Resolver.resolve_answers h overrides hr
    | some rule => exact overrideBy_answers overrides h hr hs

end Rewriter

end RecipePins
