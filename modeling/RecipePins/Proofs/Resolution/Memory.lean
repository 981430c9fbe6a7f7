import RecipePins.Proofs.Resolution.Lookup

/-!
# What a resolver remembers of its questions

Every question is remembered together with its answer, a failure included, and nothing remembered is
asked again. What all the steps of a resolver keep is shown once, for the three ways in which they
change it: an event that is no question, a catalog looked up, and a known catalog ranked.
-/
namespace RecipePins

/-- The questions that ranking a catalog takes. -/
def rankingLookups (name : String) (versions : List String) : List Lookup :=
  if allNumeric versions then [] else [.history name]

/-- The notes that the answer to a question gives rise to, once the history has been ranked. -/
def Source.notesOf (source : Source) (policy : Policy) : Lookup → List HistoryNote
  | .versions _ => []
  | .history name =>
    match source.versions name, source.annotate name with
    | .ok versions, .ok lines =>
      (History.rank versions lines policy.strippedStarts).problems.map (HistoryNote.mk name)
    | _, _ => []

/-- What ranking the catalog of a dependency may change of a resolver. -/
structure RankedFrom (source : Source) (name : String) (versions : List String)
    (r r' : Resolver) : Prop where
  policy_eq : r'.policy = r.policy
  catalogs_eq : r'.catalogs = r.catalogs
  ranked_eq : r'.ranked = r.ranked
  lookups_eq : r'.lookups = r.lookups ++ rankingLookups name versions
  notes_eq : source.versions name = .ok versions →
    r'.notes = r.notes ++ (rankingLookups name versions).flatMap (source.notesOf r.policy)

namespace Resolver

variable (r : Resolver) (source : Source) (name : String) (versions : List String)

theorem rankFreeForm_rankedFrom (hn : allNumeric versions = false) :
    RankedFrom source name versions r (r.rankFreeForm source name versions).2 := by
  have hl : rankingLookups name versions = [.history name] := by
    simp only [rankingLookups, hn, Bool.false_eq_true, if_false]
  rw [rankFreeForm]
  cases ha : source.annotate name with
  | error e =>
    refine ⟨rfl, rfl, rfl, ?_, fun hv => ?_⟩
    · rw [lookups_record, hl]
      rfl
    · simp [hl, Source.notesOf, ha, hv, record]
  | ok lines =>
    have hs : RankedFrom source name versions r
        (((r.record (.lookedUpHistory name)).record (.rankedByHistory name versions.length
          (History.rank versions lines r.policy.strippedStarts).problems.length)).note name
            (History.rank versions lines r.policy.strippedStarts).problems) := by
      refine ⟨rfl, rfl, rfl, ?_, fun hv => ?_⟩
      · simp [hl, Event.lookup?]
      · simp [hl, Source.notesOf, ha, hv, note, record]
    dsimp only [record_policy]
    cases (History.rank versions lines r.policy.strippedStarts).chosen with
    | none => exact hs
    | some chosen => exact hs

theorem rankVersions_rankedFrom :
    RankedFrom source name versions r (r.rankVersions source name versions).2 := by
  have quiet (h : allNumeric versions = true) (event : Event) (he : event.lookup? = none) :
      RankedFrom source name versions r (r.record event) := by
    refine ⟨rfl, rfl, rfl, ?_, fun _ => ?_⟩
    · simp [rankingLookups, h, he]
    · simp [rankingLookups, h, record]
  rw [rankVersions, VersionSet.ofList, mapM_ofString?]
  cases versions with
  | nil => exact ⟨rfl, rfl, rfl, (List.append_nil _).symm, fun _ => (List.append_nil _).symm⟩
  | cons v vs =>
    cases hn : allNumeric (v :: vs) with
    | false => exact rankFreeForm_rankedFrom r source name (v :: vs) hn
    | true =>
      simp only [List.isEmpty_cons, Bool.false_eq_true, if_false, if_true]
      cases Version.DottedNumber.latest? ((v :: vs).filterMap Version.DottedNumber.ofString?) with
      | none => exact quiet hn _ rfl
      | some latest => exact quiet hn _ rfl

end Resolver

/-- A property of resolvers that the three ways of changing one keep, with the source at hand. -/
structure Kept (source : Source) (P : Resolver → Prop) : Prop where
  record : ∀ {r : Resolver} {event : Event}, P r → event.lookup? = none → P (r.record event)
  lookUp : ∀ {r : Resolver} {name : String}, P r → r.catalogs[name]? = none →
    P (Resolver.record { r with catalogs := r.catalogs.insert name (source.versions name) }
      (.lookedUpVersions name))
  rank : ∀ {r : Resolver} {name : String} {versions : List String}, P r →
    r.catalogs[name]? = some (.ok versions) → r.ranked[name]? = none →
      P (r.rankAnew source name versions).2

namespace Kept

variable {source : Source} {P : Resolver → Prop} {r : Resolver}

theorem catalog (k : Kept source P) (h : P r) (name : String) :
    P (r.catalog source name).2 ∧ (r.catalog source name).2.ranked = r.ranked ∧
      (r.catalog source name).2.catalogs[name]? = some (r.catalog source name).1 := by
  cases hk : r.catalogs[name]? with
  | some known =>
    have hs : r.catalog source name = (known, r) := by simp only [Resolver.catalog, hk]
    rw [hs]
    exact ⟨h, rfl, hk⟩
  | none =>
    have hs : r.catalog source name = (source.versions name,
        Resolver.record { r with catalogs := r.catalogs.insert name (source.versions name) }
          (.lookedUpVersions name)) := by
      simp only [Resolver.catalog, hk]
    rw [hs]
    exact ⟨k.lookUp h hk, rfl, Std.ExtTreeMap.getElem?_insert_self⟩

theorem resolve (k : Kept source P) (h : P r) (name declared : String) :
    P (r.resolve source name declared).2 := by
  rw [Resolver.resolve]
  split
  · exact h
  · cases hr : r.ranked[name]? with
    | some known => exact h
    | none =>
      have hc := k.catalog h name
      generalize r.catalog source name = step at hc ⊢
      obtain ⟨e | versions, r'⟩ := step
      · exact hc.1
      · exact k.rank hc.1 hc.2.2 (hc.2.1 ▸ hr)

theorem overrideBy (k : Kept source P) (h : P r) (rule : Override) (name declared : String) :
    P (Rewriter.overrideBy source rule name declared r).2 := by
  rw [Rewriter.overrideBy]
  have hc := k.catalog h name
  generalize r.catalog source name = step at hc ⊢
  obtain ⟨e | versions, r'⟩ := step
  · exact hc.1
  · cases rule.apply name declared with
    | error e => exact hc.1
    | ok chosen => exact k.record hc.1 rfl

theorem resolveWith (k : Kept source P) (h : P r) (overrides : Overrides) (name declared : String) :
    P (Rewriter.resolveWith source overrides name declared r).2 := by
  rw [Rewriter.resolveWith]
  split
  · exact h
  · cases overrides[name]? with
    | some rule => exact k.overrideBy h rule name declared
    | none => exact k.resolve h name declared

theorem planPin (k : Kept source P) (h : P r) (overrides : Overrides) (text : String) (pin : Pin) :
    P (Rewriter.planPin source overrides text pin r).2 :=
  k.resolveWith (k.record h rfl) overrides pin.token.name pin.token.version

theorem planPins (k : Kept source P) (h : P r) (overrides : Overrides) (text : String)
    (pins : List Pin) : P (Rewriter.planPins source overrides text pins r).2 := by
  induction pins generalizing r with
  | nil => exact h
  | cons pin pins ih => exact ih (k.planPin h overrides text pin)

theorem policy (source : Source) (policy : Policy) : Kept source (·.policy = policy) where
  record h _ := h
  lookUp h _ := h
  rank h _ _ := (Resolver.rankVersions_rankedFrom _ source _ _).policy_eq.trans h

end Kept

theorem Faithful.kept (source : Source) (policy : Policy) : Kept source (Faithful source policy) where
  record h _ := h.record _
  lookUp h _ := (h.insertCatalog _).record _
  rank {_ name _} h hk _ := (Resolver.rankAnew_answers h (h.catalogs name _ hk).symm).faithful

/-- The questions on record have been put once each, in an order that has the versions of a dependency
before its history, and what came of them is remembered. -/
structure Mindful (r : Resolver) : Prop where
  nodup : r.lookups.Nodup
  versions : ∀ name, .versions name ∈ r.lookups ↔ r.catalogs[name]? ≠ none
  history : ∀ name, .history name ∈ r.lookups → r.ranked[name]? ≠ none
  versions_first : ∀ before name rest, r.lookups = before ++ .history name :: rest →
    .versions name ∈ before

namespace Mindful

theorem fresh (policy : Policy) : Mindful { policy } where
  nodup := List.nodup_nil
  versions name := by simp [Resolver.lookups]
  history name h := by simp [Resolver.lookups] at h
  versions_first before name rest h := by simp [Resolver.lookups] at h

/-- A resolver that remembers the same of the same questions is as mindful. -/
theorem of_eq {r r' : Resolver} (h : Mindful r) (hl : r'.lookups = r.lookups)
    (hc : r'.catalogs = r.catalogs) (hr : r'.ranked = r.ranked) : Mindful r' where
  nodup := hl ▸ h.nodup
  versions := by rw [hl, hc]; exact h.versions
  history := by rw [hl, hr]; exact h.history
  versions_first := by rw [hl]; exact h.versions_first

/-- One more question, not put before, keeps the questions in order. -/
theorem ask {r r' : Resolver} (h : Mindful r) {l : Lookup} (hl : r'.lookups = r.lookups ++ [l])
    (hnew : l ∉ r.lookups) (hfirst : ∀ name, l = .history name → .versions name ∈ r.lookups)
    (hversions : ∀ name, .versions name ∈ r'.lookups ↔ r'.catalogs[name]? ≠ none)
    (hhistory : ∀ name, .history name ∈ r'.lookups → r'.ranked[name]? ≠ none) : Mindful r' where
  nodup := by
    rw [hl, List.nodup_append]
    refine ⟨h.nodup, by simp, fun a ha b hb hab => hnew ?_⟩
    rwa [← List.mem_singleton.1 hb, ← hab]
  versions := hversions
  history := hhistory
  versions_first before name rest he := by
    rw [hl] at he
    rcases List.eq_nil_or_concat rest with rfl | ⟨rest', l', rfl⟩
    · obtain ⟨rfl, hlast⟩ := List.append_inj' he rfl
      exact hfirst name (List.singleton_inj.1 hlast)
    · rw [List.concat_eq_append, ← List.cons_append, ← List.append_assoc] at he
      exact h.versions_first before name rest' (List.append_inj' he rfl).1

theorem kept (source : Source) : Kept source Mindful where
  record {r event} h he := h.of_eq (by rw [r.lookups_record, he]; exact List.append_nil _) rfl rfl
  lookUp {r name} h hk := by
    refine h.ask (Resolver.lookups_record _ _) ?_ (fun _ he => by cases he) ?_ ?_
    · rw [h.versions, hk]
      exact fun hne => hne rfl
    · intro other
      rw [Resolver.lookups_record, Resolver.record_catalogs, Std.ExtTreeMap.getElem?_insert]
      split
      · next he =>
        obtain rfl := Std.LawfulEqCmp.compare_eq_iff_eq.1 he
        simp [Event.lookup?]
      · next he =>
        have hne : other ≠ name := by
          rintro rfl
          exact he Std.ReflCmp.compare_self
        rw [← h.versions]
        simp [Event.lookup?, Resolver.lookups, hne]
    · intro other ho
      rw [Resolver.lookups_record] at ho
      exact h.history other ((List.mem_append.1 ho).resolve_right (by simp [Event.lookup?]))
  rank {r name versions} h hk hr := by
    have hs := Resolver.rankVersions_rankedFrom r source name versions
    have hm (other : String) (ho : .history other ∈ r.lookups ∨ other = name) :
        (r.rankAnew source name versions).2.ranked[other]? ≠ none := by
      simp only [Resolver.rankAnew, hs.ranked_eq, Std.ExtTreeMap.getElem?_insert]
      split
      · simp
      · next he =>
        refine h.history other (ho.resolve_right ?_)
        rintro rfl
        exact he Std.ReflCmp.compare_self
    have hl : (r.rankAnew source name versions).2.lookups =
        r.lookups ++ rankingLookups name versions := hs.lookups_eq
    have hc : (r.rankAnew source name versions).2.catalogs = r.catalogs := hs.catalogs_eq
    cases hn : allNumeric versions with
    | true =>
      have he : rankingLookups name versions = [] := by simp [rankingLookups, hn]
      rw [he, List.append_nil] at hl
      exact ⟨hl ▸ h.nodup, by rw [hl, hc]; exact h.versions,
        fun other ho => hm other (.inl (hl ▸ ho)), by rw [hl]; exact h.versions_first⟩
    | false =>
      have he : rankingLookups name versions = [.history name] := by simp [rankingLookups, hn]
      rw [he] at hl
      have hv : .versions name ∈ r.lookups := (h.versions name).2 (by simp [hk])
      refine h.ask hl (fun hh => h.history name hh hr) ?_ ?_ ?_
      · rintro other ⟨⟩
        exact hv
      · intro other
        rw [hl, hc, ← h.versions, List.mem_append, List.mem_singleton]
        exact or_iff_left fun he => by cases he
      · intro other ho
        rw [hl, List.mem_append, List.mem_singleton] at ho
        exact hm other (ho.imp id fun he => by cases he; rfl)

end Mindful

/-- A resolver whose notes, together with those taken from it, are the notes that the questions on
record give rise to, each one put for the history of a known catalog that is not ranked by number. -/
structure Accounted (source : Source) (policy : Policy) (taken : List HistoryNote)
    (r : Resolver) : Prop where
  faithful : Faithful source policy r
  freeForm : ∀ name, .history name ∈ r.lookups → ∃ versions,
    source.versions name = .ok versions ∧ allNumeric versions = false
  notes_eq : taken ++ r.notes = r.lookups.flatMap (source.notesOf policy)

namespace Accounted

variable {source : Source} {policy : Policy} {taken : List HistoryNote}

theorem fresh (source : Source) (policy : Policy) : Accounted source policy [] { policy } where
  faithful := faithful_fresh source policy
  freeForm name h := by simp [Resolver.lookups] at h
  notes_eq := rfl

theorem takeNotes {r : Resolver} (h : Accounted source policy taken r) :
    Accounted source policy (taken ++ r.takeNotes.1) r.takeNotes.2 where
  faithful := h.faithful.takeNotes
  freeForm := h.freeForm
  notes_eq := (List.append_nil _).trans h.notes_eq

theorem kept : Kept source (Accounted source policy taken) where
  record {r event} h he := by
    have hl : (r.record event).lookups = r.lookups := by
      rw [r.lookups_record, he]
      exact List.append_nil _
    exact ⟨(Faithful.kept source policy).record h.faithful he, by rw [hl]; exact h.freeForm,
      by rw [hl]; exact h.notes_eq⟩
  lookUp {r name} h hk := by
    refine ⟨(Faithful.kept source policy).lookUp h.faithful hk, ?_, ?_⟩
    · intro other ho
      rw [Resolver.lookups_record] at ho
      exact h.freeForm other ((List.mem_append.1 ho).resolve_right (by simp [Event.lookup?]))
    · rw [Resolver.lookups_record, List.flatMap_append]
      exact h.notes_eq.trans (List.append_nil _).symm
  rank {r name versions} h hk hr := by
    have hv : source.versions name = .ok versions := (h.faithful.catalogs name _ hk).symm
    have hs := Resolver.rankVersions_rankedFrom r source name versions
    have hl : (r.rankAnew source name versions).2.lookups =
        r.lookups ++ rankingLookups name versions := hs.lookups_eq
    refine ⟨(Faithful.kept source policy).rank h.faithful hk hr, ?_, ?_⟩
    · intro other ho
      rw [hl, List.mem_append] at ho
      rcases ho with ho | ho
      · exact h.freeForm other ho
      · cases hn : allNumeric versions with
        | true => simp [rankingLookups, hn] at ho
        | false =>
          obtain rfl : other = name := by simpa [rankingLookups, hn] using ho
          exact ⟨versions, hv, hn⟩
    · rw [hl, List.flatMap_append, ← h.notes_eq, List.append_assoc, ← h.faithful.policy_eq]
      exact congrArg (taken ++ ·) (hs.notes_eq hv)

end Accounted

end RecipePins
