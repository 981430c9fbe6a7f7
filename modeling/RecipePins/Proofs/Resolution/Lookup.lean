import RecipePins.Proofs.Resolution.Session

/-!
# What a resolver asks of its source

A resolver records every question that it puts to its source, and it knows the source by the answers
to these questions only: a step comes out the same with any other source that answers them alike.
-/
namespace RecipePins

inductive Lookup where
  | versions (name : String)
  | history (name : String)
  deriving DecidableEq

namespace Lookup

def name : Lookup → String
  | versions name | history name => name

/-- Two sources give the same answer to a question. -/
def AlikeIn (source source' : Source) : Lookup → Prop
  | versions name => source.versions name = source'.versions name
  | history name => source.annotate name = source'.annotate name

end Lookup

def Event.lookup? : Event → Option Lookup
  | .lookedUpVersions name => some (.versions name)
  | .lookedUpHistory name => some (.history name)
  | _ => none

/-- The questions put so far, in order. -/
def Resolver.lookups (r : Resolver) : List Lookup :=
  r.events.filterMap Event.lookup?

/-- Starting at the resolver `r`, a step puts questions of one kind and records them, and the source
bears on it by the answers to them only. -/
def Asks {α : Type} (kind : Lookup → Prop) (r : Resolver) (step : Source → α × Resolver) : Prop :=
  ∀ source, ∃ asked, (step source).2.lookups = r.lookups ++ asked ∧ (∀ l ∈ asked, kind l) ∧
    ∀ source', (∀ l ∈ asked, l.AlikeIn source source') → step source' = step source

namespace Asks

variable {α β : Type} {kind : Lookup → Prop} {r : Resolver} {step : Source → α × Resolver}

theorem mono {kind' : Lookup → Prop} (h : Asks kind r step) (hk : ∀ l, kind l → kind' l) :
    Asks kind' r step := by
  intro source
  obtain ⟨asked, hl, hkind, hlocal⟩ := h source
  exact ⟨asked, hl, fun l hm => hk l (hkind l hm), hlocal⟩

/-- A step that does without the source puts no question. -/
theorem quiet {x : α × Resolver} (hl : x.2.lookups = r.lookups) : Asks kind r fun _ => x := by
  intro source
  refine ⟨[], ?_, fun l hm => absurd hm List.not_mem_nil, fun _ _ => rfl⟩
  rw [hl, List.append_nil]

/-- A step that goes on with the answer of another. -/
theorem bind (h : Asks kind r step) (next : α × Resolver → Source → β × Resolver)
    (hn : ∀ source, Asks kind (step source).2 (next (step source))) :
    Asks kind r fun source => next (step source) source := by
  intro source
  obtain ⟨asked, hl, hkind, hlocal⟩ := h source
  obtain ⟨asked', hl', hkind', hlocal'⟩ := hn source source
  refine ⟨asked ++ asked', ?_, ?_, ?_⟩
  · rw [hl', hl, List.append_assoc]
  · intro l hm
    exact (List.mem_append.1 hm).elim (hkind l) (hkind' l)
  · intro source' hs
    dsimp only
    rw [hlocal source' fun l hm => hs l (List.mem_append_left _ hm)]
    exact hlocal' source' fun l hm => hs l (List.mem_append_right _ hm)

/-- What is done with the answer of a step, the source left aside. -/
theorem map (h : Asks kind r step) (f : α × Resolver → β × Resolver)
    (hf : ∀ x, (f x).2.lookups = x.2.lookups) : Asks kind r fun source => f (step source) :=
  h.bind (fun x _ => f x) fun source => quiet (hf (step source))

end Asks

namespace Resolver

variable (r : Resolver) (source : Source) (name : String) (versions : List String)

@[simp] theorem lookups_record (event : Event) :
    (r.record event).lookups = r.lookups ++ event.lookup?.toList := by
  rw [lookups, record, List.filterMap_append]
  cases h : event.lookup? <;> simp [lookups, h]

@[simp] theorem lookups_note (problems : List History.Problem) :
    (r.note name problems).lookups = r.lookups := by
  have h : (problems.map (Event.skipped name)).filterMap Event.lookup? = [] := by
    simp [Event.lookup?]
  rw [lookups, note, List.filterMap_append, h, List.append_nil, lookups]

theorem catalog_asks : Asks (· = .versions name) r fun source => r.catalog source name := by
  unfold catalog
  cases r.catalogs[name]? with
  | some known => exact .quiet rfl
  | none =>
    intro source
    refine ⟨[.versions name], lookups_record _ _, by simp, ?_⟩
    intro source' hs
    have he : source.versions name = source'.versions name := hs _ (List.mem_singleton_self _)
    simp only [he]

/-- A step that asks for the versions of a dependency first and goes on if there are any. -/
theorem catalog_then_asks {α : Type} {kind : Lookup → Prop} (hk : kind (.versions name))
    {fail : Unresolved → Resolver → α × Resolver}
    {next : List String → Resolver → Source → α × Resolver}
    (hf : ∀ e r, (fail e r).2.lookups = r.lookups) (hn : ∀ versions r, Asks kind r (next versions r)) :
    Asks kind r fun source => match r.catalog source name with
      | (.error e, r) => fail e r
      | (.ok versions, r) => next versions r source := by
  have hc : Asks kind r fun source => r.catalog source name :=
    (catalog_asks r name).mono fun l hl => hl ▸ hk
  refine hc.bind (fun x source => match x with
    | (.error e, r) => fail e r
    | (.ok versions, r) => next versions r source) fun source => ?_
  rcases r.catalog source name with ⟨e | versions, r'⟩
  · exact .quiet (hf e r')
  · exact hn versions r'

theorem rankFreeForm_asks :
    Asks (· = .history name) r fun source => r.rankFreeForm source name versions := by
  intro source
  refine ⟨[.history name], ?_, by simp, ?_⟩
  · simp only [rankFreeForm]
    cases source.annotate name with
    | error e => exact lookups_record _ _
    | ok lines =>
      dsimp only
      split <;> simp [Event.lookup?]
  · intro source' hs
    have he : source.annotate name = source'.annotate name := hs _ (List.mem_singleton_self _)
    simp only [rankFreeForm, he]

theorem rankVersions_asks :
    Asks (· = .history name) r fun source => r.rankVersions source name versions := by
  unfold rankVersions
  cases VersionSet.ofList versions with
  | empty => exact .quiet rfl
  | numeric numbers =>
    refine .quiet ?_
    split <;> simp [Event.lookup?]
  | freeForm versions => exact rankFreeForm_asks r name versions

theorem rankAnew_asks : Asks (· = .history name) r fun source => r.rankAnew source name versions :=
  (rankVersions_asks r name versions).map
    (fun x => (x.1, { x.2 with ranked := x.2.ranked.insert name x.1 })) fun _ => rfl

theorem resolve_asks (declared : String) :
    Asks (fun l => declared ∉ r.policy.sentinels ∧ l.name = name) r
      fun source => r.resolve source name declared := by
  unfold resolve
  by_cases hs : declared ∈ r.policy.sentinels
  · simp only [Policy.isSentinel, List.contains_iff_mem, hs, if_true]
    exact .quiet rfl
  · simp only [Policy.isSentinel, List.contains_iff_mem, hs, if_false]
    cases r.ranked[name]? with
    | some known => exact .quiet rfl
    | none =>
      refine catalog_then_asks r name ⟨not_false, rfl⟩ (fun _ _ => rfl) fun versions r => ?_
      refine ((rankAnew_asks r name versions).mono ?_).map (fun x => (x.1.map some, x.2)) fun _ => rfl
      rintro l rfl
      exact ⟨not_false, rfl⟩

end Resolver

namespace Rewriter

variable (overrides : Overrides) (name declared : String) (r : Resolver)

theorem overrideBy_asks (rule : Override) :
    Asks (· = .versions name) r fun source => overrideBy source rule name declared r := by
  unfold overrideBy
  refine Resolver.catalog_then_asks r name ?_ (fun _ _ => rfl) fun versions r => ?_
  · rfl
  · cases rule.apply name declared with
    | error e => exact .quiet rfl
    | ok chosen => exact .quiet (by simp [Event.lookup?])

/-- On behalf of a sentinel no question is put, and on behalf of a declaration with a rule only the one
for its versions. -/
theorem resolveWith_asks :
    Asks (fun l => declared ∉ r.policy.sentinels ∧ l.name = name ∧
        (overrides[name]? ≠ none → l = .versions name)) r
      fun source => resolveWith source overrides name declared r := by
  unfold resolveWith
  by_cases hs : declared ∈ r.policy.sentinels
  · simp only [Policy.isSentinel, List.contains_iff_mem, hs, if_true]
    exact .quiet rfl
  · simp only [Policy.isSentinel, List.contains_iff_mem, hs, if_false]
    cases overrides[name]? with
    | some rule =>
      refine (overrideBy_asks name declared r rule).mono ?_
      rintro l rfl
      exact ⟨not_false, rfl, fun _ => rfl⟩
    | none =>
      refine (Resolver.resolve_asks r name declared).mono ?_
      rintro l ⟨-, hl⟩
      exact ⟨not_false, hl, fun h => absurd rfl h⟩

theorem planPin_asks (text : String) (pin : Pin) :
    Asks (fun l => pin.token.version ∉ r.policy.sentinels ∧ l.name = pin.token.name ∧
        (overrides[pin.token.name]? ≠ none → l = .versions pin.token.name)) r
      fun source => planPin source overrides text pin r := by
  have h := (resolveWith_asks overrides pin.token.name pin.token.version
    (r.record (.processing pin.token.name))).map
      (fun x => ((⟨pin, pin.line text, x.1.toOption.join, .ofResolution pin.token.version x.1⟩ :
        PinOutcome), x.2)) fun _ => rfl
  intro source
  obtain ⟨asked, hl, hkind, hlocal⟩ := h source
  refine ⟨asked, hl.trans ?_, hkind, hlocal⟩
  simp [Event.lookup?]

end Rewriter

end RecipePins
