import RecipePins.Proofs.Resolution.Choice
import RecipePins.Proofs.Rewrite.Simultaneous

/-!
# Updates of tokens

The update of a token is the version that its outcome gives, if the token is not excluded. Without
quotation marks in the catalogs and rules, updates are stable: the token that an update leaves needs
none. The text of a rewrite is then the original one with its cells revised by the updates of the
tokens that the scan finds.
-/
namespace RecipePins
open Text

/-- The new version of a token, if there is one and the token is not taken for a path. -/
def Setup.update (s : Setup) (source : Source) (t : Token) : Option String :=
  if s.exclusion.excludes t.name t.version then none
  else match s.outcome source t.name t.version with
    | .updated _ v => some v
    | _ => none

/-- The tokens that a scan finds in a text and does not take for paths. -/
def Setup.tokens (s : Setup) (text : String) : List Token :=
  (scan s.exclusion text).map Pin.token

variable {s : Setup} {source : Source}

theorem outcome_of_sentinel {name declared : String} (hs : declared ∈ s.policy.sentinels) :
    s.outcome source name declared = .sentinel := by
  unfold Setup.outcome Entry.outcome Entry.resolution
  rw [if_pos hs]

theorem outcome_of_noCatalog {name declared : String} {x : Unresolved}
    (hs : declared ∉ s.policy.sentinels) (hv : source.versions name = .error x) :
    s.outcome source name declared = .failed x := by
  unfold Setup.outcome Entry.outcome Entry.resolution
  rw [if_neg hs, show (source.entry s.overrides name).versions = .error x from hv]

theorem outcome_of_choose {name declared : String} {versions : List String}
    (hs : declared ∉ s.policy.sentinels) (hv : source.versions name = .ok versions) :
    s.outcome source name declared =
      match (source.entry s.overrides name).choose s.policy name declared versions with
      | .error x => .failed x
      | .ok r => if r.chosen = declared then .upToDate else .updated declared r.chosen := by
  unfold Setup.outcome Entry.outcome Entry.resolution
  rw [if_neg hs, show (source.entry s.overrides name).versions = .ok versions from hv]
  cases hc : (source.entry s.overrides name).choose s.policy name declared versions with
  | error x => simp only [hc, Except.map]
  | ok r => simp only [hc, Except.map]

/-- A declaration changes only if its catalog is known and another version is chosen for it. -/
theorem choose_of_updated {name declared old v : String}
    (h : s.outcome source name declared = .updated old v) :
    old = declared ∧ v ≠ declared ∧ ∃ versions r, source.versions name = .ok versions ∧
      (source.entry s.overrides name).choose s.policy name declared versions = .ok r ∧
        r.chosen = v := by
  by_cases hs : declared ∈ s.policy.sentinels
  · rw [outcome_of_sentinel hs] at h
    cases h
  · cases hv : source.versions name with
    | error x =>
      rw [outcome_of_noCatalog hs hv] at h
      cases h
    | ok versions =>
      rw [outcome_of_choose hs hv] at h
      split at h
      · cases h
      · next r hc =>
        split at h
        · cases h
        · next hne =>
          obtain ⟨rfl, rfl⟩ := Outcome.updated.inj h
          exact ⟨rfl, hne, versions, r, rfl, hc, rfl⟩

theorem update_eq_some_iff {t : Token} {v : String} :
    s.update source t = some v ↔ s.exclusion.excludes t.name t.version = false ∧
      s.outcome source t.name t.version = .updated t.version v := by
  rw [Setup.update]
  cases s.exclusion.excludes t.name t.version with
  | true => simp
  | false =>
    rw [if_neg Bool.false_ne_true]
    constructor
    · intro h
      split at h
      · next old new ho =>
        obtain rfl := Option.some.inj h
        obtain ⟨rfl, -⟩ := choose_of_updated ho
        exact ⟨rfl, ho⟩
      · cases h
    · rintro ⟨-, ho⟩
      rw [ho]

/-- A version that has been chosen for a name and is in the grammar of tokens is kept. -/
theorem outcome_of_chosen {name declared old v old' v' : String}
    (h : s.outcome source name declared = .updated old v) (hw : isPinWord v.toList = true) :
    s.outcome source name v ≠ .updated old' v' := by
  obtain ⟨-, -, versions, r, hv, hc, rfl⟩ := choose_of_updated h
  intro h'
  obtain ⟨-, hne, versions', r', hv', hc', rfl⟩ := choose_of_updated h'
  rw [hv] at hv'
  obtain rfl := Except.ok.inj hv'
  rw [Entry.choose_again hc hw] at hc'
  exact hne (congrArg Resolved.chosen (Except.ok.inj hc')).symm

/-- Updates are stable if no quotation mark can get into a text. -/
theorem Setup.QuoteFree.stable (h : s.QuoteFree source) : Stable (s.update source) where
  plain t v hu := by
    obtain ⟨-, -, versions, r, hv, hc, rfl⟩ := choose_of_updated (update_eq_some_iff.1 hu).2
    exact Entry.choose_plain (h.versions _ _ hv) (fun expr hr => h.ranges _ expr hr) hc
  settled t v hu hw := by
    have ho := (update_eq_some_iff.1 hu).2
    cases hu' : s.update source (t.withVersion v) with
    | none => rfl
    | some v' => exact absurd (update_eq_some_iff.1 hu').2 (outcome_of_chosen ho hw)

theorem mem_tokens_iff {text : String} {t : Token} :
    t ∈ s.tokens text ↔ t ∈ found false (spots (cells text.toList)) ∧
      s.exclusion.excludes t.name t.version = false := by
  rw [Setup.tokens, ← map_token_pinsAt (byteLength (lead text.toList)), ← pinsFrom_zero, scan]
  simp only [List.mem_map, List.mem_filter]
  constructor
  · rintro ⟨p, ⟨hp, he⟩, rfl⟩
    exact ⟨⟨p, hp, rfl⟩, by simpa using he⟩
  · rintro ⟨⟨p, hp, rfl⟩, he⟩
    exact ⟨p, ⟨hp, by simpa using he⟩, rfl⟩

theorem grammatical_of_mem_spots {cs : List Cell} {t : Token} (h : some t ∈ spots cs) :
    t.Grammatical := by
  induction cs with
  | nil => cases h
  | cons a cs ih =>
    rcases List.mem_cons.1 h with h | h
    · exact grammatical_of_opened h.symm
    · exact ih h

theorem mem_spots_of_mem_found {taken : Bool} {os : List (Option Token)} {t : Token}
    (h : t ∈ found taken os) : some t ∈ os := by
  obtain ⟨i, hi, -⟩ := mem_found_iff.1 h
  exact List.mem_of_getElem? (Option.join_eq_some_iff.1 hi)

theorem grammatical_of_mem_tokens {text : String} {t : Token} (h : t ∈ s.tokens text) :
    t.Grammatical :=
  grammatical_of_mem_spots (mem_spots_of_mem_found (mem_tokens_iff.1 h).1)

theorem newVersion?_pinOutcome {text : String} {pin : Pin} (h : pin ∈ scan s.exclusion text) :
    (s.pinOutcome source text pin).newVersion? = s.update source pin.token := by
  have he : s.exclusion.excludes pin.token.name pin.token.version = false := by
    simpa using (List.mem_filter.1 h).2
  rw [Setup.update, he]
  rfl

/-- The pins that are updated are those found whose token has an update. -/
theorem exists_updated_iff {text : String} {pin : Pin} {v : String} :
    (∃ o ∈ s.outcomes source text, o.pin = pin ∧ o.newVersion? = some v) ↔
      pin ∈ scan s.exclusion text ∧ s.update source pin.token = some v := by
  constructor
  · rintro ⟨o, ho, rfl, hv⟩
    obtain ⟨pin, hpin, rfl⟩ := List.mem_map.1 ho
    exact ⟨hpin, (newVersion?_pinOutcome hpin).symm.trans hv⟩
  · rintro ⟨hpin, hv⟩
    exact ⟨_, List.mem_map_of_mem hpin, rfl, (newVersion?_pinOutcome hpin).trans hv⟩

/-- The changes that the outcomes of a text ask for are the updates of its tokens. -/
theorem mem_changes_iff {text : String} {c : Change} :
    c ∈ (s.outcomes source text).filterMap Change.ofOutcome? ↔
      c.token ∈ s.tokens text ∧ s.update source c.token = some c.version := by
  rw [List.mem_filterMap]
  constructor
  · rintro ⟨o, ho, hc⟩
    obtain ⟨v, hv, rfl⟩ := Option.map_eq_some_iff.1 hc
    obtain ⟨hpin, hu⟩ := exists_updated_iff.1 ⟨o, ho, rfl, hv⟩
    exact ⟨List.mem_map_of_mem hpin, hu⟩
  · rintro ⟨ht, hv⟩
    obtain ⟨pin, hpin, hpt⟩ := List.mem_map.1 ht
    rw [← hpt] at hv
    obtain ⟨o, ho, rfl, hnew⟩ := exists_updated_iff.2 ⟨hpin, hv⟩
    refine ⟨o, ho, ?_⟩
    rw [Change.ofOutcome?, hnew, hpt]
    rfl

def Setup.revisedCells (s : Setup) (source : Source) (text : String) : List Cell :=
  revised (askFor (s.update source) (s.tokens text)) none (cells text.toList)

/-- A rewrite revises the cells of a text by the updates of the tokens that it finds. -/
theorem rewrite_text_eq (h : s.QuoteFree source) {w : Rewriter} (hw : s.Serves source w)
    (text : String) : (w.rewrite source text).1.text =
      String.ofList (lead text.toList ++ joinCells (s.revisedCells source text)) := by
  rw [hw.rewrite_text, applyOutcomes_eq h.stable]
  · refine congrArg (fun f => String.ofList (lead text.toList ++
      joinCells (revised f none (cells text.toList)))) (funext fun t => Option.ext fun v => ?_)
    rw [askFor_eq_some_iff, askFor_eq_some_iff, List.mem_map]
    constructor
    · rintro ⟨⟨c, hc, rfl⟩, hv⟩
      exact ⟨(mem_changes_iff.1 hc).1, hv⟩
    · rintro ⟨ht, hv⟩
      exact ⟨⟨⟨t, v⟩, mem_changes_iff.2 ⟨ht, hv⟩, rfl⟩, hv⟩
  · intro c hc
    obtain ⟨ht, hv⟩ := mem_changes_iff.1 hc
    exact ⟨grammatical_of_mem_tokens ht, hv⟩

end RecipePins
