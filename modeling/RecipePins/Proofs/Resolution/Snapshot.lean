import RecipePins.Proofs.Resolution.Memory

/-!
# One answer to each question

A run is a list of requests to a rewriter or to the resolver in it, each with the source as it is when
the request comes. However the source changes and fails in between, the run puts each of its questions
once, and it is served as by one source that never changes: the first answers, taken together.
-/
namespace RecipePins

/-- On whose behalf a question is put. -/
inductive Cause where
  | catalog (name : String)
  | latest (name declared : String)
  | declaration (name declared : String)

/-- The questions that may be put on behalf of a cause: none for a sentinel, and none about history for
a declaration that a rule decides. -/
def Setup.Permits (s : Setup) : Cause → Lookup → Prop
  | .catalog name, l => l = .versions name
  | .latest name declared, l => declared ∉ s.policy.sentinels ∧ l.name = name
  | .declaration name declared, l => declared ∉ s.policy.sentinels ∧ l.name = name ∧
      (s.overrides[name]? ≠ none → l = .versions name)

/-- A question with the source that it was put to. -/
structure Consultation where
  source : Source
  cause : Cause
  lookup : Lookup

inductive Request where
  | call (c : Call)
  | catalog (name : String)
  | latest (name declared : String)
  | takeNotes

/-- What a request gives back besides notes. -/
inductive Reply where
  | answer (a : Answer)
  | catalog (found : Except Unresolved (List String))
  | latest (found : Except Unresolved (Option Resolved))
  | done

/-- The reply to a request and the notes handed out with it. -/
structure Served where
  reply : Reply
  notes : List HistoryNote

/-- The questions on record in `r'` beyond those in `r`. -/
def consulted (source : Source) (cause : Cause) (r r' : Resolver) : List Consultation :=
  (r'.lookups.drop r.lookups.length).map (Consultation.mk source cause)

namespace Rewriter

/-- The notes handed out with the answer to a call. -/
def callNotes (source : Source) (w : Rewriter) : Call → List HistoryNote
  | .rewrite text => (w.rewrite source text).1.report.notes
  | _ => []

def serve (source : Source) (w : Rewriter) : Request → Served × Rewriter
  | .call c => (⟨.answer (w.call source c).1, w.callNotes source c⟩, (w.call source c).2)
  | .catalog name =>
    (⟨.catalog (w.resolver.catalog source name).1, []⟩,
      { w with resolver := (w.resolver.catalog source name).2 })
  | .latest name declared =>
    (⟨.latest (w.resolver.resolve source name declared).1, []⟩,
      { w with resolver := (w.resolver.resolve source name declared).2 })
  | .takeNotes => (⟨.done, w.resolver.takeNotes.1⟩, { w with resolver := w.resolver.takeNotes.2 })

/-- The questions put in planning some pins of a text, each on behalf of its pin. -/
def planConsultations (source : Source) (overrides : Overrides) (text : String) :
    List Pin → Resolver → List Consultation
  | [], _ => []
  | pin :: pins, r =>
    let r' := (planPin source overrides text pin r).2
    consulted source (.declaration pin.token.name pin.token.version) r r' ++
      planConsultations source overrides text pins r'

def consultations (source : Source) (w : Rewriter) : Request → List Consultation
  | .call (.rewrite text) | .call (.plan text) =>
    planConsultations source w.overrides text (scan w.exclusion text) w.resolver
  | .call (.resolve name declared) =>
    consulted source (.declaration name declared) w.resolver (w.resolve source name declared).2.resolver
  | .catalog name => consulted source (.catalog name) w.resolver (w.resolver.catalog source name).2
  | .latest name declared =>
    consulted source (.latest name declared) w.resolver (w.resolver.resolve source name declared).2
  | .takeNotes => []

def serveAll : List (Source × Request) → Rewriter → List Served × Rewriter
  | [], w => ([], w)
  | (source, q) :: run, w =>
    let (served, w) := w.serve source q
    let (rest, w) := serveAll run w
    (served :: rest, w)

def runConsultations : List (Source × Request) → Rewriter → List Consultation
  | [], _ => []
  | (source, q) :: run, w =>
    w.consultations source q ++ runConsultations run (w.serve source q).2

end Rewriter

/-- A step puts the questions listed and records them, and any source that answers them alike does as
well for it. -/
structure Consults {α : Type} (s : Setup) (source : Source) (r : Resolver) (step : Source → α)
    (after : α → Resolver) (questions : List Consultation) : Prop where
  lookups_eq : (after (step source)).lookups = r.lookups ++ questions.map (·.lookup)
  permits : ∀ c ∈ questions, s.Permits c.cause c.lookup
  alike : ∀ source', (∀ c ∈ questions, c.lookup.AlikeIn c.source source') →
    step source' = step source

theorem Consults.map {α β : Type} {s : Setup} {source : Source} {r : Resolver} {step : Source → α}
    {after : α → Resolver} {questions : List Consultation}
    (h : Consults s source r step after questions) (f : α → β) (after' : β → Resolver)
    (hf : ∀ x, (after' (f x)).lookups = (after x).lookups) :
    Consults s source r (fun source => f (step source)) after' questions where
  lookups_eq := (hf _).trans h.lookups_eq
  permits := h.permits
  alike source' hs := congrArg f (h.alike source' hs)

theorem Asks.consults {α : Type} {s : Setup} {r : Resolver} {step : Source → α × Resolver}
    (cause : Cause) (h : Asks (s.Permits cause) r step) (source : Source) :
    Consults s source r step Prod.snd (consulted source cause r (step source).2) := by
  obtain ⟨asked, hl, hkind, hlocal⟩ := h source
  have hc : consulted source cause r (step source).2 = asked.map (Consultation.mk source cause) := by
    rw [consulted, hl, List.drop_left]
  rw [hc]
  refine ⟨?_, ?_, ?_⟩
  · rw [hl, List.map_map]
    exact congrArg (r.lookups ++ ·) (List.map_id asked).symm
  · intro c hm
    obtain ⟨l, hl, rfl⟩ := List.mem_map.1 hm
    exact hkind l hl
  · intro source' hs
    exact hlocal source' fun l hl => hs _ (List.mem_map_of_mem hl)

namespace Rewriter

variable {s : Setup} {source : Source}

theorem planPins_consults (text : String) (pins : List Pin) {r : Resolver} (hp : r.policy = s.policy) :
    Consults s source r (fun source => planPins source s.overrides text pins r) Prod.snd
      (planConsultations source s.overrides text pins r) := by
  induction pins generalizing r with
  | nil => exact ⟨(List.append_nil _).symm, fun c hc => absurd hc List.not_mem_nil, fun _ _ => rfl⟩
  | cons pin pins ih =>
    have ha := planPin_asks s.overrides r text pin
    rw [hp] at ha
    have hc := Asks.consults (.declaration pin.token.name pin.token.version) ha source
    have ht := ih ((Kept.policy source s.policy).planPin hp s.overrides text pin)
    refine ⟨?_, ?_, ?_⟩
    · rw [planConsultations, List.map_append, ← List.append_assoc, ← hc.lookups_eq]
      exact ht.lookups_eq
    · intro c hm
      exact (List.mem_append.1 hm).elim (hc.permits c) (ht.permits c)
    · intro source' hs
      have hhead := hc.alike source' fun c hm => hs c (List.mem_append_left _ hm)
      have htail := ht.alike source' fun c hm => hs c (List.mem_append_right _ hm)
      dsimp only [planPins] at hhead htail ⊢
      rw [hhead, htail]

theorem serve_consults (source : Source) {w : Rewriter} (ho : w.overrides = s.overrides)
    (hp : w.resolver.policy = s.policy) (q : Request) :
    Consults s source w.resolver (fun source => w.serve source q) (fun x => x.2.resolver)
      (w.consultations source q) := by
  have plan (text : String) : Consults s source w.resolver
      (fun source => planPins source w.overrides text (scan w.exclusion text) w.resolver) Prod.snd
      (planConsultations source w.overrides text (scan w.exclusion text) w.resolver) := by
    rw [ho]
    exact planPins_consults text (scan w.exclusion text) hp
  have served {α : Type} {step : Source → α × Resolver} {questions : List Consultation}
      (h : Consults s source w.resolver step Prod.snd questions) (reply : α → Reply) :
      Consults s source w.resolver
        (fun source => ((⟨reply (step source).1, []⟩ : Served), { w with resolver := (step source).2 }))
        (fun x => x.2.resolver) questions :=
    h.map (fun x => ((⟨reply x.1, []⟩ : Served), { w with resolver := x.2 })) _ fun _ => rfl
  cases q with
  | call c =>
    cases c with
    | rewrite text =>
      exact (plan text).map
        (fun x => ((⟨.answer (.rewritten (applyOutcomes x.1 text) x.1), x.2.takeNotes.1⟩ : Served),
          { w with resolver := x.2.takeNotes.2 })) (fun x => x.2.resolver) fun _ => rfl
    | plan text => exact served (plan text) fun outcomes => .answer (.planned outcomes)
    | resolve name declared =>
      have ha := resolveWith_asks w.overrides name declared w.resolver
      rw [hp, ho] at ha
      have hc := Asks.consults (s := s) (.declaration name declared) ha source
      rw [← ho] at hc
      exact served hc fun resolution => .answer (.resolved resolution)
  | catalog name =>
    have ha := w.resolver.catalog_asks name
    exact served (Asks.consults (s := s) (.catalog name) ha source) .catalog
  | latest name declared =>
    have ha := w.resolver.resolve_asks name declared
    rw [hp] at ha
    exact served (Asks.consults (s := s) (.latest name declared) ha source) .latest
  | takeNotes => exact ⟨(List.append_nil _).symm, fun c hc => absurd hc List.not_mem_nil, fun _ _ => rfl⟩

theorem serve_setting (source : Source) (w : Rewriter) (q : Request) :
    (w.serve source q).2.exclusion = w.exclusion ∧ (w.serve source q).2.overrides = w.overrides := by
  cases q with
  | call c => cases c <;> exact ⟨rfl, rfl⟩
  | _ => exact ⟨rfl, rfl⟩

/-- What the steps of a resolver keep, the notes taken from it taken into account, a request keeps. -/
theorem serve_kept {P : List HistoryNote → Resolver → Prop} (k : ∀ taken, Kept source (P taken))
    (ht : ∀ taken r, P taken r → P (taken ++ r.takeNotes.1) r.takeNotes.2) (taken : List HistoryNote)
    {w : Rewriter} (h : P taken w.resolver) (q : Request) :
    P (taken ++ (w.serve source q).1.notes) (w.serve source q).2.resolver := by
  have silent {r : Resolver} (hr : P taken r) : P (taken ++ []) r := by
    rwa [List.append_nil]
  cases q with
  | call c =>
    cases c with
    | rewrite text =>
      exact ht taken _ ((k taken).planPins h w.overrides text (scan w.exclusion text))
    | plan text => exact silent ((k taken).planPins h w.overrides text (scan w.exclusion text))
    | resolve name declared => exact silent ((k taken).resolveWith h w.overrides name declared)
  | catalog name => exact silent ((k taken).catalog h name).1
  | latest name declared => exact silent ((k taken).resolve h name declared)
  | takeNotes => exact ht taken _ h

theorem serveAll_cons (source : Source) (q : Request) (run : List (Source × Request)) (w : Rewriter) :
    serveAll ((source, q) :: run) w =
      ((w.serve source q).1 :: (serveAll run (w.serve source q).2).1,
        (serveAll run (w.serve source q).2).2) := rfl

/-- What the steps of a resolver keep, whatever source of the run they are put to, the run keeps. -/
theorem serveAll_kept {P : List HistoryNote → Resolver → Prop} {run : List (Source × Request)}
    (k : ∀ x ∈ run, ∀ taken, Kept x.1 (P taken))
    (ht : ∀ taken r, P taken r → P (taken ++ r.takeNotes.1) r.takeNotes.2) (taken : List HistoryNote)
    {w : Rewriter} (h : P taken w.resolver) :
    P (taken ++ (serveAll run w).1.flatMap (·.notes)) (serveAll run w).2.resolver := by
  induction run generalizing taken w with
  | nil => exact (List.append_nil taken).symm ▸ h
  | cons x run ih =>
    have hx := serve_kept (k x List.mem_cons_self) ht taken h x.2
    have hrun := ih (fun y hy => k y (List.mem_cons_of_mem x hy)) _ hx
    rwa [List.append_assoc, ← List.flatMap_cons] at hrun

theorem serveAll_consults (run : List (Source × Request)) {w : Rewriter}
    (ho : w.overrides = s.overrides) (hp : w.resolver.policy = s.policy) :
    (serveAll run w).2.resolver.lookups =
        w.resolver.lookups ++ (runConsultations run w).map (·.lookup) ∧
      (∀ c ∈ runConsultations run w, s.Permits c.cause c.lookup) ∧
      ∀ snapshot, (∀ c ∈ runConsultations run w, c.lookup.AlikeIn c.source snapshot) →
        serveAll (run.map fun x => (snapshot, x.2)) w = serveAll run w := by
  induction run generalizing w with
  | nil => exact ⟨(List.append_nil _).symm, fun c hc => absurd hc List.not_mem_nil, fun _ _ => rfl⟩
  | cons x run ih =>
    obtain ⟨source, q⟩ := x
    have hc := serve_consults source ho hp q
    have hp' : (w.serve source q).2.resolver.policy = s.policy :=
      serve_kept (P := fun _ r => r.policy = s.policy) (fun _ => Kept.policy source s.policy)
        (fun _ _ h => h) [] hp q
    obtain ⟨hl, hpermits, halike⟩ := ih ((w.serve_setting source q).2.trans ho) hp'
    refine ⟨?_, ?_, ?_⟩
    · rw [runConsultations, List.map_append, ← List.append_assoc, ← hc.lookups_eq]
      exact hl
    · intro c hm
      exact (List.mem_append.1 hm).elim (hc.permits c) (hpermits c)
    · intro snapshot hs
      have hhead : w.serve snapshot q = w.serve source q :=
        hc.alike snapshot fun c hm => hs c (List.mem_append_left _ hm)
      have htail := halike snapshot fun c hm => hs c (List.mem_append_right _ hm)
      rw [List.map_cons, serveAll_cons, serveAll_cons, hhead, htail]

end Rewriter

/-- The latest version of a dependency, without any memory. -/
def Source.latest (source : Source) (policy : Policy) (name : String) : Except Unresolved Resolved :=
  match source.versions name with
  | .error e => .error e
  | .ok versions => ranking policy (source.annotate name) name versions

/-- The reply to a request, without any memory. -/
def Setup.reply (s : Setup) (source : Source) : Request → Reply
  | .call c => .answer (s.answer source c)
  | .catalog name => .catalog (source.versions name)
  | .latest name declared =>
    .latest (if declared ∈ s.policy.sentinels then .ok none
      else (source.latest s.policy name).map some)
  | .takeNotes => .done

namespace Setup.Serves

variable {s : Setup} {source : Source} {w : Rewriter}

theorem latest_eq (h : s.Serves source w) (name declared : String) :
    (w.resolver.resolve source name declared).1 =
      if declared ∈ s.policy.sentinels then .ok none else (source.latest s.policy name).map some := by
  have hn : (∅ : Overrides)[name]? = none := Std.ExtTreeMap.getElem?_empty
  rw [(Resolver.resolve_answers h.faithful ∅ hn).answer_eq, Entry.resolution, Source.latest]
  simp only [Source.entry, Entry.choose, hn]
  cases source.versions name <;> rfl

theorem serve_reply (h : s.Serves source w) (q : Request) :
    (w.serve source q).1.reply = s.reply source q := by
  cases q with
  | call c => exact congrArg Reply.answer (h.call c).1
  | catalog name => exact congrArg Reply.catalog (Resolver.catalog_answers h.faithful name).answer_eq
  | latest name declared => exact congrArg Reply.latest (h.latest_eq name declared)
  | takeNotes => rfl

/-- As long as the source stays the same, every reply of a run is the one without memory. -/
theorem serveAll_replies (h : s.Serves source w) (run : List (Source × Request)) :
    ((Rewriter.serveAll (run.map fun x => (source, x.2)) w).1.map (·.reply)) =
      run.map fun x => s.reply source x.2 := by
  induction run generalizing w with
  | nil => rfl
  | cons x run ih =>
    have hf : Faithful source s.policy (w.serve source x.2).2.resolver :=
      Rewriter.serve_kept (P := fun _ => Faithful source s.policy)
        (fun _ => Faithful.kept source s.policy) (fun _ _ hr => hr.takeNotes) [] h.faithful x.2
    have hs := w.serve_setting source x.2
    have ht := ih ⟨hs.1.trans h.exclusion_eq, hs.2.trans h.overrides_eq, hf⟩
    rw [List.map_cons, List.map_cons, ← h.serve_reply, ← ht]
    rfl

end Setup.Serves

/-- The source that answers every question as it was answered first. -/
def firstAnswers (questions : List Consultation) : Source where
  versions name :=
    match questions.find? (·.lookup = .versions name) with
    | some c => c.source.versions name
    | none => .error (.noDescriptor name name)
  annotate name :=
    match questions.find? (·.lookup = .history name) with
    | some c => c.source.annotate name
    | none => .error (.noHistory name name)

/-- Among some questions there is one that has found the versions of a dependency to be more than
numbers. -/
def FoundFreeForm (questions : List Consultation) (name : String) : Prop :=
  ∃ c ∈ questions, c.lookup = .versions name ∧
    ∃ versions, c.source.versions name = .ok versions ∧
      ∃ v ∈ versions, Version.isDotted v.toList = false

theorem find?_lookup {questions : List Consultation} (h : (questions.map (·.lookup)).Nodup)
    {c : Consultation} (hc : c ∈ questions) :
    questions.find? (·.lookup = c.lookup) = some c := by
  induction questions with
  | nil => cases hc
  | cons d questions ih =>
    rw [List.map_cons, List.nodup_cons] at h
    rcases List.mem_cons.1 hc with rfl | hm
    · simp
    · have hne : d.lookup ≠ c.lookup := fun he => h.1 (he ▸ List.mem_map_of_mem hm)
      rw [List.find?_cons_of_neg (by simpa using hne), ih h.2 hm]

theorem alikeIn_firstAnswers {questions : List Consultation} (h : (questions.map (·.lookup)).Nodup)
    {c : Consultation} (hc : c ∈ questions) : c.lookup.AlikeIn c.source (firstAnswers questions) := by
  have hf := find?_lookup h hc
  cases hl : c.lookup with
  | versions name =>
    rw [hl] at hf
    simp only [Lookup.AlikeIn, firstAnswers, hf]
  | history name =>
    rw [hl] at hf
    simp only [Lookup.AlikeIn, firstAnswers, hf]

namespace Setup

variable (s : Setup) (run : List (Source × Request))

/-- The questions put in a run that a new rewriter serves, in order. -/
def asked : List Consultation :=
  s.rewriter.runConsultations run

/-- A source that answers the questions put in a run as they were answered. -/
def Snapshot (snapshot : Source) : Prop :=
  ∀ c ∈ s.asked run, c.lookup.AlikeIn c.source snapshot

theorem lookups_asked :
    (s.asked run).map (·.lookup) = (s.rewriter.serveAll run).2.resolver.lookups :=
  (s.rewriter.serveAll_consults (s := s) run rfl rfl).1.symm

theorem mindful_serveAll : Mindful (s.rewriter.serveAll run).2.resolver :=
  Rewriter.serveAll_kept (P := fun _ => Mindful) (fun x _ _ => Mindful.kept x.1)
    (fun _ _ hr => hr.of_eq rfl rfl rfl) [] (Mindful.fresh s.policy)

theorem nodup_asked : ((s.asked run).map (·.lookup)).Nodup :=
  s.lookups_asked run ▸ (s.mindful_serveAll run).nodup

theorem snapshot_firstAnswers : s.Snapshot run (firstAnswers (s.asked run)) :=
  fun _ hc => alikeIn_firstAnswers (s.nodup_asked run) hc

variable {s run} {snapshot : Source}

/-- With a snapshot in place of the changing sources, a run comes out the same. -/
theorem Snapshot.serveAll_eq (h : s.Snapshot run snapshot) :
    s.rewriter.serveAll (run.map fun x => (snapshot, x.2)) = s.rewriter.serveAll run :=
  (s.rewriter.serveAll_consults (s := s) run rfl rfl).2.2 snapshot h

theorem Snapshot.accounted (h : s.Snapshot run snapshot) :
    Accounted snapshot s.policy ((s.rewriter.serveAll run).1.flatMap (·.notes))
      (s.rewriter.serveAll run).2.resolver := by
  have hk : ∀ x ∈ run.map fun x => (snapshot, x.2), ∀ taken,
      Kept x.1 (Accounted snapshot s.policy taken) := by
    intro x hx taken
    obtain ⟨y, -, rfl⟩ := List.mem_map.1 hx
    exact Accounted.kept
  have hfresh : Accounted snapshot s.policy [] s.rewriter.resolver := Accounted.fresh _ _
  have hrun := Rewriter.serveAll_kept hk (fun _ _ hr => hr.takeNotes) [] hfresh
  rwa [h.serveAll_eq] at hrun

theorem foundFreeForm_of_history {before rest : List Consultation} {c : Consultation} {name : String}
    (he : s.asked run = before ++ c :: rest) (hc : c.lookup = .history name) :
    FoundFreeForm before name := by
  have hlookups : (s.rewriter.serveAll run).2.resolver.lookups =
      before.map (·.lookup) ++ .history name :: rest.map (·.lookup) := by
    rw [← s.lookups_asked run, he, List.map_append, List.map_cons, hc]
  obtain ⟨c', hm, hl⟩ :=
    List.mem_map.1 ((s.mindful_serveAll run).versions_first _ name _ hlookups)
  have hfirst := s.snapshot_firstAnswers run
  obtain ⟨versions, hv, hn⟩ := hfirst.accounted.freeForm name (by rw [hlookups]; simp)
  have halike := hfirst c' (he ▸ List.mem_append_left _ hm)
  rw [hl] at halike
  exact ⟨c', hm, hl, versions, halike.trans hv, by simpa [allNumeric] using hn⟩

end Setup

/-- Whatever becomes of the sources in the course of a run, each question is put at most once, none on
behalf of a sentinel, and the history of a dependency only after its versions have been found to be more
than numbers, and not on behalf of a declaration that has a rule. Every reply is the one that a single
source gives which answers these questions as they were answered, and the notes, those handed out
followed by those pending, are the notes of each ranking by history once. -/
theorem run_served_from_first_answers (s : Setup) (run : List (Source × Request)) :
    (s.asked run).map (·.lookup) = (s.rewriter.serveAll run).2.resolver.lookups ∧
      ((s.asked run).map (·.lookup)).Nodup ∧
      (∀ c ∈ s.asked run, s.Permits c.cause c.lookup) ∧
      (∀ before c rest name, s.asked run = before ++ c :: rest → c.lookup = .history name →
        FoundFreeForm before name) ∧
      (∃ snapshot, s.Snapshot run snapshot) ∧
      ∀ snapshot, s.Snapshot run snapshot →
        (s.rewriter.serveAll run).1.map (·.reply) = run.map (fun x => s.reply snapshot x.2) ∧
          (s.rewriter.serveAll run).1.flatMap (·.notes) ++ (s.rewriter.serveAll run).2.resolver.notes =
            (s.asked run).flatMap fun c => snapshot.notesOf s.policy c.lookup := by
  refine ⟨s.lookups_asked run, s.nodup_asked run,
    (s.rewriter.serveAll_consults (s := s) run rfl rfl).2.1,
    fun _ _ _ _ he hc => Setup.foundFreeForm_of_history he hc, ⟨_, s.snapshot_firstAnswers run⟩, ?_⟩
  intro snapshot h
  constructor
  · rw [← h.serveAll_eq]
    exact (Setup.Serves.fresh s snapshot).serveAll_replies run
  · rw [h.accounted.notes_eq, ← s.lookups_asked run, List.flatMap_map]

/-- A catalog of one dependency, whose history says nothing of its version. -/
def KeptAnswers.dated : KeptAnswers where
  versions := Std.ExtTreeMap.ofList [("lib", Except.ok ["cci.1"])]
  history := Std.ExtTreeMap.ofList [("lib", Except.ok "broken line:\n")]

def datedRun : List (Source × Request) :=
  [(KeptAnswers.dated.toSource, .latest "lib" "cci.0"),
    (KeptAnswers.toSource {}, .call (.plan "\"lib/cci.1\" \"zlib/system\"")),
    (KeptAnswers.toSource {}, .catalog "lib"), (KeptAnswers.toSource {}, .takeNotes)]

theorem dated_served_from_first_answers :
    ∃ before c rest, Setup.standard.asked datedRun = before ++ c :: rest ∧
      c.lookup = .history "lib" ∧ FoundFreeForm before "lib" ∧
      ∃ snapshot, Setup.standard.Snapshot datedRun snapshot ∧
        (Setup.standard.rewriter.serveAll datedRun).1.map (·.reply) =
          datedRun.map fun x => Setup.standard.reply snapshot x.2 := by
  obtain ⟨-, -, -, hfirst, ⟨snapshot, hs⟩, hserved⟩ :=
    run_served_from_first_answers Setup.standard datedRun
  have hl : (Setup.standard.asked datedRun).map (·.lookup) =
      [.versions "lib", .history "lib"] := by decide +kernel
  obtain ⟨c', _, he, -, hl⟩ := List.map_eq_cons_iff.1 hl
  obtain ⟨c, rest, rfl, hc, -⟩ := List.map_eq_cons_iff.1 hl
  exact ⟨[c'], c, rest, he, hc, hfirst [c'] c rest "lib" he hc, snapshot, hs, (hserved snapshot hs).1⟩

end RecipePins
