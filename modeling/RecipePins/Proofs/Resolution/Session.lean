import RecipePins.Proofs.Resolution.Faithful

/-!
# Sessions of a rewriter

A session is a list of calls put to one rewriter, which remembers what it has looked up. As long as
the source stays the same, every answer is that of the resolution without memory, whatever calls went
before and however they failed.
-/
namespace RecipePins

structure Setup where
  exclusion : Exclusion
  overrides : Overrides
  policy : Policy

inductive Call where
  | rewrite (text : String)
  | plan (text : String)
  | resolve (name declared : String)

/-- What a call gives back; the notes of a report are left out. -/
inductive Answer where
  | rewritten (text : String) (outcomes : List PinOutcome)
  | planned (outcomes : List PinOutcome)
  | resolved (resolution : Except Unresolved (Option Resolved))

namespace Setup

def standard : Setup :=
  ⟨⟨Exclusion.standardNames, true⟩, Overrides.builtIn,
    ⟨Policy.standardSentinels, Policy.standardStarts⟩⟩

/-- A rewriter that has looked nothing up. -/
def rewriter (s : Setup) : Rewriter :=
  ⟨s.exclusion, s.overrides, { policy := s.policy }⟩

variable (s : Setup) (source : Source)

/-- The resolution of a declaration from the entry of its name alone. -/
def resolution (name declared : String) : Except Unresolved (Option Resolved) :=
  (source.entry s.overrides name).resolution s.policy name declared

/-- The outcome of a declaration from the entry of its name alone. -/
def outcome (name declared : String) : Outcome :=
  (source.entry s.overrides name).outcome s.policy name declared

def pinOutcome (text : String) (pin : Pin) : PinOutcome :=
  ⟨pin, pin.line text, (s.resolution source pin.token.name pin.token.version).toOption.join,
    s.outcome source pin.token.name pin.token.version⟩

def outcomes (text : String) : List PinOutcome :=
  (scan s.exclusion text).map (s.pinOutcome source text)

/-- The answer to a call, without any memory. -/
def answer : Call → Answer
  | .rewrite text => .rewritten (applyOutcomes (s.outcomes source text) text) (s.outcomes source text)
  | .plan text => .planned (s.outcomes source text)
  | .resolve name declared => .resolved (s.resolution source name declared)

end Setup

namespace Rewriter

def call (source : Source) (w : Rewriter) : Call → Answer × Rewriter
  | .rewrite text =>
    (.rewritten (w.rewrite source text).1.text (w.rewrite source text).1.report.outcomes,
      (w.rewrite source text).2)
  | .plan text => (.planned (w.plan source text).1, (w.plan source text).2)
  | .resolve name declared =>
    (.resolved (w.resolve source name declared).1, (w.resolve source name declared).2)

def answers (source : Source) : List Call → Rewriter → List Answer
  | [], _ => []
  | c :: calls, w => (w.call source c).1 :: answers source calls (w.call source c).2

def after (source : Source) : List Call → Rewriter → Rewriter
  | [], w => w
  | c :: calls, w => after source calls (w.call source c).2

end Rewriter

/-- A rewriter that keeps its setting and remembers only what the source would answer now. -/
structure Setup.Serves (s : Setup) (source : Source) (w : Rewriter) : Prop where
  exclusion_eq : w.exclusion = s.exclusion
  overrides_eq : w.overrides = s.overrides
  faithful : Faithful source s.policy w.resolver

variable {s : Setup} {source : Source} {w : Rewriter}

theorem ofResolution_resolution (name declared : String) :
    Outcome.ofResolution declared (s.resolution source name declared) =
      s.outcome source name declared := by
  unfold Outcome.ofResolution Setup.resolution Setup.outcome Entry.outcome
  rfl

namespace Rewriter

theorem planPin_answers {r : Resolver} (h : Faithful source s.policy r) (text : String) (pin : Pin) :
    Answers source s.policy (planPin source s.overrides text pin r) (s.pinOutcome source text pin) := by
  have ha := resolveWith_answers s.overrides (h.record (.processing pin.token.name)) pin.token.name
    pin.token.version
  refine ⟨?_, ha.faithful⟩
  have he : (planPin source s.overrides text pin r).1 =
      ⟨pin, pin.line text, (s.resolution source pin.token.name pin.token.version).toOption.join,
        .ofResolution pin.token.version (s.resolution source pin.token.name pin.token.version)⟩ := by
    rw [Setup.resolution, ← ha.answer_eq]
    rfl
  rw [he, ofResolution_resolution]
  rfl

theorem planPins_answers {r : Resolver} (h : Faithful source s.policy r) (text : String)
    (pins : List Pin) :
    Answers source s.policy (planPins source s.overrides text pins r)
      (pins.map (s.pinOutcome source text)) := by
  induction pins generalizing r with
  | nil => exact ⟨rfl, h⟩
  | cons pin pins ih =>
    have hp := planPin_answers h text pin
    have ht := ih hp.faithful
    refine ⟨?_, ht.faithful⟩
    rw [List.map_cons, ← hp.answer_eq, ← ht.answer_eq]
    rfl

end Rewriter

namespace Setup.Serves

theorem fresh (s : Setup) (source : Source) : s.Serves source s.rewriter :=
  ⟨rfl, rfl, faithful_fresh source s.policy⟩

theorem plan_answers (h : s.Serves source w) (text : String) :
    Answers source s.policy ((w.plan source text).1, (w.plan source text).2.resolver)
      (s.outcomes source text) := by
  have ha := Rewriter.planPins_answers h.faithful text (scan s.exclusion text)
  rw [← h.overrides_eq, ← h.exclusion_eq] at ha
  refine ⟨?_, ha.faithful⟩
  rw [outcomes, ← h.exclusion_eq, ← ha.answer_eq]
  rfl

theorem plan_eq (h : s.Serves source w) (text : String) :
    (w.plan source text).1 = s.outcomes source text :=
  (h.plan_answers text).answer_eq

theorem rewrite_outcomes (h : s.Serves source w) (text : String) :
    (w.rewrite source text).1.report.outcomes = s.outcomes source text :=
  h.plan_eq text

theorem rewrite_text (h : s.Serves source w) (text : String) :
    (w.rewrite source text).1.text = applyOutcomes (s.outcomes source text) text := by
  rw [← h.plan_eq]
  rfl

theorem resolve_eq (h : s.Serves source w) (name declared : String) :
    (w.resolve source name declared).1 = s.resolution source name declared := by
  have ha := Rewriter.resolveWith_answers s.overrides h.faithful name declared
  rw [resolution, ← ha.answer_eq, ← h.overrides_eq]
  rfl

/-- One call keeps what a rewriter serves, and its answer is the one without memory. -/
theorem call (h : s.Serves source w) (c : Call) :
    (w.call source c).1 = s.answer source c ∧ s.Serves source (w.call source c).2 := by
  cases c with
  | rewrite text =>
    refine ⟨?_, h.exclusion_eq, h.overrides_eq, (h.plan_answers text).faithful.takeNotes⟩
    rw [answer, ← h.rewrite_outcomes]
    rfl
  | plan text =>
    refine ⟨?_, h.exclusion_eq, h.overrides_eq, (h.plan_answers text).faithful⟩
    rw [answer, ← h.plan_eq]
    rfl
  | resolve name declared =>
    refine ⟨?_, h.exclusion_eq, h.overrides_eq, ?_⟩
    · rw [answer, ← h.resolve_eq]
      rfl
    · have ha := Rewriter.resolveWith_answers s.overrides h.faithful name declared
      rw [← h.overrides_eq] at ha
      exact ha.faithful

theorem after (h : s.Serves source w) (calls : List Call) : s.Serves source (w.after source calls) := by
  induction calls generalizing w with
  | nil => exact h
  | cons c calls ih => exact ih (h.call c).2

theorem answers (h : s.Serves source w) (calls : List Call) :
    w.answers source calls = calls.map (s.answer source) := by
  induction calls generalizing w with
  | nil => rfl
  | cons c calls ih => rw [Rewriter.answers, (h.call c).1, ih (h.call c).2, List.map_cons]

/-- A planned pin has the resolution and the outcome that the entry of its name gives. -/
theorem mem_plan (h : s.Serves source w) {text : String} {o : PinOutcome}
    (ho : o ∈ (w.plan source text).1) :
    o.resolved = (s.resolution source o.pin.token.name o.pin.token.version).toOption.join ∧
      o.outcome = s.outcome source o.pin.token.name o.pin.token.version := by
  rw [h.plan_eq] at ho
  obtain ⟨pin, -, rfl⟩ := List.mem_map.1 ho
  exact ⟨rfl, rfl⟩

end Setup.Serves

/-- Every answer of a session is the one without memory. So what becomes of a pin is settled by the
entry of its name: two sessions with different sources, calls and texts agree on a declaration
whenever the two sources agree about its name. -/
theorem session_answers_eq_memoryless (s : Setup) (source : Source) (calls : List Call) :
    s.rewriter.answers source calls = calls.map (s.answer source) ∧
      ∀ (source' : Source) (calls' : List Call) (text text' : String),
        ∀ o ∈ ((s.rewriter.after source calls).plan source text).1,
        ∀ o' ∈ ((s.rewriter.after source' calls').plan source' text').1,
          o.pin.token.name = o'.pin.token.name → o.pin.token.version = o'.pin.token.version →
          source.entry s.overrides o.pin.token.name = source'.entry s.overrides o.pin.token.name →
            o.resolved = o'.resolved ∧ o.outcome = o'.outcome := by
  refine ⟨(Setup.Serves.fresh s source).answers calls, ?_⟩
  intro source' calls' text text' o ho o' ho' hn hv he
  obtain ⟨hr, hout⟩ := ((Setup.Serves.fresh s source).after calls).mem_plan ho
  obtain ⟨hr', hout'⟩ := ((Setup.Serves.fresh s source').after calls').mem_plan ho'
  rw [hr, hr', hout, hout', Setup.resolution, Setup.resolution, Setup.outcome, Setup.outcome, ← hn,
    ← hv, he]
  exact ⟨rfl, rfl⟩

def KeptAnswers.sample : KeptAnswers where
  versions := Std.ExtTreeMap.ofList [("cmake", Except.ok ["3.28.1"]),
    ("zlib", Except.ok ["1.2.13", "1.3.1"])]

def KeptAnswers.smaller : KeptAnswers where
  versions := Std.ExtTreeMap.ofList [("zlib", Except.ok ["1.2.13", "1.3.1"])]

theorem zlib_alike_in_sample_and_smaller :
    ∃ o ∈ ((Setup.standard.rewriter.after KeptAnswers.sample.toSource [.rewrite "'zlib/1.0'"]).plan
        KeptAnswers.sample.toSource "\"cmake/3.24.0\" \"zlib/1.2.13\"").1,
      ∃ o' ∈ ((Setup.standard.rewriter.after KeptAnswers.smaller.toSource []).plan
          KeptAnswers.smaller.toSource "\"cmake/3.24.0\" 'zlib/1.2.13'").1,
        o.outcome = .updated "1.2.13" "1.3.1" ∧ o.resolved = o'.resolved ∧ o.outcome = o'.outcome := by
  have he : KeptAnswers.sample.toSource.entry Setup.standard.overrides "zlib" =
      KeptAnswers.smaller.toSource.entry Setup.standard.overrides "zlib" := rfl
  refine ⟨⟨⟨⟨'"', "zlib", "1.2.13"⟩, 15⟩, 1, some ⟨"zlib", "1.3.1", .numeric, false⟩,
      .updated "1.2.13" "1.3.1"⟩, ?planned,
    ⟨⟨⟨'\'', "zlib", "1.2.13"⟩, 15⟩, 1, some ⟨"zlib", "1.3.1", .numeric, false⟩,
      .updated "1.2.13" "1.3.1"⟩, ?planned', rfl,
    (session_answers_eq_memoryless _ _ _).2 _ _ _ _ _ ?planned _ ?planned' rfl rfl he⟩
  case planned => decide +kernel
  case planned' => decide +kernel

end RecipePins
