import RecipePins.Proofs.Pin.Coverage
import RecipePins.Proofs.Resolution.Session

/-!
# The failures of a report

A report gives one failure for every name that failed, whatever became of the other pins of that name: it
is that of the first pin that failed, with its error and its line. The failures stand in the order of the
text.
-/
namespace RecipePins
open Text

/-- Of some outcomes this one is the first that fails for its name, and it fails with this error. -/
def PinOutcome.FirstFails (o : PinOutcome) (e : Unresolved) (outcomes : List PinOutcome) : Prop :=
  o.outcome = .failed e ∧ ∃ earlier later, outcomes = earlier ++ o :: later ∧
    ∀ o' ∈ earlier, o'.pin.token.name = o.pin.token.name → ∀ e', o'.outcome ≠ .failed e'

/-- What the failures of a report on a text tell. -/
structure Report.TellsFailures (report : Report) (text : String) : Prop where
  nodup_names : (report.failures.map (·.1.pin.token.name)).Nodup
  in_order : (report.failures.map (·.1)).Sublist report.outcomes
  mem_names_iff : ∀ name, name ∈ report.failures.map (·.1.pin.token.name) ↔
    ∃ o ∈ report.outcomes, o.pin.token.name = name ∧ ∃ e, o.outcome = .failed e
  mem_iff : ∀ o e, (o, e) ∈ report.failures ↔ o.FirstFails e report.outcomes
  line_eq : ∀ f ∈ report.failures, ∃ before after,
    text.toList = before ++ (f.1.pin.token.chars ++ after) ∧ byteLength before = f.1.pin.offset ∧
      f.1.line = 1 + before.count '\n'
  pins_ordered : (report.failures.map (·.1.pin)).Pairwise Pin.Precedes
  lines_ordered : (report.failures.map (·.1.line)).Pairwise (· ≤ ·)

theorem PinOutcome.error?_eq_some_iff {o : PinOutcome} {e : Unresolved} :
    o.error? = some e ↔ o.outcome = .failed e := by
  unfold error?
  split
  · next e' h => rw [h, Option.some.injEq, Outcome.failed.injEq]
  · next h => exact iff_of_false (by simp) (h e)

theorem PinOutcome.error?_eq_none_iff {o : PinOutcome} :
    o.error? = none ↔ ∀ e, o.outcome ≠ .failed e := by
  rw [Option.eq_none_iff_forall_ne_some]
  exact forall_congr' fun e => not_congr error?_eq_some_iff

theorem PinOutcome.firstFails_cons_self {o : PinOutcome} {e : Unresolved} (h : o.outcome = .failed e)
    (rest : List PinOutcome) : o.FirstFails e (o :: rest) :=
  ⟨h, [], rest, rfl, by simp⟩

/-- Behind another outcome one is the first to fail if that one is no failure of the same name. -/
theorem PinOutcome.firstFails_cons_iff {o o' : PinOutcome} {e : Unresolved} {rest : List PinOutcome} :
    o.FirstFails e (o' :: rest) ↔ o = o' ∧ o.outcome = .failed e ∨
      o.FirstFails e rest ∧ (o'.pin.token.name = o.pin.token.name → ∀ e', o'.outcome ≠ .failed e') := by
  constructor
  · rintro ⟨he, earlier, later, hsplit, hfirst⟩
    cases earlier with
    | nil => exact .inl ⟨(List.cons.inj hsplit).1.symm, he⟩
    | cons d earlier =>
      obtain ⟨rfl, rfl⟩ := List.cons.inj hsplit
      rw [List.forall_mem_cons] at hfirst
      exact .inr ⟨⟨he, earlier, later, rfl, hfirst.2⟩, hfirst.1⟩
  · rintro (⟨rfl, he⟩ | ⟨⟨he, earlier, later, rfl, hfirst⟩, ho'⟩)
    · exact firstFails_cons_self he rest
    · exact ⟨he, o' :: earlier, later, rfl, List.forall_mem_cons.2 ⟨ho', hfirst⟩⟩

namespace Report

variable {seen : List String} {outcomes : List PinOutcome}

theorem firstFailures_sublist (seen : List String) (outcomes : List PinOutcome) :
    ((firstFailures seen outcomes).map (·.1)).Sublist outcomes := by
  fun_induction firstFailures seen outcomes with
  | case1 => exact List.Sublist.slnil
  | case2 seen o rest e he hs ih => exact ih.cons o
  | case3 seen o rest e he hs ih => exact ih.cons_cons o
  | case4 seen o rest he ih => exact ih.cons o

/-- The failures that are kept are the first ones of names not seen before. -/
theorem mem_firstFailures_iff {o : PinOutcome} {e : Unresolved} :
    (o, e) ∈ firstFailures seen outcomes ↔ o.pin.token.name ∉ seen ∧ o.FirstFails e outcomes := by
  fun_induction firstFailures seen outcomes with
  | case1 seen => simp [PinOutcome.FirstFails]
  | case2 seen o' rest e' he hs ih =>
    rw [ih, PinOutcome.firstFails_cons_iff]
    refine and_congr_right fun ho => ?_
    have hname : o'.pin.token.name ≠ o.pin.token.name := fun hn => ho (hn ▸ List.contains_iff_mem.1 hs)
    constructor
    · exact fun h => .inr ⟨h, fun hn => absurd hn hname⟩
    · rintro (⟨rfl, -⟩ | ⟨h, -⟩)
      · exact absurd rfl hname
      · exact h
  | case3 seen o' rest e' he hs ih =>
    rw [PinOutcome.error?_eq_some_iff] at he
    rw [List.contains_iff_mem] at hs
    rw [List.mem_cons, ih, PinOutcome.firstFails_cons_iff, List.mem_cons, not_or]
    constructor
    · rintro (h | ⟨⟨hne, ho⟩, h⟩)
      · obtain ⟨rfl, rfl⟩ := Prod.mk.inj h
        exact ⟨hs, .inl ⟨rfl, he⟩⟩
      · exact ⟨ho, .inr ⟨h, fun hn => absurd hn.symm hne⟩⟩
    · rintro ⟨ho, ⟨rfl, hfail⟩ | ⟨h, hn⟩⟩
      · rw [he] at hfail
        exact .inl (by rw [Outcome.failed.inj hfail])
      · exact .inr ⟨⟨fun heq => hn heq.symm e' he, ho⟩, h⟩
  | case4 seen o' rest he ih =>
    rw [PinOutcome.error?_eq_none_iff] at he
    rw [ih, PinOutcome.firstFails_cons_iff]
    refine and_congr_right fun _ => ?_
    constructor
    · exact fun h => .inr ⟨h, fun _ => he⟩
    · rintro (⟨rfl, hfail⟩ | ⟨h, -⟩)
      · exact absurd hfail (he e)
      · exact h

theorem nodup_names_firstFailures (seen : List String) (outcomes : List PinOutcome) :
    ((firstFailures seen outcomes).map (·.1.pin.token.name)).Nodup := by
  fun_induction firstFailures seen outcomes with
  | case1 => exact List.nodup_nil
  | case2 seen o rest e he hs ih => exact ih
  | case3 seen o rest e he hs ih =>
    rw [List.map_cons, List.nodup_cons]
    refine ⟨fun hm => ?_, ih⟩
    obtain ⟨⟨o', e'⟩, hf, hname⟩ := List.mem_map.1 hm
    exact (mem_firstFailures_iff.1 hf).1 (hname ▸ List.mem_cons_self)
  | case4 seen o rest he ih => exact ih

/-- Where an outcome fails, one is the first to fail for its name. -/
theorem exists_firstFails {o : PinOutcome} {e : Unresolved} (hm : o ∈ outcomes)
    (he : o.outcome = .failed e) :
    ∃ (first : PinOutcome) (e' : Unresolved), first.pin.token.name = o.pin.token.name ∧
      first.FirstFails e' outcomes := by
  induction outcomes with
  | nil => cases hm
  | cons head rest ih =>
    by_cases hhead : head.pin.token.name = o.pin.token.name ∧ ∃ e', head.outcome = .failed e'
    · obtain ⟨hname, e', he'⟩ := hhead
      exact ⟨head, e', hname, PinOutcome.firstFails_cons_self he' rest⟩
    · rcases List.mem_cons.1 hm with rfl | hm
      · exact absurd ⟨rfl, e, he⟩ hhead
      · obtain ⟨first, e', hname, hfirst⟩ := ih hm
        refine ⟨first, e', hname, PinOutcome.firstFails_cons_iff.2 (.inr ⟨hfirst, fun hn e'' hfail => ?_⟩)⟩
        exact hhead ⟨hn.trans hname, e'', hfail⟩

theorem mem_failures_iff {report : Report} {o : PinOutcome} {e : Unresolved} :
    (o, e) ∈ report.failures ↔ o.FirstFails e report.outcomes := by
  rw [failures, mem_firstFailures_iff, and_iff_right List.not_mem_nil]

/-- The names with a failure are those of the pins that fail. -/
theorem mem_names_failures_iff {report : Report} {name : String} :
    name ∈ report.failures.map (·.1.pin.token.name) ↔
      ∃ o ∈ report.outcomes, o.pin.token.name = name ∧ ∃ e, o.outcome = .failed e := by
  rw [List.mem_map]
  constructor
  · rintro ⟨⟨o, e⟩, hf, rfl⟩
    obtain ⟨he, earlier, later, hsplit, -⟩ := mem_failures_iff.1 hf
    exact ⟨o, hsplit ▸ List.mem_append_right _ List.mem_cons_self, rfl, e, he⟩
  · rintro ⟨o, hm, rfl, e, he⟩
    obtain ⟨first, e', hname, hfirst⟩ := exists_firstFails hm he
    exact ⟨(first, e'), mem_failures_iff.2 hfirst, hname⟩

end Report

theorem lineEndsBefore_mono {m n : Nat} (h : m ≤ n) (s : List Char) :
    lineEndsBefore m s ≤ lineEndsBefore n s := by
  induction s generalizing m n with
  | nil => exact Nat.le_refl 0
  | cons c s ih =>
    rw [lineEndsBefore, lineEndsBefore]
    by_cases hm : m = 0
    · rw [if_pos hm]
      exact Nat.zero_le _
    · have hn : n ≠ 0 := by omega
      rw [if_neg hm, if_neg hn]
      exact Nat.add_le_add_left (ih (Nat.sub_le_sub_right h _)) _

theorem Pin.Precedes.line_le {p q : Pin} (h : p.Precedes q) (text : String) : p.line text ≤ q.line text :=
  Nat.add_le_add_right (lineEndsBefore_mono (Nat.le_of_lt h.1) _) 1

namespace Rewriter

variable (source : Source) (text : String)

/-- Every pin has an outcome, on the line on which it stands. -/
theorem planPins_places (overrides : Overrides) (pins : List Pin) (r : Resolver) :
    (planPins source overrides text pins r).1.map (fun o => (o.pin, o.line)) =
      pins.map fun p => (p, p.line text) := by
  induction pins generalizing r with
  | nil => rfl
  | cons pin pins ih => exact congrArg (_ :: ·) (ih _)

theorem rewrite_places (w : Rewriter) :
    (w.rewrite source text).1.report.outcomes.map (fun o => (o.pin, o.line)) =
      (scan w.exclusion text).map fun p => (p, p.line text) :=
  planPins_places source text w.overrides (scan w.exclusion text) w.resolver

variable {source text}

theorem line_eq_of_mem_rewrite {w : Rewriter} {o : PinOutcome}
    (h : o ∈ (w.rewrite source text).1.report.outcomes) : o.pin ∈ scan w.exclusion text ∧
      o.line = o.pin.line text := by
  have hplace : (o.pin, o.line) ∈ (w.rewrite source text).1.report.outcomes.map (fun o => (o.pin, o.line)) :=
    List.mem_map_of_mem h
  rw [rewrite_places] at hplace
  obtain ⟨p, hp, he⟩ := List.mem_map.1 hplace
  obtain ⟨rfl, hline⟩ := Prod.mk.inj he
  exact ⟨hp, hline.symm⟩

theorem rewrite_pins (w : Rewriter) :
    (w.rewrite source text).1.report.outcomes.map (·.pin) = scan w.exclusion text := by
  have hplaces := congrArg (List.map Prod.fst) (w.rewrite_places source text)
  simpa [Function.comp_def] using hplaces

/-- The pins of the failures follow one another, and so do their lines. -/
theorem pairwise_failures (w : Rewriter) :
    ((w.rewrite source text).1.report.failures.map (·.1.pin)).Pairwise Pin.Precedes := by
  have hsub := (Report.firstFailures_sublist [] (w.rewrite source text).1.report.outcomes).map PinOutcome.pin
  rw [rewrite_pins, List.map_map] at hsub
  exact ((pairwise_pinsFrom 0 _).filter _).sublist hsub

variable (source text)

/-- The failures of a report give each name that failed once, at the first of its pins that failed. -/
theorem rewrite_tellsFailures (w : Rewriter) :
    (w.rewrite source text).1.report.outcomes.map (·.pin) = scan w.exclusion text ∧
      (w.rewrite source text).1.report.TellsFailures text := by
  have hsub := Report.firstFailures_sublist [] (w.rewrite source text).1.report.outcomes
  have hline (f) (hf : f ∈ (w.rewrite source text).1.report.failures) :=
    line_eq_of_mem_rewrite (hsub.subset (List.mem_map_of_mem hf))
  refine ⟨w.rewrite_pins, Report.nodup_names_firstFailures [] _, hsub,
    fun _ => Report.mem_names_failures_iff, fun _ _ => Report.mem_failures_iff, ?line_eq,
    w.pairwise_failures, ?lines_ordered⟩
  case line_eq =>
    intro f hf
    obtain ⟨hscan, hl⟩ := hline f hf
    obtain ⟨before, after, ht, hb⟩ :=
      Pin.standsFrom_zero.1 (standsFrom_of_mem_pinsFrom (List.mem_filter.1 hscan).1).2
    exact ⟨before, after, ht, hb, by rw [hl, Pin.line, ht, ← hb, lineEndsBefore_append, Nat.add_comm]⟩
  case lines_ordered =>
    have hpins : ((w.rewrite source text).1.report.failures.map (·.1.pin)).Pairwise Pin.Precedes :=
      w.pairwise_failures
    rw [List.pairwise_map] at hpins ⊢
    refine hpins.imp_of_mem fun hf hg hp => ?_
    rw [(hline _ hf).2, (hline _ hg).2]
    exact hp.line_le text

-- the first pin of a name may be updated and a later one fail
example : ((Setup.standard.rewriter.rewrite KeptAnswers.sample.toSource
      "'cmake/3.24.0'\n\"ghost/1\" 'cmake/next'\n'cmake/last'").1.report.failures.map fun f =>
        (f.1.pin.token.name, f.1.pin.token.version, f.1.line)) =
    [("ghost", "1", 2), ("cmake", "next", 2)] := by
  decide +kernel

end Rewriter

end RecipePins
