import RecipePins.Rewrite.Rewriter

/-!
# Resolution of one declaration on its own

All that bears on a declaration is the policy, the rule for its name, and what the two sources answer
about that name. The resolution below is a function of these alone: it has no memory, so it cannot
hang on other declarations or on what was asked before.
-/
namespace RecipePins

/-- What there is to know about one dependency: its rule and the answers of the sources. -/
structure Entry where
  rule : Option Override
  versions : Except Unresolved (List String)
  annotate : Except Unresolved String

def Source.entry (source : Source) (overrides : Overrides) (name : String) : Entry :=
  ⟨overrides[name]?, source.versions name, source.annotate name⟩

/-- Whether every version of a catalog is a dotted number; so it is for an empty catalog. -/
def allNumeric (versions : List String) : Bool :=
  versions.all fun v => Version.isDotted v.toList

def catalogStrategy (versions : List String) : Strategy :=
  if allNumeric versions then .numeric else .historical

/-- The result of ranking numeric versions. There is a greatest one unless the catalog is empty. -/
def numericRanking (name : String) (versions : List String) : Except Unresolved Resolved :=
  match Version.DottedNumber.latest? (versions.filterMap Version.DottedNumber.ofString?) with
  | some latest => .ok ⟨name, latest.text, .numeric, false⟩
  | none => .error (.emptyCatalog name)

/-- The result of ranking versions by history, which may be missing or attribute none of them. -/
def historicalRanking (policy : Policy) (annotate : Except Unresolved String) (name : String)
    (versions : List String) : Except Unresolved Resolved :=
  match annotate with
  | .error e => .error e
  | .ok lines =>
    match (History.rank versions lines policy.strippedStarts).chosen with
    | some chosen => .ok ⟨name, chosen, .historical, false⟩
    | none => .error (.nothingAttributed name)

def ranking (policy : Policy) (annotate : Except Unresolved String) (name : String)
    (versions : List String) : Except Unresolved Resolved :=
  if allNumeric versions then numericRanking name versions
  else historicalRanking policy annotate name versions

namespace Entry

/-- The version for a declaration that is not a sentinel, once the catalog is known: by the rule if
there is one, and by ranking otherwise. -/
def choose (policy : Policy) (name declared : String) (e : Entry) (versions : List String) :
    Except Unresolved Resolved :=
  match e.rule with
  | some rule =>
    match rule.apply name declared with
    | .error x => .error x
    | .ok chosen => .ok ⟨name, chosen, catalogStrategy versions, true⟩
  | none => ranking policy e.annotate name versions

def resolution (policy : Policy) (name declared : String) (e : Entry) :
    Except Unresolved (Option Resolved) :=
  if declared ∈ policy.sentinels then .ok none
  else match e.versions with
    | .error x => .error x
    | .ok versions => (e.choose policy name declared versions).map some

def outcome (policy : Policy) (name declared : String) (e : Entry) : Outcome :=
  match e.resolution policy name declared with
  | .error x => .failed x
  | .ok none => .sentinel
  | .ok (some r) => if r.chosen = declared then .upToDate else .updated declared r.chosen

end Entry

theorem allNumeric_cons (v : String) (vs : List String) :
    allNumeric (v :: vs) = (Version.isDotted v.toList && allNumeric vs) := rfl

/-- The numbers of a catalog are read one by one, and all of them are read if each one is numeric. -/
theorem mapM_ofString? (versions : List String) :
    versions.mapM Version.DottedNumber.ofString? =
      if allNumeric versions then some (versions.filterMap Version.DottedNumber.ofString?)
      else none := by
  induction versions with
  | nil => rfl
  | cons v vs ih =>
    rw [List.mapM_cons, ih, allNumeric_cons]
    by_cases hv : Version.isDotted v.toList = true
    · have hr : Version.DottedNumber.ofString? v = some ⟨v, hv⟩ := by
        simp [Version.DottedNumber.ofString?, hv]
      cases hs : allNumeric vs <;> simp [hv, hr]
    · have hr : Version.DottedNumber.ofString? v = none := by
        simp [Version.DottedNumber.ofString?, hv]
      simp [hv, hr]

theorem strategyFor_eq_catalogStrategy (versions : List String) :
    strategyFor versions = catalogStrategy versions := by
  rw [strategyFor, VersionSet.ofList, catalogStrategy, mapM_ofString?]
  cases versions with
  | nil => rfl
  | cons v vs => by_cases h : allNumeric (v :: vs) = true <;> simp [h, VersionSet.strategy?]

end RecipePins
