import RecipePins.History.Ranking
import RecipePins.Resolve.Event
import RecipePins.Resolve.Source
import RecipePins.Resolve.VersionSet

/-!
# Resolving dependencies

A resolver finds the version at which a dependency is to be pinned. It puts every question to its
source once: catalogs and ranked results are remembered by name, failures included, so that one run
gives one answer per dependency even if the source changes meanwhile.
-/
namespace RecipePins

structure Policy where
  sentinels : List String
  strippedStarts : List String
  deriving DecidableEq, Repr

namespace Policy

def standardSentinels : List String :=
  ["system", "cci.latest"]

def standardStarts : List String :=
  ["cci."]

def isSentinel (policy : Policy) (declared : String) : Bool :=
  policy.sentinels.contains declared

end Policy

structure Resolved where
  name : String
  chosen : String
  strategy : Strategy
  overridden : Bool
  deriving DecidableEq, Repr

namespace Resolved

def text (r : Resolved) : String :=
  r.name ++ "/" ++ r.chosen

end Resolved

structure HistoryNote where
  package : String
  problem : History.Problem
  deriving DecidableEq, Repr

/-- What a resolver has learnt so far, the notes not yet taken from it, and what it did. -/
structure Resolver where
  policy : Policy
  catalogs : Std.ExtTreeMap String (Except Unresolved (List String)) := ∅
  ranked : Std.ExtTreeMap String (Except Unresolved Resolved) := ∅
  notes : List HistoryNote := []
  events : List Event := []

namespace Resolver

def record (r : Resolver) (event : Event) : Resolver :=
  { r with events := r.events ++ [event] }

/-- The versions of a dependency, from the source at the first time of asking. -/
def catalog (source : Source) (name : String) (r : Resolver) :
    Except Unresolved (List String) × Resolver :=
  match r.catalogs[name]? with
  | some known => (known, r)
  | none =>
    let found := source.versions name
    (found, { r with catalogs := r.catalogs.insert name found }.record (.lookedUpVersions name))

def note (name : String) (problems : List History.Problem) (r : Resolver) : Resolver :=
  { r with
    notes := r.notes ++ problems.map (HistoryNote.mk name)
    events := r.events ++ problems.map (Event.skipped name) }

/-- The result of ranking free-form versions, with the problems noted. -/
def rankFreeForm (source : Source) (name : String) (versions : List String) (r : Resolver) :
    Except Unresolved Resolved × Resolver :=
  let r := r.record (.lookedUpHistory name)
  match source.annotate name with
  | .error e => (.error e, r)
  | .ok annotate =>
    let ranking := History.rank versions annotate r.policy.strippedStarts
    let r := r.record (.rankedByHistory name versions.length ranking.problems.length)
    let r := r.note name ranking.problems
    match ranking.chosen with
    | some chosen => (.ok ⟨name, chosen, .historical, false⟩, r)
    | none => (.error (.nothingAttributed name), r)

def rankVersions (source : Source) (name : String) (versions : List String) (r : Resolver) :
    Except Unresolved Resolved × Resolver :=
  match VersionSet.ofList versions with
  | .empty => (.error (.emptyCatalog name), r)
  | .numeric numbers =>
    let r := r.record (.rankedByNumber name numbers.length)
    match Version.DottedNumber.latest? numbers with
    | some latest => (.ok ⟨name, latest.text, .numeric, false⟩, r)
    | none => (.error (.emptyCatalog name), r)
  | .freeForm versions => r.rankFreeForm source name versions

/-- Ranks the versions of a dependency and remembers the result. -/
def rankAnew (source : Source) (name : String) (versions : List String) (r : Resolver) :
    Except Unresolved Resolved × Resolver :=
  let (result, r) := r.rankVersions source name versions
  (result, { r with ranked := r.ranked.insert name result })

/-- The latest version of a dependency; nothing for a declared version that is a sentinel. -/
def resolve (source : Source) (name declared : String) (r : Resolver) :
    Except Unresolved (Option Resolved) × Resolver :=
  if r.policy.isSentinel declared then (.ok none, r)
  else match r.ranked[name]? with
    | some known => (known.map some, r)
    | none =>
      match r.catalog source name with
      | (.error e, r) => (.error e, r)
      | (.ok versions, r) =>
        let (result, r) := r.rankAnew source name versions
        (result.map some, r)

def takeNotes (r : Resolver) : List HistoryNote × Resolver :=
  (r.notes, { r with notes := [] })

end Resolver

end RecipePins
