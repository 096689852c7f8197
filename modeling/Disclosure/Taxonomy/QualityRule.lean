import Disclosure.Fact.Store
import Disclosure.Taxonomy.Catalog
import Disclosure.Taxonomy.Namespace

/-!
# Data quality rules

The rules of data quality that apply to submissions under the domestic accounting taxonomy, from
the first year that they cover.
-/

namespace Disclosure

/-- How many facts of a submission belong to the domestic and to the international taxonomy. -/
structure TaxonomyShares where
  domestic : Nat
  international : Nat
deriving DecidableEq

namespace TaxonomyShares

/-- The shares of a submission. Taxonomies are known by a part of the namespace. -/
def ofFacts (facts : List Fact) : TaxonomyShares where
  domestic := facts.countP fun f => Text.hasInfix "us-gaap".toList f.concept.ns.toList
  international := facts.countP fun f => Text.hasInfix "ifrs".toList f.concept.ns.toList

/-- Whether a submission counts as domestic: it has more such facts, or neither kind. -/
def isDomestic (t : TaxonomyShares) : Bool :=
  (t.domestic == 0 && t.international == 0) || decide (t.international < t.domestic)

end TaxonomyShares

namespace QualityRules

/-- The family of the domestic accounting taxonomy. -/
def domesticFamily : String := "us-gaap"

/-- The first year that the rules cover. -/
def firstYear : Nat := 2020

/-- The first year with a file of constants. Earlier years share it. -/
def firstConstantsYear : Nat := 2023

/-- The file of the rules. -/
def fileName : String := "dqc-us-rules.json"

/-- The key under which the file of constants is named. -/
def constantsKey : String := "XULE-constants-file"

/-- The year of the domestic accounting taxonomy, if a namespace is a release of it. -/
def yearOf? (ns : String) : Option Nat := do
  let r ← Release.ofNamespace? ns
  if r.family = domesticFamily then some (readDigits 0 r.year.toList) else none

/-- The year of the first namespace that is a release of the domestic accounting taxonomy. -/
def year? (namespaces : List String) : Option Nat :=
  namespaces.findSome? yearOf?

/-- Whether the rules apply. -/
def applyIn (year : Nat) (shares : TaxonomyShares) : Bool :=
  decide (firstYear ≤ year) && shares.isDomestic

/-- The file of constants for a year. -/
def constantsFile (year : Nat) : String :=
  "dqcrt-us-" ++ String.ofList (decimalDigits (max year firstConstantsYear)) ++ "-constants.json"

/-- The path of the file of constants. -/
def constantsPath (directory : String) (year : Nat) : String :=
  joinPath (joinPath directory "xule") (constantsFile year)

/-- What comes of the value in the file of the rules: they are given the path of the constants. -/
def withConstants (path constants : String) :
    Except CacheError (Option Json) → Except ResourceError (Option Json.Members)
  | .error e => .error (.cache e)
  | .ok none => .ok none
  | .ok (some (.obj rules)) => .ok (some (Json.Members.put constantsKey (.str constants) rules))
  | .ok (some _) => .error (.notAnObject path)

/--
The rules with the path of the file of constants, if they apply and are there. Files are read by
`loadValue`, and only if the rules apply.
-/
def loadBy {m : Type → Type} [Monad m]
    (loadValue : String → m (Except CacheError (Option Json))) (directory : String)
    (namespaces : List String) (facts : List Fact) :
    m (Except ResourceError (Option Json.Members)) :=
  match year? namespaces with
  | none => return .ok none
  | some year =>
    if applyIn year (.ofFacts facts) then do
      let path := joinPath directory fileName
      return withConstants path (constantsPath directory year) (← loadValue path)
    else return .ok none

/-- The rules from the files of a store. -/
def load (files : FileStore) (directory : String) (namespaces : List String)
    (facts : List Fact) : Except ResourceError (Option Json.Members) :=
  Id.run (loadBy (pure ∘ files.loadValue) directory namespaces facts)

end QualityRules

end Disclosure
