import Disclosure.Regex.Pattern
import Disclosure.Url.Host

/-!
# Namespaces of standard taxonomies

The namespaces under which standard taxonomies are published name a family and a year. Other
documents refer to a release by a short form of its namespace.
-/

namespace Disclosure

/-- A release of a standard taxonomy. -/
@[ext] structure Release where
  family : String
  year : String
deriving DecidableEq

namespace Release

/-! ### Reading namespaces -/

/--
The pattern of the namespaces of standard taxonomies. Domestic ones name the family before the year,
and a month and a day may follow; international ones name it behind the whole date.
-/
def pattern : String :=
  "^http://(?:xbrl\\.us|fasb\\.org|xbrl\\.sec\\.gov)/" ++
    "(?P<family>dei|us-gaap|srt|us-types|us-roles|rr|country|currency|exch|invest|naics|sic|stpr" ++
    "|rxp|spac|cyd|ecd|fnd|oef|vip|sro|snj|cef|sbs|ffd)" ++
    "/(?P<year>[0-9]\x7b4\x7d)(?:-[0-9]\x7b2\x7d-[0-9]\x7b2\x7d)?$" ++
    "|^https?://xbrl\\.ifrs\\.org/taxonomy/(?P<ifrs_year>[0-9]\x7b4\x7d)" ++
    "-[0-9]\x7b2\x7d-[0-9]\x7b2\x7d/(?P<ifrs_family>ifrs[\\w-]*)$"

/-- The expression of the pattern, which can be read. -/
def standardForm : Regex :=
  (Regex.ofPattern? pattern).get!

/-- The release that the groups of a match name. -/
def ofCaptures? (captures : Regex.Captures) : Option Release := do
  let family ← (captures.text? "family").or (captures.text? "ifrs_family")
  let year ← (captures.text? "year").or (captures.text? "ifrs_year")
  return ⟨family, year⟩

/-- The release that a namespace belongs to, if it is of a standard taxonomy. -/
def ofNamespace? (ns : String) : Option Release := do
  ofCaptures? (← standardForm.captures? ns)

/-! ### Short forms -/

/-- The family and the year. -/
def withYear (r : Release) : String :=
  r.family ++ "/" ++ r.year

/-- The family, and a star for all years. -/
def anyYear (r : Release) : String :=
  r.family ++ "/*"

/-- The short forms of a namespace. -/
inductive ShortForm where
  | withYear
  | anyYear
  | noYear

/-- A short form of a release. -/
def short (r : Release) : ShortForm → String
  | .withYear => r.withYear
  | .anyYear => r.anyYear
  | .noYear => r.family

/-- A short form of a namespace, if it is of a standard taxonomy. -/
def shortForm? (form : ShortForm) (ns : String) : Option String :=
  (ofNamespace? ns).map (·.short form)

/-- What the families of international taxonomies begin with. -/
def internationalFamily : String := "ifrs"

/-- The class of releases that must not be mixed. The international families are one class. -/
def exclusionClass (r : Release) : String :=
  (if Text.startsWith internationalFamily r.family then internationalFamily else r.family) ++
    "/" ++ r.year

/-- The class that a namespace must not be mixed in, if it is of a standard taxonomy. -/
def exclusionClass? (ns : String) : Option String :=
  (ofNamespace? ns).map exclusionClass

end Release

/-! ### Authorities -/

/-- Whether a text is an address of the scheme `urn`, in any case. -/
def isResourceName (s : List Char) : Bool :=
  (s.take 4).map Char.toLower == ['u', 'r', 'n', ':']

/-- The last two labels of a host. -/
def lastLabels (host : String) : String :=
  let labels := Text.splitAt (· == '.') host.toList
  String.ofList (List.intercalate ['.'] (labels.drop (labels.length - 2)))

/-- Who is responsible for a namespace: the last labels of its host, or the name behind `urn:`. -/
def authority? (ns : String) : Option String :=
  if isResourceName ns.toList then
    some (String.ofList ((ns.toList.drop 4).takeWhile (· != ':')))
  else (Url.host? ns).map lastLabels

end Disclosure
