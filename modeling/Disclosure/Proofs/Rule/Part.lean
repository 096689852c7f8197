import Disclosure.Proofs.Rule.Resolved

/-!
# Parts of rules

Apart from its kind and source a rule has thirteen parts, each made from fields of its own: most
from fields with given names, three from all fields with a given ending (`Feeds`). No field feeds
two parts (`Feeds.unique`). Two rules can then be compared in all but some parts (`EqualBut`).
-/

namespace Disclosure

open Json (Members)

namespace Rule

/-- The parts of a rule that are made from fields of their own. -/
inductive Part where
  | names
  | subTypes
  | formTypes
  | value
  | axis
  | message
  | severity
  | lang
  | references
  | storedValues
  | patterns
  | clauses
  | valueMaps
deriving DecidableEq

/-! ### Rules that differ in some parts -/

/-- Whether two rules have a part in common. -/
def Part.Same (r s : Rule) : Part → Prop
  | .names => r.names = s.names
  | .subTypes => r.subTypes = s.subTypes
  | .formTypes => r.formTypes = s.formTypes
  | .value => r.value = s.value
  | .axis => r.axis = s.axis
  | .message => r.message = s.message
  | .severity => r.severity = s.severity
  | .lang => r.lang = s.lang
  | .references => r.references = s.references
  | .storedValues => r.storedValues = s.storedValues
  | .patterns => r.patterns = s.patterns
  | .clauses => r.clauses = s.clauses
  | .valueMaps => r.valueMaps = s.valueMaps

/-- Whether two rules differ in nothing but some parts and the entries they come from. -/
structure EqualBut (parts : Set Part) (r s : Rule) : Prop where
  position : r.position = s.position
  kind : r.kind = s.kind
  source : r.source = s.source
  same : ∀ part ∉ parts, part.Same r s

/-! ### Fields that feed a part -/

/-- The fields with given names that feed a part. -/
def namedParts : List (String × Part) :=
  [(namesField, .names), (subTypesField, .subTypes), (subTypeField, .subTypes),
    (formTypesField, .formTypes), (formTypeField, .formTypes),
    (ValueConstraint.patternField, .value), (ValueConstraint.numbersField, .value),
    (ValueConstraint.datesField, .value), (ValueConstraint.valueField, .value),
    (axisField, .axis), (messageField, .message), (severityField, .severity), (langField, .lang),
    (referencesField, .references), (referenceValueField, .references),
    (storedValuesField, .storedValues)]

/-- The endings of the fields that feed a part. -/
def endingParts : List (String × Part) :=
  [("-pattern", .patterns), ("where", .clauses), ("value-map", .valueMaps)]

lemma mem_endingParts_iff {part : Part} : part ∈ endingParts.map Prod.snd ↔
    part = .patterns ∨ part = .clauses ∨ part = .valueMaps := by
  simp [endingParts]

/-- Whether a field feeds a part of the rule that its entry becomes. -/
inductive Feeds (key : String) : Part → Prop where
  | named {part : Part} (h : (key, part) ∈ namedParts) : Feeds key part
  /-- The pattern for values has the ending of patterns, but is the constraint of the rule. -/
  | ending {ending : String} {part : Part} (h : (ending, part) ∈ endingParts)
      (hends : Text.endsWith ending key) (hne : key ≠ ValueConstraint.patternField) :
      Feeds key part

lemma part_unique_of_named {key : String} {p q : Part} (hp : (key, p) ∈ namedParts)
    (hq : (key, q) ∈ namedParts) : p = q := by
  have hnodup : (namedParts.map Prod.fst).Nodup := by decide
  have heq := List.inj_on_of_nodup_map hnodup hp hq rfl
  exact congrArg Prod.snd heq

/-- A named field that has an ending is the pattern for values. -/
lemma eq_patternField_of_named {key ending : String} {p q : Part} (hp : (key, p) ∈ namedParts)
    (hq : (ending, q) ∈ endingParts) (hends : Text.endsWith ending key) :
    key = ValueConstraint.patternField := by
  have hall : ∀ m ∈ namedParts, ∀ e ∈ endingParts, Text.endsWith e.1 m.1 →
      m.1 = ValueConstraint.patternField := by decide
  exact hall _ hp _ hq hends

/-- No ending is part of another. -/
lemma part_unique_of_ending {key ending ending' : String} {p q : Part}
    (hp : (ending, p) ∈ endingParts) (hends : Text.endsWith ending key)
    (hq : (ending', q) ∈ endingParts) (hends' : Text.endsWith ending' key) : p = q := by
  have hall : ∀ e ∈ endingParts, ∀ e' ∈ endingParts, Text.endsWith e.1 e'.1 → e.2 = e'.2 := by
    decide
  rw [Text.endsWith_iff] at hends hends'
  rcases List.suffix_or_suffix_of_suffix hends hends' with h | h
  · exact hall _ hp _ hq (Text.endsWith_iff.2 h)
  · exact (hall _ hq _ hp (Text.endsWith_iff.2 h)).symm

/-- A field feeds at most one part. -/
lemma Feeds.unique {key : String} {p q : Part} (hp : Feeds key p) (hq : Feeds key q) : p = q := by
  cases hp with
  | named hp =>
    cases hq with
    | named hq => exact part_unique_of_named hp hq
    | ending hq hends hne => exact absurd (eq_patternField_of_named hp hq hends) hne
  | ending hp hends hne =>
    cases hq with
    | named hq => exact absurd (eq_patternField_of_named hq hp hends) hne
    | ending hq hends' _ => exact part_unique_of_ending hp hends hq hends'

lemma feeds_ending_iff {key : String} (ending : String) {part : Part}
    (hpart : (ending, part) ∈ endingParts) :
    Feeds key part ↔ key ≠ ValueConstraint.patternField ∧ Text.endsWith ending key := by
  have hother : ∀ m ∈ namedParts, ∀ e ∈ endingParts, m.2 ≠ e.2 := by decide
  have hsame : ∀ e ∈ endingParts, ∀ e' ∈ endingParts, e.2 = e'.2 → e.1 = e'.1 := by decide
  constructor
  · intro h
    cases h with
    | named h => exact absurd rfl (hother (key, part) h (ending, part) hpart)
    | ending h hends hne =>
      obtain rfl := hsame _ h _ hpart rfl
      exact ⟨hne, hends⟩
  · rintro ⟨hne, hends⟩
    exact .ending hpart hends hne

lemma feeds_patterns_iff {key : String} : Feeds key .patterns ↔ isPatternKey key := by
  rw [feeds_ending_iff "-pattern" (by decide), isPatternKey, Bool.and_eq_true, decide_eq_true_eq]

lemma feeds_clauses_iff {key : String} : Feeds key .clauses ↔ Text.endsWith "where" key := by
  rw [feeds_ending_iff "where" (by decide)]
  refine and_iff_right_of_imp ?_
  rintro hends rfl
  cases hends

lemma feeds_valueMaps_iff {key : String} :
    Feeds key .valueMaps ↔ Text.endsWith "value-map" key := by
  rw [feeds_ending_iff "value-map" (by decide)]
  refine and_iff_right_of_imp ?_
  rintro hends rfl
  cases hends

end Rule

end Disclosure
