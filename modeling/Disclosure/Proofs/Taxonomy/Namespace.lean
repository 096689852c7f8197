import Disclosure.Proofs.Taxonomy.NamespacePattern
import Disclosure.Taxonomy.Deprecation

/-!
# Short forms and classes of namespaces

As no family has a slash in it, the short forms and the classes that must not be mixed tell families
and years apart (`exclusionClass_eq_iff`).
-/

namespace Disclosure

namespace Release

variable {ns family : String} {r r' : Release}

/-! ### Short forms -/

/-- A slash is neither part of a word nor a hyphen. -/
lemma IsInternationalFamily.slash_notMem (h : IsInternationalFamily family) :
    '/' ∉ family.toList := by
  have hword : Unicode.isWord '/' = false := by decide +kernel
  obtain ⟨name, rfl, hname⟩ := h
  rw [String.toList_append, List.mem_append]
  rintro (hmem | hmem)
  · revert hmem
    decide
  · rcases hname _ hmem with hc | hc
    · rw [hword] at hc
      cases hc
    · cases hc

lemma slash_notMem_family (h : ofNamespace? ns = some r) : '/' ∉ r.family.toList := by
  rcases ofNamespace?_eq_some_iff.1 h with ⟨hfamily, -⟩ | ⟨hfamily, -⟩
  · exact slash_notMem_of_mem_families hfamily
  · exact hfamily.slash_notMem

/-- The releases of a family share one file, whichever short form it is looked up by. -/
lemma fileName_join (h : '/' ∉ family.toList) (behind : String) :
    Deprecations.fileName (family ++ "/" ++ behind) = family ++ "-deprecated-concepts.json" := by
  have hkey : (family ++ "/" ++ behind).toList = family.toList ++ '/' :: behind.toList := by simp
  rw [Deprecations.fileName, hkey, Text.takeWhile_ne_append h, String.ofList_toList]

lemma anyYear_eq (r : Release) : r.anyYear = r.family ++ "/" ++ "*" := by
  rw [anyYear, String.append_assoc]
  rfl

lemma join_inj {family' year year' : String} (h : '/' ∉ family.toList)
    (h' : '/' ∉ family'.toList) :
    family ++ "/" ++ year = family' ++ "/" ++ year' ↔ family = family' ∧ year = year' := by
  have hjoin : ∀ f y : String, (f ++ "/" ++ y).toList = f.toList ++ '/' :: y.toList := by simp
  rw [← String.toList_inj, hjoin, hjoin, append_slash_inj h h', String.toList_inj,
    String.toList_inj]

/-- No domestic family is an international one, or begins like one. -/
lemma not_startsWith_of_mem_families (h : family ∈ families) :
    Text.startsWith internationalFamily family = false := by
  have hall : ∀ f ∈ families, Text.startsWith internationalFamily f = false := by decide +kernel
  exact hall family h

lemma IsInternationalFamily.startsWith (h : IsInternationalFamily family) :
    Text.startsWith internationalFamily family := by
  obtain ⟨name, rfl, -⟩ := h
  exact Text.startsWith_iff_exists.2 ⟨name, rfl⟩

lemma IsInternationalFamily.notMem_families (h : IsInternationalFamily family) :
    family ∉ families := by
  intro hmem
  have hstarts := h.startsWith
  rw [not_startsWith_of_mem_families hmem] at hstarts
  cases hstarts

lemma IsDomestic.not_isInternational_release {ns' : String} (h : IsDomestic ns r) :
    ¬IsInternational ns' r :=
  fun hother => hother.1.notMem_families h.1

lemma IsDomestic.family_ne (h : IsDomestic ns r) (hother : IsInternationalFamily family) :
    r.family ≠ family :=
  fun heq => hother.notMem_families (heq ▸ h.1)

lemma exclusionClass_of_isDomestic (h : IsDomestic ns r) :
    exclusionClass r = r.family ++ "/" ++ r.year := by
  rw [exclusionClass, not_startsWith_of_mem_families h.1]
  rfl

lemma exclusionClass_of_isInternational (h : IsInternational ns r) :
    exclusionClass r = "ifrs" ++ "/" ++ r.year := by
  rw [exclusionClass, if_pos h.1.startsWith, internationalFamily]

/-- Releases of one class are of one year, and of one family unless they are international. -/
theorem exclusionClass_eq_iff {ns' : String} (h : ofNamespace? ns = some r)
    (h' : ofNamespace? ns' = some r') :
    exclusionClass r = exclusionClass r' ↔ r.year = r'.year ∧
      (r.family = r'.family ∨ IsInternational ns r ∧ IsInternational ns' r') := by
  have hslash := slash_notMem_family h
  have hslash' := slash_notMem_family h'
  have hstart : IsInternationalFamily "ifrs" := ⟨"", by simp, by simp⟩
  have hifrs := hstart.slash_notMem
  rcases ofNamespace?_eq_some_iff.1 h with hr | hr <;>
    rcases ofNamespace?_eq_some_iff.1 h' with hr' | hr'
  · rw [exclusionClass_of_isDomestic hr, exclusionClass_of_isDomestic hr', join_inj hslash hslash']
    simp [hr.not_isInternational_release, and_comm]
  · rw [exclusionClass_of_isDomestic hr, exclusionClass_of_isInternational hr',
      join_inj hslash hifrs]
    simp [hr.not_isInternational_release, hr.family_ne hstart, hr.family_ne hr'.1]
  · rw [exclusionClass_of_isInternational hr, exclusionClass_of_isDomestic hr',
      join_inj hifrs hslash']
    simp [hr'.not_isInternational_release, (hr'.family_ne hstart).symm, (hr'.family_ne hr.1).symm]
  · rw [exclusionClass_of_isInternational hr, exclusionClass_of_isInternational hr',
      join_inj hifrs hifrs]
    simp [hr, hr']

/--
A namespace belongs to a release if and only if it has one of the two forms, and these are the
namespaces that the pattern matches. The groups of the form that matched have captured the family
and the year of the release, and the groups of the other form nothing. The short forms are those of
the release, and both that have a slash in them stand for the same file of deprecated concepts. Two
releases are of one class exactly if they are of one year, and of one family or both international.
-/
theorem ofNamespace?_exact (ns : String) :
    (∀ r, ofNamespace? ns = some r ↔ IsDomestic ns r ∨ IsInternational ns r) ∧
      ((ofNamespace? ns).isSome ↔ (Regex.ofPattern? pattern).any (·.isMatch ns)) ∧
      Regex.ofPattern? pattern = some standardForm ∧
      (∀ captures, standardForm.captures? ns = some captures →
        ∃ r, ofNamespace? ns = some r ∧ CapturedByForm ns captures r) ∧
      ((∀ form, shortForm? form ns = none) ∨
        ∃ r, (IsDomestic ns r ∨ IsInternational ns r) ∧
          shortForm? .withYear ns = some (r.family ++ "/" ++ r.year) ∧
          shortForm? .anyYear ns = some (r.family ++ "/*") ∧
          shortForm? .noYear ns = some r.family ∧
          Deprecations.fileName (r.family ++ "/" ++ r.year) =
            Deprecations.fileName (r.family ++ "/*")) ∧
      ∀ ns' r r', ofNamespace? ns = some r → ofNamespace? ns' = some r' →
        (exclusionClass? ns = exclusionClass? ns' ↔ r.year = r'.year ∧
          (r.family = r'.family ∨ IsInternational ns r ∧ IsInternational ns' r')) := by
  refine ⟨fun r => ofNamespace?_eq_some_iff, ?_, ofPattern?_pattern, ?_, ?_, ?_⟩
  · rw [ofPattern?_pattern, Option.any_some, isMatch_iff_form, Option.isSome_iff_exists]
    simp only [ofNamespace?_eq_some_iff]
  · intro captures hcaptures
    obtain ⟨r, hcaptured⟩ := captured_of_captures? hcaptures
    exact ⟨r, ofNamespace?_eq_some_iff.2 (hcaptured.imp And.left And.left), hcaptured⟩
  · cases h : ofNamespace? ns with
    | none =>
      left
      intro form
      rw [shortForm?, h, Option.map_none]
    | some r =>
      right
      have hslash := slash_notMem_family h
      have hanyYear := anyYear_eq r
      rw [anyYear] at hanyYear
      refine ⟨r, ofNamespace?_eq_some_iff.1 h, ?_, ?_, ?_, ?_⟩
      · rw [shortForm?, h, Option.map_some, short, withYear]
      · rw [shortForm?, h, Option.map_some, short, anyYear]
      · rw [shortForm?, h, Option.map_some, short]
      · rw [hanyYear, fileName_join hslash, fileName_join hslash]
  · intro ns' r r' h h'
    rw [exclusionClass?, exclusionClass?, h, h', Option.map_some, Option.map_some,
      Option.some.injEq]
    exact exclusionClass_eq_iff h h'

/-- An international namespace. -/
lemma isInternational_full : IsInternational
    "https://xbrl.ifrs.org/taxonomy/2024-03-27/ifrs-full" ⟨"ifrs-full", "2024"⟩ :=
  ⟨isInternationalFamily_of_all "-full" (by decide +kernel), by decide, "https://", by simp,
    "-03-27", ⟨"03", "27", by decide, by decide, by decide⟩, by decide⟩

/-- Two international families of one year are of one class. -/
theorem ofNamespace?_exact_international :
    exclusionClass? "https://xbrl.ifrs.org/taxonomy/2024-03-27/ifrs-full" =
      exclusionClass? "http://xbrl.ifrs.org/taxonomy/2024-01-01/ifrs_é-" := by
  have hother : IsInternational "http://xbrl.ifrs.org/taxonomy/2024-01-01/ifrs_é-"
      ⟨"ifrs_é-", "2024"⟩ :=
    ⟨isInternationalFamily_of_all "_é-" (by decide +kernel), by decide, "http://", by simp,
      "-01-01", ⟨"01", "01", by decide, by decide, by decide⟩, by decide⟩
  obtain ⟨hforms, -, -, -, -, hclasses⟩ :=
    ofNamespace?_exact "https://xbrl.ifrs.org/taxonomy/2024-03-27/ifrs-full"
  exact (hclasses _ _ _ ((hforms _).2 (.inr isInternational_full))
    (ofNamespace?_eq_some_iff.2 (.inr hother))).2 ⟨rfl, .inr ⟨isInternational_full, hother⟩⟩

end Release

end Disclosure
