import Disclosure.Proofs.Taxonomy.Family
import Disclosure.Proofs.Taxonomy.Namespace

/-!
# Families by their namespaces

The family of a listed release is read off its namespace by place: it is the part in front of the
last one. Domestic namespaces have their family there, with any number of slashes at their end;
international ones have their date there, and their family behind it (`namespaceFamily?_standard`).
So only domestic releases are ever found as the latest of their family.
-/

namespace Disclosure

open Release

namespace FamilyRelease

variable {ns : String} {r : Release} {d : FamilyRelease} {n : ℕ} {front name last : List Char}

/-! ### Places -/

lemma dropSlashes_append_replicate (s : List Char) (n : ℕ) :
    dropSlashes (s ++ List.replicate n '/') = dropSlashes s := by
  rw [dropSlashes, List.reverse_append, List.reverse_replicate,
    List.dropWhile_append_of_pos (by simp), dropSlashes]

lemma dropSlashes_append (front : List Char) (hne : last ≠ []) (hlast : '/' ∉ last) :
    dropSlashes (front ++ last) = front ++ last := by
  cases last using List.reverseRecOn with
  | nil => exact absurd rfl hne
  | append_singleton last c =>
    have hc : c ≠ '/' := by
      rintro rfl
      exact hlast (by simp)
    rw [dropSlashes, ← List.append_assoc, List.reverse_append, List.reverse_singleton,
      List.singleton_append, List.dropWhile_cons_of_neg (by simpa using hc), List.reverse_cons,
      List.reverse_reverse]

lemma splitAt_slash (h : '/' ∉ name) : Text.splitAt (· == '/') name = [name] :=
  Text.splitAt_of_forall_not fun _ hc => beq_eq_false_iff_ne.2 fun heq => h (heq ▸ hc)

/-- The name in front of the last part is found, whatever is in front of that. -/
lemma namespaceFamily?_eq (hname : '/' ∉ name) (hlast : '/' ∉ last) (hne : last ≠ [])
    (hns : d.ns.toList = front ++ '/' :: (name ++ '/' :: last) ++ List.replicate n '/') :
    d.namespaceFamily? = some (String.ofList name) := by
  have hdrop : dropSlashes d.ns.toList = front ++ '/' :: (name ++ '/' :: last) := by
    rw [hns, dropSlashes_append_replicate]
    simpa using dropSlashes_append (front ++ '/' :: name ++ ['/']) hne hlast
  have hsplit : Text.splitAt (· == '/') (dropSlashes d.ns.toList) =
      Text.splitAt (· == '/') front ++ [name, last] := by
    rw [hdrop, Text.splitAt_append (by simp), Text.splitAt_append (by simp), splitAt_slash hname,
      splitAt_slash hlast, List.singleton_append]
  rw [namespaceFamily?, hsplit, List.reverse_append]
  rfl

/-! ### Standard namespaces -/

lemma slash_notMem_of_isNumeral {s : String} (h : IsNumeral n s) : '/' ∉ s.toList := by
  intro hmem
  have hdigit := h.2 _ hmem
  revert hdigit
  decide

lemma slash_notMem_of_isMonthDay {date : String} (h : IsMonthDay date) : '/' ∉ date.toList := by
  obtain ⟨month, day, hmonth, hday, rfl⟩ := h
  simp [slash_notMem_of_isNumeral hmonth, slash_notMem_of_isNumeral hday]

lemma ne_nil_of_isNumeral {s : String} (h : IsNumeral (n + 1) s) : s.toList ≠ [] := by
  intro hnil
  have hlength := h.1
  rw [← String.length_toList, hnil] at hlength
  cases hlength

/-- A domestic namespace has the family in front of the year. -/
lemma namespaceFamily?_of_isDomestic (h : IsDomestic ns r)
    (hd : d.ns = ns ++ String.ofList (List.replicate n '/')) :
    d.namespaceFamily? = some r.family := by
  obtain ⟨hfamily, hyear, host, -, date, hdate, rfl⟩ := h
  have hslash : '/' ∉ r.year.toList ++ date.toList := by
    have hdate' : '/' ∉ date.toList := by
      rcases hdate with rfl | hdate
      · simp
      · exact slash_notMem_of_isMonthDay hdate
    simp [slash_notMem_of_isNumeral hyear, hdate']
  have hne : r.year.toList ++ date.toList ≠ [] :=
    List.append_ne_nil_of_left_ne_nil (ne_nil_of_isNumeral hyear) _
  have hns : d.ns.toList = ("http://" ++ host).toList ++
      '/' :: (r.family.toList ++ '/' :: (r.year.toList ++ date.toList)) ++
        List.replicate n '/' := by
    simp [hd]
  rw [namespaceFamily?_eq (slash_notMem_of_mem_families hfamily) hslash hne hns,
    String.ofList_toList]

/-- An international namespace has the date there. -/
lemma namespaceFamily?_of_date {scheme date : String} (hyear : IsNumeral 4 r.year)
    (hdate : IsMonthDay date) (hfamily : IsInternationalFamily r.family)
    (hns : ns = scheme ++ "xbrl.ifrs.org/taxonomy/" ++ r.year ++ date ++ "/" ++ r.family)
    (hd : d.ns = ns ++ String.ofList (List.replicate n '/')) :
    d.namespaceFamily? = some (r.year ++ date) := by
  have hslash : '/' ∉ r.year.toList ++ date.toList := by
    simp [slash_notMem_of_isNumeral hyear, slash_notMem_of_isMonthDay hdate]
  have hne : r.family.toList ≠ [] := by
    obtain ⟨name, hname, -⟩ := hfamily
    simp [hname]
  have hns' : d.ns.toList = (scheme ++ "xbrl.ifrs.org/taxonomy").toList ++
      '/' :: (r.year.toList ++ date.toList ++ '/' :: r.family.toList) ++
        List.replicate n '/' := by
    simp [hd, hns]
  rw [namespaceFamily?_eq hslash hfamily.slash_notMem hne hns', String.ofList_append,
    String.ofList_toList, String.ofList_toList]

/-- A date is no international family: it begins with a digit. -/
lemma year_append_ne_family (hyear : IsNumeral 4 r.year) (hfamily : IsInternationalFamily r.family)
    (date : String) : r.year ++ date ≠ r.family := by
  obtain ⟨name, hname, -⟩ := hfamily
  intro heq
  cases hs : r.year.toList with
  | nil => exact ne_nil_of_isNumeral hyear hs
  | cons c s =>
    have hfirst : c :: (s ++ date.toList) = 'i' :: 'f' :: 'r' :: 's' :: name.toList := by
      have hchars := congrArg String.toList (heq.trans hname)
      simpa [hs] using hchars
    have hdigit : isDigit c := hyear.2 c (by simp [hs])
    rw [(List.cons.inj hfirst).1] at hdigit
    revert hdigit
    decide

/-- The family is read off the namespaces that are domestic, and no others. -/
lemma namespaceFamily?_eq_family_iff (h : ofNamespace? ns = some r)
    (hd : d.ns = ns ++ String.ofList (List.replicate n '/')) :
    d.namespaceFamily? = some r.family ↔ IsDomestic ns r := by
  refine ⟨fun hread => ?_, fun hdomestic => namespaceFamily?_of_isDomestic hdomestic hd⟩
  rcases ofNamespace?_eq_some_iff.1 h with hdomestic | ⟨hfamily, hyear, _, -, date, hdate, hns⟩
  · exact hdomestic
  · rw [namespaceFamily?_of_date hyear hdate hfamily hns hd, Option.some.injEq] at hread
    exact absurd hread (year_append_ne_family hyear hfamily date)

/-! ### The latest of a family -/

/-- A release can be the latest under a name just if it qualifies. -/
lemma exists_latestRelease?_iff {name : String} :
    (∃ g, latestRelease? name (some g) = some d) ↔ FamilyRegistry.Qualifies name d := by
  constructor
  · rintro ⟨g, hg⟩
    obtain ⟨-, -, -, hnewest, -⟩ := FamilyRegistry.latest?_eq_some_iff.1 hg
    exact hnewest.qualifies
  · intro h
    have halone : (FamilyRegistry.mk [(name, [d])]).releases name = [d] := by
      simp [FamilyRegistry.releases]
    refine ⟨⟨[(name, [d])]⟩, FamilyRegistry.latest?_eq_some_iff.2
      ⟨[], [], halone, ⟨h, ?_⟩, List.forall_mem_nil _⟩⟩
    rw [halone, List.forall_mem_singleton]
    exact fun _ => versionOrder_self_ne_gt d.version

/-- A character that is its own lower case, also at the end of a word. -/
def IsLower (c : Char) : Prop :=
  c.toNat ≠ 0x3A3 ∧ Unicode.lowerChar c = [c]

lemma lowerAfter_of_isLower {before s : List Char} (h : ∀ c ∈ s, IsLower c) :
    Unicode.lowerAfter before s = s := by
  induction s generalizing before with
  | nil => rfl
  | cons c s ih =>
    obtain ⟨⟨hsigma, hlower⟩, hs⟩ := List.forall_mem_cons.1 h
    rw [Unicode.lowerAfter, if_neg hsigma, hlower, ih hs]
    rfl

/-- The names of domestic families are in lower case. -/
lemma lowercase_of_mem_families {family : String} (h : family ∈ families) :
    Unicode.lowercase family = family := by
  -- Each letter is looked up once, and not once for every name in which it stands.
  have hletters : ∀ f ∈ families, f.toList.all (· ∈ "-abcdefghijklmnopqrstuvwxyz".toList) := by
    decide +kernel
  have hlower : "-abcdefghijklmnopqrstuvwxyz".toList.all
      fun c => c.toNat ≠ 0x3A3 ∧ Unicode.lowerChar c = [c] := by
    decide +kernel
  simp only [List.all_eq_true, decide_eq_true_eq] at hletters hlower
  rw [Unicode.lowercase, lowerAfter_of_isLower fun c hc => hlower c (hletters family h c hc),
    String.ofList_toList]

/--
Listed releases with a standard namespace, also with slashes at its end, have the family of that
namespace exactly if it is domestic. The others have its date instead. So the releases that a
registry may give as the latest of their own family are the domestic ones.
-/
theorem namespaceFamily?_standard (h : ofNamespace? ns = some r)
    (hd : d.ns = ns ++ String.ofList (List.replicate n '/')) :
    (d.namespaceFamily? = some r.family ↔ IsDomestic ns r) ∧
      (¬IsDomestic ns r → ∃ scheme ∈ ["http://", "https://"], ∃ date, IsMonthDay date ∧
        ns = scheme ++ "xbrl.ifrs.org/taxonomy/" ++ r.year ++ date ++ "/" ++ r.family ∧
        d.namespaceFamily? = some (r.year ++ date)) ∧
      ((∃ name g, Unicode.lowercase name = r.family ∧ latestRelease? name (some g) = some d) ↔
        IsDomestic ns r) := by
  have hiff := namespaceFamily?_eq_family_iff h hd
  refine ⟨hiff, ?date, ?latest⟩
  case date =>
    intro hnot
    obtain ⟨hfamily, hyear, scheme, hscheme, date, hdate, hns⟩ :=
      (ofNamespace?_eq_some_iff.1 h).resolve_left hnot
    exact ⟨scheme, hscheme, date, hdate, hns, namespaceFamily?_of_date hyear hdate hfamily hns hd⟩
  case latest =>
    constructor
    · rintro ⟨name, g, hname, hg⟩
      have hqualifies : FamilyRegistry.Qualifies name d := exists_latestRelease?_iff.1 ⟨g, hg⟩
      rw [FamilyRegistry.Qualifies, hname] at hqualifies
      exact hiff.1 hqualifies
    · intro hdomestic
      have hlower := lowercase_of_mem_families hdomestic.1
      have hqualifies : FamilyRegistry.Qualifies r.family d := by
        rw [FamilyRegistry.Qualifies, hlower]
        exact hiff.2 hdomestic
      obtain ⟨g, hg⟩ := exists_latestRelease?_iff.2 hqualifies
      exact ⟨r.family, g, hlower, hg⟩

/-- A release with this namespace. -/
def releaseAt (ns : String) : FamilyRelease := ⟨"", ns, "", ""⟩

theorem namespaceFamily?_standard_slashes :
    ofNamespace? "http://xbrl.sec.gov/ecd/2023-01-31" = some ⟨"ecd", "2023"⟩ ∧
      (releaseAt "http://xbrl.sec.gov/ecd/2023-01-31//").ns =
        "http://xbrl.sec.gov/ecd/2023-01-31" ++ String.ofList (List.replicate 2 '/') ∧
      (releaseAt "http://xbrl.sec.gov/ecd/2023-01-31//").namespaceFamily? = some "ecd" ∧
      ∃ name g, Unicode.lowercase name = "ecd" ∧
        latestRelease? name (some g) = some (releaseAt "http://xbrl.sec.gov/ecd/2023-01-31//") := by
  have hdomestic : IsDomestic "http://xbrl.sec.gov/ecd/2023-01-31" ⟨"ecd", "2023"⟩ :=
    ⟨by decide, by decide, "xbrl.sec.gov", by decide, "-01-31",
      .inr ⟨"01", "31", by decide, by decide, by decide⟩, by decide⟩
  have h : ofNamespace? "http://xbrl.sec.gov/ecd/2023-01-31" = some ⟨"ecd", "2023"⟩ :=
    ofNamespace?_eq_some_iff.2 (.inl hdomestic)
  have hd : (releaseAt "http://xbrl.sec.gov/ecd/2023-01-31//").ns =
      "http://xbrl.sec.gov/ecd/2023-01-31" ++ String.ofList (List.replicate 2 '/') := by
    decide +kernel
  obtain ⟨hfamily, -, hlatest⟩ := namespaceFamily?_standard h hd
  exact ⟨h, hd, hfamily.2 hdomestic, hlatest.2 hdomestic⟩

/-- An international release has its date in place of its family. -/
theorem international_family_missed :
    ¬∀ (ns : String) (r : Release) (n : ℕ) (d : FamilyRelease), ofNamespace? ns = some r →
      d.ns = ns ++ String.ofList (List.replicate n '/') → d.namespaceFamily? = some r.family := by
  intro hall
  have h : ofNamespace? "https://xbrl.ifrs.org/taxonomy/2024-03-27/ifrs-full" =
      some ⟨"ifrs-full", "2024"⟩ := ofNamespace?_eq_some_iff.2 (.inr isInternational_full)
  have hread := hall _ _ 0 (releaseAt "https://xbrl.ifrs.org/taxonomy/2024-03-27/ifrs-full") h
    (by decide +kernel)
  revert hread
  decide +kernel

end FamilyRelease

end Disclosure
