import Disclosure.Proofs.Regex.Captures
import Disclosure.Taxonomy.Namespace

/-!
# The pattern of standard namespaces

A namespace of a standard taxonomy has one of two forms: a domestic one, which names the family
before the year, and an international one, which names it behind the date. These are the
alternatives of the pattern. Its search, which goes back to other ways where one fails, finds a
match in just the namespaces of one of these forms, the groups of the form that matched capture the
family and the year, and the groups of the other form capture nothing (`captured_of_captures?`). So
the release that the groups name is the one of the form (`ofNamespace?_eq_some_iff`).
-/

namespace Disclosure

namespace Release

open Regex

/-! ### Forms -/

/-- Whether a text is a number of that many digits. -/
def IsNumeral (n : Nat) (s : String) : Prop :=
  s.length = n ∧ ∀ c ∈ s.toList, isDigit c

instance (n : Nat) (s : String) : Decidable (IsNumeral n s) :=
  decidable_of_iff (s.length = n ∧ s.toList.all isDigit) (by rw [IsNumeral, List.all_eq_true])

/-- Whether a text is a month and a day of two digits each, both behind a hyphen. -/
def IsMonthDay (s : String) : Prop :=
  ∃ month day, IsNumeral 2 month ∧ IsNumeral 2 day ∧ s = "-" ++ month ++ "-" ++ day

/-- Whether a text is a name of an international family: any word or hyphens behind its start. -/
def IsInternationalFamily (family : String) : Prop :=
  ∃ name, family = "ifrs" ++ name ∧ ∀ c ∈ name.toList, Unicode.isWord c ∨ c = '-'

lemma isInternationalFamily_of_all (name : String)
    (h : name.toList.all fun c => Unicode.isWord c || c == '-') :
    IsInternationalFamily ("ifrs" ++ name) :=
  ⟨name, rfl, by simpa using h⟩

/-- The families of domestic releases. -/
def families : List String :=
  ["dei", "us-gaap", "srt", "us-types", "us-roles", "rr", "country", "currency", "exch", "invest",
   "naics", "sic", "stpr", "rxp", "spac", "cyd", "ecd", "fnd", "oef", "vip", "sro", "snj", "cef",
   "sbs", "ffd"]

/-- The hosts of domestic publishers. -/
def hosts : List String := ["xbrl.us", "fasb.org", "xbrl.sec.gov"]

/-- Whether a namespace is of a domestic release. -/
def IsDomestic (ns : String) (r : Release) : Prop :=
  r.family ∈ families ∧ IsNumeral 4 r.year ∧
    ∃ host ∈ hosts, ∃ date, (date = "" ∨ IsMonthDay date) ∧
      ns = "http://" ++ host ++ "/" ++ r.family ++ "/" ++ r.year ++ date

/-- Whether a namespace is of an international release. -/
def IsInternational (ns : String) (r : Release) : Prop :=
  IsInternationalFamily r.family ∧ IsNumeral 4 r.year ∧
    ∃ scheme ∈ ["http://", "https://"], ∃ date, IsMonthDay date ∧
      ns = scheme ++ "xbrl.ifrs.org/taxonomy/" ++ r.year ++ date ++ "/" ++ r.family

variable {ns family host : String} {r r' : Release} {n : Nat} {s w family' year : List Char}

lemma isNumeral_ofList : IsNumeral n (String.ofList s) ↔ s.length = n ∧ ∀ c ∈ s, isDigit c := by
  rw [IsNumeral, String.length_ofList, String.toList_ofList]

lemma IsNumeral.length_toList {s : String} (h : IsNumeral n s) : s.toList.length = n := by
  rw [String.length_toList, h.1]

lemma IsMonthDay.length_toList {date : String} (h : IsMonthDay date) : date.toList.length = 6 := by
  obtain ⟨month, day, hmonth, hday, rfl⟩ := h
  simp [hmonth.length_toList, hday.length_toList]

/-! ### Forms told apart -/

/-- A text up to the first slash and the text behind that are told apart. -/
lemma append_slash_inj {s' rest rest' : List Char} (hs : '/' ∉ s) (hs' : '/' ∉ s') :
    s ++ '/' :: rest = s' ++ '/' :: rest' ↔ s = s' ∧ rest = rest' := by
  constructor
  · intro h
    have htake := congrArg (List.takeWhile (· != '/')) h
    rw [Text.takeWhile_ne_append hs, Text.takeWhile_ne_append hs'] at htake
    subst htake
    exact ⟨rfl, (List.cons.inj (List.append_cancel_left h)).2⟩
  · rintro ⟨rfl, rfl⟩
    rfl

/-- No family has a slash in it. -/
lemma slash_notMem_of_mem_families (h : family ∈ families) : '/' ∉ family.toList := by
  have hall : ∀ f ∈ families, '/' ∉ f.toList := by decide +kernel
  exact hall family h

lemma slash_notMem_of_mem_hosts (h : host ∈ hosts) : '/' ∉ host.toList := by
  have hall : ∀ f ∈ hosts, '/' ∉ f.toList := by decide +kernel
  exact hall host h

lemma IsDomestic.exists_toList (h : IsDomestic ns r) : ∃ host ∈ hosts, ∃ date : List Char,
    ns.toList = "http://".toList ++ (host.toList ++
      '/' :: (r.family.toList ++ '/' :: (r.year.toList ++ date))) := by
  obtain ⟨-, -, host, hhost, date, -, rfl⟩ := h
  exact ⟨host, hhost, date.toList, by simp⟩

lemma IsInternational.exists_toList (h : IsInternational ns r) :
    ∃ scheme ∈ ["http://", "https://"], ∃ date : List Char, date.length = 6 ∧
      ns.toList = scheme.toList ++ ("xbrl.ifrs.org".toList ++
        '/' :: ("taxonomy/".toList ++ (r.year.toList ++ (date ++ '/' :: r.family.toList)))) := by
  obtain ⟨-, -, scheme, hscheme, date, hdate, rfl⟩ := h
  exact ⟨scheme, hscheme, date.toList, hdate.length_toList, by simp⟩

/-- A namespace is of one domestic release at most. -/
lemma IsDomestic.unique (h : IsDomestic ns r) (h' : IsDomestic ns r') : r = r' := by
  obtain ⟨host, hhost, date, hns⟩ := h.exists_toList
  obtain ⟨host', hhost', date', hns'⟩ := h'.exists_toList
  rw [hns, List.append_cancel_left_eq, append_slash_inj (slash_notMem_of_mem_hosts hhost)
    (slash_notMem_of_mem_hosts hhost'), append_slash_inj (slash_notMem_of_mem_families h.1)
    (slash_notMem_of_mem_families h'.1)] at hns'
  obtain ⟨-, hfamily, htail⟩ := hns'
  have hlength : r.year.toList.length = r'.year.toList.length :=
    h.2.1.length_toList.trans h'.2.1.length_toList.symm
  exact Release.ext (String.toList_inj.1 hfamily)
    (String.toList_inj.1 (List.append_inj htail hlength).1)

/-- A namespace starts with one scheme only. -/
lemma scheme_append_inj {scheme scheme' : String} {rest rest' : List Char}
    (h : scheme ∈ ["http://", "https://"]) (h' : scheme' ∈ ["http://", "https://"])
    (heq : scheme.toList ++ 'x' :: rest = scheme'.toList ++ 'x' :: rest') :
    scheme = scheme' ∧ rest = rest' := by
  simp only [List.mem_cons, List.not_mem_nil, or_false] at h h'
  rcases h with rfl | rfl <;> rcases h' with rfl | rfl
  · simpa using heq
  · simp at heq
  · simp at heq
  · simpa using heq

/-- A namespace is of one international release at most. -/
lemma IsInternational.unique (h : IsInternational ns r) (h' : IsInternational ns r') : r = r' := by
  obtain ⟨scheme, hscheme, date, hdate, hns⟩ := h.exists_toList
  obtain ⟨scheme', hscheme', date', hdate', hns'⟩ := h'.exists_toList
  rw [hns] at hns'
  obtain ⟨-, hrest⟩ := scheme_append_inj hscheme hscheme' hns'
  have htail := List.append_cancel_left (List.cons.inj (List.append_cancel_left hrest)).2
  have hlength : r.year.toList.length = r'.year.toList.length :=
    h.2.1.length_toList.trans h'.2.1.length_toList.symm
  obtain ⟨hyear, hrest'⟩ := List.append_inj htail hlength
  obtain ⟨-, hfamily⟩ := List.append_inj hrest' (hdate.trans hdate'.symm)
  exact Release.ext (String.toList_inj.1 (List.cons.inj hfamily).2) (String.toList_inj.1 hyear)

/-- International taxonomies are not published by a domestic publisher. -/
lemma IsDomestic.not_isInternational (h : IsDomestic ns r) : ¬IsInternational ns r' := by
  intro h'
  obtain ⟨host, hhost, date, hns⟩ := h.exists_toList
  obtain ⟨scheme, hscheme, date', -, hns'⟩ := h'.exists_toList
  rw [hns] at hns'
  simp only [List.mem_cons, List.not_mem_nil, or_false] at hscheme
  rcases hscheme with rfl | rfl
  · have hother : "xbrl.ifrs.org" ∉ hosts := by decide
    have hslash : '/' ∉ "xbrl.ifrs.org".toList := by decide +kernel
    rw [List.append_cancel_left_eq, append_slash_inj (slash_notMem_of_mem_hosts hhost)
      hslash] at hns'
    exact hother (String.toList_inj.1 hns'.1 ▸ hhost)
  · simp at hns'

/-- A namespace is of one release at most, whichever form it has. -/
lemma eq_of_form (h : IsDomestic ns r ∨ IsInternational ns r)
    (h' : IsDomestic ns r' ∨ IsInternational ns r') : r = r' := by
  rcases h with h | h
  · exact h.unique (h'.resolve_right h.not_isInternational)
  · exact h.unique (h'.resolve_left fun hother => hother.not_isInternational h)

/-! ### The alternatives of the pattern -/

/-- One of some words. -/
def anyOf (ws : List String) : Node := .altOf (ws.map fun w => wordNode {} w.toList)

/-- The class of digits. -/
def digitClass : CharClass := .union .none (.ranges [(48, 57)])

/-- A number of that many digits. -/
def numeralNode (n : Nat) : Node := .times n (some n) true (.chars digitClass)

/-- A month and a day. -/
def monthDay : List Node :=
  spelled "-".toList ++ numeralNode 2 :: (spelled "-".toList ++ [numeralNode 2])

/-- The class of word characters and hyphens. -/
def nameClass : CharClass := .union (.union .none (.ranges Unicode.wordCharacters)) (.single '-')

/-- A name of an international family. -/
def internationalNode : Node :=
  .seqOf (spelled "ifrs".toList ++ [.times 0 none true (.chars nameClass)])

/-- The place of a domestic publisher. -/
def publisher : List Node :=
  spelled "http://".toList ++ anyOf hosts :: spelled "/".toList

/-- The place of the international publisher. -/
def internationalPublisher : List Node :=
  spelled "http".toList ++ .times 0 (some 1) true (charNode {} 's') ::
    spelled "://xbrl.ifrs.org/taxonomy/".toList

/-- The alternative of domestic namespaces. -/
def domestic : Layout where
  front := publisher
  firstName := "family"
  first := anyOf families
  middle := spelled "/".toList
  secondName := "year"
  second := numeralNode 4
  back := [.times 0 (some 1) true (.seqOf monthDay)]

/-- The alternative of international namespaces. -/
def international : Layout where
  front := internationalPublisher
  firstName := "ifrs_year"
  first := numeralNode 4
  middle := monthDay ++ spelled "/".toList
  secondName := "ifrs_family"
  second := internationalNode
  back := []

/-- The pattern is read into its two alternatives, each from the start of a text to its end. -/
lemma node_pattern : (Regex.ofPattern? pattern).map (·.node) =
    some (.altOf [.whole domestic.parts, .whole international.parts]) := by
  unfold ofPattern? ofPatternWith? pattern
  simp only [String.toList_append]
  decide +kernel

/-- The pattern can be read. -/
lemma ofPattern?_pattern : Regex.ofPattern? pattern = some standardForm := by
  obtain ⟨re, hre, -⟩ := Option.map_eq_some_iff.1 node_pattern
  rw [standardForm, hre]
  rfl

lemma node_standardForm :
    standardForm.node = .altOf [.whole domestic.parts, .whole international.parts] := by
  have hnode := node_pattern
  rw [ofPattern?_pattern] at hnode
  exact Option.some.inj hnode

lemma isPlain_domestic : domestic.IsPlain := by
  decide +kernel

lemma isPlain_international : international.IsPlain := by
  decide +kernel

/-! ### The texts of the parts -/

lemma contains_digitClass (c : Char) : digitClass.contains c = isDigit c := by
  simp [digitClass, CharClass.none, CharClass.contains, Unicode.Ranges.contains, isDigit]

lemma contains_nameClass (c : Char) : nameClass.contains c ↔ Unicode.isWord c ∨ c = '-' := by
  have hhyphen : (CharClass.single '-').contains c ↔ c = '-' := by
    rw [contains_single, decide_eq_true_eq]
  rw [← hhyphen]
  simp only [nameClass, CharClass.none, CharClass.contains, Bool.or_eq_true, Unicode.isWord,
    Unicode.Ranges.contains, List.any_nil, Bool.false_eq_true, false_or]

lemma mem_language_anyOf {ws : List String} (h : ws ≠ []) :
    w ∈ (anyOf ws).language ↔ String.ofList w ∈ ws := by
  have hmap : (ws.map fun w => wordNode {} w.toList) =
      (ws.map String.toList).map (wordNode {}) := by
    rw [List.map_map, Function.comp_def]
  have hne : ws.map String.toList ≠ [] := by simpa using h
  rw [anyOf, hmap, mem_language_words hne, List.mem_map]
  constructor
  · rintro ⟨s, hs, rfl⟩
    rwa [String.ofList_toList]
  · intro hw
    exact ⟨_, hw, String.toList_ofList⟩

lemma mem_language_numeralNode :
    w ∈ (numeralNode n).language ↔ IsNumeral n (String.ofList w) := by
  rw [numeralNode, mem_language_exactly, isNumeral_ofList]
  simp only [contains_digitClass]

lemma mem_languageOf_monthDay : w ∈ languageOf monthDay ↔ IsMonthDay (String.ofList w) := by
  constructor
  · intro h
    obtain ⟨_, htail, rfl⟩ := mem_languageOf_spelled_append.1 h
    obtain ⟨month, hmonth, _, hrest, rfl⟩ := mem_languageOf_cons.1 htail
    obtain ⟨day, hday, rfl⟩ := mem_languageOf_spelled_append.1 hrest
    rw [mem_languageOf_singleton] at hday
    exact ⟨_, _, mem_language_numeralNode.1 hmonth, mem_language_numeralNode.1 hday,
      String.toList_inj.1 (by simp)⟩
  · rintro ⟨month, day, hmonth, hday, hw⟩
    rw [← String.ofList_toList (s := month)] at hmonth
    rw [← String.ofList_toList (s := day)] at hday
    have hrest : "-".toList ++ day.toList ∈ languageOf (spelled "-".toList ++ [numeralNode 2]) :=
      mem_languageOf_spelled_append.2
        ⟨_, mem_languageOf_singleton.2 (mem_language_numeralNode.2 hday), rfl⟩
    have htail := mem_languageOf_cons.2 ⟨_, mem_language_numeralNode.2 hmonth, _, hrest, rfl⟩
    refine mem_languageOf_spelled_append.2 ⟨_, htail, ?_⟩
    simpa using congrArg String.toList hw

lemma mem_languageOf_optionalMonthDay {greedy : Bool} :
    w ∈ languageOf [.times 0 (some 1) greedy (.seqOf monthDay)] ↔
      ∃ date, (date = "" ∨ IsMonthDay date) ∧ w = date.toList := by
  rw [mem_languageOf_singleton, mem_language_optional, language_seqOf, mem_languageOf_monthDay]
  constructor
  · rintro (rfl | hw)
    · exact ⟨"", .inl rfl, rfl⟩
    · exact ⟨_, .inr hw, String.toList_ofList.symm⟩
  · rintro ⟨date, rfl | hdate, rfl⟩
    · exact .inl rfl
    · rw [String.ofList_toList]
      exact .inr hdate

lemma mem_language_internationalNode :
    w ∈ internationalNode.language ↔ IsInternationalFamily (String.ofList w) := by
  rw [internationalNode, language_seqOf, mem_languageOf_spelled_append]
  simp only [mem_languageOf_singleton, mem_language_any, contains_nameClass]
  constructor
  · rintro ⟨name, hname, rfl⟩
    exact ⟨String.ofList name, String.toList_inj.1 (by simp), by rwa [String.toList_ofList]⟩
  · rintro ⟨name, hw, hname⟩
    exact ⟨name.toList, hname, by simpa using congrArg String.toList hw⟩

lemma mem_languageOf_publisher :
    w ∈ languageOf publisher ↔ ∃ host ∈ hosts, w = ("http://" ++ host ++ "/").toList := by
  have hhosts : hosts ≠ [] := List.cons_ne_nil _ _
  rw [publisher, mem_languageOf_spelled_append]
  simp only [mem_languageOf_cons, mem_language_anyOf hhosts, mem_languageOf_spelled]
  constructor
  · rintro ⟨_, ⟨host, hhost, _, rfl, rfl⟩, rfl⟩
    exact ⟨_, hhost, by simp⟩
  · rintro ⟨host, hhost, rfl⟩
    refine ⟨_, ⟨host.toList, ?_, _, rfl, rfl⟩, by simp⟩
    rwa [String.ofList_toList]

lemma mem_languageOf_internationalPublisher :
    w ∈ languageOf internationalPublisher ↔
      ∃ scheme ∈ ["http://", "https://"], w = (scheme ++ "xbrl.ifrs.org/taxonomy/").toList := by
  rw [internationalPublisher, mem_languageOf_spelled_append]
  simp only [mem_languageOf_cons, mem_language_optional, language_charNode, mem_languageOf_spelled]
  constructor
  · rintro ⟨_, ⟨_, rfl | rfl, _, rfl, rfl⟩, rfl⟩
    · exact ⟨"http://", by simp, by simp⟩
    · exact ⟨"https://", by simp, by simp⟩
  · rintro ⟨scheme, hscheme, rfl⟩
    simp only [List.mem_cons, List.not_mem_nil, or_false] at hscheme
    rcases hscheme with rfl | rfl
    · exact ⟨_, ⟨[], .inl rfl, _, rfl, rfl⟩, by simp⟩
    · exact ⟨_, ⟨['s'], .inr rfl, _, rfl, rfl⟩, by simp⟩

/-- The first alternative is spelled with the family and the year of a domestic release. -/
lemma spells_domestic : domestic.Spells ns.toList family' year ↔
    IsDomestic ns ⟨String.ofList family', String.ofList year⟩ := by
  have hfamilies : families ≠ [] := List.cons_ne_nil _ _
  constructor
  · intro h
    obtain ⟨front, hfront, middle, hmiddle, back, hback, hns⟩ := h.around
    obtain ⟨host, hhost, rfl⟩ := mem_languageOf_publisher.1 hfront
    obtain rfl := mem_languageOf_spelled.1 hmiddle
    obtain ⟨date, hdate, rfl⟩ := mem_languageOf_optionalMonthDay.1 hback
    refine ⟨(mem_language_anyOf hfamilies).1 h.first_mem, mem_language_numeralNode.1 h.second_mem,
      host, hhost, date, hdate, String.toList_inj.1 ?_⟩
    simp [hns]
  · rintro ⟨hfamily, hyear, host, hhost, date, hdate, rfl⟩
    refine ⟨(mem_language_anyOf hfamilies).2 hfamily, mem_language_numeralNode.2 hyear, ?_⟩
    refine ⟨_, mem_languageOf_publisher.2 ⟨host, hhost, rfl⟩, _, mem_languageOf_spelled.2 rfl,
      _, mem_languageOf_optionalMonthDay.2 ⟨date, hdate, rfl⟩, ?_⟩
    simp

/-- The second alternative is spelled with the year and the family of an international release. -/
lemma spells_international : international.Spells ns.toList year family' ↔
    IsInternational ns ⟨String.ofList family', String.ofList year⟩ := by
  constructor
  · intro h
    obtain ⟨front, hfront, middle, hmiddle, back, hback, hns⟩ := h.around
    obtain ⟨scheme, hscheme, rfl⟩ := mem_languageOf_internationalPublisher.1 hfront
    have hmiddle' : middle ∈ languageOf monthDay * languageOf (spelled "/".toList) := by
      rwa [← languageOf_append]
    obtain ⟨date, hdate, _, hslash, rfl⟩ := Language.mem_mul.1 hmiddle'
    obtain rfl := mem_languageOf_spelled.1 hslash
    obtain rfl := (Language.mem_one _).1 hback
    refine ⟨mem_language_internationalNode.1 h.second_mem, mem_language_numeralNode.1 h.first_mem,
      scheme, hscheme, String.ofList date, mem_languageOf_monthDay.1 hdate,
      String.toList_inj.1 ?_⟩
    simp [hns]
  · rintro ⟨hfamily, hyear, scheme, hscheme, date, hdate, rfl⟩
    refine ⟨mem_language_numeralNode.2 hyear, mem_language_internationalNode.2 hfamily, ?_⟩
    have hdate' : date.toList ∈ languageOf monthDay := by
      rwa [mem_languageOf_monthDay, String.ofList_toList]
    have hmiddle : date.toList ++ "/".toList ∈ languageOf (monthDay ++ spelled "/".toList) := by
      rw [languageOf_append]
      exact Language.append_mem_mul hdate' (mem_languageOf_spelled.2 rfl)
    refine ⟨_, mem_languageOf_internationalPublisher.2 ⟨scheme, hscheme, rfl⟩, _, hmiddle,
      [], rfl, ?_⟩
    simp

/-! ### Captured releases -/

/-- Whether two groups have captured the family and the year of a release, and no other group any
text. -/
structure Captured (captures : Captures) (familyName yearName : String) (r : Release) : Prop where
  family : captures.text? familyName = some r.family
  year : captures.text? yearName = some r.year
  others : ∀ name, name ≠ familyName → name ≠ yearName → captures.text? name = none

/-- Whether the groups of one form have captured the release of that form. -/
def CapturedByForm (ns : String) (captures : Captures) (r : Release) : Prop :=
  (IsDomestic ns r ∧ Captured captures "family" "year" r) ∨
    (IsInternational ns r ∧ Captured captures "ifrs_family" "ifrs_year" r)

variable {captures : Captures}

/-- What the groups of either form have captured is the release that is read off. -/
lemma CapturedByForm.ofCaptures? (h : CapturedByForm ns captures r) :
    ofCaptures? captures = some r := by
  rcases h with ⟨-, h⟩ | ⟨-, h⟩
  · simp [Release.ofCaptures?, h.family, h.year]
  · have hfamily := h.others "family" (by decide) (by decide)
    have hyear := h.others "year" (by decide) (by decide)
    simp [Release.ofCaptures?, hfamily, hyear, h.family, h.year]

/-- The groups of the form that matched have captured its release. -/
theorem captured_of_captures? (h : standardForm.captures? ns = some captures) :
    ∃ r, CapturedByForm ns captures r := by
  obtain ⟨p, q, hp, hpasses⟩ := exists_passes_of_captures? h
  rw [node_standardForm, passes_altOf (List.cons_ne_nil _ _)] at hpasses
  simp only [List.mem_cons, List.not_mem_nil, or_false, exists_eq_or_imp,
    exists_eq_left] at hpasses
  rcases hpasses with hpasses | hpasses
  · obtain ⟨family, year, hspells, hfamily, hyear, hothers⟩ :=
      Layout.exists_spells isPlain_domestic hpasses
    rw [hp.behind_eq (passes_whole_iff.1 hpasses).1] at hspells
    exact ⟨_, .inl ⟨spells_domestic.1 hspells, hfamily, hyear, hothers⟩⟩
  · obtain ⟨year, family, hspells, hyear, hfamily, hothers⟩ :=
      Layout.exists_spells isPlain_international hpasses
    rw [hp.behind_eq (passes_whole_iff.1 hpasses).1] at hspells
    exact ⟨_, .inr ⟨spells_international.1 hspells, hfamily, hyear,
      fun name hne hne' => hothers name hne' hne⟩⟩

lemma exists_release_iff {P : Release → Prop} :
    (∃ family year, P ⟨String.ofList family, String.ofList year⟩) ↔ ∃ r, P r := by
  constructor
  · rintro ⟨family, year, h⟩
    exact ⟨_, h⟩
  · rintro ⟨r, h⟩
    exact ⟨r.family.toList, r.year.toList, by simpa using h⟩

/-- The pattern matches the namespaces of one of the forms. -/
theorem isMatch_iff_form :
    standardForm.isMatch ns ↔ ∃ r, IsDomestic ns r ∨ IsInternational ns r := by
  have hdomestic : (∃ family year, domestic.Spells ns.toList family year) ↔
      ∃ r, IsDomestic ns r := by
    simp only [spells_domestic]
    exact exists_release_iff
  have hinternational : (∃ year family, international.Spells ns.toList year family) ↔
      ∃ r, IsInternational ns r := by
    simp only [spells_international]
    rw [exists_comm]
    exact exists_release_iff
  rw [exists_or, ← hdomestic, ← hinternational, ← Layout.exists_matches_iff isPlain_domestic,
    ← Layout.exists_matches_iff isPlain_international, isMatch_iff, node_standardForm]
  simp only [matches_altOf (List.cons_ne_nil _ _), List.mem_cons, List.not_mem_nil, or_false,
    exists_eq_or_imp, exists_eq_left, and_or_left, exists_or]

/-- The namespaces of releases are those of one of the two forms. -/
theorem ofNamespace?_eq_some_iff :
    ofNamespace? ns = some r ↔ IsDomestic ns r ∨ IsInternational ns r := by
  rw [ofNamespace?, Option.bind_eq_bind, Option.bind_eq_some_iff]
  constructor
  · rintro ⟨captures, hcaptures, hr⟩
    obtain ⟨r', hcaptured⟩ := captured_of_captures? hcaptures
    rw [hcaptured.ofCaptures?, Option.some.injEq] at hr
    exact hr ▸ hcaptured.imp And.left And.left
  · intro h
    obtain ⟨captures, hcaptures⟩ := Option.isSome_iff_exists.1 (isMatch_iff_form.2 ⟨r, h⟩)
    obtain ⟨r', hcaptured⟩ := captured_of_captures? hcaptures
    rw [eq_of_form h (hcaptured.imp And.left And.left)]
    exact ⟨captures, hcaptures, hcaptured.ofCaptures?⟩

end Release

end Disclosure
