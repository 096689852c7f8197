import Mathlib.Data.List.Infix
import Disclosure.Proofs.Json.Keys
import Disclosure.Proofs.Taxonomy.NamespacePattern
import Disclosure.Taxonomy.QualityRule

/-!
# When data quality rules are loaded

The rules of data quality apply to a submission under a release of the domestic accounting taxonomy
that they cover, unless the facts of the international one prevail (`Apply`). If they do not apply,
no file is read. If they do, what is loaded depends on their file alone: its object is kept as it
is, but for the one key that names the file of constants (`loadBy_exact`).
-/

namespace Disclosure

namespace QualityRules

open Json (Members)

variable {namespaces : List String} {ns directory : String} {facts : List Fact} {y year : Nat}
  {files : FileStore} {ms : Members}

/-! ### The submissions that the rules apply to -/

/-- Whether the first namespace of a list that is of the domestic family is of a year. -/
def IsFirstYear (namespaces : List String) (y : Nat) : Prop :=
  ∃ before ns after r, namespaces = before ++ ns :: after ∧
    Release.ofNamespace? ns = some r ∧ r.family = "us-gaap" ∧ readDigits 0 r.year.toList = y ∧
    ∀ ns' ∈ before, ∀ r', Release.ofNamespace? ns' = some r' → r'.family ≠ "us-gaap"

/-- How many facts have a namespace in which a part occurs. -/
def countIn (part : String) (facts : List Fact) : Nat :=
  facts.countP fun f => decide (part.toList <:+: f.concept.ns.toList)

/-- Whether there are facts of the international taxonomy, and no fewer than of the domestic one. -/
def InternationalPrevails (facts : List Fact) : Prop :=
  1 ≤ countIn "ifrs" facts ∧ countIn "us-gaap" facts ≤ countIn "ifrs" facts

instance (facts : List Fact) : Decidable (InternationalPrevails facts) :=
  inferInstanceAs (Decidable (_ ∧ _))

/-- Whether the rules apply to a submission, under a release of that year. -/
def Apply (namespaces : List String) (facts : List Fact) (y : Nat) : Prop :=
  IsFirstYear namespaces y ∧ 2020 ≤ y ∧ ¬InternationalPrevails facts

lemma yearOf?_eq_some_iff :
    yearOf? ns = some y ↔ ∃ r, Release.ofNamespace? ns = some r ∧ r.family = "us-gaap" ∧
      readDigits 0 r.year.toList = y := by
  simp only [yearOf?, Option.bind_eq_bind, Option.bind_eq_some_iff, Option.ite_none_right_eq_some,
    Option.some.injEq]
  rfl

lemma yearOf?_eq_none_iff :
    yearOf? ns = none ↔ ∀ r, Release.ofNamespace? ns = some r → r.family ≠ "us-gaap" := by
  rw [Option.eq_none_iff_forall_ne_some]
  constructor
  · intro h r hr hfamily
    exact h _ (yearOf?_eq_some_iff.2 ⟨r, hr, hfamily, rfl⟩)
  · intro h y hy
    obtain ⟨r, hr, hfamily, -⟩ := yearOf?_eq_some_iff.1 hy
    exact h r hr hfamily

lemma year?_eq_some_iff : year? namespaces = some y ↔ IsFirstYear namespaces y := by
  rw [year?, List.findSome?_eq_some_iff]
  simp only [yearOf?_eq_some_iff, yearOf?_eq_none_iff]
  constructor
  · rintro ⟨before, ns, after, hsplit, ⟨r, hr, hfamily, hyear⟩, hbefore⟩
    exact ⟨before, ns, after, r, hsplit, hr, hfamily, hyear, hbefore⟩
  · rintro ⟨before, ns, after, r, hsplit, hr, hfamily, hyear, hbefore⟩
    exact ⟨before, ns, after, hsplit, ⟨r, hr, hfamily, hyear⟩, hbefore⟩

lemma IsFirstYear.eq {y' : Nat} (h : IsFirstYear namespaces y) (h' : IsFirstYear namespaces y') :
    y = y' :=
  Option.some.inj ((year?_eq_some_iff.2 h).symm.trans (year?_eq_some_iff.2 h'))

lemma isDomestic_ofFacts_iff :
    (TaxonomyShares.ofFacts facts).isDomestic ↔ ¬InternationalPrevails facts := by
  have hcount : ∀ part : String,
      (facts.countP fun f => Text.hasInfix part.toList f.concept.ns.toList) =
        countIn part facts := by
    intro part
    refine List.countP_congr fun f _ => ?_
    rw [Text.hasInfix_iff, decide_eq_true_eq]
  simp only [TaxonomyShares.isDomestic, TaxonomyShares.ofFacts, hcount, Bool.or_eq_true,
    Bool.and_eq_true, beq_iff_eq, decide_eq_true_eq, InternationalPrevails]
  omega

lemma applyIn_iff : applyIn y (.ofFacts facts) ↔ 2020 ≤ y ∧ ¬InternationalPrevails facts := by
  rw [applyIn, firstYear, Bool.and_eq_true, decide_eq_true_eq, isDomestic_ofFacts_iff]

/-! ### What is loaded -/

/-- Where the rules do not apply, nothing is done. -/
lemma loadBy_of_not_apply (h : ∀ y, ¬Apply namespaces facts y) {m : Type → Type} [Monad m]
    (loadValue : String → m (Except CacheError (Option Json))) :
    loadBy loadValue directory namespaces facts = pure (.ok none) := by
  rw [loadBy]
  cases hyear : year? namespaces with
  | none => rfl
  | some y =>
    have happly : ¬applyIn y (.ofFacts facts) := by
      rw [applyIn_iff]
      exact fun happly => h y ⟨year?_eq_some_iff.1 hyear, happly⟩
    simp only [happly]
    rfl

/-- Where the rules apply, what is loaded is made of the value in their file. -/
lemma load_of_apply (h : Apply namespaces facts y) (files : FileStore) (directory : String) :
    load files directory namespaces facts =
      withConstants (joinPath directory fileName) (constantsPath directory y)
        (files.loadValue (joinPath directory fileName)) := by
  obtain ⟨hyear, happly⟩ := h
  rw [load, loadBy, year?_eq_some_iff.2 hyear]
  simp only [applyIn_iff.2 happly, if_true]
  rfl

/-- Whether there is a file at a path that cannot be read, or holds no object. -/
def IsDamaged (files : FileStore) (path : String) : Prop :=
  files.read path = .error .unreadable ∨
    ∃ content, files.read path = .ok content ∧
      ((∃ e, Json.ofText content = .error e) ∨ ∃ v, Json.ofText content = .ok v ∧ ¬v.isObject)

variable {path constants content : String}

lemma withConstants_eq_none_iff :
    withConstants path constants (files.loadValue path) = .ok none ↔
      files.read path = .error .missing := by
  rw [FileStore.loadValue]
  cases files.read path with
  | error e => cases e <;> simp [withConstants]
  | ok content =>
    cases hvalue : Json.ofText content with
    | error e => simp [withConstants, hvalue]
    | ok v => cases v <;> simp [withConstants, hvalue]

lemma exists_withConstants_eq_error_iff :
    (∃ e, withConstants path constants (files.loadValue path) = .error e) ↔
      IsDamaged files path := by
  rw [FileStore.loadValue, IsDamaged]
  cases files.read path with
  | error e => cases e <;> simp [withConstants]
  | ok content =>
    cases hvalue : Json.ofText content with
    | error e => simp [withConstants, hvalue]
    | ok v => cases v <;> simp [withConstants, hvalue, Json.isObject, Json.members?]

/-- The object in the file is given the path of the constants and otherwise kept. -/
lemma withConstants_of_object (hread : files.read path = .ok content)
    (hvalue : Json.ofText content = .ok (.obj ms)) :
    withConstants path constants (files.loadValue path) =
      .ok (some (Members.put constantsKey (.str constants) ms)) := by
  rw [FileStore.loadValue, hread]
  simp only [hvalue, withConstants]

/--
Under no release of the domestic accounting taxonomy, under one from before 2020, or where the facts
of the international taxonomy prevail, the rules are not loaded and no file is read. Otherwise they
are missing if and only if their file is, and loading them fails if and only if the file is damaged.
If it holds an object, that is loaded with the path of the file of constants for the year, or for
2023 if that is later. All other keys keep their values and their order; the key of the path keeps
its place, or is put last if the file does not have it.
-/
theorem loadBy_exact (directory : String) (namespaces : List String) (facts : List Fact) :
    ((∀ y, ¬IsFirstYear namespaces y) ∨ (∃ y, IsFirstYear namespaces y ∧ y < 2020) ∨
        InternationalPrevails facts →
      (∀ (m : Type → Type) [Monad m] (loadValue : String → m (Except CacheError (Option Json))),
        loadBy loadValue directory namespaces facts = pure (.ok none)) ∧
      ∀ files, load files directory namespaces facts = .ok none) ∧
    ∀ y, IsFirstYear namespaces y → 2020 ≤ y → ¬InternationalPrevails facts → ∀ files,
      (load files directory namespaces facts = .ok none ↔
        files.read (joinPath directory "dqc-us-rules.json") = .error .missing) ∧
      ((∃ e, load files directory namespaces facts = .error e) ↔
        IsDamaged files (joinPath directory "dqc-us-rules.json")) ∧
      ∀ content ms, files.read (joinPath directory "dqc-us-rules.json") = .ok content →
        Json.ofText content = .ok (.obj ms) →
        ∃ rules, load files directory namespaces facts = .ok (some rules) ∧
          Members.get? "XULE-constants-file" rules = some (.str (joinPath
            (joinPath directory "xule")
            ("dqcrt-us-" ++ String.ofList (decimalDigits (max y 2023)) ++ "-constants.json"))) ∧
          (∀ key, key ≠ "XULE-constants-file" → Members.get? key rules = Members.get? key ms) ∧
          Members.keys rules = if "XULE-constants-file" ∈ Members.keys ms then Members.keys ms
            else Members.keys ms ++ ["XULE-constants-file"] := by
  refine ⟨?_, ?_⟩
  · intro hnot
    have hnone : ∀ y, ¬Apply namespaces facts y := by
      rintro y ⟨hyear, hfirst, hprevails⟩
      rcases hnot with hnot | ⟨y', hyear', hlt⟩ | hnot
      · exact hnot y hyear
      · rw [hyear.eq hyear'] at hfirst
        exact absurd hlt (Nat.not_lt.2 hfirst)
      · exact hprevails hnot
    exact ⟨fun m _ loadValue => loadBy_of_not_apply hnone loadValue,
      fun files => loadBy_of_not_apply hnone (pure ∘ files.loadValue)⟩
  · intro y hyear hfirst hprevails files
    rw [load_of_apply ⟨hyear, hfirst, hprevails⟩]
    refine ⟨withConstants_eq_none_iff, exists_withConstants_eq_error_iff, ?_⟩
    intro content ms hread hvalue
    refine ⟨_, withConstants_of_object hread hvalue, ?_, ?_, ?_⟩
    · exact Members.get?_put_self _ _ ms
    · intro key hkey
      exact Members.get?_put_of_ne hkey.symm _ ms
    · exact Members.keys_put _ _ ms

/--
With one fact of each taxonomy the rules are not loaded, with the domestic one alone they are; the
directory is absolute.
-/
theorem loadBy_exact_even :
    let fact (ns : String) : Fact := ⟨⟨ns, "Revenues"⟩, .text "1", none, none, .exact, .unknown⟩
    let gaap : String := "http://fasb.org/us-gaap/2020-01-31"
    let content := Json.text (.obj [("XULE-constants-file", .null), ("DQC.US.0015", .bool true)])
    let files : FileStore := ⟨[(["srv", "dqc-us-rules.json"], .text content)], ["home"]⟩
    load files "/srv" [gaap] [fact gaap, fact "ifrs-full"] = .ok none ∧
      ∃ rules, load files "/srv" ["ifrs", gaap] [fact gaap] = .ok (some rules) ∧
        Members.get? "XULE-constants-file" rules =
          some (.str "/srv/xule/dqcrt-us-2023-constants.json") ∧
        Members.keys rules = ["XULE-constants-file", "DQC.US.0015"] := by
  intro fact gaap content files
  have hgaap : Release.ofNamespace? gaap = some ⟨"us-gaap", "2020"⟩ :=
    Release.ofNamespace?_eq_some_iff.2 (.inl ⟨by decide, by decide, "fasb.org", by decide,
      "-01-31", .inr ⟨"01", "31", by decide, by decide, by decide⟩, by decide⟩)
  have hother : Release.ofNamespace? "ifrs" = none := by
    rw [Option.eq_none_iff_forall_ne_some]
    intro r hr
    rcases Release.ofNamespace?_eq_some_iff.1 hr with h | h
    · obtain ⟨host, -, date, hns⟩ := h.exists_toList
      simp at hns
    · obtain ⟨scheme, hscheme, date, -, hns⟩ := h.exists_toList
      simp at hscheme
      rcases hscheme with rfl | rfl <;> simp at hns
  have hyear : IsFirstYear ["ifrs", gaap] 2020 :=
    ⟨["ifrs"], gaap, [], _, rfl, hgaap, rfl, by decide +kernel, by simp [hother]⟩
  have hread : files.read (joinPath "/srv" "dqc-us-rules.json") = .ok content := rfl
  have hvalue : Json.ofText content =
      .ok (.obj [("XULE-constants-file", .null), ("DQC.US.0015", .bool true)]) :=
    Json.ofText_text (by simp [Members.keys]) (by decide)
  have hpath : joinPath (joinPath "/srv" "xule")
      ("dqcrt-us-" ++ String.ofList (decimalDigits (max 2020 2023)) ++ "-constants.json") =
      "/srv/xule/dqcrt-us-2023-constants.json" := by decide +kernel
  obtain ⟨hnone, -⟩ := loadBy_exact "/srv" [gaap] [fact gaap, fact "ifrs-full"]
  obtain ⟨-, hsome⟩ := loadBy_exact "/srv" ["ifrs", gaap] [fact gaap]
  obtain ⟨-, -, hobject⟩ := hsome 2020 hyear (Nat.le_refl _) (by decide +kernel) files
  obtain ⟨rules, hload, hconstants, -, hkeys⟩ := hobject content _ hread hvalue
  refine ⟨(hnone (.inr (.inr (by decide +kernel)))).2 files, rules, hload, ?_, ?_⟩
  · rw [hconstants, hpath]
  · rw [hkeys]
    rfl

end QualityRules

end Disclosure
