import Disclosure.Taxonomy.SignExpectation
import Disclosure.Proofs.Regex.Words
import Disclosure.Proofs.Taxonomy.Catalog
import Disclosure.Proofs.Taxonomy.NamespacePattern
import Disclosure.Proofs.Token.Unfolding

/-!
# What a catalog of signs says

The names for a standard namespace are those that the catalog lists under the key of its release,
or, if it lists nothing there in any of its sections, under the key of all releases. A concept is
expected not to be negative, and a context lifts the expectation, exactly if the catalog lists the
names for it (`ofJson_answers`).

What is read for one namespace is compared with the catalog once, for any property of the entries
(`exists_entry_iff`); each answer is an instance.
-/

namespace Disclosure

namespace SignExpectations

variable {v w : Json} {doc : Json.Members} {s : Sections} {key ns name axis member : String}
  {names namespaces : List String} {e : SignEntries} {x : SignExpectations}

/-! ### What a catalog lists -/

/-- What a catalog holds under a key of a section. -/
def under? (v : Json) (part key : String) : Option Json :=
  (v.get? part).bind (Json.get? key)

/-- Whether a catalog lists a name under a key of a section. -/
def Lists (v : Json) (part key name : String) : Prop :=
  ∃ items, under? v part key = some (.arr items) ∧ .str name ∈ items

/-- Whether a catalog lists a member of an axis under a key. -/
def ListsOnAxis (v : Json) (key axis member : String) : Prop :=
  ∃ items, (under? v "excludedAxesMembers" key).bind (Json.get? axis) = some (.arr items) ∧
    .str member ∈ items

/-- Whether a catalog lists anything under a key. An axis without members does not count. -/
def ListsAny (v : Json) (key : String) : Prop :=
  (∃ part ∈ ["conceptNames", "excludedMemberNames", "excludedMemberStrings"],
    ∃ name, Lists v part key name) ∨
  ∃ axes, under? v "excludedAxesMembers" key = some (.obj axes) ∧
    ∃ m ∈ axes, ∃ items name, m.2 = .arr items ∧ .str name ∈ items

/--
The key that goes for a namespace: that of its release if the catalog lists anything under it, and
that of all releases of its family otherwise. Only standard namespaces have one.
-/
def IsKeyOf (v : Json) (namespaces : List String) (ns key : String) : Prop :=
  ns ∈ namespaces ∧ ∃ r, Release.ofNamespace? ns = some r ∧
    (ListsAny v r.withYear ∧ key = r.withYear ∨ ¬ListsAny v r.withYear ∧ key = r.anyYear)

/-! ### Reading a catalog -/

lemma mapM_string?_eq_some_iff {items : List Json} :
    items.mapM Json.string? = some names ↔ items = names.map .str := by
  induction items generalizing names with
  | nil => cases names <;> simp
  | cons item items ih =>
    simp only [List.mapM_cons, Option.bind_eq_bind, Option.bind_eq_some_iff, Option.pure_def,
      Option.some.injEq, ih]
    constructor
    · rintro ⟨name, hname, rest, rfl, rfl⟩
      obtain rfl : item = .str name := by
        cases item <;> cases hname
        rfl
      rfl
    · intro h
      obtain ⟨name, rest, rfl, rfl, hrest⟩ := List.map_eq_cons_iff.1 h.symm
      exact ⟨name, rfl, rest, hrest.symm, rfl⟩

lemma eq_of_readNames (h : readNames key w = .ok names) : w = .arr (names.map .str) := by
  rw [readNames] at h
  split at h
  · next hnames =>
    cases h
    obtain ⟨items, hitems, hmap⟩ := Option.bind_eq_some_iff.1 hnames
    obtain rfl := mapM_string?_eq_some_iff.1 hmap
    cases w <;> cases hitems
    rfl
  · cases h

lemma bind_of_readSection {part : String} {o : Option Json.Members}
    (h : readSection doc part = .ok o) (key : String) :
    o.bind (·.get? key) = under? (.obj doc) part key := by
  rw [readSection] at h
  rw [under?, Json.get?]
  split at h
  · next hpart =>
    cases h
    rw [hpart]
    rfl
  · next w hpart =>
    rw [hpart]
    cases w <;> cases h
    rfl

lemma mem_of_readListed {o : Option Json.Members} (h : readListed o key = .ok names) :
    name ∈ names ↔ ∃ items, o.bind (·.get? key) = some (.arr items) ∧ .str name ∈ items := by
  rw [readListed] at h
  cases hkey : o.bind (·.get? key) with
  | none =>
    rw [hkey] at h
    cases h
    simp
  | some w =>
    rw [hkey] at h
    rw [eq_of_readNames h]
    simp

/-! ### Axes -/

/-- Lists of members, each under the name of its axis. -/
def axesMembers (axes : List (String × List String)) : Json.Members :=
  axes.map fun m => (m.1, .arr (m.2.map .str))

lemma eq_axesMembers_of_mapM {ms : Json.Members} {axes : List (String × List String)}
    (h : ms.mapM (fun m => return (m.1, ← readNames m.1 m.2)) = .ok axes) :
    ms = axesMembers axes := by
  rw [mapM_eq_ok_iff] at h
  induction h with
  | nil => rfl
  | @cons m axis ms axes hm _ ih =>
    obtain ⟨members, hmembers, ⟨⟩⟩ := bind_eq_ok_iff.1 hm
    rw [axesMembers, List.map_cons, ← axesMembers, ← ih, ← eq_of_readNames hmembers]

lemma bind_of_readAxes {o : Option Json.Members} {axes : List (String × List String)}
    (h : readAxes o key = .ok axes) :
    o.bind (·.get? key) = none ∧ axes = [] ∨
      o.bind (·.get? key) = some (.obj (axesMembers axes)) := by
  rw [readAxes] at h
  split at h
  · next hkey =>
    cases h
    exact .inl ⟨hkey, rfl⟩
  · next w hkey =>
    obtain ⟨ms, hw, hread⟩ := bind_eq_ok_iff.1 h
    obtain rfl := Option.some.inj (CatalogError.needMembers_eq_ok_iff.1 hw)
    rw [hkey, eq_axesMembers_of_mapM hread]
    exact .inr rfl

lemma get?_axesMembers (axes : List (String × List String)) (axis : String) :
    (axesMembers axes).get? axis =
      (axes.lookup axis).map fun members => .arr (members.map .str) := by
  induction axes with
  | nil => rfl
  | cons m axes ih =>
    rw [axesMembers, List.map_cons, ← axesMembers, Json.Members.get?_cons, ih, List.lookup_cons]
    by_cases h : m.1 = axis
    · simp [h]
    · have hne : (axis == m.1) = false := by simpa using Ne.symm h
      rw [if_neg h, hne]

lemma excludesOnAxis_of_readAxes {o : Option Json.Members} {axes : List (String × List String)}
    (h : readAxes o key = .ok axes) (axis member : String) :
    (axes.lookup axis).any (·.contains member) ↔
      ∃ items, (o.bind (·.get? key)).bind (Json.get? axis) = some (.arr items) ∧
        .str member ∈ items := by
  rcases bind_of_readAxes h with ⟨hkey, rfl⟩ | hkey
  · rw [hkey]
    exact iff_of_false nofun nofun
  · rw [hkey, Option.bind_some, Json.get?, get?_axesMembers]
    cases axes.lookup axis <;> simp

lemma axes_isEmpty_of_readAxes {o : Option Json.Members} {axes : List (String × List String)}
    (h : readAxes o key = .ok axes) :
    axes.all (·.2.isEmpty) ↔ ¬∃ listed, o.bind (·.get? key) = some (.obj listed) ∧
      ∃ m ∈ listed, ∃ items name, m.2 = .arr items ∧ .str name ∈ items := by
  rcases bind_of_readAxes h with ⟨hkey, rfl⟩ | hkey
  · rw [hkey]
    simp
  · rw [hkey]
    simp [axesMembers, List.eq_nil_iff_forall_not_mem]

/-! ### Entries -/

/-- Whether entries hold the names that a catalog lists under a key. -/
structure Holds (v : Json) (key : String) (e : SignEntries) : Prop where
  concepts : ∀ name, name ∈ e.concepts ↔ Lists v "conceptNames" key name
  members : ∀ name, name ∈ e.members ↔ Lists v "excludedMemberNames" key name
  fragments : ∀ name, name ∈ e.fragments ↔ Lists v "excludedMemberStrings" key name
  axes : ∀ axis member, e.excludesOnAxis axis member ↔ ListsOnAxis v key axis member
  isEmpty : e.isEmpty ↔ ¬ListsAny v key

lemma holds_of_readEntries (hs : readSections doc = .ok s) (h : readEntries s key = .ok e) :
    Holds (.obj doc) key e := by
  obtain ⟨concepts, hconcepts, hs⟩ := bind_eq_ok_iff.1 hs
  obtain ⟨members, hmembers, hs⟩ := bind_eq_ok_iff.1 hs
  obtain ⟨fragments, hfragments, hs⟩ := bind_eq_ok_iff.1 hs
  obtain ⟨axes, haxes, ⟨⟩⟩ := bind_eq_ok_iff.1 hs
  obtain ⟨concepts', hconcepts', h⟩ := bind_eq_ok_iff.1 h
  obtain ⟨members', hmembers', h⟩ := bind_eq_ok_iff.1 h
  obtain ⟨fragments', hfragments', h⟩ := bind_eq_ok_iff.1 h
  obtain ⟨axes', haxes', ⟨⟩⟩ := bind_eq_ok_iff.1 h
  have hc : ∀ name, name ∈ concepts' ↔ Lists (.obj doc) "conceptNames" key name := by
    intro name
    rw [mem_of_readListed hconcepts', bind_of_readSection hconcepts, Lists]
  have hm : ∀ name, name ∈ members' ↔ Lists (.obj doc) "excludedMemberNames" key name := by
    intro name
    rw [mem_of_readListed hmembers', bind_of_readSection hmembers, Lists]
  have hf : ∀ name, name ∈ fragments' ↔ Lists (.obj doc) "excludedMemberStrings" key name := by
    intro name
    rw [mem_of_readListed hfragments', bind_of_readSection hfragments, Lists, fragmentsKey]
  refine ⟨hc, hm, hf, fun axis member => ?_, ?_⟩
  · rw [SignEntries.excludesOnAxis, excludesOnAxis_of_readAxes haxes', bind_of_readSection haxes,
      ListsOnAxis]
  · rw [SignEntries.isEmpty, Bool.and_eq_true, axes_isEmpty_of_readAxes haxes',
      bind_of_readSection haxes]
    simp [ListsAny, List.eq_nil_iff_forall_not_mem, hc, hm, hf, and_assoc]

lemma isKeyOf_iff (hns : ns ∈ namespaces) {r : Release} (hr : Release.ofNamespace? ns = some r) :
    IsKeyOf v namespaces ns key ↔
      ListsAny v r.withYear ∧ key = r.withYear ∨ ¬ListsAny v r.withYear ∧ key = r.anyYear := by
  simp [IsKeyOf, hns, hr]

/-- The entries for a namespace are those under its key. -/
lemma iff_of_entriesFor (hs : readSections doc = .ok s) (h : entriesFor s ns = .ok e)
    (hns : ns ∈ namespaces) {P : SignEntries → Prop} {Q : String → Prop} (hempty : ¬P .empty)
    (hholds : ∀ key e, Holds (.obj doc) key e → (P e ↔ Q key)) :
    P e ↔ ∃ key, IsKeyOf (.obj doc) namespaces ns key ∧ Q key := by
  rw [entriesFor] at h
  split at h
  · next hrelease =>
    cases h
    refine iff_of_false hempty ?_
    rintro ⟨key, ⟨-, r, hr, -⟩, -⟩
    rw [hrelease] at hr
    cases hr
  · next r hrelease =>
    obtain ⟨first, hfirst, h⟩ := bind_eq_ok_iff.1 h
    have hyear := holds_of_readEntries hs hfirst
    split_ifs at h with hlisted
    · have hany := holds_of_readEntries hs h
      rw [hyear.isEmpty] at hlisted
      rw [hholds _ _ hany]
      simp [isKeyOf_iff hns hrelease, hlisted]
    · cases h
      rw [hyear.isEmpty, not_not] at hlisted
      rw [hholds _ _ hyear]
      simp [isKeyOf_iff hns hrelease, hlisted]

lemma exists_of_ofJson (h : ofJson v namespaces = .ok x) :
    ∃ doc s, v = .obj doc ∧ readSections doc = .ok s ∧
      namespaces.mapM (fun ns => return (ns, ← entriesFor s ns)) = .ok x.entries ∧
      joinFragments (.ofList (x.entries.flatMap (·.2.fragments))) = .ok x.fragments := by
  obtain ⟨doc, hdoc, hread⟩ := bind_eq_ok_iff.1 h
  obtain ⟨s, hs, hread⟩ := bind_eq_ok_iff.1 hread
  obtain ⟨entries, hentries, hread⟩ := bind_eq_ok_iff.1 hread
  obtain ⟨fragments, hfragments, ⟨⟩⟩ := bind_eq_ok_iff.1 hread
  exact ⟨doc, s, Option.some.inj (CatalogError.needMembers_eq_ok_iff.1 hdoc), hs, hentries,
    hfragments⟩

/-- What holds for the entries of a namespace is what the catalog lists under its key. -/
lemma exists_entry_iff (h : ofJson v namespaces = .ok x) {P : SignEntries → Prop}
    {Q : String → Prop} (hempty : ¬P .empty) (hholds : ∀ key e, Holds v key e → (P e ↔ Q key))
    (ns : String) :
    (∃ e, (ns, e) ∈ x.entries ∧ P e) ↔ ∃ key, IsKeyOf v namespaces ns key ∧ Q key := by
  obtain ⟨doc, s, rfl, hs, hentries, -⟩ := exists_of_ofJson h
  have hmem : ∀ e, (ns, e) ∈ x.entries ↔ ns ∈ namespaces ∧ entriesFor s ns = .ok e := by
    intro e
    rw [mem_iff_of_mapM hentries]
    constructor
    · rintro ⟨ns', hns, hread⟩
      obtain ⟨e', he, ⟨⟩⟩ := bind_eq_ok_iff.1 hread
      exact ⟨hns, he⟩
    · rintro ⟨hns, he⟩
      exact ⟨ns, hns, bind_eq_ok_iff.2 ⟨e, he, rfl⟩⟩
  constructor
  · rintro ⟨e, he, hP⟩
    obtain ⟨hns, he⟩ := (hmem e).1 he
    exact (iff_of_entriesFor hs he hns hempty hholds).1 hP
  · rintro ⟨key, hkey, hQ⟩
    have hns : ns ∈ namespaces := hkey.1
    obtain ⟨_, hread⟩ := exists_eq_ok_of_mapM hentries hns
    obtain ⟨e, he, -⟩ := bind_eq_ok_iff.1 hread
    exact ⟨e, (hmem e).2 ⟨hns, he⟩, (iff_of_entriesFor hs he hns hempty hholds).2 ⟨key, hkey, hQ⟩⟩

/-! ### Answers -/

/-- Whether a catalog lists a concept in a section. -/
def ListsConcept (v : Json) (namespaces : List String) (part : String) (c : Concept) : Prop :=
  ∃ key, IsKeyOf v namespaces c.ns key ∧ Lists v part key c.name

/-- Whether a catalog lists a part of a name for one of the namespaces. -/
def ListsFragment (v : Json) (namespaces : List String) (fragment : String) : Prop :=
  ∃ ns key, IsKeyOf v namespaces ns key ∧ Lists v "excludedMemberStrings" key fragment

/-- Whether a catalog lists a member on its axis: by its name, or all members of the axis. -/
def ListsDimension (v : Json) (namespaces : List String) (d : Dimension) : Prop :=
  ∃ key, IsKeyOf v namespaces d.axis.ns key ∧
    (ListsOnAxis v key d.axis.name "*" ∨
      ∃ c, d.member = .explicit c ∧ c.ns = d.axis.ns ∧ ListsOnAxis v key d.axis.name c.name)

lemma expectsNonNegative_iff (h : ofJson v namespaces = .ok x) (c : Concept) :
    x.expectsNonNegative c ↔ ListsConcept v namespaces "conceptNames" c := by
  have hentry := exists_entry_iff h (P := fun e => c.name ∈ e.concepts) List.not_mem_nil
    (fun key e he => he.concepts c.name) c.ns
  rw [ListsConcept, ← hentry]
  simp [expectsNonNegative]

/-- Whether entries exclude a dimension on its axis. -/
def ExcludesDimension (e : SignEntries) (d : Dimension) : Prop :=
  e.excludesOnAxis d.axis.name "*" ∨
    ∃ c, d.member = .explicit c ∧ c.ns = d.axis.ns ∧ e.excludesOnAxis d.axis.name c.name

lemma entryExcludes_iff (d : Dimension) (entry : String × SignEntries) :
    entryExcludes d.axis d.member entry ↔
      entry.1 = d.axis.ns ∧ ExcludesDimension entry.2 d := by
  obtain ⟨axis, member⟩ := d
  obtain ⟨ns, e⟩ := entry
  simp only [entryExcludes, ExcludesDimension, SignEntries.anyMember]
  cases member with
  | explicit c =>
    simp only [Bool.and_eq_true, beq_iff_eq, Bool.or_eq_true, Member.explicit.injEq,
      exists_eq_left']
    refine and_congr_right fun hns => ?_
    rw [hns]
  | typed text => simp

lemma excludesOn_iff (h : ofJson v namespaces = .ok x) (d : Dimension) :
    x.excludesOn d.axis d.member ↔ ListsDimension v namespaces d := by
  have hempty : ¬ExcludesDimension .empty d := by
    rintro (⟨⟨⟩⟩ | ⟨c, -, -, ⟨⟩⟩)
  have hentry := exists_entry_iff h (P := fun e => ExcludesDimension e d) hempty
    (fun key e he => by simp only [ExcludesDimension, he.axes]; exact Iff.rfl) d.axis.ns
  rw [ListsDimension, ← hentry]
  simp [excludesOn, entryExcludes_iff]

lemma mem_fragments_iff (h : ofJson v namespaces = .ok x) (fragment : String) :
    fragment ∈ x.entries.flatMap (·.2.fragments) ↔ ListsFragment v namespaces fragment := by
  have hentry := exists_entry_iff h (P := fun e => fragment ∈ e.fragments) List.not_mem_nil
    (fun key e he => he.fragments fragment)
  simp only [ListsFragment, ← hentry]
  simp

lemma any_isMatch_iff {tokens : Tokens} {o : Option Regex} (h : joinFragments tokens = .ok o)
    (hwords : ∀ w ∈ tokens.items, ∀ c ∈ w.toList, c.isAlphanum) (name : String) :
    o.any (·.isMatch name) ↔ ∃ w ∈ tokens.items,
      w.toList.map Unicode.foldCase <:+: name.toList.map Unicode.foldCase := by
  rw [joinFragments] at h
  split_ifs at h with hempty
  · cases h
    have hitems : tokens.items = [] := List.isEmpty_iff.1 hempty
    simp [hitems]
  · have hne : tokens.items ≠ [] := fun hitems => hempty (List.isEmpty_iff.2 hitems)
    dsimp only at h
    split at h
    · next re hre =>
      cases h
      exact Regex.isMatch_words_iff hne hwords hre name
    · cases h

lemma excludes_iff (h : ofJson v namespaces = .ok x)
    (hwords : ∀ key fragment, Lists v "excludedMemberStrings" key fragment →
      ∀ a ∈ fragment.toList, a.isAlphanum) (c : Concept) :
    x.excludes c ↔ ListsConcept v namespaces "excludedMemberNames" c ∨
      ∃ fragment, ListsFragment v namespaces fragment ∧
        fragment.toList.map Unicode.foldCase <:+: c.name.toList.map Unicode.foldCase := by
  have hentry := exists_entry_iff h (P := fun e => c.name ∈ e.members) List.not_mem_nil
    (fun key e he => he.members c.name) c.ns
  obtain ⟨-, -, -, -, -, hjoin⟩ := exists_of_ofJson h
  have hlisted : ∀ w, w ∈ (Tokens.ofList (x.entries.flatMap (·.2.fragments))).items ↔
      ListsFragment v namespaces w := fun w =>
    Tokens.mem_items_ofList.trans (mem_fragments_iff h w)
  have hmatch := any_isMatch_iff hjoin (fun w hw a ha => by
    obtain ⟨ns, key, -, hlists⟩ := (hlisted w).1 hw
    exact hwords key w hlists a ha) c.name
  simp only [hlisted] at hmatch
  rw [excludes, Bool.or_eq_true, hmatch, ListsConcept, ← hentry]
  simp

/--
Whether a catalog lifts the expectation of a dimension: on its axis, by the name of its member, or
by a part of that name up to the case of letters. A member without a concept has no name.
-/
def Exempts (v : Json) (namespaces : List String) (d : Dimension) : Prop :=
  ListsDimension v namespaces d ∨
    ∃ c, d.member = .explicit c ∧ (ListsConcept v namespaces "excludedMemberNames" c ∨
      ∃ fragment, ListsFragment v namespaces fragment ∧
        fragment.toList.map Unicode.foldCase <:+: c.name.toList.map Unicode.foldCase)

/-- The answers about signs are those that the catalog gives under the keys of namespaces. -/
theorem ofJson_answers (h : ofJson v namespaces = .ok x)
    (hwords : ∀ key fragment, Lists v "excludedMemberStrings" key fragment →
      ∀ a ∈ fragment.toList, a.isAlphanum) :
    (∀ c, x.expectsNonNegative c ↔ ListsConcept v namespaces "conceptNames" c) ∧
      ∀ ctx, x.liftsExpectation ctx ↔ ∃ d ∈ ctx.dims, Exempts v namespaces d := by
  refine ⟨expectsNonNegative_iff h, fun ctx => ?_⟩
  rw [liftsExpectation, List.any_eq_true]
  refine exists_congr fun d => and_congr_right fun _ => ?_
  rw [liftedBy, Bool.or_eq_true, excludesOn_iff h, Exempts]
  refine or_congr_right ?_
  cases d.member with
  | explicit c => simp [excludes_iff h hwords]
  | typed text => simp

/-! ### A catalog -/

/-- A standard namespace. -/
def usGaap2018 : String := "http://fasb.org/us-gaap/2018"

/-- A catalog with names under two keys. -/
def signCatalog : Json := .obj
  [("conceptNames", .obj [("us-gaap/2019", .arr [.str "Revenues"]),
      ("us-gaap/*", .arr [.str "Assets"])]),
    ("excludedMemberStrings", .obj [("us-gaap/*", .arr [.str "adjust"])]),
    ("excludedAxesMembers", .obj [("us-gaap/*", .obj [("ScenarioAxis", .arr [.str "*"])])])]

/-- The names for all years. -/
def genericEntries : SignEntries := ⟨["Assets"], [], ["adjust"], [("ScenarioAxis", ["*"])]⟩

lemma ofPatternWith?_adjust : Regex.ofPatternWith? Regex.anyCase "adjust" =
    some ⟨"adjust", Regex.wordNode Regex.anyCase "adjust".toList⟩ := by
  have hword : ∀ c ∈ "adjust".toList, c.isAlphanum := List.all_eq_true.1 rfl
  have hreads := @Regex.reads_spell (.initial Regex.anyCase) "adjust".toList rfl
    (fun c hc => Regex.not_mem_metaCharacters (hword c hc)) []
  rw [List.append_nil] at hreads
  exact hreads.ofPatternWith?_eq rfl (by decide) (by decide +kernel)

lemma ofNamespace?_usGaap2018 : Release.ofNamespace? usGaap2018 = some ⟨"us-gaap", "2018"⟩ :=
  Release.ofNamespace?_eq_some_iff.2 (.inl ⟨by decide, by decide, "fasb.org", by decide,
    "", .inl rfl, by decide⟩)

lemma ofJson_signCatalog : ofJson signCatalog [usGaap2018] = .ok ⟨[(usGaap2018, genericEntries)],
    some ⟨"adjust", Regex.wordNode Regex.anyCase "adjust".toList⟩⟩ := by
  have hjoin : joinFragments (.ofList ["adjust"]) =
      .ok (some ⟨"adjust", Regex.wordNode Regex.anyCase "adjust".toList⟩) := by
    have hread : Regex.ofPatternWith? { caseInsensitive := true }
      (String.intercalate "|" (Tokens.ofList ["adjust"]).items) = _ := ofPatternWith?_adjust
    rw [joinFragments, if_neg (by decide)]
    dsimp only
    rw [hread]
  have hsections : ∃ doc s, CatalogError.needMembers "sign warnings" "an object" signCatalog =
      .ok doc ∧ readSections doc = .ok s ∧ entriesFor s usGaap2018 = .ok genericEntries := by
    refine ⟨_, _, rfl, rfl, ?_⟩
    rw [entriesFor, ofNamespace?_usGaap2018]
    rfl
  obtain ⟨doc, s, hdoc, hs, hfor⟩ := hsections
  have hentries : [usGaap2018].mapM (fun ns => return (ns, ← entriesFor s ns)) =
      .ok [(usGaap2018, genericEntries)] := by
    rw [List.mapM_cons, hfor]
    rfl
  exact bind_eq_ok_iff.2 ⟨doc, hdoc, bind_eq_ok_iff.2 ⟨s, hs, bind_eq_ok_iff.2 ⟨_, hentries,
    bind_eq_ok_iff.2 ⟨_, hjoin, rfl⟩⟩⟩⟩

theorem ofJson_answers_generic : ∃ x, ofJson signCatalog [usGaap2018] = .ok x ∧
    (∀ key fragment, Lists signCatalog "excludedMemberStrings" key fragment →
      ∀ a ∈ fragment.toList, a.isAlphanum) ∧
    (∀ c, x.expectsNonNegative c ↔ ListsConcept signCatalog [usGaap2018] "conceptNames" c) ∧
    ∀ ctx, x.liftsExpectation ctx ↔ ∃ d ∈ ctx.dims, Exempts signCatalog [usGaap2018] d := by
  have hwords : ∀ key fragment, Lists signCatalog "excludedMemberStrings" key fragment →
      ∀ a ∈ fragment.toList, a.isAlphanum := by
    rintro key fragment ⟨items, hkey, hmem⟩
    have hunder : under? signCatalog "excludedMemberStrings" key =
      if "us-gaap/*" = key then some (.arr [.str "adjust"]) else none := rfl
    rw [hunder] at hkey
    split_ifs at hkey
    cases hkey
    simp at hmem
    subst hmem
    exact List.all_eq_true.1 rfl
  exact ⟨_, ofJson_signCatalog, hwords, ofJson_answers ofJson_signCatalog hwords⟩

end SignExpectations

end Disclosure
