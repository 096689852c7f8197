import Disclosure.Taxonomy.Compatibility
import Disclosure.Proofs.Taxonomy.Catalog
import Disclosure.Proofs.Token.Selection

/-!
# What a catalog of compatible taxonomies says

A catalog can be read exactly if both tables have the right form and every list of releases can be
expanded by itself; the first list that cannot be expanded decides about the error. A release goes
with those that its list selects (`ofJson_goesWith`). The releases that the catalog names are those
with an entry and the leaves of the lists without the wildcard (`ofJson_named`).

One resolver serves all lists. It replies as a fresh one does, so the entries are read as if each
was the only one (`readEntries_eq`).
-/

namespace Disclosure

namespace Compatibility

variable {v raw : Json} {classes entries : Json.Members} {r : Resolver} {release other : String}
  {c : Compatibility} {s : Selection} {xs : List (String × Selection)}

/-! ### Entries -/

/-- The releases that an entry names, its references expanded anew. -/
def namedAlone (classes : Json.Members) (raw : Json) : Except CatalogError Selection :=
  if raw.isList then
    match unrollValue classes raw with
    | .ok tokens => .ok (.ofTokens tokens)
    | .error e => .error (.group e)
  else .ok .none

lemma readEntry_of_serves (h : r.Serves classes) (raw : Json) :
    ∃ r', r'.Serves classes ∧ readEntry r raw = (namedAlone classes raw).map (·, r') := by
  rw [readEntry, namedAlone]
  split_ifs
  · obtain ⟨hanswer, hserves⟩ := h.resolve raw
    refine ⟨(r.resolve raw).2, hserves, ?_⟩
    rcases hr : r.resolve raw with ⟨answer, r'⟩
    rw [hr] at hanswer
    dsimp only at hanswer
    rw [hanswer]
    cases unrollValue classes raw <;> rfl
  · exact ⟨r, h, rfl⟩

/-- The entries of a table, each read for itself. -/
def namedByEntries (classes entries : Json.Members) :
    Except CatalogError (List (String × Selection)) :=
  entries.mapM fun m => return (m.1, ← namedAlone classes m.2)

lemma readEntries_eq (h : r.Serves classes) (entries : Json.Members) :
    readEntries r entries = namedByEntries classes entries := by
  induction entries generalizing r with
  | nil => rfl
  | cons m ms ih =>
    obtain ⟨r', hserves, hread⟩ := readEntry_of_serves h m.2
    rw [namedByEntries, List.mapM_cons, ← namedByEntries, ← ih hserves, readEntries, hread]
    cases namedAlone classes m.2 <;> rfl

lemma namedAlone_of_not_isList (h : raw.isList = false) : namedAlone classes raw = .ok .none := by
  rw [namedAlone, h]
  rfl

lemma exists_namedAlone_iff :
    (∃ s, namedAlone classes raw = .ok s) ↔ (raw.isList → Resolvable classes raw) := by
  rw [namedAlone, ← exists_unrollValue_iff]
  split_ifs with hlist
  · cases unrollValue classes raw <;> simp [hlist]
  · simp [hlist]

/-- A list names what its leaves select. -/
lemma exists_leaves_of_namedAlone (h : namedAlone classes raw = .ok s) (hlist : raw.isList) :
    ∃ leaves, raw.Unfolds classes leaves ∧ s = .ofTokens (.ofList leaves) := by
  rw [namedAlone, if_pos hlist] at h
  cases hr : unrollValue classes raw with
  | error e =>
    rw [hr] at h
    cases h
  | ok tokens =>
    rw [hr] at h
    cases h
    obtain ⟨leaves, hleaves, rfl⟩ := unfolds_unrollValue hr
    exact ⟨leaves, hleaves, rfl⟩

lemma mem_iff_of_namedByEntries (h : namedByEntries classes entries = .ok xs) :
    (release, s) ∈ xs ↔ ∃ raw, (release, raw) ∈ entries ∧ namedAlone classes raw = .ok s := by
  rw [mem_iff_of_mapM h]
  constructor
  · rintro ⟨⟨release', raw⟩, hmem, hread⟩
    obtain ⟨s', hs, ⟨⟩⟩ := bind_eq_ok_iff.1 hread
    exact ⟨raw, hmem, hs⟩
  · rintro ⟨raw, hmem, hs⟩
    exact ⟨(release, raw), hmem, bind_eq_ok_iff.2 ⟨s, hs, rfl⟩⟩

/-- Of several entries for a release the first one counts. -/
lemma lookup_of_namedByEntries (h : namedByEntries classes entries = .ok xs) :
    xs.lookup release = some s ↔
      ∃ raw, entries.get? release = some raw ∧ namedAlone classes raw = .ok s := by
  rw [namedByEntries, mapM_eq_ok_iff] at h
  induction h with
  | nil => simp
  | @cons m x ms xs hm _ ih =>
    obtain ⟨s', hs, ⟨⟩⟩ := bind_eq_ok_iff.1 hm
    rw [List.lookup_cons, show m = (m.1, m.2) from rfl, Json.Members.get?_cons]
    by_cases hrelease : m.1 = release
    · simp [hrelease, hs]
    · have hne : (release == m.1) = false := by simpa using Ne.symm hrelease
      rw [if_neg hrelease, hne, ih]

/-! ### Tables -/

/-- The tables of a catalog, with no classes if it has none. -/
structure HasTables (v : Json) (classes entries : Json.Members) : Prop where
  classes : v.get? classesKey = none ∧ classes = [] ∨ v.get? classesKey = some (.obj classes)
  entries : v.get? compatibleKey = some (.obj entries)

lemma readClasses_eq_ok_iff : readClasses v = .ok classes ↔
    v.get? classesKey = none ∧ classes = [] ∨ v.get? classesKey = some (.obj classes) := by
  rw [readClasses]
  cases hv : v.get? classesKey with
  | none => simp [eq_comm]
  | some w => simp [CatalogError.needMembers_eq_ok_iff]

lemma HasTables.ofJson_eq (h : HasTables v classes entries) :
    ofJson v = (namedByEntries classes entries).map Compatibility.mk := by
  have hclasses := readClasses_eq_ok_iff.2 h.classes
  have hentries : CatalogError.needMembers compatibleKey "an object" (v.get? compatibleKey) =
      .ok entries := CatalogError.needMembers_eq_ok_iff.2 h.entries
  rw [ofJson, hclasses, hentries, ← readEntries_eq (Resolver.serves_ofTable classes) entries]
  cases hread : readEntries (.ofTable classes) entries <;>
    simp only [bind, Except.bind, hread] <;> rfl

lemma exists_hasTables_of_ofJson (h : ofJson v = .ok c) :
    ∃ classes entries, HasTables v classes entries := by
  obtain ⟨classes, hclasses, h⟩ := bind_eq_ok_iff.1 h
  obtain ⟨entries, hentries, -⟩ := bind_eq_ok_iff.1 h
  exact ⟨classes, entries, readClasses_eq_ok_iff.1 hclasses,
    CatalogError.needMembers_eq_ok_iff.1 hentries⟩

lemma HasTables.ofJson_eq_ok_iff (h : HasTables v classes entries) :
    ofJson v = .ok c ↔ namedByEntries classes entries = .ok c.compatible := by
  rw [h.ofJson_eq]
  cases namedByEntries classes entries with
  | error e => simp [Except.map]
  | ok xs =>
    simp only [Except.map, Except.ok.injEq]
    constructor
    · rintro rfl
      rfl
    · rintro rfl
      rfl

lemma HasTables.exists_ofJson_iff (h : HasTables v classes entries) :
    (∃ c, ofJson v = .ok c) ↔ ∀ m ∈ entries, m.2.isList → Resolvable classes m.2 := by
  have hentry : ∀ m : String × Json,
      (∃ x, (do return (m.1, ← namedAlone classes m.2) : Except CatalogError _) = .ok x) ↔
        (m.2.isList → Resolvable classes m.2) := by
    intro m
    rw [← exists_namedAlone_iff]
    cases namedAlone classes m.2 <;> simp [bind, Except.bind, pure, Except.pure]
  simp only [h.ofJson_eq_ok_iff, ← hentry]
  rw [← exists_mapM_eq_ok_iff]
  constructor
  · rintro ⟨c, hc⟩
    exact ⟨c.compatible, hc⟩
  · rintro ⟨xs, hxs⟩
    exact ⟨⟨xs⟩, hxs⟩

/-! ### Compatible releases -/

/-- A release goes with what the leaves of its own list select. -/
lemma HasTables.goesWith_iff (h : HasTables v classes entries) (hc : ofJson v = .ok c) :
    c.goesWith release other ↔ ∃ items leaves, entries.get? release = some (.arr items) ∧
      (Json.arr items).Unfolds classes leaves ∧ LeavesSelect leaves other := by
  have hread := h.ofJson_eq_ok_iff.1 hc
  rw [goesWith, with?, Option.any_eq_true]
  constructor
  · rintro ⟨s, hs, hselects⟩
    obtain ⟨raw, hraw, hnamed⟩ := (lookup_of_namedByEntries hread).1 hs
    cases hlist : raw.isList with
    | false =>
      rw [namedAlone_of_not_isList hlist] at hnamed
      cases hnamed
      cases hselects
    | true =>
      obtain ⟨leaves, hleaves, rfl⟩ := exists_leaves_of_namedAlone hnamed hlist
      cases raw with
      | arr items => exact ⟨items, leaves, hraw, hleaves, Selection.selects_ofTokens.1 hselects⟩
      | _ => cases hlist
  · rintro ⟨items, leaves, hraw, hleaves, hselects⟩
    obtain ⟨s, hs⟩ := exists_namedAlone_iff.2 fun _ => hleaves.resolvable
    obtain ⟨leaves', hleaves', rfl⟩ := exists_leaves_of_namedAlone hs rfl
    obtain rfl := hleaves.unique hleaves'
    exact ⟨_, (lookup_of_namedByEntries hread).2 ⟨_, hraw, hs⟩,
      Selection.selects_ofTokens.2 hselects⟩

/-- The first list that cannot be expanded is answered with the error of a fresh resolver. -/
lemma HasTables.ofJson_eq_error (h : HasTables v classes entries) {before after : Json.Members}
    (hentries : entries = before ++ (release, raw) :: after)
    (hbefore : ∀ m ∈ before, m.2.isList → Resolvable classes m.2) (hlist : raw.isList)
    (hraw : ¬Resolvable classes raw) :
    ∃ e, ((Resolver.ofTable classes).resolve raw).1 = .error e ∧ ofJson v = .error (.group e) := by
  have hfresh := ((Resolver.serves_ofTable classes).resolve raw).1
  cases hunroll : unrollValue classes raw with
  | ok tokens => exact absurd (exists_unrollValue_iff.1 ⟨tokens, hunroll⟩) hraw
  | error e =>
    rw [hunroll] at hfresh
    refine ⟨e, hfresh, ?_⟩
    have hfails : namedAlone classes raw = .error (.group e) := by
      rw [namedAlone, if_pos hlist, hunroll]
    have herror : namedByEntries classes entries = .error (.group e) := by
      rw [hentries]
      refine mapM_eq_error (fun m hm => ?_) ?_
      · obtain ⟨s, hs⟩ := exists_namedAlone_iff.2 (hbefore m hm)
        exact ⟨(m.1, s), bind_eq_ok_iff.2 ⟨s, hs, rfl⟩⟩
      · simp only [hfails]
        rfl
    rw [h.ofJson_eq, herror]
    rfl

/--
A catalog can be read exactly if it has both tables and every list of releases can be expanded by
itself. Of the lists that cannot be expanded the first one decides about the error. In a catalog
that was read, a release goes with another exactly if it has a list whose leaves select the other.
-/
theorem ofJson_goesWith (v : Json) :
    ((∃ c, ofJson v = .ok c) ↔ ∃ classes entries, HasTables v classes entries ∧
        ∀ m ∈ entries, m.2.isList → Resolvable classes m.2) ∧
      ∀ classes entries, HasTables v classes entries →
        (∀ before release raw after, entries = before ++ (release, raw) :: after →
          (∀ m ∈ before, m.2.isList → Resolvable classes m.2) → raw.isList →
            ¬Resolvable classes raw → ∃ e,
              ((Resolver.ofTable classes).resolve raw).1 = .error e ∧
                ofJson v = .error (.group e)) ∧
        ∀ c, ofJson v = .ok c → ∀ release other, c.goesWith release other ↔
          ∃ items leaves, entries.get? release = some (.arr items) ∧
            (Json.arr items).Unfolds classes leaves ∧
              (other ∈ leaves ∨ wildcard ∈ leaves ∨ allToken ∈ leaves) := by
  refine ⟨?_, fun classes entries h => ⟨?_, fun c hc release other => h.goesWith_iff hc⟩⟩
  · constructor
    · rintro ⟨c, hc⟩
      obtain ⟨classes, entries, h⟩ := exists_hasTables_of_ofJson hc
      exact ⟨classes, entries, h, h.exists_ofJson_iff.1 ⟨c, hc⟩⟩
    · rintro ⟨classes, entries, h, hlists⟩
      exact h.exists_ofJson_iff.2 hlists
  · intro before release raw after hentries hbefore hlist hraw
    exact h.ofJson_eq_error hentries hbefore hlist hraw

/-- A class of releases. -/
def releaseClasses : Json.Members := [("sec-2024", .arr [.str "dei/2024", .str "ecd/2024"])]

/-- A catalog with this class and some entries. -/
def releaseCatalog (entries : Json.Members) : Json :=
  .obj [(classesKey, .obj releaseClasses), (compatibleKey, .obj entries)]

/-- An entry that refers to the class, and one that refers to a class that is not declared. -/
def releaseEntries : Json.Members :=
  [("us-gaap/2024", .arr [.str "@sec-2024", .str "srt/2024"]), ("legacy/2019", .str "*")]

lemma hasTables_releaseCatalog (entries : Json.Members) :
    HasTables (releaseCatalog entries) releaseClasses entries :=
  ⟨.inr rfl, rfl⟩

lemma unfolds_releaseList :
    (Json.arr [.str "@sec-2024", .str "srt/2024"]).Unfolds releaseClasses
      ["dei/2024", "ecd/2024", "srt/2024"] := by
  have hgroup : Unfolds releaseClasses ["dei/2024", "ecd/2024"] ["dei/2024", "ecd/2024"] :=
    .leaf rfl (.leaf rfl .nil)
  exact ⟨_, rfl, .group rfl rfl hgroup (.leaf rfl .nil)⟩

lemma resolvable_releaseEntries :
    ∀ m ∈ releaseEntries, m.2.isList → Resolvable releaseClasses m.2 := by
  rw [releaseEntries, List.forall_mem_cons, List.forall_mem_singleton]
  exact ⟨fun _ => unfolds_releaseList.resolvable, nofun⟩

theorem ofJson_goesWith_releases :
    (∃ c, ofJson (releaseCatalog releaseEntries) = .ok c ∧
        c.goesWith "us-gaap/2024" "dei/2024" ∧ ¬c.goesWith "us-gaap/2024" "country/2024" ∧
          ¬c.goesWith "legacy/2019" "dei/2024") ∧
      ofJson (releaseCatalog (releaseEntries ++ [("ifrs/2024", .arr [.str "@gone"])])) =
        .error (.group (.unknown "gone")) := by
  constructor
  · obtain ⟨hread, hanswers⟩ := ofJson_goesWith (releaseCatalog releaseEntries)
    have htables := hasTables_releaseCatalog releaseEntries
    obtain ⟨c, hc⟩ := hread.2 ⟨_, _, htables, resolvable_releaseEntries⟩
    have hgoes := (hanswers _ _ htables).2 c hc
    refine ⟨c, hc, ?_, ?_, ?_⟩
    · exact (hgoes _ _).2 ⟨_, _, rfl, unfolds_releaseList, by simp⟩
    · rw [hgoes]
      rintro ⟨items, leaves, ⟨⟩, hleaves, hselects⟩
      obtain rfl := hleaves.unique unfolds_releaseList
      revert hselects
      decide
    · rw [hgoes]
      rintro ⟨items, leaves, ⟨⟩, -⟩
  · have hgone : ¬Resolvable releaseClasses (.arr [.str "@gone"]) := by
      intro h
      obtain ⟨v, hv, -⟩ := h.declared "gone" ⟨"gone", List.mem_singleton_self _, .refl⟩
      cases hv
    obtain ⟨e, he, herror⟩ := ((ofJson_goesWith _).2 _ _ (hasTables_releaseCatalog _)).1
      releaseEntries "ifrs/2024" (.arr [.str "@gone"]) [] rfl resolvable_releaseEntries rfl hgone
    have hfresh : ((Resolver.ofTable releaseClasses).resolve (.arr [.str "@gone"])).1 =
      .error (.unknown "gone") := by cbv
    rw [hfresh] at he
    cases he
    exact herror

/-! ### Named releases -/

lemma mem_namedBy {e : String × Selection} : release ∈ namedBy e ↔
    release = e.1 ∨ ∃ tokens, e.2.listed? = some tokens ∧ release ∈ tokens.items := by
  rw [namedBy, List.mem_cons]
  cases e.2.listed? <;> simp

lemma mem_named_iff : release ∈ c.named ↔ ∃ e ∈ c.compatible, release ∈ namedBy e := by
  simp [named, List.mem_eraseDups]

lemma isNamed_iff_mem_named : c.isNamed release ↔ release ∈ c.named := by
  simp [isNamed, mem_named_iff]

/-- The leaves of a list with the wildcard are not named. -/
lemma HasTables.mem_named_iff (h : HasTables v classes entries) (hc : ofJson v = .ok c) :
    release ∈ c.named ↔ ∃ m ∈ entries, release = m.1 ∨
      m.2.isList ∧ ∃ leaves, m.2.Unfolds classes leaves ∧ wildcard ∉ leaves ∧ release ∈ leaves := by
  have hread := h.ofJson_eq_ok_iff.1 hc
  have hentry : ∀ m : String × Json, ∀ s, namedAlone classes m.2 = .ok s →
      (release ∈ namedBy (m.1, s) ↔ release = m.1 ∨ m.2.isList ∧
        ∃ leaves, m.2.Unfolds classes leaves ∧ wildcard ∉ leaves ∧ release ∈ leaves) := by
    intro m s hs
    rw [mem_namedBy]
    cases hlist : m.2.isList with
    | false =>
      rw [namedAlone_of_not_isList hlist] at hs
      cases hs
      simp [Selection.none, Selection.listed?]
    | true =>
      obtain ⟨leaves, hleaves, rfl⟩ := exists_leaves_of_namedAlone hs hlist
      rw [Selection.mem_listed?_ofTokens]
      simp only [true_and]
      refine or_congr_right ⟨fun hmem => ⟨leaves, hleaves, hmem⟩, ?_⟩
      rintro ⟨leaves', hleaves', hmem⟩
      obtain rfl := hleaves.unique hleaves'
      exact hmem
  rw [Compatibility.mem_named_iff]
  constructor
  · rintro ⟨⟨key, s⟩, hmem, hnamed⟩
    obtain ⟨raw, hraw, hs⟩ := (mem_iff_of_namedByEntries hread).1 hmem
    exact ⟨(key, raw), hraw, (hentry (key, raw) s hs).1 hnamed⟩
  · rintro ⟨m, hm, hnames⟩
    obtain ⟨s, hs⟩ := exists_namedAlone_iff.2 (h.exists_ofJson_iff.1 ⟨c, hc⟩ m hm)
    exact ⟨(m.1, s), (mem_iff_of_namedByEntries hread).2 ⟨m.2, hm, hs⟩, (hentry m s hs).2 hnames⟩

/--
Whether a catalog mentions a release anywhere among its entries: by an entry of its own, or as a
leaf of a list. The wildcard is no release.
-/
def Mentions (classes entries : Json.Members) (release : String) : Prop :=
  ∃ m ∈ entries, release = m.1 ∨
    m.2.isList ∧ ∃ leaves, m.2.Unfolds classes leaves ∧ release ∈ leaves ∧ release ≠ wildcard

/--
A catalog that was read names the releases with an entry and the leaves of the lists without the
wildcard. These are all that it mentions exactly if the other leaves of every list with the wildcard
are named elsewhere.
-/
theorem ofJson_named (hc : ofJson v = .ok c) : ∃ classes entries, HasTables v classes entries ∧
    (∀ release, (release ∈ c.named ↔ ∃ m ∈ entries, release = m.1 ∨
        m.2.isList ∧ ∃ leaves, m.2.Unfolds classes leaves ∧ wildcard ∉ leaves ∧ release ∈ leaves) ∧
      (c.isNamed release ↔ release ∈ c.named)) ∧
    ((∀ release, release ∈ c.named ↔ Mentions classes entries release) ↔
      ∀ m ∈ entries, m.2.isList → ∀ leaves, m.2.Unfolds classes leaves → wildcard ∈ leaves →
        ∀ release ∈ leaves, release ≠ wildcard → release ∈ c.named) := by
  obtain ⟨classes, entries, h⟩ := exists_hasTables_of_ofJson hc
  refine ⟨classes, entries, h, fun release => ⟨h.mem_named_iff hc, isNamed_iff_mem_named⟩, ?_⟩
  constructor
  · intro hall m hm hlist leaves hleaves _ release hrelease hne
    exact (hall release).2 ⟨m, hm, .inr ⟨hlist, leaves, hleaves, hrelease, hne⟩⟩
  · intro hcovered release
    constructor
    · intro hnamed
      obtain ⟨m, hm, heq | ⟨hlist, leaves, hleaves, hwild, hrelease⟩⟩ :=
        (h.mem_named_iff hc).1 hnamed
      · exact ⟨m, hm, .inl heq⟩
      · exact ⟨m, hm, .inr ⟨hlist, leaves, hleaves, hrelease, ne_of_mem_of_not_mem hrelease hwild⟩⟩
    · rintro ⟨m, hm, heq | ⟨hlist, leaves, hleaves, hrelease, hne⟩⟩
      · exact (h.mem_named_iff hc).2 ⟨m, hm, .inl heq⟩
      · by_cases hwild : wildcard ∈ leaves
        · exact hcovered m hm hlist leaves hleaves hwild release hrelease hne
        · exact (h.mem_named_iff hc).2 ⟨m, hm, .inr ⟨hlist, leaves, hleaves, hwild, hrelease⟩⟩

/-- A catalog with one entry, whose list holds the wildcard beside a release. -/
def openCatalog : Json :=
  .obj [(compatibleKey, .obj [("us-gaap/2024", .arr [.str "*", .str "dei/2024"])])]

lemma ofJson_openCatalog : ofJson openCatalog = .ok ⟨[("us-gaap/2024", .all)]⟩ := by cbv

/-- A release that a list has beside the wildcard is mentioned and not named. -/
theorem wildcard_hides_releases :
    ¬∀ (v : Json) (c : Compatibility) (classes entries : Json.Members), ofJson v = .ok c →
      HasTables v classes entries →
        ∀ release, release ∈ c.named ↔ Mentions classes entries release := by
  intro h
  have hall := h openCatalog _ [] _ ofJson_openCatalog ⟨.inl ⟨rfl, rfl⟩, rfl⟩ "dei/2024"
  have hleaves : (Json.arr [.str "*", .str "dei/2024"]).Unfolds [] ["*", "dei/2024"] :=
    ⟨_, rfl, .leaf rfl (.leaf rfl .nil)⟩
  have hnamed := hall.2 ⟨_, List.mem_singleton_self _, .inr ⟨rfl, _, hleaves, by simp, by decide⟩⟩
  simp [mem_named_iff, mem_namedBy, Selection.listed?] at hnamed

lemma ofJson_releaseCatalog : ofJson (releaseCatalog releaseEntries) =
    .ok ⟨[("us-gaap/2024", .listed (.ofList ["dei/2024", "ecd/2024", "srt/2024"])),
      ("legacy/2019", .none)]⟩ := by cbv

theorem ofJson_named_releases : ∃ c, ofJson (releaseCatalog releaseEntries) = .ok c ∧
    ∀ release, release ∈ c.named ↔ Mentions releaseClasses releaseEntries release := by
  obtain ⟨classes, entries, ⟨hclasses, hentries⟩, -, hall⟩ := ofJson_named ofJson_releaseCatalog
  obtain ⟨⟨⟩, -⟩ | ⟨⟨⟩⟩ := hclasses
  cases hentries
  refine ⟨_, ofJson_releaseCatalog, hall.2 ?_⟩
  rw [releaseEntries, List.forall_mem_cons, List.forall_mem_singleton]
  refine ⟨fun _ leaves hleaves hwild => ?_, nofun⟩
  obtain rfl := hleaves.unique unfolds_releaseList
  exact absurd hwild (by decide)

end Compatibility

end Disclosure
