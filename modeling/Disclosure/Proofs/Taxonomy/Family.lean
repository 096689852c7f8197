import Disclosure.Proofs.Grouping
import Disclosure.Proofs.Taxonomy.Version

/-!
# The latest release of a family

Versions are totally ordered, and different versions are never equal in that order. So among the
releases that qualify there is one that no other exceeds, and the search for the latest release
finds the first of these (`latestRelease?_newest`). Where the versions differ there is just one, and
the order of the list does not matter.
-/

namespace Disclosure

namespace FamilyRegistry

variable {rs : List FamilyRelease} {r s h : FamilyRelease} {name : String}

/-! ### The first of the greatest -/

/-- Whether no release of a list has a later version. -/
def Unexceeded (rs : List FamilyRelease) (r : FamilyRelease) : Prop :=
  ∀ s ∈ rs, versionOrder s.version r.version ≠ .gt

instance (rs : List FamilyRelease) : DecidablePred (Unexceeded rs) :=
  fun r => inferInstanceAs (Decidable (∀ s ∈ rs, versionOrder s.version r.version ≠ .gt))

lemma unexceeded_concat :
    Unexceeded (rs ++ [s]) r ↔ Unexceeded rs r ∧ versionOrder s.version r.version ≠ .gt := by
  simp [Unexceeded, or_imp, forall_and]

/-- What exceeds an unexceeded release exceeds all of the list. -/
lemma Unexceeded.gt_of_gt (hh : Unexceeded rs h) (hs : versionOrder s.version h.version = .gt)
    (hr : r ∈ rs) : versionOrder s.version r.version = .gt := by
  have hge : (versionOrder h.version r.version).isGE := by
    rw [Std.OrientedCmp.isGE_iff_isLE, ← Ordering.ne_gt_iff_isLE]
    exact hh r hr
  exact Std.TransCmp.gt_of_gt_of_isGE hs hge

/-- What exceeds all of a list is unexceeded behind it. -/
lemma unexceeded_of_gt (h : ∀ r ∈ rs, versionOrder s.version r.version = .gt) :
    Unexceeded (rs ++ [s]) s := by
  refine unexceeded_concat.2 ⟨fun r hr => ?_, versionOrder_self_ne_gt s.version⟩
  have hswap : versionOrder r.version s.version = (versionOrder s.version r.version).swap :=
    Std.OrientedCmp.eq_swap
  rw [hswap, h r hr]
  decide

lemma foldl_later_eq_none_iff : rs.foldl later none = none ↔ rs = [] := by
  cases rs using List.reverseRecOn with
  | nil => simp
  | append_singleton rs s =>
    rw [List.foldl_append, List.foldl_cons, List.foldl_nil]
    cases rs.foldl later none with
    | none => simp [later]
    | some h =>
      rw [later]
      split_ifs <;> simp

/-- Going through a list finds the first of its unexceeded releases. -/
lemma foldl_later (rs : List FamilyRelease) :
    rs.foldl later none = rs.find? (Unexceeded rs ·) := by
  induction rs using List.reverseRecOn with
  | nil => rfl
  | append_singleton rs s ih =>
    rw [List.foldl_append, List.foldl_cons, List.foldl_nil, eq_comm]
    cases hheld : rs.foldl later none with
    | none =>
      obtain rfl := foldl_later_eq_none_iff.1 hheld
      simp [later, Unexceeded, versionOrder_self_ne_gt]
    | some h =>
      rw [hheld, eq_comm, List.find?_eq_some_iff_append] at ih
      obtain ⟨hunexceeded, before, after, hsplit, hbefore⟩ := ih
      simp only [decide_eq_true_eq, Bool.not_eq_true', decide_eq_false_iff_not]
        at hunexceeded hbefore
      rw [later]
      split_ifs with hgt <;> simp only [List.find?_eq_some_iff_append, decide_eq_true_eq,
        Bool.not_eq_true', decide_eq_false_iff_not]
      · -- the release at the end exceeds the one held, and with it all in front
        have hall : ∀ r ∈ rs, versionOrder s.version r.version = .gt :=
          fun r hr => hunexceeded.gt_of_gt hgt hr
        refine ⟨unexceeded_of_gt hall, rs, [], rfl, fun r hr hr' => ?_⟩
        exact (unexceeded_concat.1 hr').2 (hall r hr)
      · refine ⟨unexceeded_concat.2 ⟨hunexceeded, hgt⟩, before, after ++ [s], ?_,
          fun r hr hr' => hbefore r hr (unexceeded_concat.1 hr').1⟩
        rw [hsplit, List.append_assoc, List.cons_append]

/-- Of releases with different versions no two are unexceeded. -/
lemma Unexceeded.eq (hr : Unexceeded rs r) (hs : Unexceeded rs s) (hmem : r ∈ rs) (hmem' : s ∈ rs)
    (hversions : (rs.map (·.version)).Nodup) : r = s := by
  have hle : (versionOrder r.version s.version).isLE := Ordering.ne_gt_iff_isLE.1 (hs r hmem)
  have hge : (versionOrder s.version r.version).isLE := Ordering.ne_gt_iff_isLE.1 (hr s hmem')
  have heq : versionOrder r.version s.version = .eq := Std.OrientedCmp.isLE_antisymm hle hge
  exact List.inj_on_of_nodup_map hversions hmem hmem' (Std.LawfulEqCmp.eq_of_compare heq)

/-- Where the versions differ, the place in the list does not matter. -/
lemma foldl_later_eq_some_iff (hversions : (rs.map (·.version)).Nodup) :
    rs.foldl later none = some r ↔ r ∈ rs ∧ Unexceeded rs r := by
  have hfound : ∀ {s}, rs.foldl later none = some s → s ∈ rs ∧ Unexceeded rs s := by
    intro s hs
    rw [foldl_later] at hs
    exact ⟨List.mem_of_find?_eq_some hs, by simpa using List.find?_some hs⟩
  refine ⟨hfound, ?_⟩
  rintro ⟨hmem, hr⟩
  have hne : rs.foldl later none ≠ none :=
    mt foldl_later_eq_none_iff.1 (List.ne_nil_of_mem hmem)
  obtain ⟨s, hs⟩ := Option.ne_none_iff_exists'.1 hne
  obtain ⟨hmem', hs'⟩ := hfound hs
  rw [hs, hr.eq hs' hmem hmem' hversions]

/-! ### Registries -/

/-- Whether the namespace of a release has the name of a family, in lower case. -/
def Qualifies (name : String) (r : FamilyRelease) : Prop :=
  r.namespaceFamily? = some (Unicode.lowercase name)

instance (name : String) : DecidablePred (Qualifies name) :=
  fun r => inferInstanceAs (Decidable (r.namespaceFamily? = some (Unicode.lowercase name)))

variable {g g' : FamilyRegistry}

/-- The releases under a name that qualify, in order. -/
def qualified (g : FamilyRegistry) (name : String) : List FamilyRelease :=
  (g.releases name).filter (Qualifies name ·)

/-- Whether a release qualifies, and no other one that does has a later version. -/
structure IsNewest (g : FamilyRegistry) (name : String) (r : FamilyRelease) : Prop where
  qualifies : Qualifies name r
  not_exceeded : ∀ s ∈ g.releases name, Qualifies name s → versionOrder s.version r.version ≠ .gt

lemma isNewest_iff :
    g.IsNewest name r ↔ Qualifies name r ∧ Unexceeded (g.qualified name) r := by
  have hall : Unexceeded (g.qualified name) r ↔
      ∀ s ∈ g.releases name, Qualifies name s → versionOrder s.version r.version ≠ .gt := by
    simp [Unexceeded, qualified]
  rw [hall]
  exact ⟨fun h => ⟨h.qualifies, h.not_exceeded⟩, fun h => ⟨h.1, h.2⟩⟩

instance (g : FamilyRegistry) (name : String) : DecidablePred (g.IsNewest name) :=
  fun _ => decidable_of_iff _ isNewest_iff.symm

lemma latest?_eq (g : FamilyRegistry) (name : String) :
    g.latest? name = (g.qualified name).foldl later none := by
  have hfilter : (g.releases name).filter (·.namespaceFamily? == some (Unicode.lowercase name)) =
      g.qualified name := by
    refine List.filter_congr fun r _ => ?_
    rw [beq_eq_decide]
    rfl
  rw [latest?, hfilter]

lemma latest?_eq_some_iff : g.latest? name = some r ↔
    ∃ before after, g.releases name = before ++ r :: after ∧ g.IsNewest name r ∧
      ∀ s ∈ before, ¬g.IsNewest name s := by
  rw [latest?_eq, foldl_later, qualified, List.find?_filter, ← qualified,
    List.find?_eq_some_iff_append]
  simp only [isNewest_iff, decide_eq_true_eq, Bool.not_eq_true', decide_eq_false_iff_not]
  constructor
  · rintro ⟨hnewest, before, after, hsplit, hbefore⟩
    exact ⟨before, after, hsplit, hnewest, hbefore⟩
  · rintro ⟨before, after, hsplit, hnewest, hbefore⟩
    exact ⟨hnewest, before, after, hsplit, hbefore⟩

/-- The order of the list does not matter if the versions differ. -/
lemma latest?_eq_of_perm (hperm : (g'.qualified name).Perm (g.qualified name))
    (hversions : ((g.qualified name).map (·.version)).Nodup) :
    g'.latest? name = g.latest? name := by
  have hversions' : ((g'.qualified name).map (·.version)).Nodup :=
    (hperm.map _).nodup_iff.2 hversions
  refine Option.ext fun r => ?_
  simp only [latest?_eq, foldl_later_eq_some_iff hversions, foldl_later_eq_some_iff hversions',
    Unexceeded, hperm.mem_iff]

/-! ### Adding releases -/

/-- The releases of a registry by the names they are listed under. -/
def byName : Grouping (String × FamilyRelease) (String × List FamilyRelease) String where
  cls := Prod.fst
  key := Prod.fst
  new e := (e.1, [e.2])
  change e b := (b.1, b.2 ++ [e.2])
  key_new _ := rfl
  key_change _ _ := rfl

lemma addTo_eq (n : String) (r : FamilyRelease) (families : List (String × List FamilyRelease)) :
    addTo n r families = byName.add (n, r) families := by
  induction families with
  | nil => rfl
  | cons b families ih =>
    obtain ⟨k, rs⟩ := b
    rw [addTo, ih]
    rfl

/-- A release is added behind those under its name, and the others are left as they are. -/
lemma releases_add (g : FamilyRegistry) (n name : String) (r : FamilyRelease) :
    (g.add n r).releases name = g.releases name ++ if n = name then [r] else [] := by
  have hfind : (byName.add (n, r) g.families).find? (·.1 = name) =
      if n = name then
        some ((g.families.find? (·.1 = name)).elim (n, [r]) fun b => (b.1, b.2 ++ [r]))
      else g.families.find? (·.1 = name) :=
    byName.find?_add (n, r) g.families name
  rw [releases, add, addTo_eq, Grouping.lookup_eq_find?, hfind, releases, Grouping.lookup_eq_find?]
  by_cases hn : n = name
  · cases g.families.find? (·.1 = name) <;> simp [hn]
  · simp [hn]

lemma qualified_add_of_not (h : n ≠ name ∨ ¬Qualifies name r) :
    (g.add n r).qualified name = g.qualified name := by
  rw [qualified, releases_add, List.filter_append, qualified, List.append_right_eq_self]
  split_ifs with hn
  · simpa using h.resolve_left (not_not.2 hn)
  · rfl

end FamilyRegistry

open FamilyRegistry

/--
There is no latest release just if none under the name qualifies. Otherwise it is the first of the
qualifying releases that no other qualifying one exceeds. Neither releases that do not qualify nor
those under other names have any influence, and where the versions differ the order has none.
-/
theorem latestRelease?_newest (name : String) (g : FamilyRegistry) :
    (latestRelease? name (some g) = none ↔ ∀ r ∈ g.releases name, ¬Qualifies name r) ∧
      (∀ r, latestRelease? name (some g) = some r ↔
        ∃ before after, g.releases name = before ++ r :: after ∧ g.IsNewest name r ∧
          ∀ s ∈ before, ¬g.IsNewest name s) ∧
      (∀ n r, n ≠ name ∨ ¬Qualifies name r →
        latestRelease? name (some (g.add n r)) = latestRelease? name (some g)) ∧
      (∀ g' : FamilyRegistry, g'.qualified name = g.qualified name →
        latestRelease? name (some g') = latestRelease? name (some g)) ∧
      ∀ g' : FamilyRegistry, (g'.qualified name).Perm (g.qualified name) →
        ((g.qualified name).map (·.version)).Nodup →
          latestRelease? name (some g') = latestRelease? name (some g) := by
  have hcongr : ∀ g' : FamilyRegistry, g'.qualified name = g.qualified name →
      latestRelease? name (some g') = latestRelease? name (some g) := by
    intro g' h
    rw [latestRelease?, latestRelease?, latest?_eq, latest?_eq, h]
  refine ⟨?_, fun r => latest?_eq_some_iff, ?_, hcongr, fun g' => latest?_eq_of_perm⟩
  · rw [latestRelease?, latest?_eq, foldl_later_eq_none_iff, qualified, List.filter_eq_nil_iff]
    simp only [decide_eq_true_eq]
  · intro n r h
    exact hcongr _ (qualified_add_of_not h)

/-- A release of a family of the regulator. -/
def sampleRelease (family version : String) : FamilyRelease :=
  ⟨family, "http://xbrl.sec.gov/" ++ family ++ "/" ++ version, family ++ ".xsd", version⟩

/-- Releases under one name, of which one is of another family. -/
def sampleReleases : List FamilyRelease :=
  [sampleRelease "dei" "9", sampleRelease "srt" "2024", sampleRelease "dei" "10",
    sampleRelease "dei" "2-11"]

/-- The tenth release is the latest, in whichever order the releases are listed. -/
theorem latestRelease?_newest_reversed :
    latestRelease? "DEI" (some ⟨[("DEI", sampleReleases)]⟩) = some (sampleRelease "dei" "10") ∧
      latestRelease? "DEI" (some ⟨[("DEI", sampleReleases.reverse)]⟩) =
        some (sampleRelease "dei" "10") := by
  obtain ⟨-, hsome, -, -, hperm⟩ := latestRelease?_newest "DEI" ⟨[("DEI", sampleReleases)]⟩
  have hlatest : latestRelease? "DEI" (some ⟨[("DEI", sampleReleases)]⟩) =
      some (sampleRelease "dei" "10") := by
    refine (hsome _).2 ⟨sampleReleases.take 2, sampleReleases.drop 3, ?_, ?_, ?_⟩
    all_goals decide +kernel
  refine ⟨hlatest, (hperm _ ?_ (by decide +kernel)).trans hlatest⟩
  exact (List.reverse_perm sampleReleases).filter _

end Disclosure
