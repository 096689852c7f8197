import Disclosure.Proofs.Json.Keys
import Disclosure.Proofs.Taxonomy.Namespace

/-!
# Dates of deprecated concepts

The dates of deprecated concepts are loaded namespace by namespace, and each file is opened once,
for all releases of a family. What comes of it is the same as if each concept were looked up in the
file of its own family (`dateIn?`): loading keeps to that from namespace to namespace
(`Loading.Agrees`). So neither the order of the namespaces nor other files, nor other entries of the
file, have any effect on the date of a concept (`load_exact`).
-/

namespace Disclosure

namespace Deprecations

open Json (Members)

variable {files files' : FileStore} {directory ns name path : String} {c c' : Concept} {d : Date}
  {ds : Deprecations} {ms : Members} {r : Release} {l : Loading} {seen namespaces : List String}

/-! ### Entries of a file -/

/-- The date that a value is, if it is one. -/
def date? (v : Json) : Option Date :=
  v.string?.bind Date.ofText?

lemma date?_eq_some_iff {v : Json} :
    date? v = some d ↔ ∃ t, v = .str t ∧ Date.ofText? t = some d := by
  rw [date?, Option.bind_eq_some_iff]
  constructor
  · rintro ⟨t, ht, hdate⟩
    cases v with
    | str s =>
      cases ht
      exact ⟨t, rfl, hdate⟩
    | _ => cases ht
  · rintro ⟨t, rfl, hdate⟩
    exact ⟨t, rfl, hdate⟩

lemma lookup_cons {κ β : Type} [DecidableEq κ] (k k' : κ) (x : β) (xs : List (κ × β)) :
    ((k, x) :: xs).lookup k' = if k' = k then some x else xs.lookup k' := by
  rw [List.lookup_cons]
  by_cases hk : k' = k
  · simp [hk]
  · simp [hk, beq_eq_false_iff_ne.2 hk]

lemma lookup_putDate (dates : List (Concept × Date)) :
    (putDate c d dates).lookup c' = if c' = c then some d else dates.lookup c' := by
  induction dates with
  | nil => exact lookup_cons c c' d []
  | cons e dates ih =>
    obtain ⟨c'', d''⟩ := e
    by_cases hput : c'' = c
    · rw [putDate, if_pos hput, lookup_cons, lookup_cons, hput]
      split_ifs <;> rfl
    · rw [putDate, if_neg hput, lookup_cons, lookup_cons, ih]
      split_ifs with hc hc'
      · exact absurd (hc.symm.trans hc') hput
      · rfl
      · rfl
      · rfl

lemma get?_insert : (ds.insert c d).get? c' = if c' = c then some d else ds.get? c' :=
  lookup_putDate ds.dates

/-- The date of an entry is set, if it has one. -/
lemma get?_addMember (m : String × Json) :
    (addMember ns ds m).get? c = (if c = ⟨ns, m.1⟩ then date? m.2 else none).or (ds.get? c) := by
  rw [addMember, ← date?]
  cases date? m.2 with
  | none => simp
  | some d =>
    rw [get?_insert]
    split_ifs with hc
    · rfl
    · rfl

/-- All entries of a file are set for a namespace. No key is in the file twice. -/
lemma get?_foldl_addMember (hkeys : ms.keys.Nodup) :
    (ms.foldl (addMember ns) ds).get? c =
      (if c.ns = ns then (Members.get? c.name ms).bind date? else none).or (ds.get? c) := by
  induction ms generalizing ds with
  | nil => simp
  | cons m ms ih =>
    obtain ⟨k, v⟩ := m
    obtain ⟨hk, hkeys⟩ := List.nodup_cons.1 hkeys
    rw [List.foldl_cons, ih hkeys, get?_addMember, ← Option.or_assoc]
    congr 1
    obtain ⟨ns', name⟩ := c
    by_cases hns : ns' = ns
    · subst hns
      by_cases hname : name = k
      · have hnone : Members.get? k ms = none := Members.get?_eq_none_iff.2 hk
        simp [Members.get?_cons, hname, hnone]
      · simp [Members.get?_cons, hname, Ne.symm hname]
    · simp [hns]

/-! ### One concept on its own -/

lemma object?_eq_some_iff :
    object? files path = some ms ↔
      ∃ content, files.read path = .ok content ∧ Json.ofText content = .ok (.obj ms) := by
  rw [object?, FileStore.loadValue]
  cases files.read path with
  | error e => cases e <;> simp
  | ok content =>
    cases hvalue : Json.ofText content with
    | error e => simp [hvalue]
    | ok v => cases v <;> simp [hvalue]

/-- No key is in a file twice. -/
lemma nodup_keys_of_object? (h : object? files path = some ms) : ms.keys.Nodup := by
  obtain ⟨content, -, hvalue⟩ := object?_eq_some_iff.1 h
  exact Json.nodup_keys_of_ofText hvalue

/-- The path of the file for a release. -/
def pathOf (directory : String) (r : Release) : String :=
  joinPath directory (r.family ++ "-deprecated-concepts.json")

/-- The date of a concept in the file of its family. -/
def dateIn? (files : FileStore) (directory : String) (c : Concept) : Option Date := do
  let r ← Release.ofNamespace? c.ns
  let ms ← object? files (pathOf directory r)
  date? (← Members.get? c.name ms)

lemma dateIn?_eq_some_iff :
    dateIn? files directory ⟨ns, name⟩ = some d ↔ ∃ r, Release.ofNamespace? ns = some r ∧
      ∃ content ms t, files.read (pathOf directory r) = .ok content ∧
        Json.ofText content = .ok (.obj ms) ∧ Members.get? name ms = some (.str t) ∧
        Date.ofText? t = some d := by
  simp only [dateIn?, Option.bind_eq_bind, Option.bind_eq_some_iff, object?_eq_some_iff,
    date?_eq_some_iff]
  constructor
  · rintro ⟨r, hr, ms, ⟨content, hread, hvalue⟩, _, hentry, t, rfl, hdate⟩
    exact ⟨r, hr, content, ms, t, hread, hvalue, hentry, hdate⟩
  · rintro ⟨r, hr, content, ms, t, hread, hvalue, hentry, hdate⟩
    exact ⟨r, hr, ms, ⟨content, hread, hvalue⟩, _, hentry, t, rfl, hdate⟩

/-! ### Loading -/

namespace Loading

/-- What is known agrees with the files, and the dates are those for the namespaces seen so far. -/
structure Agrees (files : FileStore) (directory : String) (seen : List String) (l : Loading) :
    Prop where
  opened : ∀ path found, l.opened.lookup path = some found → found = object? files path
  dates : ∀ c, l.dates.get? c = if c.ns ∈ seen then dateIn? files directory c else none

lemma agrees_start (files : FileStore) (directory : String) : Agrees files directory [] start where
  opened := nofun
  dates := fun _ => rfl

/-- A file is found as it is, whether it has been opened before or not. -/
lemma Agrees.openFile (h : Agrees files directory seen l) (path : String) :
    (l.openFile files path).1 = object? files path ∧
      Agrees files directory seen (l.openFile files path).2 := by
  rw [Loading.openFile]
  cases hopened : l.opened.lookup path with
  | some found => exact ⟨h.opened path found hopened, h⟩
  | none =>
    refine ⟨rfl, ?_, h.dates⟩
    intro path' found hfound
    rw [lookup_cons] at hfound
    split_ifs at hfound with hpath
    · rw [hpath]
      exact (Option.some.inj hfound).symm
    · exact h.opened path' found hfound

/-- A file is looked for under the family alone. -/
lemma joinPath_anyYear (h : Release.ofNamespace? ns = some r) :
    joinPath directory (fileName r.anyYear) = pathOf directory r := by
  rw [r.anyYear_eq, Release.fileName_join (Release.slash_notMem_family h), pathOf]

lemma get?_foldl_addMember_object (hr : Release.ofNamespace? ns = some r) :
    (((object? files (pathOf directory r)).getD []).foldl (addMember ns) ds).get? c =
      (if c.ns = ns then dateIn? files directory c else none).or (ds.get? c) := by
  cases hobject : object? files (pathOf directory r) with
  | none =>
    split_ifs with hns
    · simp [dateIn?, hns, hr, hobject]
    · rfl
  | some ms =>
    rw [Option.getD_some, get?_foldl_addMember (nodup_keys_of_object? hobject)]
    split_ifs with hns
    · simp [dateIn?, hns, hr, hobject]
    · rfl

/-- What is found for the parts of a list in turn is found for the whole list. -/
lemma ite_mem_append_singleton {α β : Type} [DecidableEq α] (a b : α) (l : List α)
    (o : Option β) : (if a ∈ l ++ [b] then o else none) =
      (if a = b then o else none).or (if a ∈ l then o else none) := by
  simp only [List.mem_append, List.mem_singleton]
  split_ifs <;> simp_all

/-- The dates of one more namespace are added to those of the namespaces before it. -/
lemma Agrees.addNamespace (h : Agrees files directory seen l) (ns : String) :
    Agrees files directory (seen ++ [ns]) (l.addNamespace files directory ns) := by
  have hmem : ∀ c : Concept, (if c.ns ∈ seen ++ [ns] then dateIn? files directory c else none) =
      (if c.ns = ns then dateIn? files directory c else none).or
        (if c.ns ∈ seen then dateIn? files directory c else none) :=
    fun c => ite_mem_append_singleton c.ns ns seen (dateIn? files directory c)
  rw [Loading.addNamespace, Release.shortForm?]
  cases hr : Release.ofNamespace? ns with
  | none =>
    have hnone : ∀ c : Concept, c.ns = ns → dateIn? files directory c = none := by
      intro c hns
      rw [dateIn?, hns, hr]
      rfl
    refine ⟨h.opened, fun c => ?_⟩
    rw [Option.map_none, h.dates, hmem]
    split_ifs with hseen hns hns
    · simp [hnone c hns]
    · rw [Option.none_or]
    · simp [hnone c hns]
    · rw [Option.none_or]
  | some r =>
    obtain ⟨hfound, hagrees⟩ := h.openFile (pathOf directory r)
    rw [Option.map_some, Release.short]
    simp only [joinPath_anyYear hr]
    refine ⟨hagrees.opened, fun c => ?_⟩
    rw [hfound, get?_foldl_addMember_object hr, hagrees.dates, hmem]

lemma Agrees.addNamespaces (h : Agrees files directory seen l) (namespaces : List String) :
    Agrees files directory (seen ++ namespaces)
      (namespaces.foldl (Loading.addNamespace files directory) l) := by
  induction namespaces generalizing seen l with
  | nil => rwa [List.append_nil]
  | cons ns namespaces ih =>
    rw [List.append_cons]
    exact ih (h.addNamespace ns)

end Loading

/-- The date of a concept is the one in the file of its family, if its namespace is listed. -/
lemma get?_load : (load files directory namespaces).get? c =
    if c.ns ∈ namespaces then dateIn? files directory c else none :=
  ((Loading.agrees_start files directory).addNamespaces namespaces).dates c

/-! ### What decides on a date -/

/-- The date depends on the file of the family alone. -/
lemma dateIn?_congr (hr : Release.ofNamespace? ns = some r)
    (h : files'.read (pathOf directory r) = files.read (pathOf directory r)) :
    dateIn? files' directory ⟨ns, name⟩ = dateIn? files directory ⟨ns, name⟩ := by
  have hobject : object? files' (pathOf directory r) = object? files (pathOf directory r) := by
    rw [object?, object?, FileStore.loadValue, FileStore.loadValue, h]
  simp only [dateIn?, hr, Option.bind_eq_bind, Option.bind_some, hobject]

/-- In the file of the family, it depends on the entry of the concept alone. -/
lemma dateIn?_of_object (hr : Release.ofNamespace? ns = some r) {content : String}
    (hread : files.read (pathOf directory r) = .ok content)
    (hvalue : Json.ofText content = .ok (.obj ms)) :
    dateIn? files directory ⟨ns, name⟩ = (Members.get? name ms).bind date? := by
  have hobject := object?_eq_some_iff.2 ⟨content, hread, hvalue⟩
  simp only [dateIn?, hr, Option.bind_eq_bind, Option.bind_some, hobject]

/--
The date of a concept is loaded if and only if its namespace is listed and belongs to a release, and
the file of the family is there, can be read, holds an object, and has an entry with the name of the
concept that is a date. Order and repetition of the namespaces have no effect on that, nor have the
files of other families, nor have the other entries of the file.
-/
theorem load_exact (files : FileStore) (directory : String) (namespaces : List String) :
    (∀ ns name d, (load files directory namespaces).get? ⟨ns, name⟩ = some d ↔
      ns ∈ namespaces ∧ ∃ r, Release.ofNamespace? ns = some r ∧
        ∃ content ms t, files.read (pathOf directory r) = .ok content ∧
          Json.ofText content = .ok (.obj ms) ∧ Members.get? name ms = some (.str t) ∧
          Date.ofText? t = some d) ∧
      (∀ namespaces', (∀ ns, ns ∈ namespaces' ↔ ns ∈ namespaces) → ∀ c,
        (load files directory namespaces').get? c = (load files directory namespaces).get? c) ∧
      (∀ files' ns r, Release.ofNamespace? ns = some r →
        files'.read (pathOf directory r) = files.read (pathOf directory r) → ∀ name,
          (load files' directory namespaces).get? ⟨ns, name⟩ =
            (load files directory namespaces).get? ⟨ns, name⟩) ∧
      ∀ files' ns r content content' ms ms', Release.ofNamespace? ns = some r →
        files.read (pathOf directory r) = .ok content → Json.ofText content = .ok (.obj ms) →
        files'.read (pathOf directory r) = .ok content' → Json.ofText content' = .ok (.obj ms') →
        ∀ name, Members.get? name ms' = Members.get? name ms →
          (load files' directory namespaces).get? ⟨ns, name⟩ =
            (load files directory namespaces).get? ⟨ns, name⟩ := by
  refine ⟨?_, ?_, ?_, ?_⟩
  · intro ns name d
    rw [get?_load, Option.ite_none_right_eq_some, dateIn?_eq_some_iff]
  · intro namespaces' hsame c
    simp only [get?_load, hsame]
  · intro files' ns r hr hread name
    rw [get?_load, get?_load, dateIn?_congr hr hread]
  · intro files' ns r content content' ms ms' hr hread hvalue hread' hvalue' name hentry
    rw [get?_load, get?_load, dateIn?_of_object hr hread hvalue,
      dateIn?_of_object hr hread' hvalue', hentry]

/--
A date beside an entry that is none, below an absolute directory, with the file of another family
damaged or missing.
-/
theorem load_exact_beside_damage :
    let day : Date := ⟨2018, 1, 31, by decide, by decide⟩
    let gaap : String := "http://fasb.org/us-gaap/2024"
    let dei : String := "http://xbrl.sec.gov/dei/2024"
    let content := Json.text (.obj [("Broken", .str "someday"), ("OldRevenues", .str "2018-01-31")])
    let file : Place × FileEntry := (["srv", "us-gaap-deprecated-concepts.json"], .text content)
    let damaged : FileStore :=
      ⟨[(["srv", "dei-deprecated-concepts.json"], .binary), file], ["home"]⟩
    (load damaged "/srv" [dei, gaap, dei, gaap]).get? ⟨gaap, "OldRevenues"⟩ = some day ∧
      (load ⟨[file], ["home"]⟩ "/srv" [gaap, dei]).get? ⟨gaap, "OldRevenues"⟩ = some day := by
  intro day gaap dei content file damaged
  have hgaap : Release.ofNamespace? gaap = some ⟨"us-gaap", "2024"⟩ :=
    Release.ofNamespace?_eq_some_iff.2 (.inl ⟨by decide, by decide, "fasb.org", by decide,
      "", .inl rfl, by decide⟩)
  have hread : damaged.read (pathOf "/srv" ⟨"us-gaap", "2024"⟩) = .ok content := rfl
  have hread' : FileStore.read ⟨[file], ["home"]⟩ (pathOf "/srv" ⟨"us-gaap", "2024"⟩) =
      .ok content := rfl
  have hvalue : Json.ofText content =
      .ok (.obj [("Broken", .str "someday"), ("OldRevenues", .str "2018-01-31")]) :=
    Json.ofText_text (by simp [Members.keys]) (by decide)
  have hday : Date.ofText? "2018-01-31" = some day := by decide +kernel
  obtain ⟨hexact, hsame, -, -⟩ := load_exact damaged "/srv" [dei, gaap, dei, gaap]
  obtain ⟨-, -, hothers, -⟩ := load_exact damaged "/srv" [gaap, dei]
  have hload := (hexact gaap "OldRevenues" day).2
    ⟨by simp, _, hgaap, content, _, _, hread, hvalue, rfl, hday⟩
  refine ⟨hload, ?_⟩
  rw [hothers ⟨[file], ["home"]⟩ gaap _ hgaap (hread'.trans hread.symm),
    hsame _ (by simp [or_comm]), hload]

end Deprecations

end Disclosure
