import Mathlib.Data.List.Infix
import Disclosure.File.Cache
import Disclosure.Proofs.Json.Canonical

/-!
# Cache files

Saving a value adds one file to a store and leaves its directories as they are
(`isDirectory_put_text`), so every path leads where it led before. The text of the file depends on
the saved value only up to the order of keys, and loading the file gives the sorted value.
-/

namespace Disclosure

namespace FileStore

variable {s s' : FileStore} {place here other p : Place}
  {name content path directory front back : String}
  {parts rest : List String} {v w : Json} {e : FileEntry}

/-! ### Entries -/

lemma entry?_put_self (s : FileStore) (place : Place) (e : FileEntry) :
    entry? (s.put place e) place = some e := by
  simp [put, entry?]

lemma entry?_put_of_ne (hne : other ≠ place) :
    entry? (s.put place e) other = s.entry? other := by
  have hfirst : (other == place) = false := beq_eq_false_iff_ne.2 hne
  rw [put, entry?, entry?, List.lookup_cons, hfirst]
  induction s.entries with
  | nil => rfl
  | cons x xs ih =>
    obtain ⟨q, e'⟩ := x
    by_cases hq : q = place
    · subst hq
      simpa [List.lookup_cons, hfirst] using ih
    · simp only [List.filter_cons, bne_iff_ne, ne_eq, hq, not_false_eq_true, if_true,
        List.lookup_cons, ih]

@[simp]
lemma start_put (s : FileStore) (place : Place) (e : FileEntry) (path : String) :
    (s.put place e).start path = s.start path := rfl

/-! ### Directories -/

lemma isDirectory_iff : s.isDirectory p = true ↔ p <+: s.workingDirectory ∨
    ∃ q e, (q, e) ∈ s.entries ∧ p <+: q ∧ (q ≠ p ∨ e = .directory) := by
  simp [isDirectory]

/-- Everything on the way to a directory is a directory. -/
lemma isDirectory_of_prefix (h : s.isDirectory place = true) (hp : p <+: place) :
    s.isDirectory p = true := by
  by_cases hne : p = place
  · rwa [hne]
  rw [isDirectory_iff] at h ⊢
  rcases h with h | ⟨q, e, hmem, hq, -⟩
  · exact .inl (hp.trans h)
  · refine .inr ⟨q, e, hmem, hp.trans hq, .inl ?_⟩
    rintro rfl
    exact hne (hp.eq_of_length_le hq.length_le)

lemma isDirectory_of_put (hplace : s.isDirectory place = true)
    (h : (s.put (place ++ [name]) (.text content)).isDirectory p = true) :
    s.isDirectory p = true := by
  rcases isDirectory_iff.1 h with hp | ⟨q, e, hmem, hp, he⟩
  · exact isDirectory_iff.2 (.inl hp)
  simp only [put, List.mem_cons, Prod.mk.injEq, List.mem_filter] at hmem
  rcases hmem with ⟨rfl, rfl⟩ | ⟨hmem, -⟩
  · -- the way to the new file, without the file itself
    rcases List.prefix_concat_iff.1 hp with rfl | hp
    · simp at he
    · exact isDirectory_of_prefix hplace hp
  · exact isDirectory_iff.2 (.inr ⟨q, e, hmem, hp, he⟩)

/-- A new file in a directory leaves the directories as they are. -/
lemma isDirectory_put_text (hplace : s.isDirectory place = true)
    (hfile : s.isDirectory (place ++ [name]) = false) (p : Place) :
    (s.put (place ++ [name]) (.text content)).isDirectory p = s.isDirectory p := by
  rw [Bool.eq_iff_iff]
  refine ⟨isDirectory_of_put hplace, fun h => ?_⟩
  rcases isDirectory_iff.1 h with hp | ⟨q, e, hmem, hp, he⟩
  · exact isDirectory_iff.2 (.inl hp)
  rw [isDirectory_iff]
  by_cases hq : q = place ++ [name]
  · -- the replaced entry made the places above it directories, and the new one does too
    have hne : place ++ [name] ≠ p := by
      rintro rfl
      rw [h] at hfile
      cases hfile
    refine .inr ⟨place ++ [name], .text content, ?_, hq ▸ hp, .inl hne⟩
    exact List.mem_cons_self
  · refine .inr ⟨q, e, ?_, hp, he⟩
    simp [put, hmem, hq]

/-! ### Following paths -/

/-- Paths lead to the same places where the directories are the same. -/
lemma follow_congr (hdir : ∀ p, s'.isDirectory p = s.isDirectory p) :
    s'.follow here parts = .ok place ↔ s.follow here parts = .ok place := by
  induction parts generalizing here with
  | nil => rfl
  | cons part parts ih =>
    rw [follow, follow, hdir]
    split_ifs <;> simp [ih]

lemma follow_append (h : s.follow here parts = .ok place) :
    s.follow here (parts ++ rest) = s.follow place rest := by
  induction parts generalizing here with
  | nil =>
    cases h
    rfl
  | cons part parts ih =>
    rw [follow] at h
    rw [List.cons_append, follow]
    split_ifs at h ⊢ <;> exact ih h

lemma isDirectory_of_follow (h : s.follow here parts = .ok place)
    (hplace : s.isDirectory place = true) : s.isDirectory here = true := by
  cases parts with
  | nil =>
    cases h
    exact hplace
  | cons part parts =>
    by_contra hhere
    rw [follow, if_pos (by simpa using hhere)] at h
    cases h

/-- Parts that stay in place may be left out on the way to a directory. -/
lemma follow_of_filter (h : s.follow here (parts.filter (!staysInPlace ·)) = .ok place)
    (hplace : s.isDirectory place = true) : s.follow here parts = .ok place := by
  induction parts generalizing here with
  | nil => exact h
  | cons part parts ih =>
    by_cases hstays : staysInPlace part = true
    · have h : s.follow here (parts.filter (!staysInPlace ·)) = .ok place := by
        simpa [hstays] using h
      simp [follow, isDirectory_of_follow h hplace, hstays, ih h]
    · rw [List.filter_cons_of_pos (by simpa using hstays), follow] at h
      rw [follow]
      split_ifs at h ⊢ <;> exact ih h

lemma follow_append_eq_ok_iff : s.follow here (parts ++ rest) = .ok other ↔
    ∃ place, s.follow here parts = .ok place ∧ s.follow place rest = .ok other := by
  constructor
  · intro h
    induction parts generalizing here with
    | nil => exact ⟨here, rfl, h⟩
    | cons part parts ih =>
      rw [List.cons_append, follow] at h
      rw [follow]
      split_ifs at h ⊢ <;> exact ih h
  · rintro ⟨place, hplace, hother⟩
    rwa [follow_append hplace]

/-! ### Paths -/

lemma locate_eq_ok_iff : s.locate path = .ok place ↔ path ≠ "" ∧ isPath path = true ∧
    s.follow (s.start path) (pathParts path) = .ok place := by
  rw [locate]
  split_ifs with hempty hpath <;> simp_all

lemma pathParts_append_slash (front back : String) :
    pathParts (front ++ "/" ++ back) = pathParts front ++ pathParts back := by
  rw [pathParts, String.toList_append, String.toList_append, List.append_assoc]
  exact (congrArg (List.map String.ofList) (Text.splitAt_append rfl _ _)).trans List.map_append

lemma start_append (hne : front ≠ "") : s.start (front ++ back) = s.start front := by
  have hfirst : isAbsolutePath (front ++ back) = isAbsolutePath front := by
    rw [isAbsolutePath, isAbsolutePath, Text.startsWith, Text.startsWith, String.toList_append]
    cases hchars : front.toList with
    | nil => exact absurd (String.toList_eq_nil_iff.1 hchars) hne
    | cons c cs => rfl
  rw [start, start, hfirst]

lemma isPath_append : isPath (front ++ back) = (isPath front && isPath back) := by
  rw [isPath, isPath, isPath, String.toList_append, List.all_append]

lemma follow_pathParts_of_slash
    (h : s.follow here (pathParts (front ++ "/")) = .ok place) :
    s.follow here (pathParts front) = .ok place := by
  have hparts : pathParts (front ++ "/") = pathParts front ++ [""] := by
    simpa [pathParts, Text.splitAt] using pathParts_append_slash front ""
  rw [hparts, follow_append_eq_ok_iff] at h
  obtain ⟨last, hfront, hlast⟩ := h
  rw [follow, if_pos (c := staysInPlace "" = true) rfl] at hlast
  split_ifs at hlast
  rw [hfront]
  exact hlast

/--
A name is looked up from the place of its directory, whether the path of the directory starts from
the root or from the working directory.
-/
lemma locate_joinPath (hdir : s.locate directory = .ok here)
    (hrelative : isAbsolutePath name = false) (hname : isPath name = true) :
    s.locate (joinPath directory name) = s.follow here (pathParts name) := by
  obtain ⟨hne, hpath, hfollow⟩ := locate_eq_ok_iff.1 hdir
  have hlocate : ∀ rest, isPath rest = true →
      s.locate (directory ++ rest) =
        s.follow (s.start directory) (pathParts (directory ++ rest)) := by
    intro rest hrest
    rw [locate, if_neg (by simp [hne]), if_neg (by simp [isPath_append, hpath, hrest]),
      start_append hne]
  rw [joinPath, if_neg (by simp [hrelative, hne])]
  split_ifs with hslash
  · obtain ⟨front, rfl⟩ := Text.endsWith_iff_exists.1 hslash
    rw [hlocate name hname, pathParts_append_slash]
    exact follow_append (follow_pathParts_of_slash hfollow)
  · have hbelow : isPath ("/" ++ name) = true := by
      rw [isPath_append, hname]
      rfl
    rw [String.append_assoc, hlocate _ hbelow, ← String.append_assoc, pathParts_append_slash]
    exact follow_append hfollow

/-! ### Reading and saving -/

lemma read_eq_ok_iff : s.read path = .ok content ↔
    ∃ place, s.locate path = .ok place ∧ s.entry? place = some (.text content) := by
  rw [read]
  cases hlocate : s.locate path with
  | error e => simp [bind, Except.bind]
  | ok place =>
    simp only [bind, Except.bind, Except.ok.injEq, exists_eq_left']
    split <;> simp_all

lemma endsInName_iff : endsInName path = true ↔ ∃ above name, pathParts path = above ++ [name] ∧
    staysInPlace name = false ∧ name ≠ parentPart ∧ isFileName name = true := by
  rw [endsInName]
  cases hlast : (pathParts path).getLast? with
  | none =>
    rw [List.getLast?_eq_none_iff] at hlast
    simp [hlast]
  | some name =>
    obtain ⟨above, habove⟩ := List.getLast?_eq_some_iff.1 hlast
    simp [habove, and_assoc]

lemma ne_empty_of_endsInName (h : endsInName path = true) : path ≠ "" := by
  rintro rfl
  cases h

lemma follow_name {above : List String} (hplace : s.isDirectory place = true)
    (habove : s.follow here (above.filter (!staysInPlace ·)) = .ok place)
    (hstays : staysInPlace name = false) (hparent : name ≠ parentPart)
    (hname : isFileName name = true) : s.follow here (above ++ [name]) = .ok (place ++ [name]) := by
  rw [follow_append (follow_of_filter habove hplace)]
  simp [follow, hplace, hstays, hparent, hname]

/-- A value is saved as a file in a directory, where the path leads. -/
lemma saveValue_eq_ok (h : s.saveValue path v = .ok s') :
    ∃ place name, s.locate path = .ok (place ++ [name]) ∧ s.isDirectory place = true ∧
      s.isDirectory (place ++ [name]) = false ∧
        s' = s.put (place ++ [name]) (.text v.sorted.text) := by
  simp only [saveValue, splitPath] at h
  split at h
  · cases h
  · next place hplace =>
    split_ifs at h with hdir
    split at h
    · cases h
    · next name hlast =>
      split_ifs at h with hfree
      cases h
      have hplaced : s.isDirectory place = true := by simpa using hdir
      obtain ⟨⟨hpath, hends⟩, hfile⟩ : (isPath path = true ∧ endsInName path = true) ∧
          s.isDirectory (place ++ [name]) = false := by
        simpa using hfree
      obtain ⟨above, last, hparts, hstays, hparent, hisName⟩ := endsInName_iff.1 hends
      rw [hparts, List.filter_append, List.filter_cons_of_pos (by simpa using hstays),
        List.filter_nil] at hplace hlast
      rw [List.dropLast_concat] at hplace
      rw [List.getLast?_concat, Option.some.injEq] at hlast
      subst hlast
      refine ⟨place, last, ?_, hplaced, hfile, rfl⟩
      rw [locate_eq_ok_iff, hparts]
      exact ⟨ne_empty_of_endsInName hends, hpath, follow_name hplaced hplace hstays hparent hisName⟩

/-- After saving, every path leads where it led before. -/
lemma locate_put_text (hplace : s.isDirectory place = true)
    (hfile : s.isDirectory (place ++ [name]) = false) :
    (s.put (place ++ [name]) (.text content)).locate path = .ok other ↔
      s.locate path = .ok other := by
  rw [locate, locate, start_put]
  split_ifs
  · rfl
  · rfl
  · exact follow_congr (isDirectory_put_text hplace hfile)

lemma read_saveValue (h : s.saveValue path v = .ok s') : s'.read path = .ok v.sorted.text := by
  obtain ⟨place, name, hlocate, hplace, hfile, rfl⟩ := saveValue_eq_ok h
  rw [read_eq_ok_iff]
  exact ⟨place ++ [name], (locate_put_text hplace hfile).2 hlocate, entry?_put_self _ _ _⟩

lemma entry?_saveValue_of_ne (h : s.saveValue path v = .ok s')
    (hother : s.locate path ≠ .ok other) : s'.entry? other = s.entry? other := by
  obtain ⟨place, name, hlocate, -, -, rfl⟩ := saveValue_eq_ok h
  apply entry?_put_of_ne
  rintro rfl
  exact hother hlocate

lemma read_saveValue_of_ne {path' : String} (h : s.saveValue path v = .ok s')
    (hother : s.locate path' ≠ s.locate path) :
    s'.read path' = .ok content ↔ s.read path' = .ok content := by
  obtain ⟨place, name, hlocate, hplace, hfile, hs'⟩ := saveValue_eq_ok h
  have hentry : ∀ p, s.locate path' = .ok p → s'.entry? p = s.entry? p := by
    intro p hp
    apply entry?_saveValue_of_ne h
    rw [← hp]
    exact hother.symm
  rw [read_eq_ok_iff, read_eq_ok_iff]
  refine exists_congr fun p => ?_
  rw [hs', locate_put_text hplace hfile, ← hs']
  exact and_congr_right fun hp => by rw [hentry p hp]

/--
The text of a cache file is canonical: it is the same for values that are equal up to the order of
keys, and for no others. It is a single line, in which the keys of every object increase.
-/
theorem text_sorted_canonical (hv : v.Regular) (hw : w.Regular) :
    (v.sorted.text = w.sorted.text ↔ v.Alike w) ∧
      (∀ s s' path, saveValue s path v = .ok s' → s'.read path = .ok v.sorted.text) ∧
      '\n' ∉ v.sorted.text.toList ∧
      Json.read v.sorted.text.toList = ⟨v.sorted.toDoc, none⟩ ∧
      v.sorted.Everywhere Json.HasIncreasingKeys ∧ ∀ u : Json, u.sorted.sorted = u.sorted := by
  have htext : v.sorted.text = w.sorted.text ↔ v.sorted = w.sorted := by
    refine ⟨fun h => ?_, fun h => by rw [h]⟩
    exact Json.eq_of_chars_eq hv.sorted hw.sorted (String.ofList_injective h)
  have hread := Json.read_chars hv.sorted
  have hline := Json.printable_chars hv.sorted
  rw [← String.toList_ofList (l := v.sorted.chars)] at hread hline
  refine ⟨htext.trans (Json.sorted_eq_iff hv), fun s s' path => read_saveValue, ?_, hread,
    hv.increasing, Json.sorted_sorted⟩
  intro hmem
  exact absurd (hline _ hmem) (by decide)

theorem text_sorted_canonical_reordered :
    Json.text (.sorted (.obj [("b", .str "1\n2"), ("a", .arr [.null, .num (.int (-7))])])) =
        Json.text (.sorted (.obj [("a", .arr [.null, .num (.int (-7))]), ("b", .str "1\n2")])) ∧
      '\n' ∉ (Json.text
        (.sorted (.obj [("b", .str "1\n2"), ("a", .arr [.null, .num (.int (-7))])]))).toList := by
  have hnum : Json.Regular (.num (.int (-7))) := Json.regular_int.2 (by decide)
  obtain ⟨htext, -, hline, -⟩ := text_sorted_canonical
    (v := .obj [("b", .str "1\n2"), ("a", .arr [.null, .num (.int (-7))])])
    (w := .obj [("a", .arr [.null, .num (.int (-7))]), ("b", .str "1\n2")])
    (by simp [Json.Members.keys, hnum]) (by simp [Json.Members.keys, hnum])
  refine ⟨htext.2 (.obj (List.Perm.swap _ _ []) rfl ?_), hline⟩
  exact .cons (.str _) (.cons (.arr (.cons .null (.cons (.num _) .nil))) .nil)

/-- A saved value is loaded with sorted keys, and all other files stay what they were. -/
theorem loadValue_saveValue (hv : v.Regular) (hd : v.depth ≤ 127)
    (h : s.saveValue path v = .ok s') :
    s'.loadValue path = .ok (some v.sorted) ∧ v.Alike v.sorted ∧
      (∀ place, s.locate path ≠ .ok place → s'.entry? place = s.entry? place) ∧
      ∀ path' content, s.locate path' ≠ s.locate path →
        (s'.read path' = .ok content ↔ s.read path' = .ok content) := by
  refine ⟨?_, Json.alike_sorted hv, fun place => entry?_saveValue_of_ne h,
    fun path' content => read_saveValue_of_ne h⟩
  have hload := Json.ofText_text hv.sorted (Json.depth_sorted_le hd)
  rw [loadValue, read_saveValue h]
  simp only [hload]

/-- Saved under an absolute path, beside a file that is read from the working directory. -/
theorem loadValue_saveValue_beside_list :
    let s : FileStore := ⟨[(["srv", "cache", "list.json"], .text "[]")], ["srv", "cache"]⟩
    ∃ s', s.saveValue "/srv/cache/units.json"
        (.obj [("m", .str "\""), ("kg", .num (.int 1))]) = .ok s' ∧
      s'.loadValue "/srv/cache/units.json" =
        .ok (some (.obj [("kg", .num (.int 1)), ("m", .str "\"")])) ∧
      s'.read "list.json" = .ok "[]" := by
  intro s
  let v : Json := .obj [("m", .str "\""), ("kg", .num (.int 1))]
  have hnum : Json.Regular (.num (.int 1)) := Json.regular_int.2 (by decide)
  have hv : v.Regular := by
    simp [v, Json.Members.keys, hnum]
  have hsave : s.saveValue "/srv/cache/units.json" v =
      .ok (s.put ["srv", "cache", "units.json"] (.text v.sorted.text)) := rfl
  have hlist : s.locate "list.json" = .ok ["srv", "cache", "list.json"] := rfl
  have hunits : s.locate "/srv/cache/units.json" = .ok ["srv", "cache", "units.json"] := rfl
  have hread : s.read "list.json" = .ok "[]" := rfl
  have hsorted : v.sorted = .obj [("kg", .num (.int 1)), ("m", .str "\"")] := by
    simp [v, Json.sorted, Json.sortMembers, List.mergeSort, List.MergeSort.Internal.splitInTwo]
  obtain ⟨hload, -, -, hothers⟩ := loadValue_saveValue hv (by decide) hsave
  refine ⟨_, hsave, ?_, (hothers _ _ ?_).2 hread⟩
  · rw [hload, hsorted]
  · rw [hlist, hunits]
    decide

end FileStore

end Disclosure
