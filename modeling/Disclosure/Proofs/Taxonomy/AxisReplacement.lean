import Mathlib.Data.Set.List
import Disclosure.Taxonomy.AxisReplacement
import Disclosure.Proofs.Regex.Grouped
import Disclosure.Proofs.Taxonomy.Catalog

/-!
# The axis that a name imitates

The joined pattern of a catalog says the same of a name as its patterns one after the other: a name
imitates the first axis of the catalog whose pattern matches the whole name, if there is one
(`ofJson_imitated?`). The patterns may have names and flags of their own.
-/

namespace Disclosure

namespace AxisReplacements

open Regex (Alternative)

variable {v : Json} {c : AxisReplacements} {axis pattern name : String}

/-- The members of a catalog that stand for axes. -/
def listed (v : Json) : Json.Members :=
  match v with
  | .obj ms => ms.filter fun m => !skippedKeys.contains m.1
  | _ => []

/-- Whether a pattern, taken alone, matches the whole of a name. -/
def MatchesWhole (pattern name : String) : Prop :=
  ∃ re, Regex.ofPattern? pattern = some re ∧ re.node.Spans name.toList

/-! ### Names of groups -/

lemma not_mem_groupName (position : Nat) : '>' ∉ (groupName position).toList := by
  intro h
  rw [groupName, String.toList_append, String.toList_ofList (l := decimalDigits position)] at h
  rcases List.mem_append.1 h with h | h
  · revert h
    decide
  · have hdigit : isDigit '>' = true := isDigit_of_mem_decimalDigits h
    revert hdigit
    decide

lemma isNameChar_of_isDigit {d : Char} (h : isDigit d) : Regex.isNameChar false d := by
  have hdecimal : Unicode.isDecimalDigit d := by
    rw [Unicode.isDecimalDigit, Unicode.decimalDigits, Unicode.Ranges.contains_cons]
    exact Bool.or_eq_true_iff.2 (.inl h)
  simp [Regex.isNameChar, hdecimal]

/-- Every group of the joined pattern has the name of a group. -/
lemma isName_groupName (position : Nat) : Regex.isName (groupName position).toList := by
  have hchars : (groupName position).toList = '_' :: decimalDigits position := by simp [groupName]
  rw [hchars, Regex.isName]
  exact Bool.and_eq_true_iff.2 ⟨rfl, List.all_eq_true.2 fun d hd =>
    isNameChar_of_isDigit (isDigit_of_mem_decimalDigits hd)⟩

/-- The group of an axis is opened, if its name is new. -/
lemma step?_groupName {st : Regex.State} (hterse : st.flags.verbose = false) {position : Nat}
    (hnew : groupName position ∉ st.names) (t : List Char) :
    Regex.step? st ('(' :: '?' :: 'P' :: '<' :: ((groupName position).toList ++ '>' :: t)) =
      some (st.push (some (groupName position)) st.flags, t) := by
  rw [Regex.step?_named hterse (not_mem_groupName position), if_pos]
  · rw [String.ofList_toList]
  · rw [isName_groupName, String.ofList_toList]
    simpa using hnew

/-! ### The alternatives of a catalog -/

/-- A pattern that is accepted alone and never verbose can be put into a group of any name. -/
lemma exists_alternative (hpattern : (Regex.ofPattern? pattern).isSome)
    (hterse : Regex.NeverVerbose pattern) (name : String) :
    ∃ e : Alternative, String.ofList e.name = name ∧ String.ofList e.pattern = pattern := by
  obtain ⟨re, hre⟩ := Option.isSome_iff_exists.1 hpattern
  obtain ⟨depth, hread⟩ := Regex.exists_readPattern?_eq hre
  obtain ⟨final, hreads, hfinal⟩ := Regex.exists_reads_of_readPattern? hterse hread
  rw [hreads.readPattern?_eq, Regex.readPattern?_nil] at hread
  have hclosed : final.outer = [] := by
    split_ifs at hread with hempty
    exact List.isEmpty_iff.1 hempty
  exact ⟨⟨name.toList, pattern.toList, final, hreads, hfinal, hclosed⟩, String.ofList_toList,
    String.ofList_toList⟩

lemma wholeNamed_eq (e : Alternative) :
    wholeNamed (String.ofList e.name) (String.ofList e.pattern) = String.ofList e.text := by
  rw [← String.toList_inj]
  simp [wholeNamed, Alternative.text]

lemma readMember_eq_ok_iff {m : String × Json} {entry : String × String} :
    readMember m = .ok entry ↔
      m = (entry.1, .str entry.2) ∧ (Regex.ofPattern? entry.2).isSome := by
  obtain ⟨key, value⟩ := m
  obtain ⟨axis, pattern⟩ := entry
  rw [readMember]
  cases value with
  | str p =>
    dsimp only
    cases hp : Regex.ofPattern? p with
    | none =>
      refine iff_of_false nofun ?_
      rintro ⟨⟨⟩, hsome⟩
      rw [hp] at hsome
      cases hsome
    | some re =>
      constructor
      · rintro ⟨⟩
        exact ⟨rfl, by rw [hp]; rfl⟩
      · rintro ⟨⟨⟩, -⟩
        rfl
  | _ => exact iff_of_false nofun (by rintro ⟨⟨⟩, -⟩)

lemma eq_map_of_mapM {ms : Json.Members} {entries : List (String × String)}
    (h : ms.mapM readMember = .ok entries) : ms = entries.map fun e => (e.1, .str e.2) := by
  rw [mapM_eq_ok_iff] at h
  induction h with
  | nil => rfl
  | cons hm _ ih => rw [List.map_cons, ← ih, (readMember_eq_ok_iff.1 hm).1]

/-- An axis with the alternative that its pattern is put into. -/
abbrev Entry := String × Alternative

/-- The name of the group, the axis and the pattern. -/
def Entry.named (x : Entry) : String × String × String :=
  (String.ofList x.2.name, x.1, String.ofList x.2.pattern)

/-- A catalog is that of alternatives, one for each member that stands for an axis. -/
lemma exists_entries (h : ofJson v = .ok c)
    (hterse : ∀ m ∈ listed v, ∀ pattern, m.2 = .str pattern → Regex.NeverVerbose pattern) :
    ∃ xs : List Entry,
      listed v = xs.map (fun x => (x.1, .str (String.ofList x.2.pattern))) ∧
      c.axes = xs.map (fun x => (String.ofList x.2.name, x.1)) ∧
      readJoined ((xs.map Prod.snd).map fun e => String.ofList e.text) = .ok c.joined ∧
      ∀ x ∈ xs, '>' ∉ x.2.name ∧ (Regex.ofPattern? (String.ofList x.2.pattern)).isSome := by
  obtain ⟨ms, hms, h⟩ := bind_eq_ok_iff.1 h
  obtain ⟨entries, hentries, h⟩ := bind_eq_ok_iff.1 h
  obtain ⟨joined, hjoined, ⟨⟩⟩ := bind_eq_ok_iff.1 h
  obtain rfl := Option.some.inj (CatalogError.needMembers_eq_ok_iff.1 hms)
  have hlisted : listed (.obj ms) = entries.map fun e => (e.1, .str e.2) := eq_map_of_mapM hentries
  have haccepted : ∀ e ∈ entries, (Regex.ofPattern? e.2).isSome := by
    intro e he
    obtain ⟨m, -, hm⟩ := (mem_iff_of_mapM hentries).1 he
    exact (readMember_eq_ok_iff.1 hm).2
  have hnamed : ∀ n ∈ entries.mapIdx (fun i e => (groupName i, e)),
      n.2 ∈ entries ∧ ∃ i, n.1 = groupName i := by
    intro n hn
    obtain ⟨i, hi, rfl⟩ := List.mem_mapIdx.1 hn
    exact ⟨List.getElem_mem hi, i, rfl⟩
  have hrange : entries.mapIdx (fun i e => (groupName i, e)) ∈
      Set.range (List.map Entry.named) := by
    rw [Set.range_list_map]
    intro n hn
    have hentry := (hnamed n hn).1
    have hmem : (n.2.1, .str n.2.2) ∈ listed (.obj ms) :=
      hlisted ▸ List.mem_map_of_mem hentry
    obtain ⟨e, hname, hpattern⟩ :=
      exists_alternative (haccepted n.2 hentry) (hterse _ hmem _ rfl) n.1
    exact ⟨(n.2.1, e), by rw [Entry.named, hname, hpattern]⟩
  obtain ⟨xs, hxs⟩ := hrange
  have hsnd : entries = xs.map fun x => x.named.2 := by
    have hindexed : (entries.mapIdx fun i e => (groupName i, e)).map Prod.snd = entries :=
      List.ext_getElem (by simp) (by simp)
    rw [← hindexed, ← hxs, List.map_map]
    rfl
  refine ⟨xs, ?_, ?_, ?_, ?_⟩
  · rw [hlisted, hsnd, List.map_map]
    rfl
  · rw [← hxs, List.map_map]
    rfl
  · rw [← hjoined, ← hxs, List.map_map, List.map_map]
    congr 2
    funext x
    exact (wholeNamed_eq x.2).symm
  · intro x hx
    obtain ⟨hentry, i, hi⟩ := hnamed x.named (hxs ▸ List.mem_map_of_mem hx)
    refine ⟨?_, haccepted (x.1, String.ofList x.2.pattern) hentry⟩
    rw [← String.toList_ofList (l := x.2.name), show String.ofList x.2.name = _ from hi]
    exact not_mem_groupName i

/-! ### Answers -/

/-- Whether a name imitates the axis of a member: its pattern alone matches the whole name. -/
def Imitates (name : String) (m : String × Json) : Prop :=
  ∃ pattern, m.2 = .str pattern ∧ MatchesWhole pattern name

lemma imitates_iff {x : Entry} (h : (Regex.ofPattern? (String.ofList x.2.pattern)).isSome) :
    Imitates name (x.1, .str (String.ofList x.2.pattern)) ↔ x.2.own.Spans name.toList := by
  obtain ⟨re, hre⟩ := Option.isSome_iff_exists.1 h
  simp only [Imitates, MatchesWhole, Json.str.injEq, exists_eq_left', hre, Option.some.injEq,
    Alternative.node_eq_own hre]

lemma readJoined_eq_ok {alternatives : List String} {joined : Option Regex}
    (h : readJoined alternatives = .ok joined) :
    alternatives = [] ∧ joined = none ∨ alternatives ≠ [] ∧ ∃ re, joined = some re ∧
      Regex.ofPattern? (String.intercalate "|" alternatives) = some re := by
  rw [readJoined] at h
  split_ifs at h with hempty
  · cases h
    exact .inl ⟨List.isEmpty_iff.1 hempty, rfl⟩
  · split at h
    · next re hre =>
      cases h
      exact .inr ⟨fun hnil => hempty (List.isEmpty_iff.2 hnil), re, rfl, hre⟩
    · cases h

/-- A name that imitates no axis of the catalog is not known. -/
lemma imitated?_eq_none (h : ofJson v = .ok c)
    (hterse : ∀ m ∈ listed v, ∀ pattern, m.2 = .str pattern → Regex.NeverVerbose pattern)
    (hnone : ∀ m ∈ listed v, ¬Imitates name m) : c.imitated? name = none := by
  obtain ⟨xs, hlisted, -, hjoined, hxs⟩ := exists_entries h hterse
  rcases readJoined_eq_ok hjoined with ⟨-, hjoined⟩ | ⟨hne, re, hjoined, hre⟩
  · rw [imitated?, hjoined]
    rfl
  · have hcaptures : re.captures? name = none := by
      refine (Alternative.captures?_eq_none_iff (by simpa using hne) ?_ hre name).2 ?_
      · intro e he
        obtain ⟨x, hx, rfl⟩ := List.mem_map.1 he
        exact (hxs x hx).1
      · intro e he
        obtain ⟨x, hx, rfl⟩ := List.mem_map.1 he
        rw [← imitates_iff (hxs x hx).2]
        exact hnone _ (hlisted ▸ List.mem_map_of_mem hx)
    rw [imitated?, hjoined]
    change (re.captures? name).bind _ = none
    rw [hcaptures]
    rfl

/-- A name is known for the first axis of the catalog that it imitates. -/
lemma imitated?_eq_some (h : ofJson v = .ok c)
    (hterse : ∀ m ∈ listed v, ∀ pattern, m.2 = .str pattern → Regex.NeverVerbose pattern)
    {before after : Json.Members} {m : String × Json} (hlist : listed v = before ++ m :: after)
    (himitates : Imitates name m) (hbefore : ∀ m' ∈ before, ¬Imitates name m') :
    c.imitated? name = some m.1 := by
  obtain ⟨xs, hlisted, haxes, hjoined, hxs⟩ := exists_entries h hterse
  obtain ⟨first, rest, rfl, rfl, hrest⟩ := List.map_eq_append_iff.1 (hlisted.symm.trans hlist)
  obtain ⟨x, last, rfl, rfl, -⟩ := List.map_eq_cons_iff.1 hrest
  have hx := hxs x (List.mem_append_right _ List.mem_cons_self)
  have hname : ∀ e ∈ (first ++ x :: last).map Prod.snd, '>' ∉ e.name := by
    intro e he
    obtain ⟨x', hx', rfl⟩ := List.mem_map.1 he
    exact (hxs x' hx').1
  have hfirst : ∀ e ∈ first.map Prod.snd, ¬e.own.Spans name.toList := by
    intro e he
    obtain ⟨x', hx', rfl⟩ := List.mem_map.1 he
    rw [← imitates_iff (hxs x' (List.mem_append_left _ hx')).2]
    exact hbefore _ (List.mem_map_of_mem hx')
  rcases readJoined_eq_ok hjoined with ⟨hnil, -⟩ | ⟨-, re, hjoined, hre⟩
  · simp at hnil
  rw [List.map_append, List.map_cons] at hname hre
  obtain ⟨captures, hcaptures, htext, hnot⟩ :=
    Alternative.exists_captures?_eq hname hre ((imitates_iff hx.2).1 himitates) hfirst
  have hfind : c.axes.find? (fun a => (captures.text? a.1).isSome) =
      some (String.ofList x.2.name, x.1) := by
    rw [haxes, List.find?_eq_some_iff_append]
    refine ⟨htext, _, _, by rw [List.map_append, List.map_cons], ?_⟩
    intro a ha
    obtain ⟨x', hx', rfl⟩ := List.mem_map.1 ha
    simpa using hnot x'.2 (List.mem_map_of_mem hx')
  rw [imitated?, hjoined]
  change (re.captures? name).bind _ = some x.1
  exact Option.bind_eq_some_iff.2 ⟨captures, hcaptures, Option.bind_eq_some_iff.2 ⟨_, hfind, rfl⟩⟩

/-- Where a property holds of a member of a list, it holds of a first one. -/
lemma exists_first {α : Type} (P : α → Prop) (xs : List α) : (∀ x ∈ xs, ¬P x) ∨
    ∃ before x after, xs = before ++ x :: after ∧ P x ∧ ∀ y ∈ before, ¬P y := by
  classical
  cases hfind : xs.find? (fun x => decide (P x)) with
  | none => exact .inl (by simpa using hfind)
  | some x =>
    obtain ⟨hx, before, after, hxs, hbefore⟩ := List.find?_eq_some_iff_append.1 hfind
    exact .inr ⟨before, x, after, hxs, of_decide_eq_true hx, by simpa using hbefore⟩

/--
The joined pattern of a catalog gives the first axis in document order that a name imitates, and
nothing exactly if the name imitates none.
-/
theorem ofJson_imitated? (h : ofJson v = .ok c)
    (hterse : ∀ m ∈ listed v, ∀ pattern, m.2 = .str pattern → Regex.NeverVerbose pattern)
    (name : String) :
    (∀ axis, c.imitated? name = some axis ↔
      ∃ before m after, listed v = before ++ m :: after ∧ m.1 = axis ∧ Imitates name m ∧
        ∀ m' ∈ before, ¬Imitates name m') ∧
    (c.imitated? name = none ↔ ∀ m ∈ listed v, ¬Imitates name m) := by
  rcases exists_first (Imitates name) (listed v) with hnone | ⟨before, m, after, hlist, hm, hbefore⟩
  · have hanswer := imitated?_eq_none h hterse hnone
    refine ⟨fun axis => iff_of_false ?_ ?_, iff_of_true hanswer hnone⟩
    · rw [hanswer]
      exact nofun
    · rintro ⟨before, m, after, hlist, -, hm, -⟩
      exact hnone m (hlist ▸ List.mem_append_right _ List.mem_cons_self) hm
  · have hanswer := imitated?_eq_some h hterse hlist hm hbefore
    refine ⟨fun axis => ⟨fun haxis => ?_, ?_⟩, iff_of_false ?_ fun hnone => ?_⟩
    · exact ⟨before, m, after, hlist, Option.some.inj (hanswer.symm.trans haxis), hm, hbefore⟩
    · rintro ⟨before', m', after', hlist', rfl, hm', hbefore'⟩
      exact imitated?_eq_some h hterse hlist' hm' hbefore'
    · rw [hanswer]
      exact nofun
    · exact hnone m (hlist ▸ List.mem_append_right _ List.mem_cons_self) hm

/-! ### A catalog -/

/-- A catalog whose second pattern matches whole names that the first one only begins. -/
def axisCatalog : Json := .obj
  [("#", .str "comment"), ("ScenarioAxis", .str "A"), ("SegmentAxis", .str "A|AB")]

lemma exists_reads_scenario :
    ∃ st, Regex.Reads (.initial {}) "A".toList st [] ∧ st.flags.verbose = false ∧
      Regex.ofPattern? "A" = some ⟨"A", Regex.charNode {} 'A'⟩ :=
  have hreads : Regex.Reads (.initial {}) "A".toList _ [] := .single rfl rfl (by decide)
  ⟨_, hreads, rfl, hreads.ofPatternWith?_eq rfl (by decide) (by decide)⟩

lemma exists_reads_segment :
    ∃ st, Regex.Reads (.initial {}) "A|AB".toList st [] ∧ st.flags.verbose = false ∧
      Regex.ofPattern? "A|AB" = some ⟨"A|AB", .alt (Regex.charNode {} 'A')
        (.seq (Regex.charNode {} 'A') (Regex.charNode {} 'B'))⟩ :=
  have hreads : Regex.Reads (.initial {}) "A|AB".toList _ [] :=
    .step rfl rfl (by decide) (.step rfl rfl (by decide) (.step rfl rfl (by decide)
      (.single rfl rfl (by decide))))
  ⟨_, hreads, rfl, hreads.ofPatternWith?_eq rfl (by decide) (by decide)⟩

lemma groupName_zero : groupName 0 = "_0" := by
  rw [groupName, decimalDigits]
  rfl

lemma groupName_one : groupName 1 = "_1" := by
  rw [groupName, decimalDigits]
  rfl

/-- The joined pattern is read to its end: seven steps for the first group, a bar, ten steps. -/
lemma isSome_joined :
    (Regex.ofPattern? "(?P<_0>^(?:A)$)|(?P<_1>^(?:A|AB)$)").isSome := by
  have hfirst := @step?_groupName (.initial {}) rfl 0 List.not_mem_nil
  have hsecond := fun st : Regex.State => fun hterse => @step?_groupName st hterse 1
  rw [groupName_zero] at hfirst
  rw [groupName_one] at hsecond
  have hreads : Regex.Reads (.initial {})
      "(?P<_0>^(?:A)$)|(?P<_1>^(?:A|AB)$)".toList _ [] :=
    .step rfl (hfirst "^(?:A)$)|(?P<_1>^(?:A|AB)$)".toList) (by decide)
      (.step rfl rfl (by decide) (.step rfl rfl (by decide) (.step rfl rfl (by decide)
      (.step rfl rfl (by decide) (.step rfl rfl (by decide) (.step rfl rfl (by decide)
      (.step rfl rfl (by decide)
        (.step rfl (hsecond _ rfl (by decide) "^(?:A|AB)$)".toList) (by decide)
          (.step rfl rfl (by decide) (.step rfl rfl (by decide) (.step rfl rfl (by decide)
          (.step rfl rfl (by decide) (.step rfl rfl (by decide) (.step rfl rfl (by decide)
          (.step rfl rfl (by decide) (.step rfl rfl (by decide)
          (.single rfl rfl (by decide))))))))))))))))))
  exact Option.isSome_iff_exists.2 ⟨_, hreads.ofPatternWith?_eq rfl (by decide) (by decide)⟩

lemma exists_ofJson_axisCatalog : ∃ c, ofJson axisCatalog = .ok c := by
  obtain ⟨_, -, -, hscenario⟩ := exists_reads_scenario
  obtain ⟨_, -, -, hsegment⟩ := exists_reads_segment
  obtain ⟨re, hre⟩ := Option.isSome_iff_exists.1 isSome_joined
  have hentries : [("ScenarioAxis", Json.str "A"), ("SegmentAxis", Json.str "A|AB")].mapM
      readMember = .ok [("ScenarioAxis", "A"), ("SegmentAxis", "A|AB")] :=
    mapM_eq_ok_iff.2 (.cons (readMember_eq_ok_iff.2 ⟨rfl, by rw [hscenario]; rfl⟩)
      (.cons (readMember_eq_ok_iff.2 ⟨rfl, by rw [hsegment]; rfl⟩) .nil))
  have hjoined : readJoined [wholeNamed (groupName 0) "A", wholeNamed (groupName 1) "A|AB"] =
      .ok (some re) := by
    have htext : String.intercalate "|" [wholeNamed (groupName 0) "A",
        wholeNamed (groupName 1) "A|AB"] = "(?P<_0>^(?:A)$)|(?P<_1>^(?:A|AB)$)" := by
      rw [groupName_zero, groupName_one]
      rfl
    rw [readJoined, if_neg (by simp), htext, hre]
  exact ⟨_, bind_eq_ok_iff.2 ⟨_, rfl, bind_eq_ok_iff.2 ⟨_, hentries, bind_eq_ok_iff.2
    ⟨_, hjoined, rfl⟩⟩⟩⟩

theorem ofJson_imitated?_segment : ∃ c, ofJson axisCatalog = .ok c ∧
    (∀ m ∈ listed axisCatalog, ∀ pattern, m.2 = .str pattern → Regex.NeverVerbose pattern) ∧
    c.imitated? "AB" = some "SegmentAxis" := by
  obtain ⟨c, hc⟩ := exists_ofJson_axisCatalog
  obtain ⟨_, hscenario, hscenarioTerse, hscenarioNode⟩ := exists_reads_scenario
  obtain ⟨_, hsegment, hsegmentTerse, hsegmentNode⟩ := exists_reads_segment
  have hterse : ∀ m ∈ listed axisCatalog, ∀ pattern, m.2 = .str pattern →
      Regex.NeverVerbose pattern := by
    have hlisted : listed axisCatalog =
      [("ScenarioAxis", .str "A"), ("SegmentAxis", .str "A|AB")] := rfl
    rw [hlisted]
    rintro m hm pattern hpattern
    rcases List.mem_pair.1 hm with rfl | rfl
    · cases hpattern
      exact Regex.neverVerbose_of_reads hscenario hscenarioTerse
    · cases hpattern
      exact Regex.neverVerbose_of_reads hsegment hsegmentTerse
  have hfirst : ¬Imitates "AB" ("ScenarioAxis", .str "A") := by
    rintro ⟨_, ⟨⟩, re, hre, q, hmatch, hend⟩
    obtain rfl := Option.some.inj (hscenarioNode.symm.trans hre)
    obtain ⟨d, s, -, hbehind, rfl⟩ := hmatch
    obtain rfl : s = [] := hend
    have hlength : "AB".toList.length = 1 := congrArg List.length hbehind
    exact absurd hlength (by decide)
  have hsecond : Imitates "AB" ("SegmentAxis", .str "A|AB") := by
    refine ⟨_, rfl, _, hsegmentNode, ⟨some 'B', []⟩, .inr ?_, rfl⟩
    exact ⟨⟨some 'A', ['B']⟩, ⟨'A', ['B'], rfl, rfl, rfl⟩, 'B', [], rfl, rfl, rfl⟩
  refine ⟨c, hc, hterse, ((ofJson_imitated? hc hterse "AB").1 "SegmentAxis").2 ?_⟩
  exact ⟨[("ScenarioAxis", .str "A")], _, [], rfl, rfl, hsecond, by simpa using hfirst⟩

end AxisReplacements

end Disclosure
