import Disclosure.Proofs.Regex.Reading
import Disclosure.Proofs.Regex.Search

/-!
# Words in a text

Words of letters and digits, joined by bars and read regardless of case, make a pattern that matches
a text if and only if one of the words occurs in it, up to the case of its letters
(`isMatch_words_iff`).
-/

namespace Disclosure

namespace Unicode

variable {c d : Char}

/-! ### Case folding and ASCII -/

lemma toNat_ofNat_eq_or (n : Nat) : (Char.ofNat n).toNat = n ∨ (Char.ofNat n).toNat = 0 := by
  by_cases h : n.isValidChar
  · left
    rw [Char.ofNat, dif_pos h]
    rfl
  · right
    rw [Char.ofNat, dif_neg h]
    rfl

lemma toNat_ofNat_of_lt {n : Nat} (h : n < 0xD800) : (Char.ofNat n).toNat = n := by
  rw [Char.ofNat, dif_pos (Or.inl h)]
  rfl

/-- The run of the capital letters of ASCII. -/
def capitals : Nat × Nat × Nat × Int := (0x41, 0x5A, 1, 32)

/-- The other runs of case folding lie outside ASCII. -/
lemma eq_capitals_or_le {run : Nat × Nat × Nat × Int} (h : run ∈ foldShifts) :
    run = capitals ∨ 128 ≤ run.1 := by
  revert run
  decide +kernel

/-- No run of case folding leads to capital letters of ASCII. -/
lemma lt_add_of_mem_foldShifts {run : Nat × Nat × Nat × Int} (h : run ∈ foldShifts) :
    0x5A < (run.1 : Int) + run.2.2.2 := by
  revert run
  decide +kernel

lemma covers_capitals_iff {n : Nat} : Shifts.covers capitals n ↔ 0x41 ≤ n ∧ n ≤ 0x5A := by
  rw [Shifts.covers, Bool.and_eq_true, Bool.and_eq_true, decide_eq_true_eq, decide_eq_true_eq]
  simp [capitals, Nat.mod_one]

lemma le_of_covers {run : Nat × Nat × Nat × Int} {n : Nat} (h : Shifts.covers run n) :
    run.1 ≤ n := by
  simp only [Shifts.covers, Bool.and_eq_true, decide_eq_true_eq] at h
  exact h.1.1

lemma eq_capitals_of_covers {run : Nat × Nat × Nat × Int} {n : Nat} (hn : n < 128)
    (hrun : run ∈ foldShifts) (h : Shifts.covers run n) : run = capitals :=
  (eq_capitals_or_le hrun).resolve_right fun hle =>
    absurd (Nat.le_trans hle (le_of_covers h)) (Nat.not_le.2 hn)

lemma foldCase_of_capital (h : 0x41 ≤ d.toNat ∧ d.toNat ≤ 0x5A) :
    foldCase d = Char.ofNat (d.toNat + 32) := by
  have hfind : foldShifts.find? (Shifts.covers · d.toNat) = some capitals :=
    List.find?_cons_of_pos (covers_capitals_iff.2 h)
  rw [foldCase, Shifts.apply, hfind]
  rfl

lemma foldCase_of_ascii (hd : d.toNat < 128) (h : ¬(0x41 ≤ d.toNat ∧ d.toNat ≤ 0x5A)) :
    foldCase d = d := by
  have hfind : foldShifts.find? (Shifts.covers · d.toNat) = none := by
    refine List.find?_eq_none.2 fun run hrun hcovers => h ?_
    rw [eq_capitals_of_covers hd hrun hcovers] at hcovers
    exact covers_capitals_iff.1 hcovers
  rw [foldCase, Shifts.apply, hfind]

/-- No character folds to a capital letter of ASCII. -/
lemma not_capital_foldCase (c : Char) :
    ¬(0x41 ≤ (foldCase c).toNat ∧ (foldCase c).toNat ≤ 0x5A) := by
  rw [foldCase, Shifts.apply]
  cases hfind : foldShifts.find? (Shifts.covers · c.toNat) with
  | none =>
    intro h
    exact List.find?_eq_none.1 hfind capitals List.mem_cons_self (covers_capitals_iff.2 h)
  | some run =>
    have hcovers : Shifts.covers run c.toNat := by simpa using List.find?_some hfind
    have hle : run.1 ≤ c.toNat := le_of_covers hcovers
    have hlt := lt_add_of_mem_foldShifts (List.mem_of_find?_eq_some hfind)
    have hfold := toNat_ofNat_eq_or (c.toNat + run.2.2.2).toNat
    simp only
    omega

/-- In ASCII only the capital letters fold to other characters. -/
lemma mem_preimage_foldShifts_iff (hd : d.toNat < 128) (hzero : d.toNat ≠ 0) (f : Char) :
    d ∈ foldShifts.preimage f ↔ (0x41 ≤ d.toNat ∧ d.toNat ≤ 0x5A) ∧ f.toNat = d.toNat + 32 := by
  simp only [Shifts.preimage, List.mem_filterMap, Option.ite_none_right_eq_some, Option.some.injEq]
  constructor
  · rintro ⟨run, hrun, hcovers, heq⟩
    have hn : (f.toNat - run.2.2.2 : Int).toNat = d.toNat := by
      rw [← heq] at hzero ⊢
      exact ((toNat_ofNat_eq_or _).resolve_right hzero).symm
    rw [hn] at hcovers
    obtain rfl := eq_capitals_of_covers hd hrun hcovers
    have hcapital := covers_capitals_iff.1 hcovers
    refine ⟨hcapital, ?_⟩
    simp only [capitals] at hn
    omega
  · rintro ⟨hcapital, hf⟩
    have hn : (f.toNat - capitals.2.2.2 : Int).toNat = d.toNat := by
      simp only [capitals]
      omega
    refine ⟨capitals, List.mem_cons_self, ?_, ?_⟩
    · rw [hn]
      exact covers_capitals_iff.2 hcapital
    · rw [hn, Char.ofNat_toNat]

/-- The characters equal up to case to a letter or digit of ASCII have the same folding. -/
lemma mem_caseOrbit_iff (hd : d.toNat < 128) (hzero : d.toNat ≠ 0) :
    d ∈ caseOrbit c ↔ foldCase c = foldCase d := by
  rw [caseOrbit, List.mem_cons, mem_preimage_foldShifts_iff hd hzero]
  by_cases hcapital : 0x41 ≤ d.toNat ∧ d.toNat ≤ 0x5A
  · have htoNat : (foldCase d).toNat = d.toNat + 32 := by
      rw [foldCase_of_capital hcapital]
      exact toNat_ofNat_of_lt (by omega)
    have hne : d ≠ foldCase c := fun heq => not_capital_foldCase c (heq ▸ hcapital)
    rw [or_iff_right hne, ← Char.toNat_inj (d := foldCase d), htoNat]
    exact and_iff_right hcapital
  · rw [foldCase_of_ascii hd hcapital]
    simp only [hcapital, false_and, or_false]
    exact eq_comm

end Unicode

namespace Regex

variable {st : State} {f : Flags} {c d : Char} {s w : List Char} {ws : List (List Char)}
  {p q : Place}

/-! ### Reading -/

/-- The expression of characters that stand for themselves. -/
def wordNode (f : Flags) (w : List Char) : Node :=
  .seqOf (w.map (charNode f))

lemma branch_spell (hparts : st.current.parts = []) (w : List Char) :
    (st.spell w).current.branch.value = wordNode st.flags w := by
  simp [State.spell, Group.branch, hparts, wordNode, List.filterMap_map, Function.comp_def]

/-- Words joined by bars are read as further branches of the group. -/
lemma readPattern?_words (hterse : st.flags.verbose = false) (houter : st.outer = [])
    (hname : st.current.name = none) (hparts : st.current.parts = [])
    (hws : ∀ w' ∈ w :: ws, ∀ c ∈ w', c ∉ metaCharacters) :
    (readPattern? st (List.intercalate ['|'] (w :: ws))).map (·.value) =
      some (.altOf (st.current.branches.reverse.map (·.value) ++
        (w :: ws).map (wordNode st.flags))) := by
  induction ws generalizing st w with
  | nil =>
    have hread := (reads_spell hterse (hws w List.mem_cons_self) []).readPattern?_eq
    have hname' : (st.spell w).current.name = none := hname
    have houter' : (st.spell w).outer.isEmpty := List.isEmpty_iff.2 houter
    rw [List.append_nil, readPattern?_nil, if_pos houter'] at hread
    rw [List.intercalate_singleton, hread, Option.map_some, Group.close, hname']
    simp only [List.reverse_cons, List.map_append, List.map_singleton, branch_spell hparts]
    rfl
  | cons w' ws ih =>
    let st' : State := { st.spell w with current := (st.spell w).current.split }
    have hsplit : Reads st (w ++ '|' :: List.intercalate ['|'] (w' :: ws)) st'
        (List.intercalate ['|'] (w' :: ws)) :=
      (reads_spell hterse (hws w List.mem_cons_self) _).trans (.single hterse rfl (by simp))
    have hrest := @ih st' w' hterse houter hname rfl
      fun v hv => hws v (List.mem_cons_of_mem w hv)
    have hbranches : st'.current.branches.reverse.map (·.value) =
        st.current.branches.reverse.map (·.value) ++ [wordNode st.flags w] := by
      simp only [st', Group.split, List.reverse_cons, List.map_append, List.map_singleton,
        branch_spell hparts]
      rfl
    rw [List.intercalate_cons_cons, List.append_assoc, List.singleton_append,
      hsplit.readPattern?_eq, hrest, hbranches, List.append_assoc]
    rfl

/-! ### Matching -/

lemma contains_folded_single (hd : d.toNat < 128) (hzero : d.toNat ≠ 0) :
    (CharClass.folded (.single d)).contains c ↔ Unicode.foldCase c = Unicode.foldCase d := by
  have hany : (Unicode.caseOrbit c).any (CharClass.single d).contains ↔
      d ∈ Unicode.caseOrbit c := by
    simp [List.any_eq_true, contains_single]
  rw [CharClass.contains, Bool.or_eq_true, hany, Unicode.mem_caseOrbit_iff hd hzero,
    contains_single, decide_eq_true_eq]
  exact or_iff_right_of_imp fun heq => heq ▸ rfl

/-- The flag under which the case of letters does not matter. -/
def anyCase : Flags := { caseInsensitive := true }

/-- A word matches where characters with its case folding follow one another. -/
lemma exists_matches_wordNode_iff (hw : ∀ d ∈ w, d.toNat < 128 ∧ d.toNat ≠ 0) (p : Place) :
    (∃ q, (wordNode anyCase w).Matches p q) ↔
      ∃ mid rest, p.behind = mid ++ rest ∧
        mid.map Unicode.foldCase = w.map Unicode.foldCase := by
  simp only [wordNode, matches_seqOf]
  induction w generalizing p with
  | nil => exact iff_of_true ⟨p, rfl⟩ ⟨[], p.behind, rfl, rfl⟩
  | cons d w ih =>
    obtain ⟨⟨hd, hzero⟩, hw⟩ := List.forall_mem_cons.1 hw
    have hchar : ∀ c, (CharClass.folded (.single d)).contains c ↔
      Unicode.foldCase c = Unicode.foldCase d := fun c => contains_folded_single hd hzero
    change (∃ r, ∃ q, (Node.chars (.folded (.single d))).Matches p q ∧
      MatchesAll (w.map (charNode anyCase)) q r) ↔ _
    simp only [Node.Matches, hchar]
    constructor
    · rintro ⟨r, _, ⟨c, s, hc, hbehind, rfl⟩, hmatch⟩
      obtain ⟨mid, rest, rfl, hmid⟩ := (ih hw _).1 ⟨r, hmatch⟩
      exact ⟨c :: mid, rest, hbehind, by rw [List.map_cons, List.map_cons, hc, hmid]⟩
    · rintro ⟨chars, rest, hbehind, hchars⟩
      obtain ⟨c, mid, rfl, hc, hmid⟩ := List.map_eq_cons_iff.1 hchars
      obtain ⟨r, hmatch⟩ := (ih hw ⟨some c, mid ++ rest⟩).2 ⟨mid, rest, rfl, hmid⟩
      exact ⟨r, _, ⟨c, mid ++ rest, hc, hbehind, rfl⟩, hmatch⟩

/-- A word is matched somewhere in the texts in which it occurs. -/
lemma exists_isIn_matches_wordNode_iff (hw : ∀ d ∈ w, d.toNat < 128 ∧ d.toNat ≠ 0) :
    (∃ p : Place, p.IsIn s ∧ ∃ q, (wordNode anyCase w).Matches p q) ↔
      w.map Unicode.foldCase <:+: s.map Unicode.foldCase := by
  simp only [exists_matches_wordNode_iff hw]
  constructor
  · rintro ⟨p, ⟨passed, rfl, -⟩, mid, rest, hbehind, hmid⟩
    refine ⟨passed.map Unicode.foldCase, rest.map Unicode.foldCase, ?_⟩
    rw [← hmid, hbehind, List.map_append, List.map_append, List.append_assoc]
  · rintro ⟨pre, post, heq⟩
    obtain ⟨front, rest, rfl, hfront, -⟩ := List.map_eq_append_iff.1 heq.symm
    obtain ⟨passed, mid, rfl, -, hmid⟩ := List.map_eq_append_iff.1 hfront
    exact ⟨⟨passed.getLast?, mid ++ rest⟩, ⟨passed, by rw [List.append_assoc], rfl⟩, mid, rest, rfl,
      hmid⟩

lemma not_mem_metaCharacters (h : c.isAlphanum) : c ∉ metaCharacters := by
  have hmeta : metaCharacters.all fun d => !d.isAlphanum := rfl
  intro hc
  have hother := List.all_eq_true.1 hmeta c hc
  rw [h] at hother
  cases hother

lemma ascii_of_isAlphanum (h : c.isAlphanum) : c.toNat < 128 ∧ c.toNat ≠ 0 := by
  have hrange : (65 ≤ c.toNat ∧ c.toNat ≤ 90) ∨ (97 ≤ c.toNat ∧ c.toNat ≤ 122) ∨
      48 ≤ c.toNat ∧ c.toNat ≤ 57 := by
    rcases Bool.or_eq_true_iff.1 h with halpha | hdigit
    · rcases Bool.or_eq_true_iff.1 halpha with hupper | hlower
      · exact .inl (of_decide_eq_true hupper)
      · have hbounds := Bool.and_eq_true_iff.1 hlower
        exact .inr (.inl ⟨of_decide_eq_true hbounds.1, of_decide_eq_true hbounds.2⟩)
    · exact .inr (.inr (Char.isDigit_iff_toNat.1 hdigit))
  omega

/-- A pattern of words regardless of case matches the texts in which one of them occurs. -/
theorem isMatch_words_iff {words : List String} (hne : words ≠ [])
    (hwords : ∀ w ∈ words, ∀ c ∈ w.toList, c.isAlphanum) {re : Regex}
    (hre : ofPatternWith? anyCase (String.intercalate "|" words) = some re) (s : String) :
    re.isMatch s ↔ ∃ w ∈ words,
      w.toList.map Unicode.foldCase <:+: s.toList.map Unicode.foldCase := by
  have hnode : re.node = .altOf (words.map fun w => wordNode anyCase w.toList) := by
    obtain ⟨depth, hread⟩ := exists_readPattern?_eq hre
    obtain ⟨w, ws, rfl⟩ := List.exists_cons_of_ne_nil hne
    have hmeta : ∀ cs ∈ (w :: ws).map String.toList, ∀ c ∈ cs, c ∉ metaCharacters := by
      intro cs hcs c hc
      obtain ⟨w', hw', rfl⟩ := List.mem_map.1 hcs
      exact not_mem_metaCharacters (hwords w' hw' c hc)
    have hchoice := @readPattern?_words (.initial anyCase) _ _ rfl rfl rfl rfl hmeta
    rw [String.toList_intercalate] at hread
    have hvalue := (congrArg (Option.map (·.value)) hread).symm.trans hchoice
    simpa [State.initial, Function.comp_def] using hvalue
  have halts : words.map (fun w => wordNode anyCase w.toList) ≠ [] := by simpa using hne
  have hascii : ∀ w ∈ words, ∀ c ∈ w.toList, c.toNat < 128 ∧ c.toNat ≠ 0 :=
    fun w hw c hc => ascii_of_isAlphanum (hwords w hw c hc)
  rw [isMatch_iff, hnode]
  simp only [matches_altOf halts, List.mem_map, exists_exists_and_eq_and]
  constructor
  · rintro ⟨p, q, hp, w, hw, hmatch⟩
    exact ⟨w, hw, (exists_isIn_matches_wordNode_iff (hascii w hw)).1 ⟨p, hp, q, hmatch⟩⟩
  · rintro ⟨w, hw, hinfix⟩
    obtain ⟨p, hp, q, hmatch⟩ := (exists_isIn_matches_wordNode_iff (hascii w hw)).2 hinfix
    exact ⟨p, q, hp, w, hw, hmatch⟩

end Regex

end Disclosure
