import Mathlib.Data.List.TakeWhile
import Disclosure.Proofs.Regex.Reading

/-!
# Reading in front of a parenthesis

What a part of a pattern is read as does not depend on a closing parenthesis behind it: where
reading succeeds on a text, it takes the same part of the text when a parenthesis follows (`Local`).
None of the readers looks further ahead than at the next character, and none of them goes on with a
closing parenthesis. Verbose patterns are left out, where a comment would swallow the parenthesis.
-/

namespace Disclosure.Regex

variable {α β : Type} {f : Flags} {s rest t u : List Char} {c : Char}

/-- Whether a reader that succeeds does the same in front of a closing parenthesis. -/
def Local (r : List Char → Option (α × List Char)) : Prop :=
  ∀ ⦃s a rest⦄ (t : List Char), r s = some (a, rest) →
    r (s ++ ')' :: t) = some (a, rest ++ ')' :: t)

lemma Local.map {r : List Char → Option (α × List Char)} (hr : Local r) (g : α → β) :
    Local fun s => (r s).map fun (a, rest) => (g a, rest) := by
  intro s b rest t h
  obtain ⟨⟨a, rest'⟩, ha, ⟨⟩⟩ := Option.map_eq_some_iff.1 h
  exact Option.map_eq_some_iff.2 ⟨_, hr t ha, rfl⟩

lemma map_pair_append {o : Option α} {g : α → β} {b : β}
    (h : o.map (fun a => (g a, s)) = some (b, rest)) :
    o.map (fun a => (g a, s ++ u)) = some (b, rest ++ u) := by
  obtain ⟨a, rfl, ⟨⟩⟩ := Option.map_eq_some_iff.1 h
  rfl

lemma bind_pair_append {o : Option α} {b : α} (h : (do return (← o, s)) = some (b, rest)) :
    (do return (← o, s ++ u)) = some (b, rest ++ u) := by
  obtain ⟨a, rfl, ⟨⟩⟩ := Option.bind_eq_some_iff.1 h
  rfl

/-- A text does not begin otherwise when a closing parenthesis follows. -/
lemma append_ne (start : List Char) (hstart : ')' ∉ start) (h : ∀ s', s ≠ start ++ s')
    (s' : List Char) : s ++ ')' :: t ≠ start ++ s' := by
  induction start generalizing s with
  | nil => exact absurd rfl (h s)
  | cons c start ih =>
    rw [List.mem_cons, not_or] at hstart
    cases s with
    | nil =>
      intro heq
      exact hstart.1 (List.cons.inj heq).1
    | cons d s =>
      intro heq
      obtain ⟨rfl, hrest⟩ := List.cons.inj heq
      exact ih hstart.2 (fun s'' hs => h s'' (by rw [hs]; rfl)) hrest

/-- What ends within a text ends at the same place when more follows. -/
lemma span_append {p : α → Bool} {s rest u : List α} {c : α} (h : s.dropWhile p = c :: rest) :
    (s ++ u).takeWhile p = s.takeWhile p ∧ (s ++ u).dropWhile p = c :: (rest ++ u) := by
  have hne : ¬(s.takeWhile p).length = s.length := by
    intro hlength
    have hall := congrArg List.length (List.takeWhile_append_dropWhile (p := p) (l := s))
    rw [List.length_append, hlength, h, List.length_cons] at hall
    omega
  rw [List.takeWhile_append, if_neg hne, List.dropWhile_append, h]
  exact ⟨rfl, rfl⟩

/-! ### Escapes -/

lemma local_readHexDigits? (hf : f.verbose = false) (n : Nat) : Local (readHexDigits? f n) := by
  intro s ds rest t h
  induction n generalizing s ds with
  | zero =>
    cases h
    rfl
  | succ n ih =>
    rw [readHexDigits?, skip_eq hf] at h ⊢
    cases s with
    | nil => cases h
    | cons c s =>
      obtain ⟨⟨ds', rest'⟩, hds, ⟨⟩⟩ := Option.bind_eq_some_iff.1 h
      exact Option.bind_eq_some_iff.2 ⟨_, ih hds, rfl⟩

lemma local_readNumber? (hf : f.verbose = false) (n : Nat) : Local (readNumber? f n) := by
  intro s c rest t h
  simp only [readNumber?, skip_eq hf] at h ⊢
  split at h
  · split at h
    · next hbrace =>
      obtain ⟨htake, hdrop⟩ := span_append (u := ')' :: t) hbrace
      simp only [List.cons_append, htake, hdrop]
      split_ifs at h ⊢
      simp only [Option.bind_eq_bind, Option.bind_eq_some_iff] at h ⊢
      obtain ⟨number, hnumber, _, hc, ⟨⟩⟩ := h
      exact ⟨number, hnumber, _, hc, rfl⟩
    · cases h
  · next hbrace =>
    split
    · next heq => exact absurd heq (append_ne ['{'] (by decide) hbrace _)
    · obtain ⟨⟨ds, rest'⟩, hds, h⟩ := Option.bind_eq_some_iff.1 h
      refine Option.bind_eq_some_iff.2 ⟨_, local_readHexDigits? hf n t hds, ?_⟩
      simp only [Option.bind_eq_bind, Option.bind_eq_some_iff] at h ⊢
      obtain ⟨number, hnumber, c', hc, h⟩ := h
      refine ⟨number, hnumber, c', hc, ?_⟩
      split_ifs at h ⊢
      cases h
      rfl

lemma local_readProperty? (hf : f.verbose = false) : Local (readProperty? f) := by
  intro s a rest t h
  simp only [readProperty?, skip_eq hf] at h ⊢
  split at h
  · cases h
  · split at h
    · next hbrace =>
      obtain ⟨htake, hdrop⟩ := span_append (u := ')' :: t) hbrace
      simp only [List.cons_append, htake, hdrop]
      exact map_pair_append h
    · cases h
  · cases h
  · next c s hbrace hescape =>
    rw [List.cons_append]
    split
    · next heq => cases heq
    · next heq => exact (hbrace (List.cons.inj heq).1).elim
    · next heq => exact (hescape (List.cons.inj heq).1).elim
    · next heq =>
      cases heq
      exact map_pair_append h

lemma local_readBoundary? (hf : f.verbose = false) : Local (readBoundary? f) := by
  intro s kind rest t h
  simp only [readBoundary?, skip_eq hf] at h ⊢
  split at h
  · next s =>
    split at h
    · cases h
    · next c s =>
      simp only [List.cons_append]
      split_ifs at h ⊢ with hletter
      · split at h
        · next hbrace =>
          obtain ⟨htake, hdrop⟩ := span_append (u := ')' :: t) hbrace
          simp only [List.cons_append] at htake hdrop
          simp only [htake, hdrop]
          exact map_pair_append h
        · cases h
      · cases h
        rfl
  · next hbrace =>
    cases h
    split
    · next heq => exact absurd heq (append_ne ['{'] (by decide) hbrace _)
    · rfl

lemma local_readEscape? (hf : f.verbose = false) : Local (readEscape? f) := by
  rintro (_ | ⟨c, s⟩) a rest t h
  · cases h
  have hproperty := local_readProperty? hf
  change (if isEscapable c then _ else _) = _ at h
  change (if isEscapable c then _ else _) = _
  by_cases hc : isEscapable c
  · rw [if_pos hc] at h ⊢
    cases h
    rfl
  rw [if_neg hc] at h ⊢
  split at h
  · exact (local_readNumber? hf 2).map Atom.char t h
  · exact (local_readNumber? hf 4).map Atom.char t h
  · exact (local_readNumber? hf 8).map Atom.char t h
  iterate 6 exact map_pair_append h
  · split_ifs at h ⊢ with hunicode hfold
    · exact hproperty.map (fun a => Atom.set (.folded a)) t h
    · exact hproperty.map Atom.set t h
  · split_ifs at h ⊢ with hunicode hfold
    · exact hproperty.map (fun a => Atom.set (.compl (.folded a))) t h
    · exact hproperty.map (fun a => Atom.set (.compl a)) t h
  · cases h
    rfl
  · cases h
    rfl
  · exact (local_readBoundary? hf).map (fun k => Atom.place (.boundary k f.unicode)) t h
  · cases h
    rfl
  · cases h
    rfl
  · cases h
    rfl
  · exact map_pair_append h

/-! ### Brackets -/

/-- No class of ASCII has a parenthesis in its name. -/
lemma posixClass?_eq_none {name : List Char} (h : ')' ∈ name) : posixClass? name = none := by
  rw [posixClass?]
  split
  case h_15 => rfl
  all_goals
    next heq =>
      have hname := congrArg String.toList heq
      rw [String.toList_ofList] at hname
      rw [hname] at h
      revert h
      decide

/-- The sign of negation at the beginning of a class. -/
def readCaret (s : List Char) : Bool × List Char :=
  match s with
  | '^' :: s' => (true, s')
  | _ => (false, s)

lemma readCaret_append (s t : List Char) :
    readCaret (s ++ ')' :: t) = ((readCaret s).1, (readCaret s).2 ++ ')' :: t) := by
  rw [readCaret.eq_def s]
  split
  · rfl
  · next hcaret =>
    rw [readCaret]
    exact fun s' => append_ne ['^'] (by decide) hcaret s'

/-- The name of a class of ASCII behind its colon, and what it is closed by. -/
def readPosixName? (f : Flags) (negated : Bool) (s : List Char) : Option (CharClass × List Char) :=
  match s.dropWhile (· != ':') with
  | ':' :: ']' :: rest =>
    (posixClass? (s.takeWhile (· != ':'))).map fun a => (.negateIf negated (foldIf f a), rest)
  | _ => none

lemma readPosix?_eq (f : Flags) (s : List Char) :
    readPosix? f (':' :: s) = readPosixName? f (readCaret s).1 (readCaret s).2 := rfl

lemma readPosixName?_append (f : Flags) (negated : Bool) (s t : List Char) :
    readPosixName? f negated (s ++ ')' :: t) =
      (readPosixName? f negated s).map fun (a, rest) => (a, rest ++ ')' :: t) := by
  rw [readPosixName?.eq_def f negated s]
  split
  · next rest hname =>
    obtain ⟨htake, hdrop⟩ := span_append (u := ')' :: t) hname
    rw [readPosixName?, hdrop, htake]
    simp only [List.cons_append, Option.map_map]
    rfl
  · next hname =>
    rw [Option.map_none, readPosixName?]
    split
    · next rest hend =>
      cases hcolon : s.dropWhile (· != ':') with
      | nil =>
        have hall : s.takeWhile (· != ':') = s := by
          rw [← List.append_nil (s.takeWhile _), ← hcolon, List.takeWhile_append_dropWhile]
        have hparenthesis : ')' ∈ (s ++ ')' :: t).takeWhile (· != ':') := by
          rw [List.takeWhile_append, if_pos (by rw [hall])]
          simp
        rw [posixClass?_eq_none hparenthesis]
        rfl
      | cons c after =>
        rw [(span_append hcolon).2] at hend
        obtain ⟨rfl, hrest⟩ := List.cons.inj hend
        have hclosed : ∀ after', after ≠ ']' :: after' := fun after' heq =>
          hname after' (by rw [hcolon, heq])
        exact absurd hrest (append_ne [']'] (by decide) hclosed rest)
    · rfl

lemma readPosix?_append (f : Flags) (s t : List Char) :
    readPosix? f (s ++ ')' :: t) =
      (readPosix? f s).map fun (a, rest) => (a, rest ++ ')' :: t) := by
  rw [readPosix?.eq_def f s]
  split
  · next s =>
    exact (readPosix?_eq f _).trans (readCaret_append s t ▸ readPosixName?_append f _ _ t)
  · next hcolon =>
    rw [readPosix?]
    · rfl
    · exact fun s' => append_ne [':'] (by decide) hcolon s'

lemma local_readMember? (hf : f.verbose = false) : Local (readMember? f) := by
  intro s a rest t h
  rw [readMember?.eq_def] at h ⊢
  split at h
  · cases h
  · exact local_readEscape? hf t h
  · next c s hescape =>
    cases h
    rw [List.cons_append]
    split
    · next heq => cases heq
    · next heq => exact (hescape (List.cons.inj heq).1).elim
    · next heq =>
      cases heq
      rfl

lemma local_readRange? (hf : f.verbose = false) : Local (readRange? f) := by
  intro s a rest t h
  obtain ⟨⟨first, after⟩, hfirst, h⟩ := Option.bind_eq_some_iff.1 h
  refine Option.bind_eq_some_iff.2 ⟨_, local_readMember? hf t hfirst, ?_⟩
  simp only [skip_eq hf] at h ⊢
  split at h
  · cases h
  · next after =>
    cases after with
    | nil => cases h
    | cons d after =>
      simp only [List.head?_cons, List.cons_append] at h ⊢
      split at h
      · exact bind_pair_append h
      · exact bind_pair_append h
      · cases h
      · obtain ⟨⟨last, rest'⟩, hlast, h⟩ := Option.bind_eq_some_iff.1 h
        refine Option.bind_eq_some_iff.2 ⟨_, local_readMember? hf t hlast, ?_⟩
        cases first with
        | char a' =>
          cases last with
          | char b' =>
            simp only [Option.bind_eq_bind, Option.bind_eq_some_iff] at h ⊢
            obtain ⟨_, ha, _, hb, h⟩ := h
            refine ⟨_, ha, _, hb, ?_⟩
            split_ifs at h ⊢
            cases h
            rfl
          | _ => cases h
        | _ => cases h
  · next hhyphen =>
    split
    · next heq => simp at heq
    · next heq => exact absurd heq (append_ne ['-'] (by decide) hhyphen _)
    · exact bind_pair_append h

lemma readHyphens_append (hf : f.verbose = false) (b : Bracket) (s t : List Char) :
    readHyphens f b (s ++ ')' :: t) =
      ((readHyphens f b s).1, (readHyphens f b s).2 ++ ')' :: t) := by
  induction s generalizing b with
  | nil => simp [readHyphens, hf]
  | cons c s ih =>
    rw [List.cons_append, readHyphens, readHyphens]
    split_ifs
    · exact ih _
    · exact ih _
    · rfl

lemma openBracket?_eq (hf : f.verbose = false) (s : List Char) :
    openBracket? f s =
      let (b, s) := readHyphens f ⟨(readCaret s).1, none, .none, []⟩ (readCaret s).2
      match s with
      | [] => none
      | ']' :: s' =>
        if b.union = .none then if s'.isEmpty then none else some (b.add (.single ']') 0, s')
        else some (b, s)
      | _ => some (b, s) := by
  simp only [openBracket?, skip_eq hf]
  rfl

lemma local_openBracket? (hf : f.verbose = false) : Local (openBracket? f) := by
  intro s b rest t h
  rw [openBracket?_eq hf] at h ⊢
  rw [readCaret_append, readHyphens_append hf]
  generalize readHyphens f ⟨(readCaret s).1, none, .none, []⟩ (readCaret s).2 = r at h ⊢
  obtain ⟨b', s'⟩ := r
  dsimp only at h ⊢
  split at h
  · cases h
  · next s' =>
    simp only [List.cons_append]
    split_ifs at h ⊢ with hunion hempty
    · simp at hempty
    · cases h
      rfl
    · cases h
      rfl
  · next hnil hbracket =>
    cases h
    split
    · next heq => simp at heq
    · next heq => exact absurd heq (append_ne [']'] (by decide) hbracket _)
    · rfl

/-- A step of reading a class in front of further text. -/
def BracketStep.append (t : List Char) : BracketStep → BracketStep
  | .more b rest => .more b (rest ++ t)
  | .nested inner rest => .nested inner (rest ++ t)
  | .closed rest => .closed (rest ++ t)

lemma bracketStep?_append (hf : f.verbose = false) {b : Bracket} {st : BracketStep}
    (h : bracketStep? f b s = some st) (t : List Char) :
    bracketStep? f b (s ++ ')' :: t) = some (st.append (')' :: t)) := by
  rw [bracketStep?.eq_def] at h ⊢
  split at h
  · cases h
  · cases h
    rfl
  · next s =>
    simp only [List.cons_append, readPosix?_append]
    cases hposix : readPosix? f s with
    | some r =>
      rw [hposix] at h
      cases h
      rfl
    | none =>
      rw [hposix] at h
      obtain ⟨⟨inner, rest⟩, hopen, ⟨⟩⟩ := Option.map_eq_some_iff.1 h
      exact Option.map_eq_some_iff.2 ⟨_, local_openBracket? hf t hopen, rfl⟩
  · cases h
    rfl
  · cases h
    rfl
  · cases h
    rfl
  · next hnil hclose hopen hinter hdiff hsymm =>
    obtain ⟨⟨a, rest⟩, hrange, ⟨⟩⟩ := Option.map_eq_some_iff.1 h
    have hrange' := local_readRange? hf t hrange
    split
    · next heq => simp at heq
    · next heq => exact absurd heq (append_ne [']'] (by decide) hclose _)
    · next heq => exact absurd heq (append_ne ['['] (by decide) hopen _)
    · next heq => exact absurd heq (append_ne ['&', '&'] (by decide) hinter _)
    · next heq => exact absurd heq (append_ne ['-', '-'] (by decide) hdiff _)
    · next heq => exact absurd heq (append_ne ['~', '~'] (by decide) hsymm _)
    · exact Option.map_eq_some_iff.2 ⟨_, hrange', rfl⟩

lemma local_readBracket? (hf : f.verbose = false) (outer : List Bracket) (b : Bracket) :
    Local (readBracket? f outer b) := by
  intro s a rest t h
  induction hs : s.length using Nat.strong_induction_on generalizing s outer b with
  | _ n ih =>
    rw [readBracket?, skip_eq hf] at h ⊢
    cases hstep : bracketStep? f b s with
    | none =>
      rw [hstep] at h
      cases h
    | some st =>
      rw [hstep] at h
      rw [bracketStep?_append hf hstep]
      cases st with
      | more b' rest' =>
        dsimp only [BracketStep.append] at h ⊢
        split_ifs at h with hlt
        rw [if_pos (by simpa using hlt)]
        exact ih _ (hs ▸ hlt) outer b' h rfl
      | nested inner rest' =>
        dsimp only [BracketStep.append] at h ⊢
        split_ifs at h with hlt
        rw [if_pos (by simpa using hlt)]
        exact ih _ (hs ▸ hlt) (b :: outer) inner h rfl
      | closed rest' =>
        dsimp only [BracketStep.append] at h ⊢
        cases outer with
        | nil =>
          dsimp only at h ⊢
          split_ifs at h ⊢
          cases h
          rfl
        | cons b' outer =>
          dsimp only at h ⊢
          split_ifs at h with hlt
          rw [if_pos (by simpa using hlt)]
          exact ih _ (hs ▸ hlt) outer _ h rfl

lemma local_readClass? (hf : f.verbose = false) : Local (readClass? f) := by
  intro s a rest t h
  obtain ⟨⟨b, rest'⟩, hopen, hread⟩ := Option.bind_eq_some_iff.1 h
  exact Option.bind_eq_some_iff.2
    ⟨_, local_openBracket? hf t hopen, local_readBracket? hf [] b t hread⟩

/-! ### Repetitions -/

lemma readLazy_append (s t : List Char) :
    readLazy (s ++ ')' :: t) = ((readLazy s).1, (readLazy s).2 ++ ')' :: t) := by
  cases s with
  | nil => rfl
  | cons c s =>
    rw [List.cons_append, readLazy.eq_def, readLazy.eq_def]
    split
    · next heq =>
      cases heq
      rfl
    · next hlazy =>
      split
      · next heq =>
        cases heq
        exact absurd rfl (hlazy _)
      · rfl

lemma trimLeft_append (s t : List Char) :
    Text.trimLeft (s ++ ')' :: t) = Text.trimLeft s ++ ')' :: t := by
  rw [Text.trimLeft, Text.trimLeft, List.dropWhile_append]
  split_ifs with hnil
  · rw [List.isEmpty_iff.1 hnil]
    rfl
  · rfl

lemma local_digits (f : Flags) (n : Nat) (any : Bool) : Local (readCount?.digits f n any) := by
  intro s number rest t h
  induction s generalizing n any with
  | nil => cases h
  | cons c s ih =>
    rw [List.cons_append]
    rw [readCount?.digits] at h ⊢
    split_ifs at h ⊢
    · exact ih _ _ h
    · exact ih _ _ h
    · cases h
      rfl

lemma local_readCount? (hf : f.verbose = false) : Local (readCount? f) := by
  intro s n rest t h
  simp only [readCount?, trimLeft_append, skip_eq hf] at h ⊢
  split at h
  · next hdigits =>
    rw [local_digits f 0 false t hdigits]
    simp only [trimLeft_append]
    split_ifs at h ⊢
    cases h
    rfl
  · cases h

lemma readBounds?_append (hf : f.verbose = false) {lo : Nat} {hi : Option Nat}
    (h : readBounds? f s = some (lo, hi, rest)) (t : List Char) :
    readBounds? f (s ++ ')' :: t) = some (lo, hi, rest ++ ')' :: t) := by
  obtain ⟨⟨n, after⟩, hcount, h⟩ := Option.bind_eq_some_iff.1 h
  rw [skip_eq hf] at hcount
  have hcount' := local_readCount? hf t hcount
  rw [← skip_eq hf (s ++ ')' :: t)] at hcount'
  refine Option.bind_eq_some_iff.2 ⟨_, hcount', ?_⟩
  simp only [skip_eq hf] at h ⊢
  split at h
  · cases h
    rfl
  · next after =>
    simp only [List.cons_append]
    split at h
    · cases h
      rfl
    · next hbrace =>
      split
      · next heq => exact absurd heq (append_ne ['}'] (by decide) hbrace _)
      · obtain ⟨⟨m, after'⟩, hcount, h⟩ := Option.bind_eq_some_iff.1 h
        refine Option.bind_eq_some_iff.2 ⟨_, local_readCount? hf t hcount, ?_⟩
        dsimp only at h ⊢
        split at h
        · simp only [List.cons_append]
          split_ifs at h ⊢
          cases h
          rfl
        · cases h
  · cases h

/-! ### Groups -/

lemma local_readFlags (f : Flags) (negated : Bool) (seen : List Char) :
    Local (readFlags f negated seen) := by
  intro s g rest t h
  induction s generalizing f negated seen with
  | nil => cases h
  | cons c s ih =>
    rw [List.cons_append]
    rw [readFlags] at h ⊢
    split_ifs at h ⊢
    · cases h
      rfl
    · exact ih _ _ _ h
    · obtain ⟨g', hg, h⟩ := Option.bind_eq_some_iff.1 h
      exact Option.bind_eq_some_iff.2 ⟨g', hg, ih _ _ _ h⟩

end Disclosure.Regex
