import Disclosure.Proofs.Regex.Language
import Disclosure.Proofs.Regex.Marks

/-!
# Captured texts

A layout is a row of parts with two named groups among them. Whenever it matches a whole text, the
groups have captured the texts that their expressions take in it (`Layout.exists_spells`), and it
matches every text that can be spelled so (`Layout.exists_matches_iff`).
-/

namespace Disclosure.Regex

variable {a : Node} {as : List Node} {p q : Place} {c : Captures} {m n : String}

/-- An expression without marks takes a text of its language and passes nothing. -/
lemma PassesAll.of_unmarked (hplain : ∀ a ∈ as, a.IsPlain) (hnames : as.flatMap Node.names = [])
    (h : PassesAll as p q c) : c = [] ∧ ∃ w ∈ languageOf as, p.behind = w ++ q.behind := by
  have hnil := h.names_subset
  rw [hnames, List.subset_nil, Captures.names, List.map_eq_nil_iff] at hnil
  have hlanguage := exists_matches_iff_mem_language (isPlain_seqOf hplain) p q.behind
  simp only [matches_seqOf, language_seqOf] at hlanguage
  exact ⟨hnil, hlanguage.1 ⟨q, h.matchesAll, rfl⟩⟩

/-- A group without marks of its own takes a text of the language of its expression. -/
lemma of_passes_named (hplain : a.IsPlain) (hnames : a.names = [])
    (h : (a.named n).Passes p q c) :
    ∃ w ∈ a.language, p.behind = w ++ q.behind ∧
      c = [(.opens n, w ++ q.behind), (.closes n, q.behind)] := by
  obtain ⟨c', hpasses, rfl⟩ := passes_named.1 h
  have hnames' : [a].flatMap Node.names = [] := by simpa using hnames
  obtain ⟨rfl, w, hw, hbehind⟩ := PassesAll.of_unmarked (List.forall_mem_singleton.2 hplain) hnames'
    (passesAll_singleton.2 hpasses)
  exact ⟨w, mem_languageOf_singleton.1 hw, hbehind, by rw [hbehind]; rfl⟩

/-- Parts in a row, with two groups with names among them. -/
structure Layout where
  front : List Node
  firstName : String
  first : Node
  middle : List Node
  secondName : String
  second : Node
  back : List Node

namespace Layout

variable {l : Layout} {s : List Char}

/-- The parts in a row. -/
def parts (l : Layout) : List Node :=
  l.front ++ l.first.named l.firstName :: (l.middle ++ l.second.named l.secondName :: l.back)

/-- Whether a text can be spelled with these texts of the groups. -/
structure Spells (l : Layout) (s first second : List Char) : Prop where
  first_mem : first ∈ l.first.language
  second_mem : second ∈ l.second.language
  around : ∃ front ∈ languageOf l.front, ∃ middle ∈ languageOf l.middle,
    ∃ back ∈ languageOf l.back, s = front ++ (first ++ (middle ++ (second ++ back)))

/-- Whether the parts have no conditions on places, and no marks but those of the two groups. -/
@[mk_iff] structure IsPlain (l : Layout) : Prop where
  plain : ∀ a ∈ l.front ++ l.first :: (l.middle ++ l.second :: l.back), a.IsPlain
  unmarked : ∀ a ∈ l.front ++ l.first :: (l.middle ++ l.second :: l.back), a.names = []
  ne : l.firstName ≠ l.secondName

instance (l : Layout) : Decidable l.IsPlain :=
  decidable_of_iff' _ (isPlain_iff l)

lemma mem_languageOf_parts :
    s ∈ languageOf l.parts ↔ ∃ first second, l.Spells s first second := by
  simp only [parts, languageOf_append, languageOf_cons, language_named]
  constructor
  · intro h
    obtain ⟨front, hfront, _, h₁, rfl⟩ := Language.mem_mul.1 h
    obtain ⟨first, hfirst, _, h₂, rfl⟩ := Language.mem_mul.1 h₁
    obtain ⟨middle, hmiddle, _, h₃, rfl⟩ := Language.mem_mul.1 h₂
    obtain ⟨second, hsecond, back, hback, rfl⟩ := Language.mem_mul.1 h₃
    exact ⟨first, second, hfirst, hsecond, front, hfront, middle, hmiddle, back, hback, rfl⟩
  · rintro ⟨first, second, h⟩
    obtain ⟨front, hfront, middle, hmiddle, back, hback, rfl⟩ := h.around
    have hsecond := Language.append_mem_mul h.second_mem hback
    have hfirst := Language.append_mem_mul h.first_mem (Language.append_mem_mul hmiddle hsecond)
    exact Language.append_mem_mul hfront hfirst

lemma IsPlain.parts (h : l.IsPlain) : ∀ a ∈ l.parts, a.IsPlain := by
  have hplain := h.plain
  simp only [List.forall_mem_append, List.forall_mem_cons] at hplain
  obtain ⟨hfront, hfirst, hmiddle, hsecond, hback⟩ := hplain
  simp only [Layout.parts, List.forall_mem_append, List.forall_mem_cons]
  exact ⟨hfront, ⟨trivial, hfirst, trivial⟩, hmiddle, ⟨trivial, hsecond, trivial⟩, hback⟩

/-- A match of the whole text captures the texts that it is spelled with, and nothing else. -/
theorem exists_spells (hl : l.IsPlain) (h : (Node.whole l.parts).Passes p q c) :
    ∃ first second, l.Spells p.behind first second ∧
      c.text? l.firstName = some (String.ofList first) ∧
      c.text? l.secondName = some (String.ofList second) ∧
      ∀ n, n ≠ l.firstName → n ≠ l.secondName → c.text? n = none := by
  have hplain := hl.plain
  have hunmarked := hl.unmarked
  simp only [List.forall_mem_append, List.forall_mem_cons] at hplain hunmarked
  obtain ⟨hfront, hfirst, hmiddle, hsecond, hback⟩ := hplain
  obtain ⟨hfront', hfirst', hmiddle', hsecond', hback'⟩ := hunmarked
  obtain ⟨-, hall, hend⟩ := passes_whole_iff.1 h
  -- the parts are passed one after the other, from the front to the back
  obtain ⟨p₁, c₀, _, h₀, ⟨p₂, c₁, _, h₁, hrest, rfl⟩, rfl⟩ := passesAll_append.1 hall
  obtain ⟨p₃, c₂, _, h₂, ⟨p₄, c₃, c₄, h₃, h₄, rfl⟩, rfl⟩ := passesAll_append.1 hrest
  obtain ⟨rfl, front, hw₀, hp⟩ := h₀.of_unmarked hfront (List.flatMap_eq_nil_iff.2 hfront')
  obtain ⟨first, hw₁, hp₁, rfl⟩ := of_passes_named hfirst hfirst' h₁
  obtain ⟨rfl, middle, hw₂, hp₂⟩ := h₂.of_unmarked hmiddle (List.flatMap_eq_nil_iff.2 hmiddle')
  obtain ⟨second, hw₃, hp₃, rfl⟩ := of_passes_named hsecond hsecond' h₃
  obtain ⟨rfl, back, hw₄, hp₄⟩ := h₄.of_unmarked hback (List.flatMap_eq_nil_iff.2 hback')
  rw [hend, List.append_nil] at hp₄
  have hne := hl.ne
  refine ⟨first, second, ⟨hw₁, hw₃, front, hw₀, middle, hw₂, back, hw₄, ?_⟩, ?_, ?_, ?_⟩
  · rw [hp, hp₁, hp₂, hp₃, hp₄]
  · exact text?_eq_some [] _ (by simp [Captures.names, Mark.name, hne]) first p₂.behind
  · exact text?_eq_some _ [] (by simp [Captures.names]) second p₄.behind
  · intro n hn hn'
    exact text?_eq_none (by simp [Captures.names, Mark.name, hn, hn'])

/-- The layout matches the whole texts that can be spelled. -/
theorem exists_matches_iff (hl : l.IsPlain) :
    (∃ p q, p.IsIn s ∧ (Node.whole l.parts).Matches p q) ↔
      ∃ first second, l.Spells s first second :=
  (exists_isIn_matches_whole_iff hl.parts).trans mem_languageOf_parts

end Layout

end Disclosure.Regex
