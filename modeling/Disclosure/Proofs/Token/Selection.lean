import Disclosure.Proofs.Token.Unfolding

/-!
# Selections by leaves

The leaves of a full expansion make a selection: of everything if the wildcard is among them, and
otherwise of the leaves themselves. What it selects can be told from the leaves.
-/

namespace Disclosure

/-- Whether leaves select a token: it is one of them, or one of them stands for every token. -/
def LeavesSelect (leaves : List String) (token : String) : Prop :=
  token ∈ leaves ∨ wildcard ∈ leaves ∨ allToken ∈ leaves

lemma Tokens.contains_ofList {leaves : List String} {token : String} :
    (ofList leaves).contains token ↔ token ∈ leaves := by
  rw [contains_iff, mem_items_ofList]

namespace Selection

variable {leaves : List String} {token : String}

lemma selects_ofTokens :
    (ofTokens (.ofList leaves)).selects token ↔ LeavesSelect leaves token := by
  rw [ofTokens, LeavesSelect]
  split_ifs with hwild
  · rw [Tokens.contains_ofList] at hwild
    simp [selects, hwild]
  · rw [Tokens.contains_ofList] at hwild
    simp [selects, Tokens.contains_ofList, hwild]

lemma isEmpty_ofTokens : (ofTokens (.ofList leaves)).isEmpty ↔ leaves = [] := by
  rw [ofTokens]
  split_ifs with hwild
  · rw [Tokens.contains_ofList] at hwild
    simpa [isEmpty] using List.ne_nil_of_mem hwild
  · rw [isEmpty, Tokens.isEmpty, List.isEmpty_iff, List.eq_nil_iff_forall_not_mem,
      List.eq_nil_iff_forall_not_mem]
    simp only [Tokens.mem_items_ofList]

/-- Beside the wildcard no leaf is listed. -/
lemma mem_listed?_ofTokens :
    (∃ tokens, (ofTokens (.ofList leaves)).listed? = some tokens ∧ token ∈ tokens.items) ↔
      wildcard ∉ leaves ∧ token ∈ leaves := by
  rw [ofTokens]
  split_ifs with hwild
  · rw [Tokens.contains_ofList] at hwild
    simp [listed?, hwild]
  · rw [Tokens.contains_ofList] at hwild
    simp [listed?, hwild, Tokens.mem_items_ofList]

end Selection

end Disclosure
