import Disclosure.Proofs.Json.Reading

/-!
# Keys of objects

A key that is set keeps its place among the keys of an object, or becomes the last one
(`Members.keys_put`). So the objects that texts are read into have no key twice
(`nodup_keys_of_ofText`).
-/

namespace Disclosure.Json

namespace Members

variable {key : String} {value : Json} {ms : Members}

lemma get?_eq_none_iff : get? key ms = none ↔ key ∉ ms.keys := by
  induction ms with
  | nil => simp [keys]
  | cons m ms ih =>
    obtain ⟨k, v⟩ := m
    rw [get?_cons, keys, List.map_cons, List.mem_cons, not_or, ← keys, ← ih]
    split_ifs with hk
    · simp [hk]
    · simp [Ne.symm hk]

lemma hasKey_iff : hasKey key ms ↔ key ∈ ms.keys := by
  rw [hasKey, ← not_iff_not, Option.not_isSome_iff_eq_none, get?_eq_none_iff]

/-- A key that is there keeps its place, and a new one is put last. -/
lemma keys_put (key : String) (value : Json) (ms : Members) :
    (put key value ms).keys = if key ∈ ms.keys then ms.keys else ms.keys ++ [key] := by
  by_cases hmem : key ∈ ms.keys
  · rw [if_pos hmem]
    induction ms with
    | nil => cases hmem
    | cons m ms ih =>
      obtain ⟨k, v⟩ := m
      rw [put]
      split_ifs with hk
      · rfl
      · have htail : key ∈ keys ms := (List.mem_cons.1 hmem).resolve_left (Ne.symm hk)
        exact congrArg (k :: ·) (ih htail)
  · rw [if_neg hmem, put_of_notMem hmem]
    exact List.map_append

lemma nodup_keys_put (h : ms.keys.Nodup) : (put key value ms).keys.Nodup := by
  rw [keys_put]
  split_ifs with hmem
  · exact h
  · rw [← List.concat_eq_append]
    exact h.concat hmem

end Members

section

variable {depth : Nat} {d : Doc} {key : Except Fault String} {before ms : Members}
  {members : List (Except Fault String × Doc)}

lemma membersValue_cons_eq_ok_iff :
    membersValue depth before ((key, d) :: members) = .ok ms ↔
      ∃ k v, key = .ok k ∧ d.value depth = .ok v ∧
        membersValue depth (before.put k v) members = .ok ms := by
  rw [membersValue]
  constructor
  · intro h
    cases key with
    | error f => cases h
    | ok k =>
      cases hv : d.value depth with
      | error f =>
        rw [hv] at h
        cases h
      | ok v =>
        rw [hv] at h
        exact ⟨k, v, rfl, rfl, h⟩
  · rintro ⟨k, v, rfl, hv, h⟩
    rw [hv]
    exact h

/-- Only a whole object has an object as its value. -/
lemma exists_of_value_eq_obj (h : d.value depth = .ok (.obj ms)) :
    ∃ depth' members, depth = depth' + 1 ∧ d = .obj members none ∧
      membersValue depth' [] members = .ok ms := by
  cases d with
  | obj members stop =>
    cases depth with
    | zero => cases h
    | succ depth =>
      rw [Doc.value, deeper] at h
      simp only [bind, Except.bind] at h
      split at h
      · cases h
      · next ms' hmembers =>
        cases stop <;> cases h
        exact ⟨depth, members, rfl, rfl, hmembers⟩
  | arr docs stop =>
    cases depth with
    | zero => cases h
    | succ depth =>
      rw [Doc.value, deeper] at h
      simp only [bind, Except.bind] at h
      split at h
      · cases h
      · cases stop <;> cases h
  | _ => cases h

lemma nodup_keys_of_membersValue (hbefore : before.keys.Nodup)
    (h : membersValue depth before members = .ok ms) : ms.keys.Nodup := by
  induction members generalizing before with
  | nil =>
    cases h
    exact hbefore
  | cons m members ih =>
    obtain ⟨k, v, -, -, hrest⟩ := membersValue_cons_eq_ok_iff.1 h
    exact ih (Members.nodup_keys_put hbefore) hrest

lemma nodup_keys_of_value (h : d.value depth = .ok (.obj ms)) : ms.keys.Nodup := by
  obtain ⟨depth', members, -, -, hmembers⟩ := exists_of_value_eq_obj h
  have hnil : (Members.keys []).Nodup := List.nodup_nil
  exact nodup_keys_of_membersValue hnil hmembers

end

/-- An object that is read from a text has no key twice. -/
lemma nodup_keys_of_ofText {s : String} {ms : Members} (h : ofText s = .ok (.obj ms)) :
    ms.keys.Nodup :=
  nodup_keys_of_value (ofText_eq_ok_iff.1 h).1

end Disclosure.Json
