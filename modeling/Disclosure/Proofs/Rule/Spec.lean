import Disclosure.Proofs.Json.Keys
import Disclosure.Proofs.Taxonomy.Catalog
import Disclosure.Rule.Spec

/-!
# Specifications written again

Reading a specification sorts the members of a document by their keys: those of the five tables into
the tables, and all others, in their order, into the rest. Written again, the tables come first
(`normal`). Nothing is lost in this way, and what has been written once is read as the same
specification and written as the same text (`ofJson_normal`).

While the members are decoded one after the other, what has been collected is what the object read
so far holds (`Partial.Holds`). This works as long as no table comes twice: an object keeps the last
value of a repeated key, and a specification rejects it (`Partial.Unmet`).
-/

namespace Disclosure

open Json (Members Doc Fault)

namespace Json

variable {depth : Nat} {d : Doc} {docs : List Doc} {items : List Json} {v : Json} {key : String}
  {ms before : Members} {members : List (Except Fault String × Doc)}

/-! ### Members that are put -/

namespace Members

variable {p : String × Json → Bool}

lemma filter_put_of_neg (hp : ∀ v, p (key, v) = false) :
    (put key v ms).filter p = ms.filter p := by
  induction ms with
  | nil => simp [put, hp]
  | cons m ms ih =>
    obtain ⟨k, w⟩ := m
    rw [put]
    split_ifs with hk
    · subst hk
      rw [List.filter_cons_of_neg (by simp [hp]), List.filter_cons_of_neg (by simp [hp])]
    · rw [List.filter_cons, ih, ← List.filter_cons]

lemma filter_put_of_pos (hp : ∀ v, p (key, v) = true) :
    (put key v ms).filter p = put key v (List.filter p ms) := by
  induction ms with
  | nil => simp [put, hp]
  | cons m ms ih =>
    obtain ⟨k, w⟩ := m
    rw [put]
    split_ifs with hk
    · subst hk
      rw [List.filter_cons_of_pos (hp v), List.filter_cons_of_pos (hp w), put, if_pos rfl]
    · by_cases hw : p (k, w)
      · rw [List.filter_cons_of_pos hw, List.filter_cons_of_pos hw, put, if_neg hk, ih]
      · rw [List.filter_cons_of_neg hw, List.filter_cons_of_neg hw, ih]

lemma get?_filter (hp : ∀ v, p (key, v) = true) :
    get? key (List.filter p ms) = get? key ms := by
  induction ms with
  | nil => rfl
  | cons m ms ih =>
    obtain ⟨k, w⟩ := m
    by_cases hw : p (k, w)
    · rw [List.filter_cons_of_pos hw, get?_cons, get?_cons, ih]
    · have hk : k ≠ key := fun h => hw (h ▸ hp w)
      rw [List.filter_cons_of_neg hw, get?_cons, if_neg hk, ih]

lemma get?_map_append (f : String → Json) (keys : List String) (ms : Members) :
    get? key (keys.map (fun k => (k, f k)) ++ ms) =
      if key ∈ keys then some (f key) else get? key ms := by
  induction keys with
  | nil => simp
  | cons k keys ih =>
    rw [List.map_cons, List.cons_append, get?_cons]
    by_cases hk : k = key
    · simp [hk]
    · rw [if_neg hk, ih]
      simp [Ne.symm hk]

end Members

/-! ### Decoding parts of a document -/

lemma decodeTable_of_value (h : d.value depth = .ok (.obj ms)) : decodeTable depth d = .ok ms := by
  obtain ⟨depth', members, rfl, rfl, hmembers⟩ := exists_of_value_eq_obj h
  rw [decodeTable, deeper]
  simp only [bind, Except.bind, hmembers]
  rfl

lemma mapM_decodeValue (h : itemsValue depth docs = .ok items) :
    docs.mapM (decodeValue depth) = .ok items := by
  induction docs generalizing items with
  | nil =>
    cases h
    rfl
  | cons d docs ih =>
    rw [itemsValue] at h
    obtain ⟨v, hv, hrest⟩ := bind_eq_ok_iff.1 h
    obtain ⟨vs, hvs, ⟨⟩⟩ := bind_eq_ok_iff.1 hrest
    rw [List.mapM_cons, decodeValue_eq_ok_iff.2 hv, ih hvs]
    rfl

lemma decodeList_of_value (h : d.value depth = .ok (.arr items)) :
    decodeList decodeValue depth d = .ok items := by
  cases d with
  | arr docs stop =>
    cases depth with
    | zero => cases h
    | succ depth =>
      rw [Doc.value, deeper] at h
      obtain ⟨_, ⟨⟩, hitems⟩ := bind_eq_ok_iff.1 h
      obtain ⟨vs, hvs, hstop⟩ := bind_eq_ok_iff.1 hitems
      cases stop <;> cases hstop
      rw [decodeList, deeper]
      exact bind_eq_ok_iff.2 ⟨depth, rfl, bind_eq_ok_iff.2 ⟨items, mapM_decodeValue hvs, rfl⟩⟩
  | obj members stop =>
    cases depth with
    | zero => cases h
    | succ depth =>
      rw [Doc.value, deeper] at h
      obtain ⟨_, ⟨⟩, hmembers⟩ := bind_eq_ok_iff.1 h
      obtain ⟨ms, -, hstop⟩ := bind_eq_ok_iff.1 hmembers
      cases stop <;> cases hstop
  | _ => cases h

/-- The keys of an object that is read, repeated ones included. -/
def keysOf (members : List (Except Fault String × Doc)) : List String :=
  members.filterMap (·.1.toOption)

lemma keysOf_cons : keysOf ((.ok key, d) :: members) = key :: keysOf members :=
  rfl

/-- The last value under a key is the one that counts. -/
lemma get?_of_membersValue (h : membersValue depth before members = .ok ms)
    (hkey : key ∉ keysOf members) : ms.get? key = before.get? key := by
  induction members generalizing before with
  | nil =>
    cases h
    rfl
  | cons m members ih =>
    obtain ⟨k, d⟩ := m
    obtain ⟨k, v, rfl, -, hrest⟩ := membersValue_cons_eq_ok_iff.1 h
    rw [keysOf_cons, List.mem_cons, not_or] at hkey
    rw [ih hrest hkey.2, Members.get?_put_of_ne (Ne.symm hkey.1)]

lemma keysOf_membersDoc (ms : Members) : keysOf (membersDoc ms) = ms.keys := by
  induction ms with
  | nil => rfl
  | cons m ms ih => exact congrArg (m.1 :: ·) ih

end Json

namespace RuleSpec

/-! ### The tables among the members -/

/-- The keys of the tables, in the order in which they are written. -/
def tableKeys : List String :=
  ["sub-type-classes", "sub-type-element-validations", "validations", "axis-validations",
    "messages"]

/-- The only table that is a list. -/
def entriesKey : String :=
  "sub-type-element-validations"

/-- Whether a table can have a value: the entries are a list, and all other tables are objects. -/
def Fits (key : String) (v : Json) : Prop :=
  if key = entriesKey then v.isList else v.isObject

/-- Whether the tables that an object holds are what tables have to be. -/
def HasTables (ms : Members) : Prop :=
  ∀ key ∈ tableKeys, ∀ v, ms.get? key = some v → Fits key v

instance (key : String) (v : Json) : Decidable (Fits key v) :=
  inferInstanceAs (Decidable (if key = entriesKey then v.isList else v.isObject))

instance (ms : Members) : Decidable (HasTables ms) :=
  inferInstanceAs (Decidable (∀ key ∈ tableKeys, ∀ v ∈ ms.get? key, Fits key v))

/-- What is written for a table that is left out. -/
def noTable (key : String) : Json :=
  if key = entriesKey then .arr [] else .obj []

/-- The members in the order in which a specification is written: first the tables, also those left
out, and then the rest. -/
def normal (ms : Members) : Members :=
  tableKeys.map (fun key => (key, (ms.get? key).getD (noTable key))) ++
    ms.filter (·.1 ∉ tableKeys)

variable {depth : Nat} {d : Doc} {v : Json} {key : String} {keys : List String}
  {ms before : Members} {p p' : Partial} {members : List (Except Fault String × Doc)}
  {s : RuleSpec}

/-! ### Decoding the members -/

namespace Partial

/-- What has been met under the key of a table. -/
def table? (p : Partial) : String → Option Json
  | "sub-type-classes" => p.subTypeClasses.map .obj
  | "sub-type-element-validations" => p.entries.map .arr
  | "validations" => p.validations.map .obj
  | "axis-validations" => p.axisValidations.map .obj
  | "messages" => p.messages.map .obj
  | _ => none

/-- Whether all that has been decoded is what an object holds. -/
structure Holds (p : Partial) (ms : Members) : Prop where
  tables : ∀ key ∈ tableKeys, p.table? key = ms.get? key
  other : p.other = ms.filter (·.1 ∉ tableKeys)

/-- Whether a step has added one table to what was decoded before. -/
structure Adds (p : Partial) (key : String) (v : Json) (p' : Partial) : Prop where
  unmet : p.table? key = none
  tables : ∀ key' ∈ tableKeys, p'.table? key' = if key' = key then some v else p.table? key'
  other : p'.other = p.other

end Partial

lemma exists_obj_of_fits (h : Fits key v) (hkey : key ≠ entriesKey) : ∃ ms, v = .obj ms := by
  rw [Fits, if_neg hkey] at h
  cases v with
  | obj ms => exact ⟨ms, rfl⟩
  | _ => cases h

lemma exists_arr_of_fits (h : Fits entriesKey v) : ∃ items, v = .arr items := by
  rw [Fits, if_pos rfl] at h
  cases v with
  | arr items => exact ⟨items, rfl⟩
  | _ => cases h

/-- The keys of the tables that are objects. -/
def objectKeys : List String :=
  ["sub-type-classes", "validations", "axis-validations", "messages"]

lemma mem_tableKeys_iff : key ∈ tableKeys ↔ key = entriesKey ∨ key ∈ objectKeys := by
  simp only [tableKeys, objectKeys, entriesKey, List.mem_cons]
  tauto

lemma ne_entriesKey (hkey : key ∈ objectKeys) : key ≠ entriesKey := by
  rintro rfl
  revert hkey
  decide

namespace Partial

/-- The object that has been met under the key of a table. -/
def object? (p : Partial) : String → Option Members
  | "sub-type-classes" => p.subTypeClasses
  | "validations" => p.validations
  | "axis-validations" => p.axisValidations
  | "messages" => p.messages
  | _ => none

/-- Put an object under the key of a table. -/
def setObject (p : Partial) (ms : Option Members) : String → Partial
  | "sub-type-classes" => { p with subTypeClasses := ms }
  | "validations" => { p with validations := ms }
  | "axis-validations" => { p with axisValidations := ms }
  | "messages" => { p with messages := ms }
  | _ => p

lemma object?_eq_none (hkey : key ∈ objectKeys) (hnew : p.table? key = none) :
    p.object? key = none := by
  simp only [objectKeys, List.mem_cons, List.not_mem_nil, or_false] at hkey
  rcases hkey with rfl | rfl | rfl | rfl <;> exact Option.map_eq_none_iff.1 hnew

lemma adds_setObject (hkey : key ∈ objectKeys) (hnone : p.object? key = none) (ms : Members) :
    p.Adds key (.obj ms) (p.setObject (some ms) key) := by
  simp only [objectKeys, List.mem_cons, List.not_mem_nil, or_false] at hkey
  rcases hkey with rfl | rfl | rfl | rfl <;>
    exact ⟨Option.map_eq_none_iff.2 hnone, by simp [tableKeys, table?, setObject], rfl⟩

lemma adds_entries (hnone : p.entries = none) (items : List Json) :
    p.Adds entriesKey (.arr items) { p with entries := some items } :=
  ⟨Option.map_eq_none_iff.2 hnone, by simp [tableKeys, entriesKey, table?], rfl⟩

end Partial

/-- The tables that are objects are decoded alike. -/
lemma decodeMember_object (hkey : key ∈ objectKeys) :
    decodeMember depth p (.ok key, d) = do
      let ms ← Json.decodeOnce key (p.object? key) Json.decodeTable depth d
      return p.setObject ms key := by
  simp only [objectKeys, List.mem_cons, List.not_mem_nil, or_false] at hkey
  rcases hkey with rfl | rfl | rfl | rfl <;> rfl

lemma decodeMember_entries :
    decodeMember depth p (.ok entriesKey, d) = do
      let items ← Json.decodeOnce entriesKey p.entries (Json.decodeList Json.decodeValue) depth d
      return { p with entries := items } :=
  rfl

/-- A table that has not been met before is added. -/
lemma exists_decodeMember (hkey : key ∈ tableKeys) (hv : d.value depth = .ok v)
    (hfits : Fits key v) (hnew : p.table? key = none) :
    ∃ p', decodeMember depth p (.ok key, d) = .ok p' ∧ p.Adds key v p' := by
  rcases mem_tableKeys_iff.1 hkey with rfl | hobject
  · obtain ⟨items, rfl⟩ := exists_arr_of_fits hfits
    have hnone : p.entries = none := Option.map_eq_none_iff.1 hnew
    refine ⟨_, ?_, Partial.adds_entries hnone items⟩
    rw [decodeMember_entries, hnone, Json.decodeOnce, Json.decodeList_of_value hv]
    rfl
  · obtain ⟨ms, rfl⟩ := exists_obj_of_fits hfits (ne_entriesKey hobject)
    have hnone := Partial.object?_eq_none hobject hnew
    refine ⟨_, ?_, Partial.adds_setObject hobject hnone ms⟩
    rw [decodeMember_object hobject, hnone, Json.decodeOnce, Json.decodeTable_of_value hv]
    rfl

lemma decodeOnce_eq_ok {α : Type} {decode : Json.Decoder α} {o o' : Option α}
    (h : Json.decodeOnce key o decode depth d = .ok o') : o = none ∧ ∃ a, o' = some a := by
  cases o with
  | some a => cases h
  | none =>
    rw [Json.decodeOnce] at h
    cases hd : decode depth d with
    | error e =>
      rw [hd] at h
      cases h
    | ok a =>
      rw [hd] at h
      cases h
      exact ⟨rfl, a, rfl⟩

/-- What a step decodes under the key of a table has not been met before. -/
lemma adds_of_decodeMember (hkey : key ∈ tableKeys)
    (h : decodeMember depth p (.ok key, d) = .ok p') : ∃ v, p.Adds key v p' := by
  rcases mem_tableKeys_iff.1 hkey with rfl | hobject
  · rw [decodeMember_entries] at h
    obtain ⟨o, ho, ⟨⟩⟩ := bind_eq_ok_iff.1 h
    obtain ⟨hnone, items, rfl⟩ := decodeOnce_eq_ok ho
    exact ⟨.arr items, Partial.adds_entries hnone items⟩
  · rw [decodeMember_object hobject] at h
    obtain ⟨o, ho, ⟨⟩⟩ := bind_eq_ok_iff.1 h
    obtain ⟨hnone, ms, rfl⟩ := decodeOnce_eq_ok ho
    exact ⟨.obj ms, Partial.adds_setObject hobject hnone ms⟩

lemma decodeMember_of_notMem (hkey : key ∉ tableKeys) :
    decodeMember depth p (.ok key, d) = .ok p' ↔
      ∃ v, d.value depth = .ok v ∧ p' = { p with other := p.other.put key v } := by
  simp only [tableKeys, List.mem_cons, List.not_mem_nil, or_false, not_or] at hkey
  obtain ⟨hclasses, hentries, hvalidations, haxes, hmessages⟩ := hkey
  rw [decodeMember, Json.lift]
  simp only [bind, Except.bind, Json.decodeValue]
  cases d.value depth with
  | error f => split <;> simp_all [Json.lift]
  | ok v => split <;> simp_all [Json.lift, pure, Except.pure, eq_comm]

/-! ### Decoding all members -/

/-- Whether no table comes twice among keys. -/
def Once (keys : List String) : Prop :=
  (keys.filter (· ∈ tableKeys)).Nodup

lemma once_cons_iff (hkey : key ∈ tableKeys) : Once (key :: keys) ↔ key ∉ keys ∧ Once keys := by
  rw [Once, Once, List.filter_cons_of_pos (by simpa using hkey), List.nodup_cons, List.mem_filter]
  simp [hkey]

lemma once_cons_of_notMem (hkey : key ∉ tableKeys) : Once (key :: keys) ↔ Once keys := by
  rw [Once, Once, List.filter_cons_of_neg (by simpa using hkey)]

namespace Partial

lemma table?_other (p : Partial) (ms : Members) (key : String) :
    { p with other := ms }.table? key = p.table? key :=
  rfl

lemma holds_empty : Holds {} [] where
  tables := by simp [tableKeys, table?]
  other := rfl

lemma Holds.put (hp : p.Holds ms) (hkey : key ∈ tableKeys) (h : p.Adds key v p') :
    p'.Holds (ms.put key v) where
  tables := by
    intro key' hkey'
    rw [h.tables key' hkey']
    split_ifs with hself
    · rw [hself, Members.get?_put_self]
    · rw [Members.get?_put_of_ne (Ne.symm hself), hp.tables key' hkey']
  other := by
    rw [h.other, hp.other, Members.filter_put_of_neg]
    simpa using hkey

lemma Holds.put_other (hp : p.Holds ms) (hkey : key ∉ tableKeys) :
    { p with other := p.other.put key v }.Holds (ms.put key v) where
  tables := by
    intro key' hkey'
    have hne : key ≠ key' := fun h => hkey (h ▸ hkey')
    rw [table?_other, hp.tables key' hkey', Members.get?_put_of_ne hne]
  other := by
    rw [hp.other, Members.filter_put_of_pos]
    simpa using hkey

/-- Whether none of the keys that come is one of a table met before, and no table comes twice. -/
structure Unmet (p : Partial) (keys : List String) : Prop where
  tables : ∀ key ∈ tableKeys, p.table? key ≠ none → key ∉ keys
  once : Once keys

lemma Adds.unmet_iff (h : p.Adds key v p') (hkey : key ∈ tableKeys) :
    p.Unmet (key :: keys) ↔ p'.Unmet keys := by
  constructor
  · rintro ⟨htables, honce⟩
    obtain ⟨hnew, hrest⟩ := (once_cons_iff hkey).1 honce
    refine ⟨fun key' hkey' hmet hmem => ?_, hrest⟩
    by_cases hne : key' = key
    · exact hnew (hne ▸ hmem)
    · rw [h.tables key' hkey', if_neg hne] at hmet
      exact htables key' hkey' hmet (List.mem_cons_of_mem key hmem)
  · rintro ⟨htables, honce⟩
    have hself : p'.table? key = some v := by rw [h.tables key hkey, if_pos rfl]
    refine ⟨fun key' hkey' hmet => ?_,
      (once_cons_iff hkey).2 ⟨htables key hkey (by simp [hself]), honce⟩⟩
    have hne : key' ≠ key := fun heq => hmet (heq ▸ h.unmet)
    have hmet' : p'.table? key' ≠ none := by rwa [h.tables key' hkey', if_neg hne]
    exact List.not_mem_cons_of_ne_of_not_mem hne (htables key' hkey' hmet')

lemma unmet_other_iff (hkey : key ∉ tableKeys) :
    p.Unmet (key :: keys) ↔ { p with other := ms }.Unmet keys := by
  constructor
  · rintro ⟨htables, honce⟩
    exact ⟨fun key' hkey' hmet hmem => htables key' hkey' hmet (List.mem_cons_of_mem key hmem),
      (once_cons_of_notMem hkey).1 honce⟩
  · rintro ⟨htables, honce⟩
    refine ⟨fun key' hkey' hmet => ?_, (once_cons_of_notMem hkey).2 honce⟩
    have hne : key' ≠ key := fun heq => hkey (heq ▸ hkey')
    exact List.not_mem_cons_of_ne_of_not_mem hne (htables key' hkey' hmet)

end Partial

/-- The members of an object are decoded to what the object holds. -/
lemma exists_foldlM_decodeMember (hp : p.Holds before)
    (hvalue : Json.membersValue depth before members = .ok ms) (htables : HasTables ms)
    (hunmet : p.Unmet (Json.keysOf members)) :
    ∃ p', members.foldlM (decodeMember depth) p = .ok p' ∧ p'.Holds ms := by
  induction members generalizing p before with
  | nil =>
    cases hvalue
    exact ⟨p, rfl, hp⟩
  | cons m members ih =>
    obtain ⟨key, d⟩ := m
    obtain ⟨key, v, rfl, hv, hrest⟩ := Json.membersValue_cons_eq_ok_iff.1 hvalue
    rw [Json.keysOf_cons] at hunmet
    by_cases hkey : key ∈ tableKeys
    · have hnew : p.table? key = none := by
        by_contra hmet
        exact hunmet.tables key hkey hmet List.mem_cons_self
      -- A later member with this key would replace the value in the object.
      obtain ⟨hlast, -⟩ := (once_cons_iff hkey).1 hunmet.once
      have hget : ms.get? key = some v := by
        rw [Json.get?_of_membersValue hrest hlast, Members.get?_put_self]
      obtain ⟨p₁, hstep, hadds⟩ := exists_decodeMember hkey hv (htables key hkey v hget) hnew
      obtain ⟨p', hrun, hp'⟩ := ih (hp.put hkey hadds) hrest ((hadds.unmet_iff hkey).1 hunmet)
      exact ⟨p', bind_eq_ok_iff.2 ⟨p₁, hstep, hrun⟩, hp'⟩
    · have hstep := (decodeMember_of_notMem (p := p) hkey).2 ⟨v, hv, rfl⟩
      obtain ⟨p', hrun, hp'⟩ :=
        ih (hp.put_other hkey) hrest ((Partial.unmet_other_iff hkey).1 hunmet)
      exact ⟨p', bind_eq_ok_iff.2 ⟨_, hstep, hrun⟩, hp'⟩

/-- Members can only be decoded if no table comes twice. -/
lemma unmet_of_foldlM_decodeMember (h : members.foldlM (decodeMember depth) p = .ok p') :
    p.Unmet (Json.keysOf members) := by
  induction members generalizing p with
  | nil => exact ⟨fun _ _ _ => List.not_mem_nil, List.nodup_nil⟩
  | cons m members ih =>
    obtain ⟨key, d⟩ := m
    obtain ⟨p₁, hstep, hrun⟩ := bind_eq_ok_iff.1 h
    cases key with
    | error f => cases hstep
    | ok key =>
      rw [Json.keysOf_cons]
      by_cases hkey : key ∈ tableKeys
      · obtain ⟨v, hadds⟩ := adds_of_decodeMember hkey hstep
        exact (hadds.unmet_iff hkey).2 (ih hrun)
      · obtain ⟨v, -, rfl⟩ := (decodeMember_of_notMem hkey).1 hstep
        exact (Partial.unmet_other_iff hkey).2 (ih hrun)

/-! ### Reading whole specifications -/

/-- Whether no table comes twice in a document. -/
def TablesOnce : Doc → Prop
  | .obj members _ => Once (Json.keysOf members)
  | _ => True

lemma Partial.Holds.toJson_finish (hp : p.Holds ms) : p.finish.toJson = .obj (normal ms) := by
  have hclasses := hp.tables "sub-type-classes" (by decide)
  have hentries := hp.tables "sub-type-element-validations" (by decide)
  have hvalidations := hp.tables "validations" (by decide)
  have haxes := hp.tables "axis-validations" (by decide)
  have hmessages := hp.tables "messages" (by decide)
  rw [toJson, Partial.finish, normal, ← hp.other]
  simp [tableKeys, ← hclasses, ← hentries, ← hvalidations, ← haxes, ← hmessages, Partial.table?,
    noTable, entriesKey]

lemma toJson_injective : Function.Injective toJson := by
  intro s s' h
  cases s
  cases s'
  simpa [toJson] using h

/-- What an object holds can be decoded if no table comes twice, and it is all there. -/
lemma exists_decode (hvalue : d.value depth = .ok (.obj ms)) (htables : HasTables ms)
    (honce : TablesOnce d) : ∃ s, decode depth d = .ok s ∧ s.toJson = .obj (normal ms) := by
  obtain ⟨depth', members, rfl, rfl, hmembers⟩ := Json.exists_of_value_eq_obj hvalue
  have hunmet : Partial.Unmet {} (Json.keysOf members) := by
    refine ⟨fun key hkey hmet => ?_, honce⟩
    exact absurd (Partial.holds_empty.tables key hkey) hmet
  obtain ⟨p, hrun, hp⟩ :=
    exists_foldlM_decodeMember Partial.holds_empty hmembers htables hunmet
  refine ⟨p.finish, ?_, hp.toJson_finish⟩
  rw [decode, Json.deeper]
  exact bind_eq_ok_iff.2 ⟨depth', rfl, bind_eq_ok_iff.2 ⟨p, hrun, rfl⟩⟩

lemma tablesOnce_of_decode (h : decode depth d = .ok s) : TablesOnce d := by
  cases d with
  | obj members stop =>
    rw [decode] at h
    obtain ⟨depth', -, hrun⟩ := bind_eq_ok_iff.1 h
    obtain ⟨p, hp, -⟩ := bind_eq_ok_iff.1 hrun
    exact (unmet_of_foldlM_decodeMember hp).once
  | _ => exact trivial

/-! ### Members in the written order -/

lemma get?_normal (ms : Members) (key : String) :
    (normal ms).get? key =
      if key ∈ tableKeys then some ((ms.get? key).getD (noTable key)) else ms.get? key := by
  rw [normal, Members.get?_map_append fun key => (ms.get? key).getD (noTable key)]
  refine ite_congr rfl (fun _ => rfl) fun hkey => ?_
  exact Members.get?_filter (by simpa using hkey)

lemma get?_normal_of_some (h : ms.get? key = some v) : (normal ms).get? key = some v := by
  rw [get?_normal, h, Option.getD_some, ite_self]

lemma keys_normal (ms : Members) :
    (normal ms).keys = tableKeys ++ ms.keys.filter (· ∉ tableKeys) := by
  simp [normal, Members.keys, List.filter_map, Function.comp_def]

lemma nodup_keys_normal (h : ms.keys.Nodup) : (normal ms).keys.Nodup := by
  rw [keys_normal, List.nodup_append]
  refine ⟨by decide, h.filter _, ?_⟩
  rintro key hkey _ hother rfl
  simp [hkey] at hother

/-- Nothing is written that neither was read nor is empty. -/
lemma forall_normal {P : Json → Prop} (hlist : P (.arr [])) (hobject : P (.obj []))
    (h : ∀ m ∈ ms, P m.2) : ∀ m ∈ normal ms, P m.2 := by
  intro m hm
  rcases List.mem_append.1 hm with hm | hm
  · obtain ⟨key, -, rfl⟩ := List.mem_map.1 hm
    cases hget : ms.get? key with
    | some v => exact h _ (Members.mem_of_get? hget)
    | none =>
      rw [Option.getD_none, noTable]
      split_ifs
      · exact hlist
      · exact hobject
  · exact h m (List.mem_of_mem_filter hm)

lemma regular_normal (h : Json.Regular (.obj ms)) : Json.Regular (.obj (normal ms)) := by
  obtain ⟨hkeys, hmembers⟩ := Json.regular_obj.1 h
  exact Json.regular_obj.2
    ⟨nodup_keys_normal hkeys, forall_normal (by simp) (by simp [Members.keys]) hmembers⟩

lemma depth_normal_le (h : (Json.obj ms).depth ≤ Json.maxDepth) :
    (Json.obj (normal ms)).depth ≤ Json.maxDepth := by
  have hmembers := Json.membersDepth_le_iff.1 (Nat.le_of_succ_le_succ h)
  refine Nat.succ_le_succ (Json.membersDepth_le_iff.2 ?_)
  exact forall_normal (P := fun v => v.depth ≤ 126) (by decide) (by decide) hmembers

lemma fits_noTable (key : String) : Fits key (noTable key) := by
  rw [Fits, noTable]
  split_ifs
  · rfl
  · rfl

lemma hasTables_normal (h : HasTables ms) : HasTables (normal ms) := by
  intro key hkey v hv
  rw [get?_normal, if_pos hkey] at hv
  cases hget : ms.get? key with
  | none =>
    rw [hget] at hv
    cases hv
    exact fits_noTable key
  | some w =>
    rw [hget] at hv
    cases hv
    exact h key hkey w hget

/-- Members in the written order stay in this order. -/
lemma normal_normal (ms : Members) : normal (normal ms) = normal ms := by
  have htables : ∀ key ∈ tableKeys,
      ((normal ms).get? key).getD (noTable key) = (ms.get? key).getD (noTable key) := by
    intro key hkey
    rw [get?_normal, if_pos hkey, Option.getD_some]
  have hother : (normal ms).filter (·.1 ∉ tableKeys) = ms.filter (·.1 ∉ tableKeys) := by
    have hnone : (tableKeys.map fun key => (key, (ms.get? key).getD (noTable key))).filter
        (·.1 ∉ tableKeys) = [] := by
      simp [List.filter_eq_nil_iff]
    rw [normal, List.filter_append, hnone, List.nil_append, List.filter_filter]
    simp only [Bool.and_self]
  rw [normal, hother, List.map_congr_left fun key hkey => by rw [htables key hkey], ← normal]

/-! ### Reading what has been written -/

/-- An object is read from a text of it if and only if no table comes twice in the text. -/
lemma ofText_eq_ok_iff_tablesOnce {t : String} (ht : Json.ofText t = .ok (.obj ms))
    (htables : HasTables ms) (hs : s.toJson = .obj (normal ms)) :
    ofText t = .ok s ↔ TablesOnce (Json.read t.toList).doc := by
  obtain ⟨hvalue, hend⟩ := Json.ofText_eq_ok_iff.1 ht
  rw [ofText, Json.decodeText_eq_ok_iff]
  constructor
  · rintro ⟨hdecode, -⟩
    exact tablesOnce_of_decode hdecode
  · intro honce
    obtain ⟨s', hdecode, hs'⟩ := exists_decode hvalue htables honce
    cases toJson_injective (hs.trans hs'.symm)
    exact ⟨hdecode, hend⟩

lemma tablesOnce_toDoc (h : ms.keys.Nodup) : TablesOnce (Json.obj ms).toDoc := by
  rw [Json.toDoc, TablesOnce, Json.keysOf_membersDoc]
  exact h.filter _

/-- A regular object is read, as a value and from its text. -/
lemma exists_ofJson (hregular : Json.Regular (.obj ms))
    (hdepth : (Json.obj ms).depth ≤ Json.maxDepth) (htables : HasTables ms) :
    ∃ s, ofJson (.obj ms) = .ok s ∧ ofText (Json.obj ms).text = .ok s ∧
      s.toJson = .obj (normal ms) := by
  have honce := tablesOnce_toDoc (Json.regular_obj.1 hregular).1
  obtain ⟨s, hs, hnormal⟩ := exists_decode (Json.value_toDoc hregular hdepth) htables honce
  refine ⟨s, hs, ?_, hnormal⟩
  rw [ofText_eq_ok_iff_tablesOnce (Json.ofText_text hregular hdepth) htables hnormal, Json.text,
    String.toList_ofList, Json.read_chars hregular]
  exact honce

/-- An object whose tables are objects, and a list for the entries, is read as a specification, from
every text of it in which no table comes twice. It is written with the tables first, in their order
and with those that were left out, and then all other members in document order, each with the value
that was read. What has been written is read as the same specification again, and written as the
same text. -/
theorem ofJson_normal {ms : Members} (hregular : Json.Regular (.obj ms))
    (hdepth : (Json.obj ms).depth ≤ Json.maxDepth) (htables : HasTables ms) :
    ∃ s, ofJson (.obj ms) = .ok s ∧ ofText (Json.obj ms).text = .ok s ∧
      (∀ t, Json.ofText t = .ok (.obj ms) →
        (ofText t = .ok s ↔ TablesOnce (Json.read t.toList).doc)) ∧
      s.toJson = .obj (normal ms) ∧
      (∀ key v, ms.get? key = some v → (normal ms).get? key = some v) ∧
      ofJson s.toJson = .ok s ∧ ofText s.toJson.text = .ok s ∧
      (ofText s.toJson.text).map (fun s' => s'.toJson.text) = .ok s.toJson.text := by
  obtain ⟨s, hs, htext, hnormal⟩ := exists_ofJson hregular hdepth htables
  obtain ⟨s', hs', htext', hnormal'⟩ := exists_ofJson (regular_normal hregular)
    (depth_normal_le hdepth) (hasTables_normal htables)
  have hsame : s' = s := by
    rw [normal_normal] at hnormal'
    exact toJson_injective (hnormal'.trans hnormal.symm)
  subst hsame
  rw [← hnormal] at hs' htext'
  refine ⟨s', hs, htext, fun t ht => ofText_eq_ok_iff_tablesOnce ht htables hnormal, hnormal,
    fun key v => get?_normal_of_some, hs', htext', ?_⟩
  rw [htext']
  rfl

/-- The members of a specification with two tables, and other members before and between them. -/
def mixedMembers : Members :=
  [("copyright", .str "none"), ("messages", .obj [("z", .str "1"), ("a", .str "2")]),
    ("revision", .num (.int 3)),
    ("sub-type-element-validations", .arr [.obj [("comment", .str "first")]])]

theorem ofJson_normal_mixed :
    (Json.Regular (.obj mixedMembers) ∧ (Json.obj mixedMembers).depth ≤ Json.maxDepth ∧
      HasTables mixedMembers) ∧
    ∃ s, ofText (Json.obj mixedMembers).text = .ok s ∧
      s.toJson = .obj
        [("sub-type-classes", .obj []),
          ("sub-type-element-validations", .arr [.obj [("comment", .str "first")]]),
          ("validations", .obj []), ("axis-validations", .obj []),
          ("messages", .obj [("z", .str "1"), ("a", .str "2")]), ("copyright", .str "none"),
          ("revision", .num (.int 3))] ∧
      ofText s.toJson.text = .ok s := by
  have hnumber : Json.Regular (.num (.int 3)) := Json.regular_int.2 (by decide)
  have hregular : Json.Regular (.obj mixedMembers) := by
    simp [mixedMembers, hnumber, Members.keys]
  have hdepth : (Json.obj mixedMembers).depth ≤ Json.maxDepth := by decide
  have htables : HasTables mixedMembers := by decide
  obtain ⟨s, -, htext, -, hnormal, -, -, hagain, -⟩ := ofJson_normal hregular hdepth htables
  exact ⟨⟨hregular, hdepth, htables⟩, s, htext, hnormal, hagain⟩

end RuleSpec

end Disclosure
