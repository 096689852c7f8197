import Disclosure.Proofs.Json.Scalar
import Disclosure.Proofs.Json.Value

/-!
# Reading back values

The text of a regular value is read as the document of that value (`read_chars`), and decoding the
document gives the value, unless it is nested too deep (`ofText_text`). So regular values of any
depth are told apart by their texts (`eq_of_chars_eq`).

The reader keeps the open lists and objects on a stack. What is proved by induction over the value
therefore speaks of any stack: having read the text of a value, the reader goes on with its document
(`ReadsBack`).
-/

namespace Disclosure.Json

/-!
### Steps of the reader

The reader's matches keep their equations for the termination proof, so what they match on cannot be
rewritten in place; it is generalized first.
-/

variable {stack outer : List Frame} {d : Doc} {s t : List Char} {k : String} {c : Char}
  {docs : List Doc} {pairs : List (Except Fault String × Doc)} {key : Except Fault String}

lemma skipBlanks_cons (hc : isBlank c = false) (s : List Char) : skipBlanks (c :: s) = c :: s := by
  simp [skipBlanks, hc]

lemma readValue_emptyList (stack : List Frame) (s : List Char) :
    readValue stack ('[' :: ']' :: s) = readOn stack (.arr [] none) s := by
  have h := skipBlanks_cons (c := '[') rfl (']' :: s)
  have h' := skipBlanks_cons (c := ']') rfl s
  rw [readValue]
  generalize skipBlanks ('[' :: ']' :: s) = x at h
  subst h
  simp only
  generalize skipBlanks (']' :: s) = x at h'
  subst h'
  rfl

lemma readValue_list (hblank : isBlank c = false) (hc : c ≠ ']') :
    readValue stack ('[' :: c :: s) = readValue (.items [] :: stack) (c :: s) := by
  have h := skipBlanks_cons (c := '[') rfl (c :: s)
  have h' := skipBlanks_cons hblank s
  rw [readValue]
  generalize skipBlanks ('[' :: c :: s) = x at h
  subst h
  simp only
  generalize skipBlanks (c :: s) = x at h'
  subst h'
  simp only

lemma readValue_emptyObject (stack : List Frame) (s : List Char) :
    readValue stack ('{' :: '}' :: s) = readOn stack (.obj [] none) s := by
  have h := skipBlanks_cons (c := '{') rfl ('}' :: s)
  have h' := skipBlanks_cons (c := '}') rfl s
  rw [readValue]
  generalize skipBlanks ('{' :: '}' :: s) = x at h
  subst h
  simp only
  generalize skipBlanks ('}' :: s) = x at h'
  subst h'
  rfl

lemma readValue_object (stack : List Frame) (s : List Char) :
    readValue stack ('{' :: '"' :: s) = readKey stack [] s := by
  have h := skipBlanks_cons (c := '{') rfl ('"' :: s)
  have h' := skipBlanks_cons (c := '"') rfl s
  rw [readValue]
  generalize skipBlanks ('{' :: '"' :: s) = x at h
  subst h
  simp only
  generalize skipBlanks ('"' :: s) = x at h'
  subst h'
  rfl

lemma readValue_scalar (hblank : isBlank c = false) (hlist : c ≠ '[') (hobj : c ≠ '{')
    (hscan : scanScalar (c :: s) = .value d t) : readValue stack (c :: s) = readOn stack d t := by
  have h := skipBlanks_cons hblank s
  rw [readValue]
  generalize skipBlanks (c :: s) = x at h
  subst h
  simp only
  generalize scanScalar (c :: s) = x at hscan
  subst hscan
  rfl

lemma readKey_value (hscan : scanString none none [] s = .value k (':' :: t)) :
    readKey stack pairs s = readValue (.members pairs (.ok k) :: stack) t := by
  have h := skipBlanks_cons (c := ':') rfl t
  rw [readKey]
  generalize scanString none none [] s = x at hscan
  subst hscan
  simp only [Scan.rest?]
  generalize skipBlanks (':' :: t) = x at h
  subst h
  rfl

lemma readOn_item (outer : List Frame) (docs : List Doc) (d : Doc) (s : List Char) :
    readOn (.items docs :: outer) d (',' :: s) = readValue (.items (d :: docs) :: outer) s := by
  have h := skipBlanks_cons (c := ',') rfl s
  rw [readOn]
  generalize skipBlanks (',' :: s) = x at h
  subst h
  rfl

lemma readOn_endOfList (outer : List Frame) (docs : List Doc) (d : Doc) (s : List Char) :
    readOn (.items docs :: outer) d (']' :: s) =
      readOn outer (.arr (d :: docs).reverse none) s := by
  have h := skipBlanks_cons (c := ']') rfl s
  rw [readOn]
  generalize skipBlanks (']' :: s) = x at h
  subst h
  rfl

lemma readOn_member (outer : List Frame) (pairs : List (Except Fault String × Doc))
    (key : Except Fault String) (d : Doc) (s : List Char) :
    readOn (.members pairs key :: outer) d (',' :: '"' :: s) =
      readKey outer ((key, d) :: pairs) s := by
  have h := skipBlanks_cons (c := ',') rfl ('"' :: s)
  have h' := skipBlanks_cons (c := '"') rfl s
  rw [readOn]
  generalize skipBlanks (',' :: '"' :: s) = x at h
  subst h
  simp only
  generalize skipBlanks ('"' :: s) = x at h'
  subst h'
  rfl

lemma readOn_endOfObject (outer : List Frame) (pairs : List (Except Fault String × Doc))
    (key : Except Fault String) (d : Doc) (s : List Char) :
    readOn (.members pairs key :: outer) d ('}' :: s) =
      readOn outer (.obj ((key, d) :: pairs).reverse none) s := by
  have h := skipBlanks_cons (c := '}') rfl s
  rw [readOn]
  generalize skipBlanks ('}' :: s) = x at h
  subst h
  rfl

/-! ### Values -/

lemma head_integerText (i : Int) :
    ∃ c s, integerText i = c :: s ∧ (c = '-' ∨ isDigit c = true) := by
  cases i with
  | ofNat n =>
    obtain ⟨d, ds, hds, hd⟩ := head_decimalDigits n
    exact ⟨d, ds, hds, .inr hd⟩
  | negSucc n => exact ⟨'-', _, rfl, .inl rfl⟩

lemma ne_of_number (hc : c = '-' ∨ isDigit c = true) :
    isBlank c = false ∧ c ≠ ']' ∧ c ≠ '[' ∧ c ≠ '{' := by
  have hbig : 44 < c.toNat ∧ c.toNat < 58 := by
    rcases hc with rfl | hc
    · decide
    · simp only [isDigit, Bool.and_eq_true, decide_eq_true_eq] at hc
      omega
  refine ⟨?_, ?_, ?_, ?_⟩
  · by_contra hblank
    simp only [isBlank, Bool.not_eq_false, Bool.or_eq_true, beq_iff_eq] at hblank
    rcases hblank with ((rfl | rfl) | rfl) | rfl <;> revert hbig <;> decide
  all_goals
    rintro rfl
    revert hbig
    decide

/-- The text of a regular value begins with a character that is no blank and ends no list. -/
lemma head_chars {v : Json} (hv : Regular v) :
    ∃ c s, v.chars = c :: s ∧ isBlank c = false ∧ c ≠ ']' := by
  cases v with
  | null => exact ⟨_, _, rfl, rfl, by decide⟩
  | bool b => cases b <;> exact ⟨_, _, rfl, rfl, by decide⟩
  | num n =>
    obtain ⟨i, rfl, -, -⟩ := hv.num
    obtain ⟨c, s, hs, hc⟩ := head_integerText i
    obtain ⟨hblank, hne, -, -⟩ := ne_of_number hc
    exact ⟨c, s, hs, hblank, hne⟩
  | str s => exact ⟨_, _, rfl, rfl, by decide⟩
  | arr items => exact ⟨_, _, rfl, rfl, by decide⟩
  | obj members => exact ⟨_, _, rfl, rfl, by decide⟩

/-- Whether a value is read back from its text, as a document, wherever the text stands. -/
def ReadsBack (v : Json) : Prop :=
  ∀ stack rest, Delimits rest → readValue stack (v.chars ++ rest) = readOn stack v.toDoc rest

lemma readsBack_of_scan {v : Json} {c : Char} {s : List Char} (hchars : v.chars = c :: s)
    (hblank : isBlank c = false) (hlist : c ≠ '[') (hobj : c ≠ '{')
    (hscan : ∀ rest, Delimits rest → scanScalar (c :: (s ++ rest)) = .value v.toDoc rest) :
    ReadsBack v := by
  intro stack rest hrest
  rw [hchars, List.cons_append]
  exact readValue_scalar hblank hlist hobj (hscan rest hrest)

lemma readsBack_num {n : Number} (hv : Regular (.num n)) : ReadsBack (.num n) := by
  obtain ⟨i, rfl, hlow, hhigh⟩ := hv.num
  obtain ⟨c, s, hs, hc⟩ := head_integerText i
  obtain ⟨hblank, -, hlist, hobj⟩ := ne_of_number hc
  refine readsBack_of_scan hs hblank hlist hobj fun rest hrest => ?_
  rw [scanScalar_number _ hc, ← List.cons_append, ← hs, scanNumber_integerText hlow hhigh hrest]
  rfl

lemma readsBack_str (s : String) : ReadsBack (.str s) := by
  refine readsBack_of_scan (c := '"') rfl rfl (by decide) (by decide) fun rest _ => ?_
  rw [List.append_assoc, List.singleton_append, scanScalar, scanString_quote]
  rfl

lemma readsBack_items {v : Json} {vs : List Json} (hv : ReadsBack v) (hvs : ∀ w ∈ vs, ReadsBack w)
    (stack : List Frame) (docs : List Doc) (rest : List Char) :
    readValue (.items docs :: stack) (itemsChars (v :: vs) ++ ']' :: rest) =
      readOn stack (.arr (docs.reverse ++ (v :: vs).map toDoc) none) rest := by
  induction vs generalizing v docs with
  | nil =>
    rw [itemsChars, hv _ _ (.bracket rest), readOn_endOfList]
    simp
  | cons w ws ih =>
    obtain ⟨hw, hws⟩ := List.forall_mem_cons.1 hvs
    rw [itemsChars, List.append_assoc, List.cons_append, hv _ _ (.comma _), readOn_item,
      ih hw hws]
    simp

lemma readsBack_arr {items : List Json} (hitems : ∀ v ∈ items, Regular v)
    (hread : ∀ v ∈ items, ReadsBack v) : ReadsBack (.arr items) := by
  intro stack rest _
  rw [chars, toDoc, itemsDoc_eq]
  cases items with
  | nil => exact readValue_emptyList stack rest
  | cons v vs =>
    obtain ⟨c, s, hs, hblank, hc⟩ := head_chars (hitems v List.mem_cons_self)
    have hfirst : ∃ s', itemsChars (v :: vs) ++ ']' :: rest = c :: s' := by
      cases vs <;> simp [itemsChars, hs]
    obtain ⟨s', hs'⟩ := hfirst
    rw [List.cons_append, List.append_assoc, List.singleton_append]
    calc readValue stack ('[' :: (itemsChars (v :: vs) ++ ']' :: rest))
        = readValue (.items [] :: stack) (itemsChars (v :: vs) ++ ']' :: rest) := by
          rw [hs']
          exact readValue_list hblank hc
      _ = readOn stack (.arr ((v :: vs).map toDoc) none) rest := by
          obtain ⟨hv, hvs⟩ := List.forall_mem_cons.1 hread
          exact readsBack_items hv hvs stack [] rest

lemma readsBack_members {k : String} {v : Json} {ms : Members} (hv : ReadsBack v)
    (hms : ∀ m ∈ ms, ReadsBack m.2) (stack : List Frame)
    (pairs : List (Except Fault String × Doc)) {s rest : List Char}
    (hs : membersChars ((k, v) :: ms) ++ '}' :: rest = '"' :: s) :
    readKey stack pairs s =
      readOn stack (.obj (pairs.reverse ++ membersDoc ((k, v) :: ms)) none) rest := by
  induction ms generalizing k v pairs s with
  | nil =>
    have hkey : s = k.toList.flatMap escape ++ '"' :: ':' :: (v.chars ++ '}' :: rest) := by
      simpa [membersChars, quote] using hs.symm
    rw [hkey, readKey_value (scanString_quote k _), hv _ _ (.brace rest), readOn_endOfObject]
    simp [membersDoc]
  | cons m' ms ih =>
    obtain ⟨k', v'⟩ := m'
    obtain ⟨hv', hms'⟩ := List.forall_mem_cons.1 hms
    have hnext : ∃ s', membersChars ((k', v') :: ms) ++ '}' :: rest = '"' :: s' := by
      cases ms <;> simp [membersChars, quote]
    obtain ⟨s', hs'⟩ := hnext
    have hkey : s = k.toList.flatMap escape ++ '"' :: ':' :: (v.chars ++ ',' :: '"' :: s') := by
      rw [← hs']
      simpa [membersChars, quote] using hs.symm
    rw [hkey, readKey_value (scanString_quote k _), hv _ _ (.comma _), readOn_member,
      ih hv' hms' _ hs']
    simp [membersDoc]

lemma readsBack_obj {members : Members} (hread : ∀ m ∈ members, ReadsBack m.2) :
    ReadsBack (.obj members) := by
  intro stack rest _
  rw [chars, toDoc, List.cons_append, List.append_assoc, List.singleton_append]
  cases members with
  | nil => exact readValue_emptyObject stack rest
  | cons m ms =>
    obtain ⟨k, v⟩ := m
    have hfirst : ∃ s, membersChars ((k, v) :: ms) ++ '}' :: rest = '"' :: s := by
      cases ms <;> simp [membersChars, quote]
    obtain ⟨s, hs⟩ := hfirst
    rw [hs, readValue_object]
    obtain ⟨hv, hms⟩ := List.forall_mem_cons.1 hread
    exact readsBack_members hv hms stack [] hs

lemma readsBack {v : Json} (hv : Regular v) : ReadsBack v := by
  induction v using induct with
  | null => exact readsBack_of_scan (c := 'n') rfl rfl (by decide) (by decide) fun _ _ => rfl
  | bool b =>
    cases b
    · exact readsBack_of_scan (c := 'f') rfl rfl (by decide) (by decide) fun _ _ => rfl
    · exact readsBack_of_scan (c := 't') rfl rfl (by decide) (by decide) fun _ _ => rfl
  | num n => exact readsBack_num hv
  | str s => exact readsBack_str s
  | arr items ih =>
    have hitems := regular_arr.1 hv
    exact readsBack_arr hitems fun v h => ih v h (hitems v h)
  | obj members ih =>
    have hmembers := (regular_obj.1 hv).2
    exact readsBack_obj fun m h => ih m h (hmembers m h)

/-- The text of a regular value is read as the document of that value, to its end. -/
lemma read_chars {v : Json} (hv : Regular v) : read v.chars = ⟨v.toDoc, none⟩ := by
  have h := readsBack hv [] [] .nil
  rw [List.append_nil] at h
  rw [read, h, readOn]
  rfl

/-! ### Decoding -/

lemma Members.put_of_notMem {k : String} {v : Json} {members : Members} (h : k ∉ members.keys) :
    members.put k v = members ++ [(k, v)] := by
  induction members with
  | nil => rfl
  | cons m ms ih =>
    obtain ⟨k', v'⟩ := m
    obtain ⟨hne, hms⟩ : k ≠ k' ∧ k ∉ Members.keys ms := by
      simpa [Members.keys] using h
    rw [put, if_neg hne.symm, ih hms, List.cons_append]

lemma itemsValue_itemsDoc {d : Nat} {items : List Json}
    (h : ∀ v ∈ items, v.toDoc.value d = .ok v) : itemsValue d (itemsDoc items) = .ok items := by
  induction items with
  | nil => rfl
  | cons v vs ih =>
    obtain ⟨hv, hvs⟩ := List.forall_mem_cons.1 h
    rw [itemsDoc, itemsValue, hv, ih hvs]
    rfl

lemma membersValue_membersDoc {d : Nat} {before members : Members}
    (hkeys : (before ++ members).keys.Nodup) (h : ∀ m ∈ members, m.2.toDoc.value d = .ok m.2) :
    membersValue d before (membersDoc members) = .ok (before ++ members) := by
  induction members generalizing before with
  | nil => rw [List.append_nil]; rfl
  | cons m ms ih =>
    obtain ⟨k, v⟩ := m
    obtain ⟨hv, hms⟩ := List.forall_mem_cons.1 h
    have hk : k ∉ before.keys := by
      intro hmem
      rw [Members.keys, List.map_append, List.nodup_append] at hkeys
      exact hkeys.2.2 k hmem k List.mem_cons_self rfl
    rw [membersDoc, membersValue, hv]
    simp only [bind, Except.bind]
    rw [Members.put_of_notMem hk, ih (by simpa using hkeys) hms, List.append_assoc,
      List.singleton_append]

/-- A regular value that is not too deep is the value of its document. -/
lemma value_toDoc {v : Json} {d : Nat} (hv : Regular v) (hd : v.depth ≤ d) :
    v.toDoc.value d = .ok v := by
  induction v using induct generalizing d with
  | null => rfl
  | bool b => rfl
  | num n => rfl
  | str s => rfl
  | arr items ih =>
    cases d with
    | zero => cases hd
    | succ d =>
      have hdepth := itemsDepth_le_iff.1 (Nat.le_of_succ_le_succ hd)
      have hitems : ∀ v ∈ items, v.toDoc.value d = .ok v := fun v h =>
        ih v h (regular_arr.1 hv v h) (hdepth v h)
      rw [toDoc, Doc.value, deeper]
      simp only [bind, Except.bind]
      rw [itemsValue_itemsDoc hitems]
      rfl
  | obj members ih =>
    cases d with
    | zero => cases hd
    | succ d =>
      obtain ⟨hkeys, hregular⟩ := regular_obj.1 hv
      have hdepth := membersDepth_le_iff.1 (Nat.le_of_succ_le_succ hd)
      have hmembers : ∀ m ∈ members, m.2.toDoc.value d = .ok m.2 := fun m h =>
        ih m h (hregular m h) (hdepth m h)
      rw [toDoc, Doc.value, deeper]
      simp only [bind, Except.bind]
      rw [membersValue_membersDoc (by simpa using hkeys) hmembers]
      rfl

/-- A text is decoded if its document is and nothing but blanks follows. -/
lemma decodeText_eq_ok_iff {α : Type} {decode : Decoder α} {t : String} {a : α} :
    decodeText decode t = .ok a ↔
      decode maxDepth (read t.toList).doc = .ok a ∧ (read t.toList).trailing = none := by
  rw [decodeText]
  cases decode maxDepth (read t.toList).doc with
  | error e =>
    constructor
    · intro h
      cases h
    · rintro ⟨h, -⟩
      cases h
  | ok b =>
    cases (read t.toList).trailing with
    | some f =>
      constructor
      · intro h
        cases h
      · rintro ⟨-, h⟩
        cases h
    | none =>
      constructor
      · intro h
        cases h
        exact ⟨rfl, rfl⟩
      · rintro ⟨h, -⟩
        cases h
        rfl

lemma decodeValue_eq_ok_iff {v : Json} {depth : Nat} :
    decodeValue depth d = .ok v ↔ d.value depth = .ok v := by
  rw [decodeValue]
  cases d.value depth with
  | error f => simp [lift]
  | ok w => simp [lift]

lemma ofText_eq_ok_iff {v : Json} {t : String} :
    ofText t = .ok v ↔
      (read t.toList).doc.value maxDepth = .ok v ∧ (read t.toList).trailing = none := by
  rw [ofText, decodeText_eq_ok_iff, decodeValue_eq_ok_iff]

/-- A regular value that is not too deep is read back from its text. -/
lemma ofText_text {v : Json} (hv : Regular v) (hd : v.depth ≤ maxDepth) :
    ofText v.text = .ok v := by
  rw [ofText_eq_ok_iff, text, String.toList_ofList, read_chars hv]
  exact ⟨value_toDoc hv hd, rfl⟩

/-- Regular values with the same text are equal, at any depth. -/
lemma eq_of_chars_eq {v w : Json} (hv : Regular v) (hw : Regular w) (h : v.chars = w.chars) :
    v = w := by
  have hread : (⟨v.toDoc, none⟩ : Reading) = ⟨w.toDoc, none⟩ := by
    rw [← read_chars hv, ← read_chars hw, h]
  have hdoc : v.toDoc = w.toDoc := congrArg Reading.doc hread
  have hvalue : (.ok v : Except Fault Json) = .ok w := by
    calc .ok v = v.toDoc.value (max v.depth w.depth) := (value_toDoc hv (by omega)).symm
      _ = w.toDoc.value (max v.depth w.depth) := by rw [hdoc]
      _ = .ok w := value_toDoc hw (by omega)
  exact Except.ok.inj hvalue

end Disclosure.Json
