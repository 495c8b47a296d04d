/-
Compact texts read back. A text between quotes is read character by character
(`takeString_escaped`), and a value with all that it holds, whatever follows it
(`ReadAsWritten`): an array item by item, an object member by member, each as long as
there is fuel for its text. Numbers are left out of this, and values that nest deeper
than a reader goes (`readText_compact`).
-/
import SignatureDesk.Json.Reader
import SignatureDesk.Proofs.Text.Hex

namespace SignatureDesk.Json

/-! ## Texts between quotes -/

/-- How a character is written: by a short escape, by its number, or as it is. -/
theorem escapedChar_cases (c : Char) :
    (∃ x, x ≠ 'u' ∧ escapedChar c = ['\\', x] ∧ simpleEscape? x = some c) ∨
    (c.toNat < 32 ∧
      escapedChar c = ['\\', 'u', '0', '0', Nat.digitChar (c.toNat / 16), Nat.digitChar (c.toNat % 16)]) ∨
    (c ≠ '"' ∧ c ≠ '\\' ∧ 32 ≤ c.toNat ∧ escapedChar c = [c]) := by
  unfold escapedChar
  split
  · exact .inl ⟨'"', by decide, rfl, rfl⟩
  · exact .inl ⟨'\\', by decide, rfl, rfl⟩
  · exact .inl ⟨'b', by decide, rfl, rfl⟩
  · exact .inl ⟨'f', by decide, rfl, rfl⟩
  · exact .inl ⟨'n', by decide, rfl, rfl⟩
  · exact .inl ⟨'r', by decide, rfl, rfl⟩
  · exact .inl ⟨'t', by decide, rfl, rfl⟩
  next hquote hslash _ _ _ _ _ =>
    split
    next h => exact .inr (.inl ⟨h, rfl⟩)
    next h => exact .inr (.inr ⟨hquote, hslash, Nat.le_of_not_lt h, rfl⟩)

theorem takeParts_escapedChar (fuel : Nat) (c : Char) (s : List Char) :
    takeParts (fuel + 1) (escapedChar c ++ s) = (takeParts fuel s).map fun p => (.char c :: p.1, p.2) := by
  rcases escapedChar_cases c with ⟨x, hx, heq, hescape⟩ | ⟨hcontrol, heq⟩ | ⟨hquote, hslash, hplain, heq⟩
  · rw [heq]
    simp only [List.cons_append, List.nil_append, takeParts, hescape]
    cases takeParts fuel s <;> rfl
  · have hzero : Text.hexValue? '0' = some 0 := by decide
    have hhigh := Text.hexValue?_digitChar (c.toNat / 16) (by omega)
    have hlow := Text.hexValue?_digitChar (c.toNat % 16) (by omega)
    have hvalue : ((0 * 16 + 0) * 16 + c.toNat / 16) * 16 + c.toNat % 16 = c.toNat := by omega
    have hwhole : ¬(0xD800 ≤ c.toNat ∧ c.toNat ≤ 0xDFFF) := by omega
    rw [heq]
    simp only [List.cons_append, List.nil_append, takeParts, takeHex4, hzero, hhigh, hlow, Option.bind_eq_bind,
      Option.bind_some, hvalue, if_neg hwhole, Char.ofNat_toNat]
    cases takeParts fuel s <;> rfl
  · rw [heq, List.singleton_append, takeParts, if_neg (by simp [hslash, Nat.not_lt.2 hplain])]
    · cases takeParts fuel s <;> rfl
    · exact hquote
    · exact fun _ h => absurd h hslash
    · exact fun _ _ h => absurd h hslash

theorem takeParts_escaped {s : List Char} {fuel : Nat} (h : s.length < fuel) (rest : List Char) :
    takeParts fuel (s.flatMap escapedChar ++ '"' :: rest) = some (s.map .char, rest) := by
  induction s generalizing fuel with
  | nil =>
    cases fuel with
    | zero => cases h
    | succ fuel => rfl
  | cons c s ih =>
    cases fuel with
    | zero => cases h
    | succ fuel =>
      rw [List.flatMap_cons, List.append_assoc, takeParts_escapedChar, ih (Nat.lt_of_succ_lt_succ h), Option.map_some,
        List.map_cons]

theorem joinParts_chars (s : List Char) : joinParts (s.map .char) = some s := by
  induction s with
  | nil => rfl
  | cons c s ih => rw [List.map_cons, joinParts, ih, Option.map_some]

theorem length_le_escaped (s : List Char) : s.length ≤ (s.flatMap escapedChar).length := by
  induction s with
  | nil => exact Nat.zero_le _
  | cons c s ih =>
    have hone : 1 ≤ (escapedChar c).length := by
      rcases escapedChar_cases c with ⟨x, -, heq, -⟩ | ⟨-, heq⟩ | ⟨-, -, -, heq⟩ <;> rw [heq] <;> simp
    rw [List.flatMap_cons, List.length_append, List.length_cons]
    omega

/-- What is written between quotes is read, up to the closing one. -/
theorem takeString_escaped (s : String) (rest : List Char) :
    takeString (s.toList.flatMap escapedChar ++ '"' :: rest) = some (some s, rest) := by
  have hlength := length_le_escaped s.toList
  rw [takeString, takeParts_escaped (by simp only [List.length_append]; omega), Option.map_some]
  simp only [joinParts_chars, Option.map_some, String.ofList_toList]

theorem stringText_append (s : String) (rest : List Char) :
    stringText s ++ rest = '"' :: (s.toList.flatMap escapedChar ++ '"' :: rest) := by
  simp [stringText]

/-! ## Values -/

mutual

/-- A value without numbers, in which lists and objects are so deep at most. -/
def isWordy (depth : Nat) : Json → Bool
  | .null | .bool _ | .str _ => true
  | .num _ | .unread _ => false
  | .arr items => 0 < depth && areWordy (depth - 1) items
  | .obj members => 0 < depth && haveWordy (depth - 1) members

def areWordy (depth : Nat) : List Json → Bool
  | [] => true
  | v :: rest => isWordy depth v && areWordy depth rest

def haveWordy (depth : Nat) : Members → Bool
  | [] => true
  | (_, v) :: rest => isWordy depth v && haveWordy depth rest

end

/-- A value begins with a character that is neither white space nor the end of a list. -/
theorem exists_compactChars {v : Json} {depth : Nat} (h : isWordy depth v = true) :
    ∃ c s, v.compactChars = c :: s ∧ isSpace c = false ∧ c ≠ ']' := by
  match v with
  | .null => exact ⟨'n', _, rfl, by decide, by decide⟩
  | .bool true => exact ⟨'t', _, rfl, by decide, by decide⟩
  | .bool false => exact ⟨'f', _, rfl, by decide, by decide⟩
  | .str s => exact ⟨'"', _, rfl, by decide, by decide⟩
  | .arr [] => exact ⟨'[', _, rfl, by decide, by decide⟩
  | .arr (v :: items) => exact ⟨'[', _, by rw [compactChars]; rfl, by decide, by decide⟩
  | .obj [] => exact ⟨'\x7b', _, rfl, by decide, by decide⟩
  | .obj ((k, v) :: members) => exact ⟨'\x7b', _, by rw [compactChars]; rfl, by decide, by decide⟩

theorem skipSpace_cons {c : Char} (h : isSpace c = false) (s : List Char) : skipSpace (c :: s) = c :: s := by
  rw [skipSpace, List.dropWhile_cons_of_neg (by simp [h])]

section

variable {fuel depth : Nat} {s t u rest : List Char} {k : String} {v : Json} {items : List Json} {members : Members}
  {after : Option (List Char)}

theorem readValue_array {c : Char} (hdepth : 0 < depth) (hspace : isSpace c = false) (hend : c ≠ ']')
    (h : readItems fuel (depth - 1) (c :: s) = (items, after)) :
    readValue (fuel + 1) depth ('[' :: c :: s) = (arr items, after) := by
  rw [readValue, skipSpace_cons (by decide)]
  simp only [skipSpace_cons hspace]
  split
  next heq => exact absurd (List.cons.inj heq).1 hend
  next => simp only [h, tooDeep, if_neg (Nat.ne_of_gt hdepth)]

theorem readValue_object (hdepth : 0 < depth) (h : readMembers fuel (depth - 1) ('"' :: s) = (members, after)) :
    readValue (fuel + 1) depth ('\x7b' :: '"' :: s) = (obj members, after) := by
  rw [readValue, skipSpace_cons (by decide)]
  simp only [skipSpace_cons (c := '"') (by decide)]
  split
  next heq => exact absurd (List.cons.inj heq).1 (by decide)
  next => simp only [h, tooDeep, if_neg (Nat.ne_of_gt hdepth)]

theorem readItems_last (h : readValue fuel depth s = (v, some (']' :: rest))) :
    readItems (fuel + 1) depth s = ([v], some rest) := by
  rw [readItems, h]
  rfl

theorem readItems_more (h : readValue fuel depth s = (v, some (',' :: t)))
    (hmore : readItems fuel depth t = (items, after)) : readItems (fuel + 1) depth s = (v :: items, after) := by
  rw [readItems, h]
  simp only [skipSpace_cons (c := ',') (by decide), hmore]

theorem readMembers_last (hkey : takeString s = some (some k, ':' :: t))
    (h : readValue fuel depth t = (v, some ('\x7d' :: rest))) :
    readMembers (fuel + 1) depth ('"' :: s) = ([(k, v)], some rest) := by
  rw [readMembers, skipSpace_cons (by decide)]
  simp only [hkey, skipSpace_cons (c := ':') (by decide), h, skipSpace_cons (c := '\x7d') (by decide)]

theorem readMembers_more (hkey : takeString s = some (some k, ':' :: t))
    (h : readValue fuel depth t = (v, some (',' :: u))) (hmore : readMembers fuel depth u = (members, after)) :
    readMembers (fuel + 1) depth ('"' :: s) = ((k, v) :: members, after) := by
  rw [readMembers, skipSpace_cons (by decide)]
  simp only [hkey, skipSpace_cons (c := ':') (by decide), h, skipSpace_cons (c := ',') (by decide), hmore]

/-- A value is read as it is written, whatever follows it. -/
def ReadAsWritten (depth : Nat) (v : Json) : Prop :=
  ∀ fuel rest, v.compactChars.length ≤ fuel → readValue fuel depth (v.compactChars ++ rest) = (v, some rest)

theorem readItems_compactItems (rest : List Char) (h : ∀ w ∈ v :: items, ReadAsWritten depth w)
    (hfuel : (v.compactChars ++ compactItems items).length < fuel) :
    readItems fuel depth (v.compactChars ++ compactItems items ++ ']' :: rest) = (v :: items, some rest) := by
  induction items generalizing v fuel with
  | nil =>
    cases fuel with
    | zero => cases hfuel
    | succ fuel =>
      rw [compactItems, List.append_nil] at hfuel ⊢
      exact readItems_last (h v List.mem_cons_self fuel _ (Nat.le_of_lt_succ hfuel))
  | cons w items ih =>
    obtain ⟨hfirst, hrest⟩ := List.forall_mem_cons.1 h
    cases fuel with
    | zero => cases hfuel
    | succ fuel =>
      simp only [compactItems, List.length_append, List.length_singleton] at hfuel
      have hvalue := hfirst fuel (',' :: (w.compactChars ++ compactItems items ++ ']' :: rest)) (by omega)
      have hshort : (w.compactChars ++ compactItems items).length < fuel := by
        rw [List.length_append]
        omega
      have hmore := ih hrest hshort
      simpa [compactItems] using readItems_more hvalue hmore

theorem readMembers_compactMembers (rest : List Char) (h : ∀ m ∈ (k, v) :: members, ReadAsWritten depth m.2)
    (hfuel : (stringText k ++ [':'] ++ v.compactChars ++ compactMembers members).length < fuel) :
    readMembers fuel depth (stringText k ++ [':'] ++ v.compactChars ++ compactMembers members ++ '\x7d' :: rest) =
      ((k, v) :: members, some rest) := by
  induction members generalizing k v fuel with
  | nil =>
    cases fuel with
    | zero => cases hfuel
    | succ fuel =>
      simp only [compactMembers, List.append_nil, List.length_append] at hfuel
      have hvalue : ReadAsWritten depth v := h (k, v) List.mem_cons_self
      simpa [stringText, compactMembers] using
        readMembers_last (takeString_escaped k _) (hvalue fuel ('\x7d' :: rest) (by omega))
  | cons m members ih =>
    obtain ⟨l, w⟩ := m
    obtain ⟨hfirst, hrest⟩ := List.forall_mem_cons.1 h
    cases fuel with
    | zero => cases hfuel
    | succ fuel =>
      simp only [compactMembers, List.length_append, List.length_singleton] at hfuel
      change ReadAsWritten depth v at hfirst
      have hvalue := hfirst fuel
        (',' :: (stringText l ++ [':'] ++ w.compactChars ++ compactMembers members ++ '\x7d' :: rest)) (by omega)
      have hshort : (stringText l ++ [':'] ++ w.compactChars ++ compactMembers members).length < fuel := by
        simp only [List.length_append, List.length_singleton]
        omega
      have hmore := ih hrest hshort
      simpa [stringText, compactMembers] using readMembers_more (takeString_escaped k _) hvalue hmore

theorem readAsWritten_of_succ (hv : isWordy depth v = true) (h : ∀ fuel rest, v.compactChars.length ≤ fuel + 1 →
    readValue (fuel + 1) depth (v.compactChars ++ rest) = (v, some rest)) : ReadAsWritten depth v := by
  intro fuel rest hfuel
  cases fuel with
  | zero =>
    obtain ⟨c, s, hs, -⟩ := exists_compactChars hv
    rw [hs] at hfuel
    cases hfuel
  | succ fuel => exact h fuel rest hfuel

theorem str_readAsWritten (text : String) : ReadAsWritten depth (str text) := by
  refine readAsWritten_of_succ rfl fun fuel rest _ => ?_
  rw [compactChars, stringText_append, readValue, skipSpace_cons (by decide)]
  simp only [takeString_escaped]

theorem arr_nil_readAsWritten (hdepth : 0 < depth) : ReadAsWritten depth (arr []) := by
  refine readAsWritten_of_succ (by simp [isWordy, areWordy, hdepth]) fun fuel rest _ => ?_
  simp only [compactChars, List.cons_append, List.nil_append, readValue, skipSpace_cons (c := '[') (by decide),
    skipSpace_cons (c := ']') (by decide), tooDeep, if_neg (Nat.ne_of_gt hdepth)]

theorem obj_nil_readAsWritten (hdepth : 0 < depth) : ReadAsWritten depth (obj []) := by
  refine readAsWritten_of_succ (by simp [isWordy, haveWordy, hdepth]) fun fuel rest _ => ?_
  simp only [compactChars, List.cons_append, List.nil_append, readValue, skipSpace_cons (c := '\x7b') (by decide),
    skipSpace_cons (c := '\x7d') (by decide), tooDeep, if_neg (Nat.ne_of_gt hdepth)]

theorem arr_cons_readAsWritten (hv : isWordy depth (arr (v :: items)) = true)
    (h : ∀ w ∈ v :: items, ReadAsWritten (depth - 1) w) : ReadAsWritten depth (arr (v :: items)) := by
  refine readAsWritten_of_succ hv fun fuel rest hfuel => ?_
  simp only [isWordy, areWordy, Bool.and_eq_true, decide_eq_true_eq] at hv
  obtain ⟨hdepth, hfirst, -⟩ := hv
  simp only [compactChars, List.length_append, List.length_singleton] at hfuel
  have hshort : (v.compactChars ++ compactItems items).length < fuel := by
    rw [List.length_append]
    omega
  have hread := readItems_compactItems rest h hshort
  obtain ⟨c, s, hs, hspace, hend⟩ := exists_compactChars hfirst
  rw [hs] at hread
  simpa [compactChars, hs] using readValue_array hdepth hspace hend hread

theorem obj_cons_readAsWritten (hv : isWordy depth (obj ((k, v) :: members)) = true)
    (h : ∀ m ∈ (k, v) :: members, ReadAsWritten (depth - 1) m.2) : ReadAsWritten depth (obj ((k, v) :: members)) := by
  refine readAsWritten_of_succ hv fun fuel rest hfuel => ?_
  simp only [isWordy, Bool.and_eq_true, decide_eq_true_eq] at hv
  simp only [compactChars, List.length_append, List.length_singleton] at hfuel
  have hshort : (stringText k ++ [':'] ++ v.compactChars ++ compactMembers members).length < fuel := by
    simp only [List.length_append, List.length_singleton]
    omega
  have hread := readMembers_compactMembers rest h hshort
  simpa [compactChars, stringText] using readValue_object hv.1 (by simpa [stringText] using hread)

end

mutual

/-- Values without numbers are read back, as deep as they are let to be. -/
theorem readAsWritten_of_isWordy : (v : Json) → (depth : Nat) → isWordy depth v = true → ReadAsWritten depth v
  | .null, _, h | .bool true, _, h | .bool false, _, h => readAsWritten_of_succ h fun _ _ _ => rfl
  | .str text, _, _ => str_readAsWritten text
  | .arr [], _, h => arr_nil_readAsWritten (by simpa [isWordy, areWordy] using h)
  | .arr (v :: items), depth, h => by
    refine arr_cons_readAsWritten h (readAsWritten_of_areWordy (v :: items) (depth - 1) ?_)
    rw [isWordy, Bool.and_eq_true] at h
    exact h.2
  | .obj [], _, h => obj_nil_readAsWritten (by simpa [isWordy, haveWordy] using h)
  | .obj ((k, v) :: members), depth, h => by
    refine obj_cons_readAsWritten h (readAsWritten_of_haveWordy ((k, v) :: members) (depth - 1) ?_)
    rw [isWordy, Bool.and_eq_true] at h
    exact h.2

theorem readAsWritten_of_areWordy : (items : List Json) → (depth : Nat) → areWordy depth items = true →
    ∀ w ∈ items, ReadAsWritten depth w
  | [], _, _ => by simp
  | v :: items, depth, h => by
    rw [areWordy, Bool.and_eq_true] at h
    exact List.forall_mem_cons.2 ⟨readAsWritten_of_isWordy v depth h.1, readAsWritten_of_areWordy items depth h.2⟩

theorem readAsWritten_of_haveWordy : (members : Members) → (depth : Nat) → haveWordy depth members = true →
    ∀ m ∈ members, ReadAsWritten depth m.2
  | [], _, _ => by simp
  | (k, v) :: members, depth, h => by
    rw [haveWordy, Bool.and_eq_true] at h
    exact List.forall_mem_cons.2 ⟨readAsWritten_of_isWordy v depth h.1, readAsWritten_of_haveWordy members depth h.2⟩

end

/-- A compact text is read as the value that was written, and nothing is left of it. -/
theorem readText_compact {v : Json} (h : isWordy depthLimit v = true) : readText v.compact = (v, true) := by
  have hread := readAsWritten_of_isWordy v depthLimit h (2 * v.compactChars.length + 2) [] (by omega)
  rw [List.append_nil] at hread
  rw [readText, compact, String.toList_ofList]
  simp only [hread]
  rfl

end SignatureDesk.Json
