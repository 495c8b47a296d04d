/-
What a structure reads from the members of an object, field by field. A field
reads what stands under its spellings and the fields behind it read the rest
(`ofMembers_cons_ok_iff`), so the order in which members of different fields
stand means nothing. The members that no field takes are skipped or kept;
those that are kept end up sorted by key in canonical form
(`recordKeeping_decode_iff`).
-/
import SignatureDesk.Json.Codec
import SignatureDesk.Proofs.Json.Canonical
import SignatureDesk.Proofs.Outcome

namespace SignatureDesk

/-! ## Members under some keys -/

namespace Json

def under (keys : List String) (ms : Members) : Members := ms.filter fun m => keys.contains m.1

def besides (keys : List String) (ms : Members) : Members := ms.filter fun m => !keys.contains m.1

variable {keys : List String} {m : String × Json} {ms ns : Members}

theorem mem_besides : m ∈ besides keys ms ↔ m ∈ ms ∧ m.1 ∉ keys := by simp [besides]

theorem under_cons_of_mem (h : m.1 ∈ keys) : under keys (m :: ms) = m :: under keys ms :=
  List.filter_cons_of_pos (by simpa using h)

theorem under_cons_of_not_mem (h : m.1 ∉ keys) : under keys (m :: ms) = under keys ms :=
  List.filter_cons_of_neg (by simpa using h)

theorem besides_cons_of_mem (h : m.1 ∈ keys) : besides keys (m :: ms) = besides keys ms :=
  List.filter_cons_of_neg (by simpa using h)

theorem besides_cons_of_not_mem (h : m.1 ∉ keys) : besides keys (m :: ms) = m :: besides keys ms :=
  List.filter_cons_of_pos (by simpa using h)

theorem under_append : under keys (ms ++ ns) = under keys ms ++ under keys ns := List.filter_append ..

theorem besides_append : besides keys (ms ++ ns) = besides keys ms ++ besides keys ns := List.filter_append ..

theorem under_eq_self (h : ∀ m ∈ ms, m.1 ∈ keys) : under keys ms = ms :=
  List.filter_eq_self.2 fun m hm => by simpa using h m hm

theorem under_eq_nil (h : ∀ m ∈ ms, m.1 ∉ keys) : under keys ms = [] :=
  List.filter_eq_nil_iff.2 fun m hm => by simpa using h m hm

theorem besides_eq_self (h : ∀ m ∈ ms, m.1 ∉ keys) : besides keys ms = ms :=
  List.filter_eq_self.2 fun m hm => by simpa using h m hm

theorem besides_eq_nil (h : ∀ m ∈ ms, m.1 ∈ keys) : besides keys ms = [] :=
  List.filter_eq_nil_iff.2 fun m hm => by simpa using h m hm

theorem lookup_besides {k : String} (h : k ∉ keys) : (besides keys ms).lookup k = ms.lookup k := by
  induction ms with
  | nil => rfl
  | cons m ms ih =>
    by_cases hm : m.1 ∈ keys
    · have hkey : k ≠ m.1 := by
        rintro rfl
        exact h hm
      rw [besides_cons_of_mem hm, ih, lookup_cons_key, if_neg hkey]
    · rw [besides_cons_of_not_mem hm, lookup_cons_key, lookup_cons_key, ih]

theorem lookup_eq_head?_under (k : String) (ms : Members) : ms.lookup k = ((under [k] ms).map Prod.snd).head? := by
  induction ms with
  | nil => rfl
  | cons m ms ih =>
    by_cases hm : m.1 ∈ [k]
    · rw [under_cons_of_mem hm, lookup_cons_key, if_pos (List.mem_singleton.1 hm).symm]
      rfl
    · have hkey : k ≠ m.1 := by
        rintro rfl
        exact hm (List.mem_singleton_self _)
      rw [under_cons_of_not_mem hm, lookup_cons_key, if_neg hkey, ih]

theorem lookup_eq_none {k : String} (h : ∀ m ∈ ms, m.1 ≠ k) : ms.lookup k = none :=
  List.lookup_eq_none_iff.2 fun m hm => by simpa using (h m hm).symm

end Json

open Json

namespace Fields

variable {α β γ : Type}

/-! ## One field and the others -/

/-- Reads a structure from the members of an object. -/
def ofMembers (fs : Fields α) (ms : Members) : Except Fault α := do fs.finish (← fs.putAll fs.start ms)

/-- What a field comes to when some values stand under its spellings. -/
def readGiven (c : Codec β) (missing : Missing β) : List Json → Except Fault β
  | [] => missing.inObject
  | [v] => c.decode v
  | _ :: _ :: _ => .error .shape

/-- Reads values into the slot of a field, which takes one only. -/
def fill (c : Codec β) : Option β → List Json → Except Fault (Option β)
  | slot, [] => .ok slot
  | none, v :: vs => do fill c (some (← c.decode v)) vs
  | some _, _ :: _ => .error .shape

section Cons

variable {key : String} {others : List String} {c : Codec β} {missing : Missing β} {leaveOut : β → Bool}
  {rest : Fields γ}

/-- The slot of a field in front of those of the fields behind it. -/
def before (slot : Option β) (slots : rest.Slots) : (cons key others c missing leaveOut rest).Slots := (slot, slots)

theorem exists_before (slots : (cons key others c missing leaveOut rest).Slots) :
    ∃ slot behind, slots = before slot behind := ⟨slots.1, slots.2, rfl⟩

theorem before_inj {slot slot' : Option β} {slots slots' : rest.Slots} :
    (before slot slots : (cons key others c missing leaveOut rest).Slots) = before slot' slots' ↔
      slot = slot' ∧ slots = slots' := by
  constructor
  · intro h
    cases h
    exact ⟨rfl, rfl⟩
  · rintro ⟨rfl, rfl⟩
    rfl

theorem put_cons_of_mem {slot : Option β} {slots : rest.Slots} {k : String} (v : Json) (h : k ∈ key :: others) :
    (cons key others c missing leaveOut rest).put (before slot slots) k v =
      some ((fill c slot [v]).map fun slot => before slot slots) := by
  have hk : (key :: others).contains k = true := by simpa using h
  cases slot with
  | some b =>
    simp only [cons, before, hk, if_true, fill]
    rfl
  | none =>
    simp only [cons, before, hk, if_true, fill]
    cases c.decode v <;> rfl

theorem put_cons_of_not_mem {slot : Option β} {slots : rest.Slots} {k : String} (v : Json) (h : k ∉ key :: others) :
    (cons key others c missing leaveOut rest).put (before slot slots) k v =
      (rest.put slots k v).map (·.map fun slots => before slot slots) := by
  have hk : (key :: others).contains k = false := by simpa using h
  simp only [cons, before, hk, Bool.false_eq_true, if_false]

/-- The values under the spellings of a field fill its slot, the other members go to the fields behind it. -/
theorem putAll_cons_ok_iff {slot slot' : Option β} {slots slots' : rest.Slots} {ms : Members} :
    (cons key others c missing leaveOut rest).putAll (before slot slots) ms = .ok (before slot' slots') ↔
      fill c slot ((under (key :: others) ms).map Prod.snd) = .ok slot' ∧
        rest.putAll slots (besides (key :: others) ms) = .ok slots' := by
  -- Each member goes either into the slot of the field, or to the fields behind it, and leaves the other as it is.
  induction ms generalizing slot slots with
  | nil => simp [putAll, under, besides, fill, before_inj]
  | cons m ms ih =>
    obtain ⟨k, v⟩ := m
    by_cases hk : k ∈ key :: others
    · rw [putAll, put_cons_of_mem v hk, under_cons_of_mem hk, besides_cons_of_mem hk, List.map_cons]
      cases slot with
      | some b => simp [fill, except_bind_ok_iff, except_map_ok_iff]
      | none =>
        simp only [fill, except_bind_ok_iff, except_map_ok_iff, Except.ok.injEq]
        constructor
        · rintro ⟨_, ⟨_, ⟨b, hb, rfl⟩, rfl⟩, hrest⟩
          obtain ⟨hfill, hput⟩ := ih.1 hrest
          exact ⟨⟨b, hb, hfill⟩, hput⟩
        · rintro ⟨⟨b, hb, hfill⟩, hput⟩
          exact ⟨_, ⟨_, ⟨b, hb, rfl⟩, rfl⟩, ih.2 ⟨hfill, hput⟩⟩
    · rw [putAll, put_cons_of_not_mem v hk, under_cons_of_not_mem hk, besides_cons_of_not_mem hk, putAll]
      cases rest.put slots k v with
      | none =>
        simp only [Option.map_none, except_bind_ok_iff, ih]
        tauto
      | some r =>
        simp only [Option.map_some, except_bind_ok_iff, except_map_ok_iff]
        constructor
        · rintro ⟨_, ⟨slots₁, hr, rfl⟩, hrest⟩
          obtain ⟨hfill, hput⟩ := ih.1 hrest
          exact ⟨hfill, slots₁, hr, hput⟩
        · rintro ⟨hfill, slots₁, hr, hput⟩
          exact ⟨_, ⟨slots₁, hr, rfl⟩, ih.2 ⟨hfill, hput⟩⟩

theorem readGiven_ok_iff {vs : List Json} {b : β} :
    readGiven c missing vs = .ok b ↔
      ∃ slot, fill c none vs = .ok slot ∧ slot.elim missing.inObject .ok = .ok b := by
  match vs with
  | [] => simp [readGiven, fill]
  | [v] => simp [readGiven, fill, except_bind_ok_iff]
  | v :: w :: vs => simp [readGiven, fill, except_bind_ok_iff]

theorem finish_cons_ok_iff {slot : Option β} {slots : rest.Slots} {b : β} {r : γ} :
    (cons key others c missing leaveOut rest).finish (before slot slots) = .ok (b, r) ↔
      slot.elim missing.inObject .ok = .ok b ∧ rest.finish slots = .ok r := by
  cases slot <;> simp [cons, before, except_bind_ok_iff, and_comm]

/-- A field reads what stands under its spellings, the fields behind it the rest. -/
theorem ofMembers_cons_ok_iff {ms : Members} {b : β} {r : γ} :
    (cons key others c missing leaveOut rest).ofMembers ms = .ok (b, r) ↔
      readGiven c missing ((under (key :: others) ms).map Prod.snd) = .ok b ∧
        rest.ofMembers (besides (key :: others) ms) = .ok r := by
  have hstart : (cons key others c missing leaveOut rest).start = before none rest.start := rfl
  rw [readGiven_ok_iff, ofMembers, ofMembers, except_bind_ok_iff, except_bind_ok_iff, hstart]
  constructor
  · rintro ⟨slots, hput, hend⟩
    obtain ⟨slot, slots, rfl⟩ := exists_before slots
    obtain ⟨hfill, hrest⟩ := putAll_cons_ok_iff.1 hput
    obtain ⟨hslot, hslots⟩ := finish_cons_ok_iff.1 hend
    exact ⟨⟨slot, hfill, hslot⟩, slots, hrest, hslots⟩
  · rintro ⟨⟨slot, hfill, hslot⟩, slots, hrest, hslots⟩
    exact ⟨_, putAll_cons_ok_iff.2 ⟨hfill, hrest⟩, finish_cons_ok_iff.2 ⟨hslot, hslots⟩⟩

/-- An array gives a field its first item, if it has any. -/
theorem ofItems_cons_ok_iff {items left : List Json} {b : β} {r : γ} :
    (cons key others c missing leaveOut rest).ofItems items = .ok ((b, r), left) ↔
      (items.head?.elim missing.inArray c.decode = .ok b) ∧ rest.ofItems items.tail = .ok (r, left) := by
  cases items <;> simp [cons, except_bind_ok_iff]

/-- A field of one spelling reads what stands under it, or comes to what its absence means. -/
theorem lookup_cases {ms : Members} {b : β} (h : readGiven c missing ((under [key] ms).map Prod.snd) = .ok b) :
    ms.lookup key = none ∧ missing.inObject = .ok b ∨ ∃ v, ms.lookup key = some v ∧ c.decode v = .ok b := by
  rw [lookup_eq_head?_under]
  match (under [key] ms).map Prod.snd, h with
  | [], h => exact .inl ⟨rfl, h⟩
  | [v], h => exact .inr ⟨v, rfl, h⟩

theorem lookup_of_required {ms : Members} {b : β} {r : γ} (h : (required key [] c rest).ofMembers ms = .ok (b, r)) :
    ∃ v, ms.lookup key = some v ∧ c.decode v = .ok b ∧ rest.ofMembers (besides [key] ms) = .ok r := by
  obtain ⟨hgiven, hrest⟩ := ofMembers_cons_ok_iff.1 h
  rcases lookup_cases hgiven with ⟨-, hb⟩ | ⟨v, hv, hb⟩
  · cases hb
  · exact ⟨v, hv, hb, hrest⟩

theorem head_of_required {items left : List Json} {b : β} {r : γ}
    (h : (required key others c rest).ofItems items = .ok ((b, r), left)) :
    ∃ v, items.head? = some v ∧ c.decode v = .ok b ∧ rest.ofItems items.tail = .ok (r, left) := by
  obtain ⟨hfirst, hrest⟩ := ofItems_cons_ok_iff.1 h
  cases items with
  | nil => cases hfirst
  | cons v items => exact ⟨v, rfl, hfirst, hrest⟩

/-- A field with a value for its absence comes to that value, or to one that was read. -/
theorem readGiven_default_cases {b x : β} {vs : List Json} (h : readGiven c (.default b) vs = .ok x) :
    x = b ∨ ∃ v, c.decode v = .ok x := by
  match vs, h with
  | [], h => exact .inl (Except.ok.inj h).symm
  | [v], h => exact .inr ⟨v, h⟩

theorem head_default_cases {b x : β} {items : List Json}
    (h : items.head?.elim (Missing.default b).inArray c.decode = .ok x) : x = b ∨ ∃ v, c.decode v = .ok x := by
  cases items with
  | nil => exact .inl (Except.ok.inj h).symm
  | cons v items => exact .inr ⟨v, h⟩

end Cons

/-! ## Members of other names -/

/-- The fields take exactly the members that have one of their spellings. -/
def Knows (fs : Fields α) : Prop := ∀ slots k v, fs.put slots k v = none ↔ k ∉ fs.names

theorem nil_knows : nil.Knows := by simp [Knows, nil]

theorem Knows.cons {rest : Fields γ} (h : rest.Knows) (key : String) (others : List String) (c : Codec β)
    (missing : Missing β) (leaveOut : β → Bool) : (cons key others c missing leaveOut rest).Knows := by
  intro slots k v
  obtain ⟨slot, slots, rfl⟩ := exists_before slots
  have hnames : (Fields.cons key others c missing leaveOut rest).names = key :: others ++ rest.names := rfl
  rw [hnames, List.mem_append]
  by_cases hk : k ∈ key :: others
  · simp [put_cons_of_mem v hk, hk]
  · simp [put_cons_of_not_mem v hk, h slots k v, hk]

/-- Fields that ignore other members read those of their names, and skip the others. -/
theorem Knows.putAll_ok_iff {fs : Fields α} (h : fs.Knows) {slots slots' : fs.Slots} {ms : Members} :
    fs.putAll slots ms = .ok slots' ↔
      fs.putAll slots (under fs.names ms) = .ok slots' ∧ ∀ m ∈ besides fs.names ms, m.2.delimited = true := by
  induction ms generalizing slots with
  | nil => simp [under, besides]
  | cons m ms ih =>
    obtain ⟨k, v⟩ := m
    rw [putAll]
    by_cases hk : k ∈ fs.names
    · rw [under_cons_of_mem hk, besides_cons_of_mem hk, putAll]
      cases hput : fs.put slots k v with
      | none => exact absurd hk ((h slots k v).1 hput)
      | some r =>
        simp only [except_bind_ok_iff, ih]
        tauto
    · rw [under_cons_of_not_mem hk, besides_cons_of_not_mem hk, (h slots k v).2 hk, List.forall_mem_cons]
      simp only [except_bind_ok_iff, ih, skip]
      cases v.delimited <;> simp

/-- Fields that keep other members read only those of their names. -/
theorem Knows.putKeeping_ok_iff {fs : Fields α} (h : fs.Knows) {slots slots' : fs.Slots} {kept kept' ms : Members} :
    fs.putKeeping slots kept ms = .ok (slots', kept') ↔
      fs.putAll slots (under fs.names ms) = .ok slots' ∧
        kept' = (besides fs.names ms).foldl (fun acc m => insertMember m.1 m.2.canonical acc) kept := by
  induction ms generalizing slots kept with
  | nil => simp [putKeeping, putAll, under, besides, eq_comm]
  | cons m ms ih =>
    obtain ⟨k, v⟩ := m
    rw [putKeeping]
    cases hput : fs.put slots k v with
    | none =>
      have hk : k ∉ fs.names := (h slots k v).1 hput
      rw [under_cons_of_not_mem hk, besides_cons_of_not_mem hk, List.foldl_cons]
      exact ih
    | some r =>
      have hk : k ∈ fs.names := by
        by_contra hk
        rw [(h slots k v).2 hk] at hput
        cases hput
      rw [under_cons_of_mem hk, besides_cons_of_mem hk, putAll, hput]
      simp only [except_bind_ok_iff, ih]
      tauto

end Fields

namespace Codec

variable {α : Type} {fs : Fields α}

theorem optional_decode_of_ne {c : Codec α} {v : Json} (h : v ≠ .null) :
    (optional c).decode v = (c.decode v).map some := by
  cases v <;> first | rfl | exact absurd rfl h

/-- An array holds the fields of a structure and nothing behind them. -/
theorem record_decode_arr_iff {items : List Json} {a : α} :
    (record fs).decode (.arr items) = .ok a ↔ fs.ofItems items = .ok (a, []) := by
  simp only [record, except_bind_ok_iff]
  constructor
  · rintro ⟨⟨a', left⟩, hitems, hend⟩
    cases left with
    | nil =>
      cases hend
      exact hitems
    | cons v left => cases hend
  · intro hitems
    exact ⟨(a, []), hitems, rfl⟩

/-- A field with a value for its absence has that value, or one that was read. -/
theorem record_default_cases {β γ : Type} {key : String} {others : List String} {c : Codec β} {b x : β}
    {leaveOut : β → Bool} {rest : Fields γ} {r : γ} {v : Json}
    (h : (record (Fields.cons key others c (.default b) leaveOut rest)).decode v = .ok (x, r)) :
    x = b ∨ ∃ w, c.decode w = .ok x := by
  cases v with
  | obj ms => exact Fields.readGiven_default_cases (Fields.ofMembers_cons_ok_iff.1 h).1
  | arr items => exact Fields.head_default_cases (Fields.ofItems_cons_ok_iff.1 (record_decode_arr_iff.1 h)).1
  | _ => simp [record] at h

/-- The members that a structure keeps: those of other names, sorted by key, in canonical form. -/
def keptMembers (names : List String) (ms : Members) : Members := sortMembers (canonicalMembers (besides names ms))

theorem recordKeeping_decode_iff (h : fs.Knows) {v : Json} {a : α} {kept : Members} :
    (recordKeeping fs).decode v = .ok (a, kept) ↔
      ∃ ms, v = .obj ms ∧ intactMembers ms = true ∧ fs.ofMembers (under fs.names ms) = .ok a ∧
        kept = keptMembers fs.names ms := by
  cases v with
  | obj ms =>
    have hfold : keptMembers fs.names ms =
        (besides fs.names ms).foldl (fun acc m => insertMember m.1 m.2.canonical acc) [] := by
      rw [keptMembers, sortMembers, canonicalMembers_eq_map, List.foldl_map]
    simp only [recordKeeping, obj.injEq, exists_eq_left', hfold]
    split
    next hintact =>
      simp only [hintact, true_and, Fields.ofMembers, except_bind_ok_iff]
      constructor
      · rintro ⟨⟨slots, kept'⟩, hput, a', hend, heq⟩
        cases heq
        obtain ⟨hall, hkept⟩ := h.putKeeping_ok_iff.1 hput
        exact ⟨⟨slots, hall, hend⟩, hkept⟩
      · rintro ⟨⟨slots, hall, hend⟩, hkept⟩
        exact ⟨(slots, kept), h.putKeeping_ok_iff.2 ⟨hall, hkept⟩, a, hend, rfl⟩
    next hbroken => simp [hbroken]
  | _ => simp [recordKeeping]

end Codec
end SignatureDesk
