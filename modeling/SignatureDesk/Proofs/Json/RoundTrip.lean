/-
What a codec has read it writes so that it reads the same again, whether the
members of the objects written keep the order of the fields or are sorted by
key. The law is stated of the values that were read (`Codec.RoundTrip`) and
carried through every way to build a codec: through a list of fields it goes one
field at a time (`Fields.Lawful.cons`), as long as the spellings of a field are
none of the fields behind it.
-/
import Mathlib.Tactic.Tauto
import SignatureDesk.Proofs.Json.Fields

namespace SignatureDesk

/-! ## The order of members -/

namespace Json

/-- A value with its members as they stand, or sorted by key. -/
def ordered (sorted : Bool) (v : Json) : Json := if sorted then v.canonical else v

variable {sorted : Bool}

theorem ordered_null : null.ordered sorted = null := by cases sorted <;> rfl

theorem ordered_bool (b : Bool) : (bool b).ordered sorted = bool b := by cases sorted <;> rfl

theorem ordered_num (n : Number) : (num n).ordered sorted = num n := by cases sorted <;> rfl

theorem ordered_str (s : String) : (str s).ordered sorted = str s := by cases sorted <;> rfl

theorem ordered_arr (items : List Json) : (arr items).ordered sorted = arr (items.map (ordered sorted)) := by
  cases sorted with
  | true => exact congrArg arr (canonicalItems_eq_map items)
  | false => exact congrArg arr (List.map_id items).symm

theorem ordered_of_canonical {v : Json} (h : v.canonical = v) : v.ordered sorted = v := by
  cases sorted <;> simp [ordered, h]

theorem intact_ordered {v : Json} (h : v.intact = true) : (v.ordered sorted).intact = true := by
  cases sorted with
  | true => exact intact_canonical v h
  | false => exact h

/-- The members, each value in an order. -/
def orderedMembers (sorted : Bool) (ms : Members) : Members := ms.map fun m => (m.1, m.2.ordered sorted)

/-- An object of different keys has its members put in order, and their values. -/
theorem exists_ordered_obj (sorted : Bool) {ms : Members} (h : (ms.map Prod.fst).Nodup) :
    ∃ ns : Members, (obj ms).ordered sorted = obj ns ∧ ns.Perm (orderedMembers sorted ms) := by
  cases sorted with
  | true =>
    refine ⟨sortMembers (canonicalMembers ms), rfl, ?_⟩
    have hkeys : ((canonicalMembers ms).map Prod.fst).Nodup := by rwa [map_fst_canonicalMembers]
    have hperm := sortMembers_perm hkeys
    rwa [canonicalMembers_eq_map] at hperm ⊢
  | false => exact ⟨ms, rfl, .of_eq (List.map_id ms).symm⟩

theorem under_orderedMembers (keys : List String) (ms : Members) :
    under keys (orderedMembers sorted ms) = orderedMembers sorted (under keys ms) := by
  rw [under, orderedMembers, List.filter_map]
  rfl

theorem besides_orderedMembers (keys : List String) (ms : Members) :
    besides keys (orderedMembers sorted ms) = orderedMembers sorted (besides keys ms) := by
  rw [besides, orderedMembers, List.filter_map]
  rfl

/-! Members with keys among some, and behind them members with other keys. -/

section

variable {keys : List String} {ms ns ls : Members} (inside : ∀ m ∈ ms, m.1 ∈ keys) (outside : ∀ n ∈ ns, n.1 ∉ keys)

include inside outside

theorem under_perm (h : ls.Perm (orderedMembers sorted (ms ++ ns))) :
    (under keys ls).Perm (orderedMembers sorted ms) := by
  have hunder := h.filter fun m => keys.contains m.1
  rwa [← under, ← under, under_orderedMembers, under_append, under_eq_self inside, under_eq_nil outside,
    List.append_nil] at hunder

theorem besides_perm (h : ls.Perm (orderedMembers sorted (ms ++ ns))) :
    (besides keys ls).Perm (orderedMembers sorted ns) := by
  have hbesides := h.filter fun m => !keys.contains m.1
  rwa [← besides, ← besides, besides_orderedMembers, besides_append, besides_eq_nil inside,
    besides_eq_self outside, List.nil_append] at hbesides

theorem distinct_append (hms : (ms.map Prod.fst).Nodup) (hns : (ns.map Prod.fst).Nodup) :
    ((ms ++ ns).map Prod.fst).Nodup := by
  rw [List.map_append]
  refine List.nodup_append.2 ⟨hms, hns, fun k hk k' hk' hkey => ?_⟩
  obtain ⟨m, hm, rfl⟩ := List.mem_map.1 hk
  obtain ⟨n, hn, rfl⟩ := List.mem_map.1 hk'
  exact outside n hn (hkey ▸ inside m hm)

end

end Json

open Json

/-! ## Codecs of plain values -/

namespace Codec

variable {α β : Type} {c : Codec α}

/-- A value is written in full, and read back in whatever order the members stand. -/
structure Renders (c : Codec α) (a : α) : Prop where
  intact : (c.encode a).intact = true
  readBack : ∀ sorted, c.decode ((c.encode a).ordered sorted) = .ok a

/-- Every value that is read is written and read back. -/
def RoundTrip (c : Codec α) : Prop := ∀ v a, c.decode v = .ok a → c.Renders a

theorem renders_text (s : String) : text.Renders s := ⟨rfl, fun _ => by simp only [text, ordered_str]⟩

theorem text_roundTrip : text.RoundTrip := fun _ s _ => renders_text s

theorem renders_flag (b : Bool) : flag.Renders b := ⟨rfl, fun _ => by simp only [flag, ordered_bool]⟩

theorem flag_roundTrip : flag.RoundTrip := fun _ b _ => renders_flag b

theorem renders_integer (z : Int) : integer.Renders z := ⟨rfl, fun _ => by simp only [integer, int, ordered_num]⟩

theorem renders_map {into : α → β} {back : β → α} {b : β} (h : c.Renders (back b)) (hinto : into (back b) = b) :
    (c.map into back).Renders b := by
  refine ⟨h.intact, fun sorted => ?_⟩
  show (c.decode ((c.encode (back b)).ordered sorted)).map into = .ok b
  rw [h.readBack sorted]
  exact congrArg Except.ok hinto

theorem RoundTrip.map {into : α → β} {back : β → α} (h : c.RoundTrip) (hback : ∀ a, back (into a) = a) :
    (c.map into back).RoundTrip := by
  intro v b hv
  obtain ⟨a, ha, rfl⟩ := except_map_ok_iff.1 hv
  exact renders_map ((hback a).symm ▸ h v a ha) (congrArg into (hback a))

theorem renders_filterMap {into : α → Option β} {back : β → α} {b : β} (h : c.Renders (back b))
    (hback : into (back b) = some b) : (c.filterMap into back).Renders b := by
  refine ⟨h.intact, fun sorted => ?_⟩
  simp only [filterMap, h.readBack sorted, except_ok_bind, hback, Option.elim]

theorem filterMap_decode_ok_iff {into : α → Option β} {back : β → α} {v : Json} {b : β} :
    (c.filterMap into back).decode v = .ok b ↔ ∃ a, c.decode v = .ok a ∧ into a = some b := by
  refine except_bind_ok_iff.trans (exists_congr fun a => and_congr_right fun _ => ?_)
  cases into a <;> simp

/-- What `into` accepts of any value goes back to one that is read. -/
theorem filterMap_roundTrip {into : α → Option β} {back : β → α}
    (h : ∀ a b, into a = some b → c.Renders (back b) ∧ into (back b) = some b) : (c.filterMap into back).RoundTrip := by
  intro v b hv
  obtain ⟨a, -, hb⟩ := filterMap_decode_ok_iff.1 hv
  obtain ⟨hrenders, hback⟩ := h a b hb
  exact renders_filterMap hrenders hback

theorem word64_roundTrip : word64.RoundTrip := by
  refine filterMap_roundTrip fun z w hw => ⟨renders_integer _, ?_⟩
  have hbound : (w.toNat : Int) < (Nat.pow 2 64 : Nat) := by exact_mod_cast w.toNat_lt
  rw [if_pos ⟨by omega, hbound⟩]
  simp

theorem int64_roundTrip : int64.RoundTrip := by
  refine filterMap_roundTrip fun z n hn => ⟨renders_integer _, ?_⟩
  have hlow := n.le_toInt
  have hhigh := n.toInt_lt
  rw [if_pos ⟨by exact_mod_cast hlow, by exact_mod_cast hhigh⟩]
  simp

theorem renders_none : (optional c).Renders none := ⟨rfl, fun _ => by simp only [optional, ordered_null]⟩

theorem Renders.some {a : α} (h : c.Renders a) (hnull : ∀ a, c.decode .null ≠ .ok a) : (optional c).Renders (some a) := by
  refine ⟨h.intact, fun sorted => ?_⟩
  have hread := h.readBack sorted
  have hvalue : (c.encode a).ordered sorted ≠ .null := by
    intro heq
    rw [heq] at hread
    exact hnull a hread
  refine (optional_decode_of_ne hvalue).trans ?_
  rw [hread]
  rfl

theorem decode_of_optional_decode {v : Json} {a : α} (h : (optional c).decode v = .ok (some a)) : c.decode v = .ok a := by
  have hvalue : v ≠ .null := by
    rintro rfl
    cases h
  rw [optional_decode_of_ne hvalue] at h
  obtain ⟨a', ha, heq⟩ := except_map_ok_iff.1 h
  cases heq
  exact ha

/-- A value that null does not stand for may be left out. -/
theorem RoundTrip.optional (h : c.RoundTrip) (hnull : ∀ a, c.decode .null ≠ .ok a) : (optional c).RoundTrip := by
  intro v o hv
  cases o with
  | none => exact renders_none
  | some a => exact (h v a (decode_of_optional_decode hv)).some hnull

theorem mem_of_decodeItems {items : List Json} {as : List α} (h : decodeItems c items = .ok as) {a : α} (ha : a ∈ as) :
    ∃ v ∈ items, c.decode v = .ok a := by
  induction items generalizing as with
  | nil =>
    cases h
    cases ha
  | cons v rest ih =>
    simp only [decodeItems, except_bind_ok_iff] at h
    obtain ⟨a', hv, as', hrest, heq⟩ := h
    cases heq
    rcases List.mem_cons.1 ha with rfl | ha
    · exact ⟨v, List.mem_cons_self, hv⟩
    · obtain ⟨w, hw, hread⟩ := ih hrest ha
      exact ⟨w, List.mem_cons_of_mem _ hw, hread⟩

theorem decodeItems_map {f : α → Json} {as : List α} (h : ∀ a ∈ as, c.decode (f a) = .ok a) :
    decodeItems c (as.map f) = .ok as := by
  induction as with
  | nil => rfl
  | cons a as ih =>
    have hrest := ih fun b hb => h b (List.mem_cons_of_mem _ hb)
    simp only [List.map_cons, decodeItems, h a List.mem_cons_self, hrest, except_ok_bind]

theorem renders_list {as : List α} (h : ∀ a ∈ as, c.Renders a) : (list c).Renders as := by
  refine ⟨?_, fun sorted => ?_⟩
  · show intactItems (as.map c.encode) = true
    rw [intactItems_iff]
    intro v hv
    obtain ⟨a, ha, rfl⟩ := List.mem_map.1 hv
    exact (h a ha).intact
  · have hitems := decodeItems_map (c := c) (f := fun a => (c.encode a).ordered sorted) fun a ha =>
      (h a ha).readBack sorted
    simp only [list, ordered_arr, List.map_map]
    exact hitems

theorem RoundTrip.list (h : c.RoundTrip) : (list c).RoundTrip := by
  intro v as hv
  refine renders_list fun a ha => ?_
  cases v with
  | arr items =>
    obtain ⟨w, -, hw⟩ := mem_of_decodeItems hv ha
    exact h w a hw
  | _ => simp [Codec.list] at hv

end Codec

/-! ## Fields -/

namespace Fields

variable {α β γ : Type} {fs : Fields α}

/-- The members that are written have different keys, and are read back in any order. -/
structure Renders (fs : Fields α) (a : α) : Prop where
  intact : intactMembers (fs.toMembers a) = true
  distinct : ((fs.toMembers a).map Prod.fst).Nodup
  readBack : ∀ sorted (ms : Members), ms.Perm (orderedMembers sorted (fs.toMembers a)) → fs.ofMembers ms = .ok a

/-- Fields that write members of their own names only, such that everything they read is read back. -/
structure Lawful (fs : Fields α) : Prop where
  knows : fs.Knows
  named : ∀ a, ∀ m ∈ fs.toMembers a, m.1 ∈ fs.names
  ofMembers : ∀ ms a, fs.ofMembers ms = .ok a → fs.Renders a
  ofItems : ∀ items a left, fs.ofItems items = .ok (a, left) → fs.Renders a

/-- Fields all of whose values are read back, whether or not they were ever read. -/
structure Complete (fs : Fields α) : Prop where
  named : ∀ a, ∀ m ∈ fs.toMembers a, m.1 ∈ fs.names
  renders : ∀ a, fs.Renders a

theorem nil_renders (u : Unit) : nil.Renders u := by
  refine ⟨rfl, List.nodup_nil, fun sorted ms h => ?_⟩
  rw [List.perm_nil.1 h]
  rfl

theorem nil_lawful : nil.Lawful where
  knows := nil_knows
  named := by simp [nil]
  ofMembers _ u _ := nil_renders u
  ofItems _ u _ _ := nil_renders u

theorem nil_complete : nil.Complete where
  named := nil_lawful.named
  renders := nil_renders

/-- Members are written under the names of the fields, in their order. -/
def InOrder (fs : Fields α) : Prop := ∀ a, ((fs.toMembers a).map Prod.fst).Sublist fs.names

theorem nil_inOrder : nil.InOrder := fun _ => List.Sublist.refl _

/-- Where fields have different names, a member is found as well among the members sorted by key. -/
theorem InOrder.get?_canonical (h : fs.InOrder) (distinct : fs.names.Nodup) (a : α) (k : String) :
    (obj (fs.toMembers a)).canonical.get? k = ((fs.toMembers a).lookup k).map canonical := by
  have hkeys : ((canonicalMembers (fs.toMembers a)).map Prod.fst).Nodup := by
    rw [map_fst_canonicalMembers]
    exact (h a).nodup distinct
  rw [canonical, get?, lookup_sortMembers_of_nodup hkeys, lookup_canonicalMembers]

section Cons

variable {key : String} {others : List String} {c : Codec β} {missing : Missing β} {leaveOut : β → Bool}
  {rest : Fields γ}

/-- What a field adds to the members. -/
def member (key : String) (c : Codec β) (leaveOut : β → Bool) (b : β) : Members :=
  if leaveOut b then [] else [(key, c.encode b)]

theorem toMembers_cons (b : β) (r : γ) : (cons key others c missing leaveOut rest).toMembers (b, r) =
    member key c leaveOut b ++ rest.toMembers r := rfl

theorem key_of_mem_member {b : β} {m : String × Json} (h : m ∈ member key c leaveOut b) : m.1 = key := by
  rw [member] at h
  split at h
  · cases h
  · rw [List.mem_singleton.1 h]

theorem lookup_toMembers_of_ne {k : String} (h : k ≠ key) (b : β) (r : γ) :
    ((cons key others c missing leaveOut rest).toMembers (b, r)).lookup k = (rest.toMembers r).lookup k := by
  have hnone : (member key c leaveOut b).lookup k = none :=
    lookup_eq_none fun m hm hkey => h (hkey.symm.trans (key_of_mem_member hm))
  rw [toMembers_cons, List.lookup_append, hnone, Option.none_or]

theorem lookup_toMembers_self (b : β) (r : γ) :
    ((cons key others c missing leaveOut rest).toMembers (b, r)).lookup key =
      if leaveOut b then (rest.toMembers r).lookup key else some (c.encode b) := by
  rw [toMembers_cons, List.lookup_append, member]
  split <;> simp

theorem InOrder.cons (h : rest.InOrder) : (cons key others c missing leaveOut rest).InOrder := by
  intro p
  obtain ⟨b, r⟩ := p
  have hnames : (Fields.cons key others c missing leaveOut rest).names = [key] ++ (others ++ rest.names) := by
    simp [Fields.cons]
  have hmine : ((member key c leaveOut b).map Prod.fst).Sublist [key] := by
    rw [member]
    split <;> simp
  rw [toMembers_cons, List.map_append, hnames]
  exact hmine.append ((h r).trans (List.sublist_append_right others rest.names))

theorem intact_member {b : β} (h : c.Renders b) : intactMembers (member key c leaveOut b) = true := by
  rw [member]
  split
  · rfl
  · simp [intactMembers, h.intact]

theorem readGiven_member {b : β} (h : c.Renders b) (hleave : leaveOut b = true → missing.inObject = .ok b) {sorted : Bool}
    {ms : Members} (hms : ms.Perm (orderedMembers sorted (member key c leaveOut b))) :
    readGiven c missing (ms.map Prod.snd) = .ok b := by
  rw [member] at hms
  split at hms
  next hout =>
    rw [List.perm_nil.1 hms]
    exact hleave hout
  · rw [List.perm_singleton.1 hms]
    exact h.readBack sorted

theorem renders_cons {b : β} {r : γ} (hb : c.Renders b) (hr : rest.Renders r)
    (named : ∀ m ∈ rest.toMembers r, m.1 ∈ rest.names) (fresh : ∀ k ∈ key :: others, k ∉ rest.names)
    (hleave : leaveOut b = true → missing.inObject = .ok b) :
    (cons key others c missing leaveOut rest).Renders (b, r) := by
  have hmine : ∀ m ∈ member key c leaveOut b, m.1 ∈ key :: others := by
    intro m hm
    rw [key_of_mem_member hm]
    exact List.mem_cons_self
  have hother : ∀ m ∈ rest.toMembers r, m.1 ∉ key :: others := fun m hm hkey => fresh _ hkey (named m hm)
  refine ⟨?_, ?_, fun sorted ms hms => ?_⟩
  · rw [toMembers_cons, intactMembers_append]
    exact ⟨intact_member hb, hr.intact⟩
  · have hone : ((member key c leaveOut b).map Prod.fst).Nodup := by
      rw [member]
      split <;> simp
    exact distinct_append hmine hother hone hr.distinct
  · -- Whatever the order, the field finds its own member under its spellings and no other.
    rw [toMembers_cons] at hms
    have hgiven := readGiven_member hb hleave (under_perm hmine hother hms)
    exact ofMembers_cons_ok_iff.2 ⟨hgiven, hr.readBack sorted _ (besides_perm hmine hother hms)⟩

theorem named_cons (named : ∀ r, ∀ m ∈ rest.toMembers r, m.1 ∈ rest.names) :
    ∀ p, ∀ m ∈ (cons key others c missing leaveOut rest).toMembers p,
      m.1 ∈ (cons key others c missing leaveOut rest).names := by
  rintro ⟨b, r⟩ m hm
  rcases List.mem_append.1 hm with hm | hm
  · rw [key_of_mem_member hm]
    exact List.mem_append_left _ List.mem_cons_self
  · exact List.mem_append_right _ (named r m hm)

/-- A field in front of others, none of which has one of its spellings. -/
theorem Lawful.cons (hrest : rest.Lawful) (hc : c.RoundTrip) (fresh : ∀ k ∈ key :: others, k ∉ rest.names)
    (hobject : ∀ b, missing.inObject = .ok b → c.Renders b) (harray : ∀ b, missing.inArray = .ok b → c.Renders b)
    (hleave : ∀ b, leaveOut b = true → missing.inObject = .ok b) :
    (cons key others c missing leaveOut rest).Lawful where
  knows := hrest.knows.cons key others c missing leaveOut
  named := named_cons hrest.named
  ofMembers := by
    rintro ms ⟨b, r⟩ h
    obtain ⟨hgiven, hr⟩ := ofMembers_cons_ok_iff.1 h
    have hb : c.Renders b := by
      match (under (key :: others) ms).map Prod.snd, hgiven with
      | [], hgiven => exact hobject b hgiven
      | [v], hgiven => exact hc v b hgiven
      | _ :: _ :: _, hgiven => cases hgiven
    exact renders_cons hb (hrest.ofMembers _ _ hr) (hrest.named r) fresh (hleave b)
  ofItems := by
    rintro items ⟨b, r⟩ left h
    obtain ⟨hfirst, hr⟩ := ofItems_cons_ok_iff.1 h
    have hb : c.Renders b := by
      cases items with
      | nil => exact harray b hfirst
      | cons v items => exact hc v b hfirst
    exact renders_cons hb (hrest.ofItems _ _ _ hr) (hrest.named r) fresh (hleave b)

theorem Lawful.required (hrest : rest.Lawful) (hc : c.RoundTrip) (fresh : ∀ k ∈ key :: others, k ∉ rest.names) :
    (required key others c rest).Lawful :=
  hrest.cons hc fresh (by rintro b ⟨⟩) (by rintro b ⟨⟩) (by rintro b ⟨⟩)

theorem Lawful.defaulted {b : β} (hrest : rest.Lawful) (hc : c.RoundTrip) (hb : c.Renders b)
    (fresh : ∀ k ∈ key :: others, k ∉ rest.names) : (defaulted key others c b rest).Lawful :=
  hrest.cons hc fresh (by rintro _ ⟨⟩; exact hb) (by rintro _ ⟨⟩; exact hb) (by rintro _ ⟨⟩)

theorem Lawful.nullable (hrest : rest.Lawful) (hc : c.RoundTrip) (hnull : ∀ b, c.decode .null ≠ .ok b)
    (fresh : ∀ k ∈ key :: others, k ∉ rest.names) : (nullable key others c rest).Lawful :=
  hrest.defaulted (hc.optional hnull) Codec.renders_none fresh

theorem Lawful.omitted (hrest : rest.Lawful) (hc : c.RoundTrip) (hnull : ∀ b, c.decode .null ≠ .ok b)
    (fresh : ∀ k ∈ key :: others, k ∉ rest.names) : (omitted key others c rest).Lawful := by
  refine hrest.cons (hc.optional hnull) fresh (by rintro _ ⟨⟩; exact Codec.renders_none)
    (by rintro _ ⟨⟩; exact Codec.renders_none) fun o ho => ?_
  rw [Option.isNone_iff_eq_none.1 ho]
  rfl

theorem Complete.cons (hrest : rest.Complete) (hc : ∀ b, c.Renders b) (fresh : ∀ k ∈ key :: others, k ∉ rest.names)
    (hleave : ∀ b, leaveOut b = true → missing.inObject = .ok b) :
    (cons key others c missing leaveOut rest).Complete where
  named := named_cons hrest.named
  renders p := renders_cons (hc p.1) (hrest.renders p.2) (hrest.named p.2) fresh (hleave p.1)

theorem Complete.nonempty (hrest : rest.Complete) (hc : ∀ b, c.Renders b)
    (fresh : ∀ k ∈ key :: others, k ∉ rest.names) : (nonempty key others c rest).Complete := by
  refine hrest.cons (fun bs => Codec.renders_list fun b _ => hc b) fresh fun bs hbs => ?_
  rw [List.isEmpty_iff.1 hbs]
  rfl

end Cons

end Fields

/-! ## Structures -/

namespace Codec

variable {α : Type} {fs : Fields α}

theorem renders_record {a : α} (h : fs.Renders a) : (record fs).Renders a := by
  refine ⟨h.intact, fun sorted => ?_⟩
  obtain ⟨ns, heq, hperm⟩ := exists_ordered_obj sorted h.distinct
  show (record fs).decode ((obj (fs.toMembers a)).ordered sorted) = .ok a
  rw [heq]
  exact h.readBack sorted ns hperm

theorem renders_of_record (h : fs.Lawful) {v : Json} {a : α} (hv : (record fs).decode v = .ok a) : fs.Renders a := by
  cases v with
  | obj ms => exact h.ofMembers ms a hv
  | arr items => exact h.ofItems items a [] (record_decode_arr_iff.1 hv)
  | _ => simp [record] at hv

/-- A structure that ignores other members. -/
theorem record_roundTrip (h : fs.Lawful) : (record fs).RoundTrip := fun _ _ hv =>
  renders_record (renders_of_record h hv)

theorem mem_keptMembers {names : List String} {ms : Members} {m : String × Json} (h : m ∈ keptMembers names ms) :
    ∃ n ∈ ms, n.1 ∉ names ∧ m = (n.1, n.2.canonical) := by
  have hm := mem_of_mem_sortMembers h
  rw [canonicalMembers_eq_map] at hm
  obtain ⟨n, hn, rfl⟩ := List.mem_map.1 hm
  obtain ⟨hmem, hkey⟩ := mem_besides.1 hn
  exact ⟨n, hmem, hkey, rfl⟩

/-- The last value that a key of another name was given is kept under it. -/
theorem lookup_keptMembers {names : List String} (ms : Members) {k : String} (h : k ∉ names) :
    (keptMembers names ms).lookup k = (obj ms).canonical.get? k := by
  have hbesides : (besides names ms).reverse = besides names ms.reverse := (List.filter_reverse ..).symm
  show _ = (sortMembers (canonicalMembers ms)).lookup k
  rw [keptMembers, lookup_sortMembers, lookup_sortMembers, canonicalMembers_eq_map, canonicalMembers_eq_map,
    ← List.map_reverse, ← List.map_reverse, ← canonicalMembers_eq_map, ← canonicalMembers_eq_map,
    lookup_canonicalMembers, lookup_canonicalMembers, hbesides, lookup_besides h]

/-- What a structure of some names keeps: canonical members of other names, in order. -/
structure Kept (names : List String) (kept : Members) : Prop where
  ascending : Ascending kept
  apart : ∀ m ∈ kept, m.1 ∉ names
  canonical : ∀ m ∈ kept, m.2.canonical = m.2
  intact : intactMembers kept = true

theorem kept_keptMembers (names : List String) {ms : Members} (h : intactMembers ms = true) :
    Kept names (keptMembers names ms) where
  ascending := ascending_sortMembers _
  apart := by
    intro m hm
    obtain ⟨n, -, hn, rfl⟩ := mem_keptMembers hm
    exact hn
  canonical := by
    intro m hm
    obtain ⟨n, -, -, rfl⟩ := mem_keptMembers hm
    exact canonical_canonical n.2
  intact := by
    rw [intactMembers_iff]
    intro m hm
    obtain ⟨n, hn, -, rfl⟩ := mem_keptMembers hm
    exact intact_canonical n.2 (intactMembers_iff.1 h n hn)

/-- What has been kept is kept again, in whatever order it stands. -/
theorem Kept.keptMembers_eq {names : List String} {kept ns : Members} {sorted : Bool} (h : Kept names kept)
    (hperm : (besides names ns).Perm (orderedMembers sorted kept)) : keptMembers names ns = kept := by
  have hsame : (orderedMembers sorted kept).map (fun m => (m.1, m.2.canonical)) = kept := by
    rw [orderedMembers, List.map_map]
    refine (List.map_congr_left fun m hm => ?_).trans (List.map_id kept)
    simp only [Function.comp_apply, ordered_of_canonical (h.canonical m hm), h.canonical m hm]
    rfl
  have hcanonical := hperm.map fun m => (m.1, m.2.canonical)
  rw [hsame, ← canonicalMembers_eq_map] at hcanonical
  exact sortMembers_eq_of_perm h.ascending hcanonical

theorem renders_keeping (h : fs.Lawful) {a : α} {kept : Members} (ha : fs.Renders a) (hkept : Kept fs.names kept) :
    (recordKeeping fs).Renders (a, kept) := by
  have hintact : intactMembers (fs.toMembers a ++ kept) = true := intactMembers_append.2 ⟨ha.intact, hkept.intact⟩
  refine ⟨hintact, fun sorted => ?_⟩
  obtain ⟨ns, heq, hperm⟩ :=
    exists_ordered_obj sorted (distinct_append (h.named a) hkept.apart ha.distinct hkept.ascending.nodup)
  show (recordKeeping fs).decode ((obj (fs.toMembers a ++ kept)).ordered sorted) = .ok (a, kept)
  rw [heq, recordKeeping_decode_iff h.knows]
  -- What is written stands in two parts: the members of the fields, and those that were kept.
  refine ⟨ns, rfl, ?_, ?_, ?_⟩
  · rw [intactMembers_iff]
    intro m hm
    obtain ⟨n, hn, rfl⟩ := List.mem_map.1 (hperm.mem_iff.1 hm)
    exact intact_ordered (intactMembers_iff.1 hintact n hn)
  · exact ha.readBack sorted _ (under_perm (h.named a) hkept.apart hperm)
  · exact (hkept.keptMembers_eq (besides_perm (h.named a) hkept.apart hperm)).symm

/-- A structure that keeps other members. -/
theorem recordKeeping_roundTrip (h : fs.Lawful) : (recordKeeping fs).RoundTrip := by
  rintro v ⟨a, kept⟩ hv
  obtain ⟨ms, rfl, hintact, hfields, rfl⟩ := (recordKeeping_decode_iff h.knows).1 hv
  exact renders_keeping h (h.ofMembers _ a hfields) (kept_keptMembers fs.names hintact)

end Codec
end SignatureDesk
