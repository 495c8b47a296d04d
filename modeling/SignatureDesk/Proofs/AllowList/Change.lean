/-
Changes of one approval list. Values are checked one after the other, so the first that is
not taken decides (`validateAll_error_iff`); where all are, the change is that of a single
list, which holds their normal form (`ofEdit_ok_iff`). Which values are taken depends on
their trimmed texts alone, so values with the same entries make the same change, and what
can be added can be removed. Organizations have no list, and no change is made of them
(`change_of_one_list`).
-/
import SignatureDesk.AllowList.Change
import SignatureDesk.Proofs.AllowList.Grammar
import SignatureDesk.Proofs.Outcome

namespace SignatureDesk

open Entries

/-! ## Checking values -/

namespace AllowListKind

variable {kind : AllowListKind} {values entries : List String} {value : String} {f : Failure}

theorem Grammar.ne_nil {t : List Char} (h : kind.Grammar t) : t ≠ [] := by
  rintro rfl
  cases kind with
  | email =>
    obtain ⟨-, a, b, c, -, -, -, h⟩ := h
    simp at h
  | domain =>
    obtain ⟨before, c, letters, -, -, -, h⟩ := h
    simp at h
  | githubUsername => exact absurd h.1 (by simp)
  | githubOrg => exact absurd h.1 (by simp)

/-- The values come to their trimmed texts when all of them are taken. -/
theorem validateAll_ok_iff : kind.validateAll values = .ok entries ↔
    (∀ v ∈ values, ∃ e, kind.validate v = .ok e) ∧ entries = values.map Text.trim := by
  induction values generalizing entries with
  | nil => simp [validateAll, eq_comm]
  | cons v rest ih =>
    simp only [validateAll, except_bind_ok_iff, ih, Except.ok.injEq, List.forall_mem_cons]
    constructor
    · rintro ⟨e, he, _, ⟨hrest, rfl⟩, rfl⟩
      exact ⟨⟨⟨e, he⟩, hrest⟩, by rw [(validate_ok_iff.1 he).1, List.map_cons]⟩
    · rintro ⟨⟨⟨e, he⟩, hrest⟩, rfl⟩
      exact ⟨e, he, _, ⟨hrest, rfl⟩, by rw [(validate_ok_iff.1 he).1, List.map_cons]⟩

/-- The first value that is not taken is the one that is reported. -/
theorem validateAll_error_iff : kind.validateAll values = .error f ↔
    ∃ before bad after, values = before ++ bad :: after ∧ (∀ v ∈ before, ∃ e, kind.validate v = .ok e) ∧
      kind.validate bad = .error f := by
  induction values with
  | nil => simp [validateAll]
  | cons v rest ih =>
    simp only [validateAll, except_bind_error_iff, ih, reduceCtorEq, and_false, exists_false, or_false]
    constructor
    · rintro (hbad | ⟨e, he, before, bad, after, rfl, hbefore, hbad⟩)
      · exact ⟨[], v, rest, rfl, by simp, hbad⟩
      · exact ⟨v :: before, bad, after, rfl, List.forall_mem_cons.2 ⟨⟨e, he⟩, hbefore⟩, hbad⟩
    · rintro ⟨before, bad, after, heq, hbefore, hbad⟩
      cases before with
      | nil =>
        obtain ⟨rfl, rfl⟩ := List.cons.inj heq
        exact .inl hbad
      | cons w before =>
        obtain ⟨rfl, rfl⟩ := List.cons.inj heq
        obtain ⟨⟨e, he⟩, hbefore⟩ := List.forall_mem_cons.1 hbefore
        exact .inr ⟨e, he, before, bad, after, rfl, hbefore, hbad⟩

end AllowListKind

/-- Trimmed entries have the normal form of the entries. -/
theorem Entries.normalize_map_trim (values : List String) : normalize (values.map Text.trim) = normalize values := by
  refine normalize_eq_iff.2 fun entry => ?_
  simp [Text.trim_trim]

namespace ApprovalChange

variable {kind : AllowListKind} {edit : Edit} {values others entries : List String} {c d : ApprovalChange}
  {f : Failure}

/-- What a value has to be for an edit to take it. -/
def Takes (kind : AllowListKind) (edit : Edit) (value : String) : Prop :=
  match edit with
  | .add => ∃ e, kind.validate value = .ok e
  | .remove => Text.trim value ≠ ""

/-- The lists of a change are empty but for one, which has these entries. -/
def Only (kind : AllowListKind) (edit : Edit) (entries : List String) (c : ApprovalChange) : Prop :=
  ∀ k e, c.list k e = if k = kind ∧ e = edit then entries else []

/-- A change is known by its lists. -/
theorem ext_list (h : ∀ k e, c.list k e = d.list k e) : c = d := by
  obtain ⟨⟩ := c
  obtain ⟨⟩ := d
  have ae := h .email .add
  have re := h .email .remove
  have ad := h .domain .add
  have rd := h .domain .remove
  have ag := h .githubUsername .add
  have rg := h .githubUsername .remove
  simp only [list] at ae re ad rd ag rg
  rw [ae, re, ad, rd, ag, rg]

theorem Only.unique (hc : Only kind edit entries c) (hd : Only kind edit entries d) : c = d :=
  ext_list fun k e => (hc k e).trans (hd k e).symm

/-- Every list but that of organizations can be changed alone. -/
theorem exists_single (hkind : kind ≠ .githubOrg) (edit : Edit) (entries : List String) :
    ∃ c, single kind edit entries = .ok c ∧ Only kind edit entries c := by
  cases kind with
  | githubOrg => exact absurd rfl hkind
  | _ =>
    cases edit <;> refine ⟨_, rfl, fun k e => ?_⟩ <;> cases k <;> cases e <;> rfl

theorem single_ok_iff (hkind : kind ≠ .githubOrg) : single kind edit entries = .ok c ↔ Only kind edit entries c := by
  obtain ⟨d, hd, honly⟩ := exists_single hkind edit entries
  rw [hd, Except.ok.injEq]
  constructor
  · rintro rfl
    exact honly
  · exact honly.unique

theorem any_isEmpty_iff : (normalize values).any String.isEmpty = true ↔ ∃ v ∈ values, Text.trim v = "" := by
  simp [List.any_eq_true, mem_normalize]

/-- An edit is made when all its values are taken, and then changes one list. -/
theorem ofEdit_ok_iff (hkind : kind ≠ .githubOrg) : ofEdit kind edit values = .ok c ↔
    (∀ v ∈ values, Takes kind edit v) ∧ Only kind edit (normalize values) c := by
  cases edit with
  | add =>
    simp only [ofEdit, add, except_bind_ok_iff, AllowListKind.validateAll_ok_iff, single_ok_iff hkind, Takes]
    constructor
    · rintro ⟨_, ⟨htakes, rfl⟩, honly⟩
      rw [normalize_map_trim] at honly
      exact ⟨htakes, honly⟩
    · rintro ⟨htakes, honly⟩
      exact ⟨_, ⟨htakes, rfl⟩, by rwa [normalize_map_trim]⟩
  | remove =>
    simp only [ofEdit, remove, Takes]
    split
    next hempty =>
      obtain ⟨v, hv, hblank⟩ := any_isEmpty_iff.1 hempty
      constructor
      · intro h
        cases h
      · rintro ⟨htakes, -⟩
        exact absurd hblank (htakes v hv)
    next hempty =>
      have htakes : ∀ v ∈ values, Text.trim v ≠ "" := fun v hv hblank => hempty (any_isEmpty_iff.2 ⟨v, hv, hblank⟩)
      rw [single_ok_iff hkind]
      exact ⟨fun honly => ⟨htakes, honly⟩, And.right⟩

theorem exists_ofEdit_iff (hkind : kind ≠ .githubOrg) (edit : Edit) :
    (∃ c, ofEdit kind edit values = .ok c) ↔ ∀ v ∈ values, Takes kind edit v := by
  simp only [ofEdit_ok_iff hkind]
  obtain ⟨c, -, honly⟩ := exists_single hkind edit (normalize values)
  exact ⟨fun ⟨_, htakes, _⟩ => htakes, fun htakes => ⟨c, htakes, honly⟩⟩

/-! ## Refusals -/

theorem add_error_iff (hkind : kind ≠ .githubOrg) :
    add kind values = .error f ↔ kind.validateAll values = .error f := by
  rw [add, except_bind_error_iff]
  refine or_iff_left ?_
  rintro ⟨entries, -, herror⟩
  obtain ⟨c, hc, -⟩ := exists_single hkind .add (normalize entries)
  rw [hc] at herror
  cases herror

theorem remove_error_iff (hkind : kind ≠ .githubOrg) :
    remove kind values = .error f ↔ (∃ v ∈ values, Text.trim v = "") ∧ f = .invalidEntry kind.name "" := by
  rw [← any_isEmpty_iff]
  simp only [remove]
  split
  next hempty =>
    exact ⟨fun herror => ⟨hempty, (Except.error.inj herror).symm⟩, fun ⟨_, hf⟩ => congrArg Except.error hf.symm⟩
  next hempty =>
    obtain ⟨c, hc, -⟩ := exists_single hkind .remove (normalize values)
    rw [hc]
    exact ⟨nofun, fun ⟨hany, _⟩ => absurd hany hempty⟩

/-- No change is made of organizations. -/
theorem ofEdit_githubOrg (edit : Edit) (values : List String) :
    ∃ message, ofEdit .githubOrg edit values = .error (.validation message) := by
  cases edit with
  | add =>
    cases hall : AllowListKind.validateAll .githubOrg values with
    | ok entries => exact ⟨_, by rw [ofEdit, add, hall]; rfl⟩
    | error f =>
      obtain ⟨_, bad, _, _, _, hbad⟩ := AllowListKind.validateAll_error_iff.1 hall
      obtain ⟨-, rfl⟩ := AllowListKind.validate_error_iff.1 hbad
      exact ⟨_, by rw [ofEdit, add, hall]; rfl⟩
  | remove =>
    simp only [ofEdit, remove]
    split <;> exact ⟨_, rfl⟩

/-! ## What values come to -/

theorem takes_congr {v w : String} (h : Text.trim v = Text.trim w) : Takes kind edit v ↔ Takes kind edit w := by
  cases edit with
  | add => rw [Takes, Takes, AllowListKind.validate, AllowListKind.validate, h]
  | remove => rw [Takes, Takes, h]

theorem takes_remove_of_add {v : String} (h : Takes kind .add v) : Takes kind .remove v := by
  obtain ⟨e, he⟩ := h
  intro hblank
  refine (AllowListKind.validate_ok_iff.1 he).2.ne_nil ?_
  rw [hblank]
  rfl

/-- Values with the same entries make the same change. -/
theorem ofEdit_congr (hkind : kind ≠ .githubOrg) (h : normalize values = normalize others) :
    ofEdit kind edit values = .ok c ↔ ofEdit kind edit others = .ok c := by
  have takes : ∀ {s t : List String}, normalize s = normalize t → (∀ v ∈ s, Takes kind edit v) →
      ∀ v ∈ t, Takes kind edit v := by
    intro s t hst htakes v hv
    obtain ⟨w, hw, hsame⟩ := (normalize_eq_iff.1 hst (Text.trim v)).2 ⟨v, hv, rfl⟩
    exact (takes_congr hsame).1 (htakes w hw)
  rw [ofEdit_ok_iff hkind, ofEdit_ok_iff hkind, h]
  exact and_congr_left fun _ => ⟨takes h, takes h.symm⟩

/-- **A change of one approval list is made in full or not at all.** For every kind but organizations, values are added
when all of them are valid, and otherwise the first that is not is the failure; they are removed when none is blank. The
change that is made touches the one list, which holds the normal form of the values, so values with the same trimmed
entries make the same change. What can be added can be removed, and is the same list. Of organizations no change
is made, whatever the values are. -/
theorem change_of_one_list (values : List String) :
    (∀ kind, kind ≠ AllowListKind.githubOrg →
      ((∃ c, add kind values = .ok c) ↔ ∀ v ∈ values, ∃ e, kind.validate v = .ok e) ∧
      (∀ f, add kind values = .error f ↔ ∃ before bad after, values = before ++ bad :: after ∧
        (∀ v ∈ before, ∃ e, kind.validate v = .ok e) ∧ kind.validate bad = .error f) ∧
      ((∃ c, remove kind values = .ok c) ↔ ∀ v ∈ values, Text.trim v ≠ "") ∧
      (∀ f, remove kind values = .error f ↔
        (∃ v ∈ values, Text.trim v = "") ∧ f = .invalidEntry kind.name "") ∧
      (∀ edit c, ofEdit kind edit values = .ok c →
        ∀ k e, c.list k e = if k = kind ∧ e = edit then normalize values else []) ∧
      (∀ edit others,
        (∀ entry, (∃ raw ∈ values, Text.trim raw = entry) ↔ ∃ raw ∈ others, Text.trim raw = entry) →
        ∀ c, ofEdit kind edit values = .ok c ↔ ofEdit kind edit others = .ok c) ∧
      ∀ c, add kind values = .ok c → ∃ d, remove kind values = .ok d ∧ d.list kind .remove = c.list kind .add) ∧
    ∀ edit, ∃ message, ofEdit .githubOrg edit values = .error (.validation message) := by
  refine ⟨fun kind hkind => ⟨exists_ofEdit_iff hkind .add, fun f => ?_, exists_ofEdit_iff hkind .remove,
    fun f => remove_error_iff hkind, fun edit c h => ((ofEdit_ok_iff hkind).1 h).2,
    fun edit others h c => ofEdit_congr hkind (normalize_eq_iff.2 h), fun c h => ?_⟩,
    fun edit => ofEdit_githubOrg edit values⟩
  · rw [add_error_iff hkind, AllowListKind.validateAll_error_iff]
  · have hadd : ofEdit kind .add values = .ok c := h
    obtain ⟨htakes, hadds⟩ := (ofEdit_ok_iff hkind).1 hadd
    obtain ⟨d, hd⟩ := (exists_ofEdit_iff hkind .remove).2 fun v hv => takes_remove_of_add (htakes v hv)
    have hremoves := ((ofEdit_ok_iff hkind).1 hd).2
    exact ⟨d, hd, by rw [hadds, hremoves, if_pos ⟨rfl, rfl⟩, if_pos ⟨rfl, rfl⟩]⟩

end ApprovalChange

namespace Sample

def domains : List String := ["beta.io ", "acme.org", "beta.io"]

theorem domains_come_and_go : AllowListKind.domain ≠ .githubOrg ∧ ∃ c d, ApprovalChange.add .domain domains = .ok c ∧
    ApprovalChange.remove .domain domains = .ok d ∧ d.list .domain .remove = c.list .domain .add := by
  have hkind : AllowListKind.domain ≠ .githubOrg := by decide
  have hvalid : ∀ v ∈ domains, AllowListKind.domain.validate v = .ok (Text.trim v) := by decide +kernel
  obtain ⟨hadds, -, -, -, -, -, hremoves⟩ := (ApprovalChange.change_of_one_list domains).1 .domain hkind
  obtain ⟨c, hc⟩ := hadds.2 fun v hv => ⟨_, hvalid v hv⟩
  obtain ⟨d, hd, hsame⟩ := hremoves c hc
  exact ⟨hkind, c, d, hc, hd, hsame⟩

end Sample
end SignatureDesk
