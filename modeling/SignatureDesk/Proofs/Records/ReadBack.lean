/-
The records of the two services and JSON. Each of them is read back from what it
is written as, whatever form it was read from, and those that hold members they
have no field for hand them on (`records_read_back`).
-/
import SignatureDesk.Proofs.Json.RoundTrip
import SignatureDesk.Proofs.Time.ReadBack
import SignatureDesk.Records.Agreement
import SignatureDesk.Records.Platform
import SignatureDesk.Agreement.Signature

namespace SignatureDesk

open Json

namespace Codec

variable {α β : Type} {c : Codec α}

/-- What is read of any value is written, and read again as the same, with the members of the
objects in the order of the fields as well as sorted by key. -/
def ReadsBack (c : Codec α) : Prop :=
  ∀ v a, c.decode v = .ok a → ∀ sorted, c.decode ((c.encode a).ordered sorted) = .ok a

theorem RoundTrip.readsBack (h : c.RoundTrip) : c.ReadsBack := fun v a hv => (h v a hv).readBack

/-- The members of other names than those of the fields are written as they were read, and no
member that is held besides the fields has one of their names. -/
structure HandsOn (c : Codec α) (held : α → Members) (names : List String) : Prop where
  unchanged : ∀ v a, c.decode v = .ok a → ∀ k ∉ names, (c.encode a).get? k = v.canonical.get? k
  apart : ∀ v a, c.decode v = .ok a → ∀ m ∈ held a, m.1 ∉ names

theorem recordKeeping_handsOn {fs : Fields α} (h : fs.Lawful) : (recordKeeping fs).HandsOn Prod.snd fs.names where
  unchanged := by
    rintro v ⟨a, kept⟩ hv k hk
    obtain ⟨ms, rfl, -, -, rfl⟩ := (recordKeeping_decode_iff h.knows).1 hv
    have hfields : (fs.toMembers a).lookup k = none := lookup_eq_none fun m hm hkey => hk (hkey ▸ h.named a m hm)
    show (fs.toMembers a ++ keptMembers fs.names ms).lookup k = _
    rw [List.lookup_append, hfields, Option.none_or, lookup_keptMembers ms hk]
  apart := by
    rintro v ⟨a, kept⟩ hv m hm
    obtain ⟨ms, -, -, -, rfl⟩ := (recordKeeping_decode_iff h.knows).1 hv
    obtain ⟨n, -, hn, rfl⟩ := mem_keptMembers hm
    exact hn

theorem HandsOn.map {held : α → Members} {names : List String} (h : c.HandsOn held names) {into : α → β} {back : β → α}
    (hback : ∀ a, back (into a) = a) : (c.map into back).HandsOn (fun b => held (back b)) names where
  unchanged := by
    intro v b hv k hk
    obtain ⟨a, ha, rfl⟩ := except_map_ok_iff.1 hv
    show (c.encode (back (into a))).get? k = _
    rw [hback, h.unchanged v a ha k hk]
  apart := by
    intro v b hv m hm
    obtain ⟨a, ha, rfl⟩ := except_map_ok_iff.1 hv
    rw [hback] at hm
    exact h.apart v a ha m hm

/-- A structure that keeps other members is read back and hands them on. -/
theorem recordKeeping_keeps {fs : Fields α} {into : α × Members → β} {back : β → α × Members} (h : fs.Lawful)
    (hback : ∀ p, back (into p) = p) :
    ((recordKeeping fs).map into back).RoundTrip ∧
      ((recordKeeping fs).map into back).HandsOn (fun b => (back b).2) fs.names :=
  ⟨(recordKeeping_roundTrip h).map hback, (recordKeeping_handsOn h).map hback⟩

/-- What is written is read back with one more member of this name in the object. -/
def Ignores (c : Codec α) (key : String) : Prop :=
  ∀ v a, c.decode v = .ok a → ∃ ms, c.encode a = .obj ms ∧
    ∀ w : Json, w.intact = true → ∀ sorted, c.decode ((obj (ms ++ [(key, w)])).ordered sorted) = .ok a

theorem record_ignores {fs : Fields α} (h : fs.Lawful) {key : String} (hkey : key ∉ fs.names) :
    (record fs).Ignores key := by
  intro v a hv
  refine ⟨fs.toMembers a, rfl, fun w hw sorted => ?_⟩
  have ha := renders_of_record h hv
  have houtside : ∀ m ∈ [(key, w)], m.1 ∉ fs.names := by simpa using hkey
  obtain ⟨ns, heq, hperm⟩ :=
    exists_ordered_obj sorted (distinct_append (h.named a) houtside ha.distinct (by simp))
  obtain ⟨slots, hput, hfinish⟩ :=
    except_bind_ok_iff.1 (ha.readBack sorted _ (under_perm (h.named a) houtside hperm))
  show (record fs).decode ((obj (fs.toMembers a ++ [(key, w)])).ordered sorted) = .ok a
  rw [heq]
  refine except_bind_ok_iff.2 ⟨slots, h.knows.putAll_ok_iff.2 ⟨hput, fun m hm => ?_⟩, hfinish⟩
  have hother := (besides_perm (h.named a) houtside hperm).mem_iff.1 hm
  rw [List.mem_singleton.1 hother]
  exact delimited_of_intact _ (intact_ordered hw)

theorem Ignores.map {key : String} (h : c.Ignores key) {into : α → β} {back : β → α} (hback : ∀ a, back (into a) = a) :
    (c.map into back).Ignores key := by
  intro v b hv
  obtain ⟨a, ha, rfl⟩ := except_map_ok_iff.1 hv
  obtain ⟨ms, hms, hread⟩ := h v a ha
  refine ⟨ms, ?_, fun w hw sorted => except_map_ok_iff.2 ⟨a, hread w hw sorted, rfl⟩⟩
  show c.encode (back (into a)) = .obj ms
  rw [hback, hms]

/-- A structure that ignores other members is read back with or without one of them. -/
theorem record_reads {fs : Fields α} {into : α → β} {back : β → α} {key : String} (h : fs.Lawful)
    (hback : ∀ a, back (into a) = a) (hkey : key ∉ fs.names) :
    ((record fs).map into back).RoundTrip ∧ ((record fs).map into back).Ignores key :=
  ⟨(record_roundTrip h).map hback, (record_ignores h hkey).map hback⟩

theorem text_decode_null (s : String) : text.decode .null ≠ .ok s := nofun

theorem instant_decode_null (i : Instant) : instant.decode .null ≠ .ok i := nofun

theorem texts_decode_null (ss : List String) : text.list.decode .null ≠ .ok ss := nofun

theorem kept_of_instant_decode {v : Json} {i : Instant} (h : instant.decode v = .ok i) : i.Kept := by
  obtain ⟨s, -, hs⟩ := filterMap_decode_ok_iff.1 h
  exact Instant.kept_of_readRelaxed hs

theorem instant_roundTrip : instant.RoundTrip :=
  filterMap_roundTrip fun _ _ h => ⟨renders_text _, (Instant.kept_of_readRelaxed h).readRelaxed_write⟩

end Codec

open Codec Fields

/-! ## Signatures -/

/-- A name keeps its spelling, with a meaning here or without. -/
theorem SignatureType.name_ofName (s : String) : (ofName s).name = s := by
  unfold ofName
  split <;> rfl

theorem ReferenceType.name_ofName (s : String) : (ofName s).name = s := by
  unfold ofName
  split <;> rfl

theorem Signature.codec_reads : Signature.codec.RoundTrip ∧ Signature.codec.Ignores "classification" := by
  refine record_reads ?_ (fun _ => rfl) (by decide)
  refine Lawful.required ?_ text_roundTrip (by decide)
  refine Lawful.required ?_ (text_roundTrip.map SignatureType.name_ofName) (by decide)
  refine Lawful.required ?_ (text_roundTrip.map ReferenceType.name_ofName) (by decide)
  refine Lawful.defaulted ?_ text_roundTrip (renders_text _) (by decide)
  refine Lawful.omitted ?_ text_roundTrip text_decode_null (by decide)
  refine Lawful.omitted ?_ text_roundTrip text_decode_null (by decide)
  refine Lawful.defaulted ?_ text_roundTrip (renders_text _) (by decide)
  refine Lawful.omitted ?_ text_roundTrip text_decode_null (by decide)
  refine Lawful.omitted ?_ instant_roundTrip instant_decode_null (by decide)
  refine Lawful.omitted ?_ instant_roundTrip instant_decode_null (by decide)
  refine Lawful.defaulted ?_ flag_roundTrip (renders_flag _) (by decide)
  refine Lawful.defaulted ?_ flag_roundTrip (renders_flag _) (by decide)
  refine Lawful.omitted ?_ text_roundTrip.list texts_decode_null (by decide)
  refine Lawful.omitted ?_ text_roundTrip.list texts_decode_null (by decide)
  refine Lawful.omitted ?_ text_roundTrip.list texts_decode_null (by decide)
  exact Lawful.omitted nil_lawful text_roundTrip.list texts_decode_null (by decide)

theorem Signature.codec_roundTrip : Signature.codec.RoundTrip := Signature.codec_reads.1

/-- Where a field stands: under its name in an object, at its place in an array. -/
def Json.standing (name : String) (place : Nat) : Json → Option Json
  | .obj ms => ms.lookup name
  | .arr items => items[place]?
  | _ => none

theorem eq_str_of_named {α : Type} {ofName : String → α} {name : α → String} (hname : ∀ s, name (ofName s) = s)
    {v : Json} {a : α} (h : (text.map ofName name).decode v = .ok a) : v = .str (name a) := by
  obtain ⟨s, hs, rfl⟩ := except_map_ok_iff.1 h
  cases v with
  | str s' =>
    cases hs
    rw [hname]
  | _ => simp [text] at hs

/-- The types of a signature and of what it refers to are written as they were read. -/
theorem Signature.types_unchanged {v : Json} {s : Signature} (h : Signature.codec.decode v = .ok s) :
    (Signature.codec.encode s).get? "signatureType" = v.standing "signatureType" 1 ∧
      (Signature.codec.encode s).get? "signatureReferenceType" = v.standing "signatureReferenceType" 2 := by
  have htype : (Signature.codec.encode s).get? "signatureType" = some (.str s.type.name) := rfl
  have hreference : (Signature.codec.encode s).get? "signatureReferenceType" = some (.str s.referenceType.name) := rfl
  obtain ⟨⟨id, type, reference, behind⟩, hfields, rfl⟩ := except_map_ok_iff.1 h
  rw [htype, hreference]
  cases v with
  | obj ms =>
    obtain ⟨_, -, -, h₁⟩ := lookup_of_required hfields
    obtain ⟨v₁, hv₁, hname₁, h₂⟩ := lookup_of_required h₁
    obtain ⟨v₂, hv₂, hname₂, -⟩ := lookup_of_required h₂
    rw [lookup_besides (by decide)] at hv₁ hv₂
    rw [lookup_besides (by decide)] at hv₂
    rw [eq_str_of_named SignatureType.name_ofName hname₁] at hv₁
    rw [eq_str_of_named ReferenceType.name_ofName hname₂] at hv₂
    exact ⟨hv₁.symm, hv₂.symm⟩
  | arr items =>
    obtain ⟨_, -, -, h₁⟩ := head_of_required (record_decode_arr_iff.1 hfields)
    obtain ⟨v₁, hv₁, hname₁, h₂⟩ := head_of_required h₁
    obtain ⟨v₂, hv₂, hname₂, -⟩ := head_of_required h₂
    rw [List.head?_eq_getElem?, List.getElem?_tail] at hv₁ hv₂
    rw [List.getElem?_tail] at hv₂
    rw [eq_str_of_named SignatureType.name_ofName hname₁] at hv₁
    rw [eq_str_of_named ReferenceType.name_ofName hname₂] at hv₂
    exact ⟨hv₁.symm, hv₂.symm⟩
  | _ => simp [record] at hfields

theorem SignaturePage.codec_roundTrip : SignaturePage.codec.RoundTrip := by
  refine RoundTrip.map (record_roundTrip ?_) fun _ => rfl
  refine Lawful.nullable ?_ Signature.codec_roundTrip.list nofun (by decide)
  refine Lawful.omitted ?_ word64_roundTrip nofun (by decide)
  refine Lawful.omitted ?_ text_roundTrip text_decode_null (by decide)
  exact Lawful.omitted nil_lawful text_roundTrip text_decode_null (by decide)

theorem GithubOrg.codec_roundTrip : GithubOrg.codec.RoundTrip := by
  refine RoundTrip.map (record_roundTrip ?_) fun _ => rfl
  refine Lawful.required ?_ text_roundTrip (by decide)
  refine Lawful.defaulted ?_ flag_roundTrip (renders_flag _) (by decide)
  exact Lawful.omitted nil_lawful text_roundTrip text_decode_null (by decide)

/-! ## Companies, projects, users and managers -/

theorem NewCompany.codec_roundTrip : NewCompany.codec.RoundTrip := by
  refine RoundTrip.map (record_roundTrip ?_) fun _ => rfl
  refine Lawful.required ?_ text_roundTrip (by decide)
  refine Lawful.omitted ?_ text_roundTrip text_decode_null (by decide)
  refine Lawful.omitted ?_ text_roundTrip text_decode_null (by decide)
  exact Lawful.omitted nil_lawful text_roundTrip text_decode_null (by decide)

theorem Company.codec_keeps : Company.codec.RoundTrip ∧ Company.codec.HandsOn Company.extra
    ["company_id", "companyID", "company_name", "companyName", "company_manager_id", "companyManagerID"] := by
  refine recordKeeping_keeps ?_ fun _ => rfl
  refine Lawful.required ?_ text_roundTrip (by decide)
  refine Lawful.defaulted ?_ text_roundTrip (renders_text _) (by decide)
  exact Lawful.omitted nil_lawful text_roundTrip text_decode_null (by decide)

theorem Project.codec_keeps : Project.codec.RoundTrip ∧ Project.codec.HandsOn Project.extra
    ["project_id", "projectID", "project_name", "projectName"] := by
  refine recordKeeping_keeps ?_ fun _ => rfl
  refine Lawful.required ?_ text_roundTrip (by decide)
  exact Lawful.defaulted nil_lawful text_roundTrip (renders_text _) (by decide)

theorem User.codec_keeps : User.codec.RoundTrip ∧ User.codec.HandsOn User.extra
    ["user_id", "userID", "user_name", "userName", "lf_username", "lfUsername"] := by
  refine recordKeeping_keeps ?_ fun _ => rfl
  refine Lawful.required ?_ text_roundTrip (by decide)
  refine Lawful.omitted ?_ text_roundTrip text_decode_null (by decide)
  exact Lawful.omitted nil_lawful text_roundTrip text_decode_null (by decide)

theorem ClaManager.codec_keeps : ClaManager.codec.RoundTrip ∧ ClaManager.codec.HandsOn ClaManager.extra
    ["lfUsername", "lf_username", "userName", "user_name", "userID", "user_id"] := by
  refine recordKeeping_keeps ?_ fun _ => rfl
  refine Lawful.required ?_ text_roundTrip (by decide)
  refine Lawful.omitted ?_ text_roundTrip text_decode_null (by decide)
  exact Lawful.omitted nil_lawful text_roundTrip text_decode_null (by decide)

/-! ## The platform -/

theorem Group.codec_roundTrip : Group.codec.RoundTrip := by
  refine RoundTrip.map (record_roundTrip ?_) fun _ => rfl
  refine Lawful.nullable ?_ int64_roundTrip nofun (by decide)
  exact Lawful.required nil_lawful text_roundTrip (by decide)

theorem PlatformUser.codec_roundTrip : PlatformUser.codec.RoundTrip := by
  have hgroups : Group.codec.list.Renders [] := renders_list (by simp)
  refine RoundTrip.map (record_roundTrip ?_) fun _ => rfl
  refine Lawful.nullable ?_ text_roundTrip text_decode_null (by decide)
  refine Lawful.required ?_ text_roundTrip (by decide)
  refine Lawful.nullable ?_ text_roundTrip text_decode_null (by decide)
  refine Lawful.defaulted ?_ Group.codec_roundTrip.list hgroups (by decide)
  exact Lawful.nullable nil_lawful text_roundTrip text_decode_null (by decide)

theorem PlatformProject.codec_keeps :
    PlatformProject.codec.RoundTrip ∧ PlatformProject.codec.HandsOn PlatformProject.extra ["id", "name"] := by
  refine recordKeeping_keeps ?_ fun _ => rfl
  refine Lawful.required ?_ text_roundTrip (by decide)
  exact Lawful.nullable nil_lawful text_roundTrip text_decode_null (by decide)

/-! ## All records -/

/-- Every record of the two services is read back from what it is written as. A signature keeps
the spelling of its types, known or not, and the records that hold members of other names
hand them on unchanged; none of what they hold has a name or another spelling of a field. -/
theorem records_read_back :
    (Signature.codec.ReadsBack ∧ SignaturePage.codec.ReadsBack ∧ GithubOrg.codec.ReadsBack ∧
      Company.codec.ReadsBack ∧ Project.codec.ReadsBack ∧ User.codec.ReadsBack ∧ ClaManager.codec.ReadsBack ∧
      NewCompany.codec.ReadsBack ∧ Group.codec.ReadsBack ∧ PlatformUser.codec.ReadsBack ∧
      PlatformProject.codec.ReadsBack) ∧
    (∀ v s, Signature.codec.decode v = .ok s →
      (Signature.codec.encode s).get? "signatureType" = v.standing "signatureType" 1 ∧
      (Signature.codec.encode s).get? "signatureReferenceType" = v.standing "signatureReferenceType" 2) ∧
    Company.codec.HandsOn Company.extra
      ["company_id", "companyID", "company_name", "companyName", "company_manager_id", "companyManagerID"] ∧
    Project.codec.HandsOn Project.extra ["project_id", "projectID", "project_name", "projectName"] ∧
    User.codec.HandsOn User.extra
      ["user_id", "userID", "user_name", "userName", "lf_username", "lfUsername"] ∧
    ClaManager.codec.HandsOn ClaManager.extra
      ["lfUsername", "lf_username", "userName", "user_name", "userID", "user_id"] ∧
    PlatformProject.codec.HandsOn PlatformProject.extra ["id", "name"] := by
  refine ⟨⟨?_, ?_, ?_, ?_, ?_, ?_, ?_, ?_, ?_, ?_, ?_⟩, fun _ _ => Signature.types_unchanged,
    Company.codec_keeps.2, Project.codec_keeps.2, User.codec_keeps.2, ClaManager.codec_keeps.2,
    PlatformProject.codec_keeps.2⟩
  · exact Signature.codec_roundTrip.readsBack
  · exact SignaturePage.codec_roundTrip.readsBack
  · exact GithubOrg.codec_roundTrip.readsBack
  · exact Company.codec_keeps.1.readsBack
  · exact Project.codec_keeps.1.readsBack
  · exact User.codec_keeps.1.readsBack
  · exact ClaManager.codec_keeps.1.readsBack
  · exact NewCompany.codec_roundTrip.readsBack
  · exact Group.codec_roundTrip.readsBack
  · exact PlatformUser.codec_roundTrip.readsBack
  · exact PlatformProject.codec_keeps.1.readsBack

end SignatureDesk
