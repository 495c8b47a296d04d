/-
Where the records of a listing are accounted for. A listing is parted record by record, each
put behind those of its group (`Partition.foldl_push`), and every record is also counted with
its class, the one that admits its fields (`classify_eq_iff`). Group and class are told by
different fields, since a record of the corporate type goes with its kind whatever its class is.
Still the two agree: a class that has a group of its own is counted with the size of that group,
and the other classes are counted with what is in the other groups (`listing_accounted_for`).
-/
import Mathlib.Logic.ExistsUnique
import SignatureDesk.Proofs.Reconcile.Counts

namespace SignatureDesk

/-! ## Groups and classes -/

/-- What the records of a class are like, by the three fields that tell it: who signed, what was signed,
and whether a company is named, were it by an empty name. -/
def SignatureClass.Admits : SignatureClass → Signature → Prop
  | .individual, s => s.referenceType = .user ∧ s.type = .cla ∧ s.companyName = none
  | .employee, s => s.referenceType = .user ∧ s.type = .cla ∧ s.companyName ≠ none
  | .company, s => s.referenceType = .company ∧ s.type = .ccla ∧ s.companyName ≠ none
  | .unknown, s =>
    ¬ (s.referenceType = .user ∧ s.type = .cla) ∧
      ¬ (s.referenceType = .company ∧ s.type = .ccla ∧ s.companyName ≠ none)

namespace Signature

variable {s : Signature}

/-- Each record is of the one class that admits it. -/
theorem classify_eq_iff {c : SignatureClass} : s.classify = c ↔ c.Admits s := by
  unfold classify hasCompanyName
  cases hreference : s.referenceType <;> cases htype : s.type <;> cases hname : s.companyName <;> cases c <;>
    simp [SignatureClass.Admits, hreference, htype, hname]

theorem bucket_eq_ccla_iff : s.bucket = .ccla ↔ s.type = .ccla := by
  unfold bucket
  by_cases h : s.type = .ccla
  · simp [h]
  · rw [if_neg h]
    split <;> simp [h]

theorem bucket_eq_individual_iff : s.bucket = .individual ↔ s.classify = .individual := by
  unfold bucket classify
  cases s.referenceType <;> cases s.type <;> cases s.hasCompanyName <;> simp

theorem bucket_eq_employee_iff : s.bucket = .employee ↔ s.classify = .employee := by
  unfold bucket classify
  cases s.referenceType <;> cases s.type <;> cases s.hasCompanyName <;> simp

/-- The last group takes what has no place in the others. -/
theorem bucket_eq_other_iff :
    s.bucket = .other ↔ s.type ≠ .ccla ∧ s.classify ≠ .individual ∧ s.classify ≠ .employee := by
  rw [Ne, ← bucket_eq_ccla_iff, Ne, ← bucket_eq_individual_iff, Ne, ← bucket_eq_employee_iff]
  cases s.bucket <;> simp

theorem type_of_classify_company (h : s.classify = .company) : s.type = .ccla := (classify_eq_iff.1 h).2.1

/-- A class without a group of its own is that of a record in one of the other groups. -/
theorem groupless_class_iff :
    (s.classify = .company ∨ s.classify = .unknown) ↔ (s.bucket = .ccla ∨ s.bucket = .other) := by
  have hindividual := bucket_eq_individual_iff (s := s)
  have hemployee := bucket_eq_employee_iff (s := s)
  cases hb : s.bucket <;> cases hc : s.classify <;> simp_all

end Signature

/-! ## Partitions -/

namespace Partition

def empty : Partition := ⟨[], [], [], []⟩

/-- The records of a group. -/
def group (p : Partition) : Bucket → List Signature
  | .ccla => p.ccla
  | .individual => p.individual
  | .employee => p.employee
  | .other => p.other

/-- Each group with that of another partition behind it. -/
def append (p q : Partition) : Partition :=
  ⟨p.ccla ++ q.ccla, p.individual ++ q.individual, p.employee ++ q.employee, p.other ++ q.other⟩

/-- One more record, behind the others of its group. -/
def push (p : Partition) (s : Signature) : Partition :=
  match s.bucket with
  | .ccla => { p with ccla := p.ccla ++ [s] }
  | .individual => { p with individual := p.individual ++ [s] }
  | .employee => { p with employee := p.employee ++ [s] }
  | .other => { p with other := p.other ++ [s] }

/-- The places say where in a listing the records of the groups stand: those of a group in the
order of the listing, and every place in one group. -/
structure Splits (p : Partition) (records : List Signature) (places : Bucket → List Nat) : Prop where
  ordered : ∀ b, (places b).Pairwise (· < ·)
  found : ∀ b, (places b).map (records[·]?) = (p.group b).map some
  once : ∀ k, k < records.length → ∃! b, k ∈ places b

variable {p q : Partition} {records : List Signature} {s : Signature} {b : Bucket}

theorem ext_group (h : ∀ b, p.group b = q.group b) : p = q := by
  obtain ⟨ccla, individual, employee, other⟩ := p
  have hccla : ccla = q.ccla := h .ccla
  have hindividual : individual = q.individual := h .individual
  have hemployee : employee = q.employee := h .employee
  have hother : other = q.other := h .other
  rw [hccla, hindividual, hemployee, hother]

theorem group_ofList : (ofList records).group b = records.filter (·.bucket = b) := by
  cases b <;> rfl

theorem group_append : (p.append q).group b = p.group b ++ q.group b := by
  cases b <;> rfl

theorem group_push : (p.push s).group b = p.group b ++ [s].filter (·.bucket = b) := by
  unfold push
  cases hs : s.bucket <;> cases b <;> simp [group, hs]

theorem ofList_append (xs ys : List Signature) : ofList (xs ++ ys) = (ofList xs).append (ofList ys) := by
  refine ext_group fun b => ?_
  rw [group_append, group_ofList, group_ofList, group_ofList, List.filter_append]

/-- A record that is pushed stands behind the partition, and those that follow it behind that. -/
theorem foldl_push (p : Partition) (records : List Signature) :
    records.foldl push p = p.append (ofList records) := by
  induction records generalizing p with
  | nil =>
    refine ext_group fun b => ?_
    simp [group_append, group_ofList]
  | cons s records ih =>
    rw [List.foldl_cons, ih]
    refine ext_group fun b => ?_
    have hcons : (s :: records).filter (·.bucket = b) =
        [s].filter (·.bucket = b) ++ records.filter (·.bucket = b) := List.filter_append [s] records
    rw [group_append, group_append, group_push, group_ofList, group_ofList, hcons, List.append_assoc]

/-- The places of the records of a group. -/
def places (records : List Signature) (b : Bucket) : List Nat :=
  (records.zipIdx.filter fun r => r.1.bucket = b).map Prod.snd

theorem mem_places_iff {k : Nat} :
    k ∈ places records b ↔ ∃ s, records[k]? = some s ∧ s.bucket = b := by
  simp [places, List.mem_zipIdx_iff_getElem?]

theorem splits_ofList (records : List Signature) : (ofList records).Splits records (places records) where
  ordered b := by
    have hall : (records.zipIdx.map Prod.snd).Pairwise (· < ·) := by
      rw [List.zipIdx_map_snd]
      exact List.pairwise_lt_range'
    exact hall.sublist (List.filter_sublist.map Prod.snd)
  found b := by
    have hfst : (records.zipIdx.filter fun r => r.1.bucket = b).map Prod.fst =
        records.filter (·.bucket = b) := by
      have hmap := List.filter_map (f := (Prod.fst : Signature × Nat → Signature)) (p := fun s => s.bucket = b)
        (l := records.zipIdx)
      rw [List.zipIdx_map_fst] at hmap
      exact hmap.symm
    rw [group_ofList, ← hfst, places, List.map_map, List.map_map]
    refine List.map_congr_left fun r hr => ?_
    exact List.mem_zipIdx_iff_getElem?.1 (List.mem_filter.1 hr).1
  once k hk := by
    have hget : records[k]? = some records[k] := List.getElem?_eq_getElem hk
    refine ⟨records[k].bucket, mem_places_iff.2 ⟨_, hget, rfl⟩, fun b hb => ?_⟩
    obtain ⟨s, hs, hbucket⟩ := mem_places_iff.1 hb
    rw [hget] at hs
    cases hs
    exact hbucket.symm

end Partition

/-! ## Counts -/

namespace SignatureClass

theorem name_injective : Function.Injective name := by
  intro c d
  cases c <;> cases d <;> simp [name]

end SignatureClass

theorem count_classNames (records : List Signature) (c : SignatureClass) :
    (records.map (·.classify.name)).count c.name = records.countP (·.classify = c) := by
  rw [List.count_eq_countP, List.countP_map]
  refine List.countP_congr fun s _ => ?_
  simp [SignatureClass.name_injective.eq_iff]

/-- The classes that occur are counted, each once. -/
theorem mem_classCounts_iff {records : List Signature} {name : String} {n : Nat} :
    (name, n) ∈ classCounts records ↔
      ∃ c : SignatureClass, name = c.name ∧ n = records.countP (·.classify = c) ∧ 0 < n := by
  rw [(tallies_classCounts records).mem_iff]
  constructor
  · rintro ⟨rfl, hpos⟩
    obtain ⟨s, -, rfl⟩ := List.mem_map.1 (List.count_pos_iff.1 hpos)
    exact ⟨s.classify, rfl, count_classNames records s.classify, hpos⟩
  · rintro ⟨c, rfl, rfl, hpos⟩
    exact ⟨(count_classNames records c).symm, hpos⟩

theorem nodup_classCounts (records : List Signature) :
    ((classCounts records).map (·.1)).Nodup :=
  (tallies_classCounts records).ascending.nodup

/-- The number that stands under a class; one that does not occur has none. -/
def counted (records : List Signature) (c : SignatureClass) : Nat :=
  ((classCounts records).lookup c.name).getD 0

variable {records : List Signature} {c : SignatureClass}

theorem counted_eq : counted records c = (records.filter (·.classify = c)).length := by
  rw [counted, (tallies_classCounts records).getD_lookup, count_classNames, List.countP_eq_length_filter]

/-- Two kinds of records that exclude each other make up a third. -/
theorem length_filter_add {α : Type} {q r t : α → Bool} (h : ∀ a, t a = (q a || r a))
    (apart : ∀ a, q a = true → r a = false) (l : List α) :
    (l.filter q).length + (l.filter r).length = (l.filter t).length := by
  induction l with
  | nil => rfl
  | cons a l ih =>
    simp only [List.filter_cons, h a]
    cases hq : q a with
    | true =>
      simp only [apart a hq, Bool.true_or, if_true, Bool.false_eq_true, if_false, List.length_cons]
      omega
    | false =>
      cases hr : r a <;>
        simp only [Bool.or_true, Bool.or_false, if_true, Bool.false_eq_true, if_false, List.length_cons] <;>
        omega

/-- The classes without a group of their own are counted with what is in the other groups. -/
theorem counted_groupless (records : List Signature) :
    counted records .company + counted records .unknown =
      (Partition.ofList records).ccla.length + (Partition.ofList records).other.length := by
  have hclasses := length_filter_add (l := records) (q := (·.classify = .company)) (r := (·.classify = .unknown))
    (t := fun s => s.classify = .company ∨ s.classify = .unknown) (by simp) (by simp +contextual)
  have hgroups := length_filter_add (l := records) (q := (·.bucket = .ccla)) (r := (·.bucket = .other))
    (t := fun s => s.bucket = .ccla ∨ s.bucket = .other) (by simp) (by simp +contextual)
  rw [counted_eq, counted_eq, hclasses]
  simp only [Signature.groupless_class_iff]
  exact hgroups.symm

/-- **Every record is accounted for.** A record is of the class that admits its fields. The corporate
group of a listing has the records of the corporate type, those of individuals and employees have the
ones of these classes, the last has all others, each in the order of the listing; every place of the
listing is in one group. Records that follow are put behind those of their groups. Individuals and
employees are counted with the sizes of their groups, the records of a company are in the corporate
group, and companies and unknown records together are counted with the sizes of the two other groups. -/
theorem listing_accounted_for (records : List Signature) :
    let p := Partition.ofList records
    (∀ (s : Signature) (c : SignatureClass), s.classify = c ↔ c.Admits s) ∧
    (p.ccla = records.filter (·.type = .ccla) ∧
      p.individual = records.filter (·.classify = .individual) ∧
      p.employee = records.filter (·.classify = .employee) ∧
      p.other = records.filter fun s => s.type ≠ .ccla ∧ s.classify ≠ .individual ∧ s.classify ≠ .employee) ∧
    (∃ places, p.Splits records places) ∧
    p = records.foldl Partition.push .empty ∧
    (∀ more, Partition.ofList (records ++ more) = p.append (.ofList more)) ∧
    counted records .individual = p.individual.length ∧
    counted records .employee = p.employee.length ∧
    (∀ s ∈ records, s.classify = .company → s ∈ p.ccla) ∧
    counted records .company + counted records .unknown = p.ccla.length + p.other.length := by
  intro p
  have hccla : p.ccla = records.filter (·.type = .ccla) := by
    simp only [p, Partition.ofList, Signature.bucket_eq_ccla_iff]
  have hindividual : p.individual = records.filter (·.classify = .individual) := by
    simp only [p, Partition.ofList, Signature.bucket_eq_individual_iff]
  have hemployee : p.employee = records.filter (·.classify = .employee) := by
    simp only [p, Partition.ofList, Signature.bucket_eq_employee_iff]
  have hother : p.other =
      records.filter fun s => s.type ≠ .ccla ∧ s.classify ≠ .individual ∧ s.classify ≠ .employee := by
    simp only [p, Partition.ofList, Signature.bucket_eq_other_iff]
  have hpushed : p = records.foldl Partition.push .empty := (Partition.foldl_push .empty records).symm
  refine ⟨fun _ _ => Signature.classify_eq_iff, ⟨hccla, hindividual, hemployee, hother⟩,
    ⟨_, Partition.splits_ofList records⟩, hpushed, Partition.ofList_append records, ?_, ?_,
    fun s hs hcompany => ?_, counted_groupless records⟩
  · rw [counted_eq, hindividual]
  · rw [counted_eq, hemployee]
  · rw [hccla]
    exact List.mem_filter.2 ⟨hs, by simpa using Signature.type_of_classify_company hcompany⟩

end SignatureDesk
