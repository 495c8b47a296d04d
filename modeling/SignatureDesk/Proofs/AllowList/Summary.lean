/-
What is left of a change of approval lists once it is written. As JSON it is read back,
whatever its lists hold (`readBack`), and its summary tells it apart from every other change:
no heading begins with another (`heading_prefix_free`), so that a line shows the list and the
entry that it is written for, also where the entry looks like a line of its own
(`line_inj`).
-/
import SignatureDesk.Proofs.AllowList.Change
import SignatureDesk.Proofs.Json.RoundTrip
import SignatureDesk.Proofs.Json.Written

namespace SignatureDesk

/-! ## Values of texts -/

namespace Json

variable {depth : Nat}

/-- Different values have different texts. -/
theorem compact_inj {v w : Json} (hv : isWordy depthLimit v = true) (hw : isWordy depthLimit w = true) :
    v.compact = w.compact ↔ v = w := by
  refine ⟨fun h => ?_, congrArg compact⟩
  have hread := readText_compact hv
  rw [h, readText_compact hw] at hread
  exact (congrArg Prod.fst hread).symm

theorem areWordy_map_str (ss : List String) : areWordy depth (ss.map str) = true := by
  induction ss with
  | nil => rfl
  | cons s ss ih => rw [List.map_cons, areWordy, isWordy, ih, Bool.true_and]

theorem haveWordy_append {ms ns : Members} :
    haveWordy depth (ms ++ ns) = (haveWordy depth ms && haveWordy depth ns) := by
  induction ms with
  | nil => rw [List.nil_append, haveWordy, Bool.true_and]
  | cons m ms ih => rw [List.cons_append, haveWordy, haveWordy, ih, Bool.and_assoc]

end Json

namespace ApprovalChange

open Codec Fields Json

variable {c d : ApprovalChange} {kind kind' : AllowListKind} {edit edit' : Edit} {entry entry' : String}

/-! ## The change as JSON -/

/-- The member of one list. -/
def texts (key : String) (entries : List String) : Members := member key Codec.text.list List.isEmpty entries

theorem texts_eq_nil_iff {key : String} {entries : List String} : texts key entries = [] ↔ entries = [] := by
  cases entries <;> simp [texts, member]

theorem haveWordy_texts {depth : Nat} (hdepth : 0 < depth) (key : String) (entries : List String) :
    haveWordy depth (texts key entries) = true := by
  rw [texts, member]
  split
  · rfl
  · have hitems : areWordy (depth - 1) (entries.map str) = true := areWordy_map_str entries
    simp [haveWordy, isWordy, Codec.list, Codec.text, hdepth, hitems]

theorem encode_eq (c : ApprovalChange) : codec.encode c = .obj
    (texts "addEmailApprovalList" c.addEmails ++ (texts "removeEmailApprovalList" c.removeEmails ++
      (texts "addDomainApprovalList" c.addDomains ++ (texts "removeDomainApprovalList" c.removeDomains ++
        (texts "addGithubUsernameApprovalList" c.addGithubUsernames ++
          (texts "removeGithubUsernameApprovalList" c.removeGithubUsernames ++ [])))))) := rfl

theorem encode_isWordy (c : ApprovalChange) : isWordy depthLimit (codec.encode c) = true := by
  simp [encode_eq, isWordy, haveWordy_append, haveWordy_texts, depthLimit]

/-- A change is read back, whatever its lists hold. -/
theorem renders (c : ApprovalChange) : codec.Renders c := by
  refine renders_map (renders_record (Complete.renders ?_ _)) rfl
  refine Complete.nonempty ?_ renders_text (by decide)
  refine Complete.nonempty ?_ renders_text (by decide)
  refine Complete.nonempty ?_ renders_text (by decide)
  refine Complete.nonempty ?_ renders_text (by decide)
  refine Complete.nonempty ?_ renders_text (by decide)
  exact nil_complete.nonempty renders_text (by decide)

theorem readBack (c : ApprovalChange) : codec.ofRead (readText (codec.encode c).compact) = .ok c := by
  have hread : codec.decode (codec.encode c) = .ok c := (renders c).readBack false
  rw [readText_compact (encode_isWordy c), ofRead, hread]
  rfl

theorem isEmpty_iff : c.isEmpty = true ↔ c.addEmails = [] ∧ c.removeEmails = [] ∧ c.addDomains = [] ∧
    c.removeDomains = [] ∧ c.addGithubUsernames = [] ∧ c.removeGithubUsernames = [] := by
  simp [isEmpty, AllowListKind.all, list, and_assoc]

theorem encode_eq_nil_iff : codec.encode c = .obj [] ↔ c.isEmpty = true := by
  simp [encode_eq, texts_eq_nil_iff, isEmpty_iff]

/-! ## The summary -/

/-- What stands in front of the entries of a list. -/
def heading (kind : AllowListKind) (edit : Edit) : String := Edit.verb edit ++ " " ++ kind.label ++ ": "

def headed (kind : AllowListKind) (edit : Edit) (l : String) : Bool := (heading kind edit).toList.isPrefixOf l.toList

theorem line_eq (kind : AllowListKind) (edit : Edit) (entry : String) :
    line kind edit entry = heading kind edit ++ entry := rfl

/-- No heading begins with another. -/
theorem heading_prefix_free (h : (heading kind edit).toList <+: (heading kind' edit').toList) :
    kind = kind' ∧ edit = edit' := by
  revert h
  cases kind <;> cases edit <;> cases kind' <;> cases edit' <;> decide

theorem headed_line_iff : headed kind edit (line kind' edit' entry) = true ↔ kind = kind' ∧ edit = edit' := by
  rw [headed, List.isPrefixOf_iff_prefix, line_eq, String.toList_append]
  constructor
  · intro h
    rcases List.prefix_or_prefix_of_prefix h (List.prefix_append _ _) with h | h
    · exact heading_prefix_free h
    · obtain ⟨hkind, hedit⟩ := heading_prefix_free h
      exact ⟨hkind.symm, hedit.symm⟩
  · rintro ⟨rfl, rfl⟩
    exact List.prefix_append _ _

/-- A line shows the list and the entry that it is written for. -/
theorem line_inj : line kind edit entry = line kind' edit' entry' ↔ kind = kind' ∧ edit = edit' ∧ entry = entry' := by
  constructor
  · intro h
    have hhead : headed kind edit (line kind' edit' entry') = true := by
      rw [← h]
      exact headed_line_iff.2 ⟨rfl, rfl⟩
    obtain ⟨rfl, rfl⟩ := headed_line_iff.1 hhead
    rw [line_eq, line_eq, String.append_right_inj] at h
    exact ⟨rfl, rfl, h⟩
  · rintro ⟨rfl, rfl, rfl⟩
    rfl

theorem line_injective (kind : AllowListKind) (edit : Edit) : Function.Injective (line kind edit) :=
  fun _ _ h => (line_inj.1 h).2.2

theorem filter_headed_lines (entries : List String) : (entries.map (line kind' edit')).filter (headed kind edit) =
    if kind' = kind ∧ edit' = edit then entries.map (line kind edit) else [] := by
  split
  next h =>
    obtain ⟨rfl, rfl⟩ := h
    refine List.filter_eq_self.2 fun l hl => ?_
    obtain ⟨entry, -, rfl⟩ := List.mem_map.1 hl
    exact headed_line_iff.2 ⟨rfl, rfl⟩
  next h =>
    refine List.filter_eq_nil_iff.2 fun l hl hhead => h ?_
    obtain ⟨entry, -, rfl⟩ := List.mem_map.1 hl
    obtain ⟨hkind, hedit⟩ := headed_line_iff.1 hhead
    exact ⟨hkind.symm, hedit.symm⟩

/-- Under each heading stand the entries of its list, in their order. -/
theorem filter_summary (c : ApprovalChange) (kind : AllowListKind) (edit : Edit) :
    c.summary.filter (headed kind edit) = (c.list kind edit).map (line kind edit) := by
  simp only [summary, List.filter_flatMap, filter_headed_lines]
  cases kind <;> cases edit <;> simp [AllowListKind.all]

theorem summary_inj : c.summary = d.summary ↔ c = d := by
  refine ⟨fun h => ext_list fun k e => ?_, congrArg summary⟩
  have hlines := congrArg (List.filter (headed k e)) h
  rw [filter_summary, filter_summary] at hlines
  exact List.map_injective_iff.2 (line_injective k e) hlines

theorem summary_length (c : ApprovalChange) : c.summary.length = c.addEmails.length + c.removeEmails.length +
    c.addDomains.length + c.removeDomains.length + c.addGithubUsernames.length + c.removeGithubUsernames.length := by
  simp [summary, AllowListKind.all, list, Nat.add_assoc]

theorem summary_eq_nil_iff : c.summary = [] ↔ c.isEmpty = true := by
  simp [summary, AllowListKind.all, list, isEmpty_iff]

/-- **A change of approval lists loses nothing, neither as JSON nor in its summary.** Its text is read as the change
that was written, whatever the lists hold, and so is its value with the members sorted by key. The change is empty just
when nothing stands between the braces, and just when the summary has no lines. The summary has as many lines as the six
lists have entries, under each heading those of one list, and tells the change apart from every other. -/
theorem nothing_lost (c : ApprovalChange) :
    codec.ofRead (readText (codec.encode c).compact) = .ok c ∧
    (∀ sorted, codec.decode ((codec.encode c).ordered sorted) = .ok c) ∧
    (c.isEmpty = true ↔ (codec.encode c).compact = "\x7b\x7d") ∧
    (c.isEmpty = true ↔ c.summary = []) ∧
    c.summary.length = c.addEmails.length + c.removeEmails.length + c.addDomains.length + c.removeDomains.length +
      c.addGithubUsernames.length + c.removeGithubUsernames.length ∧
    (∀ kind edit, c.summary.filter (headed kind edit) = (c.list kind edit).map (line kind edit)) ∧
    ∀ d : ApprovalChange, c.summary = d.summary ↔ c = d := by
  refine ⟨readBack c, (renders c).readBack, ?_, summary_eq_nil_iff.symm, summary_length c, filter_summary c,
    fun d => summary_inj⟩
  have hbraces : compact (.obj []) = "\x7b\x7d" := rfl
  rw [← encode_eq_nil_iff, ← hbraces, compact_inj (encode_isWordy c) rfl]

end ApprovalChange
end SignatureDesk
