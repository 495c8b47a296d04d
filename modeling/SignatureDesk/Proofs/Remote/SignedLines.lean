/-
The lines that a signature covers. A line feed ends the method, and one precedes the date
and one the digest, so the text can be cut from both ends, and what is left between is
the path, whatever it holds (`Signing.canonical_eq_iff`). Upper case brings no line
feed into a method, and there is none in the date that a call is signed with.
-/
import SignatureDesk.Proofs.Remote.Signed
import SignatureDesk.Proofs.Text.Hex

namespace SignatureDesk

namespace Text

/-! ## Upper case -/

theorem eq_of_ofNat_eq_lineFeed {n : Nat} (h : Char.ofNat n = '\n') : n = 10 := by
  by_cases hvalid : n.isValidChar
  · rw [Char.ofNat, dif_pos hvalid] at h
    exact congrArg Char.toNat h
  · rw [Char.ofNat, dif_neg hvalid] at h
    cases h

/-- No run of the table leads to a line feed. -/
theorem mapRuns_upperRuns_eq_lineFeed {c : Char} (h : mapRuns upperRuns c = '\n') : c = '\n' := by
  have table : ∀ r ∈ upperRuns, 10 < r.first + r.offset := by decide +kernel
  rw [mapRuns] at h
  split at h
  next n hfound =>
    obtain ⟨r, hr, htarget⟩ := List.exists_of_findSome?_eq_some hfound
    have hoffset := table r hr
    rw [CaseRun.target?, Option.ite_none_right_eq_some, Option.some.injEq] at htarget
    have hten := eq_of_ofNat_eq_lineFeed h
    omega
  next => exact h

theorem eq_of_lineFeed_mem_upperChar {c : Char} (h : '\n' ∈ upperChar c) : c = '\n' := by
  have table : ∀ p ∈ upperSequences, ∀ n ∈ p.2, n ≠ 10 := by decide +kernel
  rw [upperChar] at h
  split at h
  next hascii =>
    refine forall_ascii (p := fun c => asciiUpperChar c = '\n' → c = '\n') (by decide) hascii ?_
    exact (List.mem_singleton.1 h).symm
  next =>
    split at h
    next ns hfound =>
      obtain ⟨before, behind, hsplit, -⟩ := List.lookup_eq_some_iff.1 hfound
      obtain ⟨n, hn, heq⟩ := List.mem_map.1 h
      exact absurd (eq_of_ofNat_eq_lineFeed heq) (table (c.toNat, ns) (by simp [hsplit]) n hn)
    next => exact mapRuns_upperRuns_eq_lineFeed (List.mem_singleton.1 h).symm

theorem lineFeed_not_mem_upperChars {s : List Char} (h : '\n' ∉ s) : '\n' ∉ upperChars s := by
  intro hmem
  obtain ⟨c, hc, hupper⟩ := List.mem_flatMap.1 hmem
  rw [eq_of_lineFeed_mem_upperChar hupper] at hc
  exact h hc

theorem lineFeed_not_mem_hex (bytes : List UInt8) : '\n' ∉ hex bytes := by
  intro hmem
  obtain ⟨n, hn, heq⟩ := exists_of_mem_hex hmem
  have hdigit : ∀ n, n < 16 → '\n' ≠ Nat.digitChar n := by decide
  exact hdigit n hn heq

end Text

theorem Instant.lineFeed_not_mem_writeSeconds (i : Instant) : '\n' ∉ i.writeSeconds.toList := by
  intro hmem
  have hprinted := List.all_eq_true.1 i.all_writeSeconds '\n' hmem
  exact absurd hprinted (by decide)

namespace Signing

theorem toList_canonical (method path date : String) (body : List UInt8) :
    (canonical method path date body).toList = Text.upperChars method.toList ++ '\n' ::
      ((path.toList ++ '\n' :: date.toList) ++ '\n' :: Text.hex (Sha256.digest body)) := by
  simp [canonical, Text.upper]

/-- The lines are cut in one way: the method at the first line feed, the digest at the last and the date at the one
before it. -/
theorem canonical_eq_iff {method method' path path' date date' : String} {body body' : List UInt8}
    (hmethod : '\n' ∉ method.toList) (hmethod' : '\n' ∉ method'.toList)
    (hdate : '\n' ∉ date.toList) (hdate' : '\n' ∉ date'.toList) :
    canonical method path date body = canonical method' path' date' body' ↔
      Text.upper method = Text.upper method' ∧ path = path' ∧ date = date' ∧
        Sha256.digest body = Sha256.digest body' := by
  have hupper : Text.upper method = Text.upper method' ↔
      Text.upperChars method.toList = Text.upperChars method'.toList := String.ofList_inj
  rw [← String.toList_inj, toList_canonical, toList_canonical,
    Text.append_first_inj (Text.lineFeed_not_mem_upperChars hmethod) (Text.lineFeed_not_mem_upperChars hmethod'),
    Text.append_last_inj (Text.lineFeed_not_mem_hex _) (Text.lineFeed_not_mem_hex _),
    Text.append_last_inj hdate hdate', Text.hex_injective.eq_iff, String.toList_inj, String.toList_inj, hupper,
    and_assoc]

/-- **The signed lines are unambiguous.** Let two methods and two dates be without line feeds. With any paths, line feeds
or none, and any bodies, the lines that are signed for them are the same just when the methods in upper case, the
paths, the dates and the digests of the bodies are: no two calls that differ in one of these are covered by one
text. What keys sign of a call, at any instant, are its lines with a date without a line feed, which is the one that
is sent with the signature. -/
theorem canonical_unambiguous (method method' path path' date date' : String) (body body' : List UInt8)
    (hmethod : '\n' ∉ method.toList) (hmethod' : '\n' ∉ method'.toList)
    (hdate : '\n' ∉ date.toList) (hdate' : '\n' ∉ date'.toList) :
    (canonical method path date body = canonical method' path' date' body' ↔
      Text.upper method = Text.upper method' ∧ path = path' ∧ date = date' ∧
        Sha256.digest body = Sha256.digest body') ∧
    ∀ (keys : ApiKeys) (at_ : Instant), ∃ signed, '\n' ∉ signed.toList ∧
      keys.sign method path body at_ =
        ⟨scheme ++ " " ++ keys.id ++ ":" ++ code keys.secret (canonical method path signed body), signed⟩ :=
  ⟨canonical_eq_iff hmethod hmethod' hdate hdate',
    fun _ at_ => ⟨at_.writeSeconds, at_.lineFeed_not_mem_writeSeconds, rfl⟩⟩

end Signing

namespace Sample

def noon : String := "2024-05-01T12:00:00Z"

/-- A path that goes on with a line for a date. -/
def longPath : String := "/users\n" ++ noon

/-- It is not taken for the path alone, while the case of the method makes no difference. -/
theorem longPath_told_apart : '\n' ∉ "get".toList ∧ '\n' ∉ "GET".toList ∧ '\n' ∉ noon.toList ∧
    Signing.canonical "get" longPath noon [] ≠ Signing.canonical "GET" "/users" noon [] ∧
    Signing.canonical "get" longPath noon [] = Signing.canonical "GET" longPath noon [] := by
  have hget : '\n' ∉ "get".toList := by decide
  have hGET : '\n' ∉ "GET".toList := by decide
  have hnoon : '\n' ∉ noon.toList := by decide
  have apart := (Signing.canonical_unambiguous "get" "GET" longPath "/users" noon noon [] [] hget hGET hnoon hnoon).1
  have alike := (Signing.canonical_unambiguous "get" "GET" longPath longPath noon noon [] [] hget hGET hnoon hnoon).1
  have hpath : longPath ≠ "/users" := by decide
  have hupper : Text.upper "get" = Text.upper "GET" := by decide
  exact ⟨hget, hGET, hnoon, fun h => hpath (apart.1 h).2.1, alike.2 ⟨hupper, rfl, rfl, rfl⟩⟩

end Sample
end SignatureDesk
