/-
Which calls have an address. Below a base that has one, the path of every endpoint has one too: it
begins with a word of the endpoint, which can even be a host, should one be looked for there. The path
of a page is brought into normal form first, so an id may lead out of its place and begin it; but that
keeps it from having an address only where a host is looked for (`Unaddressed.unsendable`).
-/
import SignatureDesk.Proofs.Remote.Placement
import SignatureDesk.Proofs.Url.Below

namespace SignatureDesk

namespace Endpoint

/-- The words that paths begin with. -/
def firstWords : List String :=
  ["v1", "v2", "v3", "auth", "about", "users", "usergroups", "projects", "project"]

theorem parts_cases (e : Endpoint String) :
    ∃ w ∈ firstWords, ∃ part rest, e.parts = .word w :: part :: rest := by
  cases e <;> exact ⟨_, by simp [firstWords], _, _, rfl⟩

theorem plain_firstWord {w : String} (h : w ∈ firstWords) :
    w.toList ≠ [] ∧ ∀ c ∈ w.toList, 32 < c.toNat ∧ Url.isSlash c = false := by
  have hchecks : (firstWords.all fun w =>
      !w.toList.isEmpty && w.toList.all fun c => 32 < c.toNat && !Url.isSlash c) = true := by decide +kernel
  have hw := List.all_eq_true.1 hchecks w h
  simp only [Bool.and_eq_true, List.all_eq_true, decide_eq_true_eq, Bool.not_eq_true'] at hw
  exact ⟨by simpa using hw.1, hw.2⟩

theorem opensHost_firstWord {w : String} (h : w ∈ firstWords) : Url.OpensHost (w.toList ++ ['/']) := by
  have hchecks : ∀ w ∈ firstWords, (Url.checkForeign (w.toList ++ ['/'])).toOption = some () ∧
      (Url.checkFile ('/' :: '/' :: (w.toList ++ ['/']))).toOption = some () := by decide +kernel
  obtain ⟨hforeign, hfile⟩ := hchecks w h
  exact ⟨except_toOption_eq_some_iff.1 hforeign, except_toOption_eq_some_iff.1 hfile⟩

/-- The path of an endpoint has an address below every base that has one. -/
theorem parse_path_below (e : Endpoint String) {s : List Char} {a : Url.Address}
    (h : Url.parse (String.ofList (s ++ ['/'])) = .ok a) :
    ∃ a', Url.parse (String.ofList (s ++ '/' :: e.path.toList.dropWhile (· = '/'))) = .ok a' := by
  obtain ⟨w, hw, part, rest, hparts⟩ := e.parts_cases
  obtain ⟨hne, hplain⟩ := plain_firstWord hw
  have hpath : e.path.toList.dropWhile (· = '/') =
      w.toList ++ '/' :: ['/'].intercalate ((part :: rest).map Part.text) := by
    rw [path_eq, hparts, List.map_cons, List.map_cons, List.intercalate_cons_cons, List.append_assoc]
    rfl
  have hkept : ∀ q, Url.trailing (w.toList ++ '/' :: q) = w.toList ++ '/' :: Url.trailing q := fun q => by
    rw [Url.trailing_append fun c hc => (hplain c hc).1, Url.trailing_cons (by decide)]
  rw [hpath]
  refine Url.parse_below h (Url.opensPlainly_append hne hplain _).trailing fun _ => ?_
  rw [hkept]
  exact Url.opensHost_append (opensHost_firstWord hw) _

end Endpoint

namespace Link

variable {l : Link} {call : Call}

/-- The path of the call has no address, and that is the fault of the service's base: it has none
either, or it has no host, and one is looked for in the path of a page. -/
structure Unsendable (l : Link) (call : Call) : Prop where
  path : l.Unaddressed call
  base : ∀ a, Url.parse ((l.base call.service).address "") = .ok a →
    Url.IsHostless (l.base call.service).text.toList ∧
      ∃ p q, PageQuery.toPairs q ≠ [] ∧ queried (Cla.listingPath p) q.toPairs = .ok call.path

theorem Unaddressed.unsendable (h : l.Unaddressed call) {e : Endpoint String} {pairs : List (String × String)}
    (hat : e.CalledAt pairs call.path) : l.Unsendable call := by
  refine ⟨h, fun a base => ?_⟩
  obtain ⟨fault, unread⟩ := h
  have missing : ∀ a', Url.parse ((l.base call.service).address call.path) ≠ .ok a' := by simp [unread]
  rw [Base.address_eq] at base missing
  have noPath : ∀ e : Endpoint String, call.path ≠ e.path := by
    intro e he
    obtain ⟨a', read⟩ := e.parse_path_below base
    exact missing a' (he ▸ read)
  generalize hpath : call.path = path at hat
  cases hat with
  | plain => exact absurd hpath (noPath e)
  | @page p q path hq =>
    by_cases hpairs : q.toPairs = []
    · rw [hpairs, queried, except_mapError_ok_iff] at hq
      exact absurd (hpath.trans (Except.ok.inj hq).symm) (noPath (.listing p))
    · refine ⟨?_, p, q, hpairs, hpath ▸ hq⟩
      by_contra hosted
      rw [queried, except_mapError_ok_iff] at hq
      have hfront : (Cla.listingPath p).toList.head? = some '/' := by rw [listingPath_toList]; rfl
      have plain := Url.opensPlainly_of_withQuery hfront hpairs hq
      obtain ⟨a', read⟩ := Url.parse_below base plain.trailing fun hostless => absurd hostless hosted
      exact missing a' (hpath ▸ read)

/-- There is such a base, and an id that leads to what can be no host. -/
example :
    let base := Base.ofText "file:\\"
    (Url.parse (base.address "")).toOption = some .foreign ∧
      (queried (Cla.listingPath "../../../a^b") [("pageSize", "1")]).toOption = some "/a^b?pageSize=1" ∧
      (Url.parse (base.address "/a^b?pageSize=1")).toOption = none := by
  decide +kernel

end Link

end SignatureDesk
