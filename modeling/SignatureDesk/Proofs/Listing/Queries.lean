/-
What a page query asks for. Its pairs are those of six places that hold something,
in their order, each under a key of its own, so the pairs say what is in each place:
of a search only with a term, of a position in the listing only with a key.
-/
import Mathlib.Data.List.Nodup
import SignatureDesk.Listing.PageQuery

namespace SignatureDesk.PageQuery

/-- Two queries ask for the same page. Texts that are empty do not count, nor does what a
search without a term is restricted to. -/
structure Agrees (q q' : PageQuery) : Prop where
  pageSize : q.pageSize = q'.pageSize
  nextKey : q.nextKey.filter (!·.isEmpty) = q'.nextKey.filter (!·.isEmpty)
  claType : q.claType = q'.claType
  searchTerm : q.searchTerm.filter (!·.isEmpty) = q'.searchTerm.filter (!·.isEmpty)
  restriction : (q.searchTerm.filter (!·.isEmpty)).isSome →
    q.searchField = q'.searchField ∧ q.fullMatch = q'.fullMatch

/-- All that a query may hold, by key, with a value where it does. -/
def places (q : PageQuery) : List (String × Option String) :=
  let term := q.searchTerm.filter (!·.isEmpty)
  [("pageSize", q.pageSize.map fun n => toString n.toNat),
   ("nextKey", q.nextKey.filter (!·.isEmpty)),
   ("claType", q.claType),
   ("searchTerm", term),
   ("searchField", term.bind fun _ => q.searchField),
   ("fullMatch", term.bind fun _ => q.fullMatch.map fun b => if b then "true" else "false")]

/-- The pairs of the places that hold something. -/
def filled (places : List (String × Option String)) : List (String × String) :=
  places.flatMap fun p => pair p.1 p.2

theorem toPairs_eq (q : PageQuery) : q.toPairs = filled q.places := by
  rw [toPairs, places, filled]
  cases q.searchTerm.filter (!·.isEmpty) <;> simp [pair]

theorem mem_filled {key text : String} {places : List (String × Option String)} :
    (key, text) ∈ filled places ↔ (key, some text) ∈ places := by
  simp only [filled, pair, List.mem_flatMap, Option.mem_toList, Option.map_eq_some_iff, Prod.mk.injEq]
  constructor
  · rintro ⟨⟨_, _⟩, hp, _, rfl, rfl, rfl⟩
    exact hp
  · exact fun hp => ⟨_, hp, _, rfl, rfl, rfl⟩

/-- A value is the one that its key is paired with, where no other place has that key. -/
theorem eq_some_iff_mem_filled {key text : String} {value : Option String} {rest : List (String × Option String)}
    (h : key ∉ rest.map (·.1)) : value = some text ↔ (key, text) ∈ filled ((key, value) :: rest) := by
  rw [mem_filled, List.mem_cons, Prod.mk.injEq]
  constructor
  · rintro rfl
    exact .inl ⟨rfl, rfl⟩
  · rintro (⟨-, h⟩ | hrest)
    · exact h.symm
    · exact absurd (List.mem_map_of_mem hrest) h

/-- Pairs from places with the same keys are the same when the values are. -/
theorem filled_inj {l l' : List (String × Option String)} (hkeys : l.map (·.1) = l'.map (·.1))
    (hnodup : (l.map (·.1)).Nodup) (h : filled l = filled l') : l = l' := by
  induction l generalizing l' with
  | nil => simpa using hkeys.symm
  | cons p l ih =>
    obtain ⟨key, value⟩ := p
    obtain _ | ⟨⟨key', value'⟩, l'⟩ := l'
    · simp at hkeys
    obtain ⟨rfl, hrest⟩ := List.cons.inj hkeys
    obtain ⟨hfirst, hnodup⟩ := List.nodup_cons.1 hnodup
    have hfirst' : key ∉ l'.map (·.1) := hrest ▸ hfirst
    obtain rfl : value = value' := Option.ext fun text => by
      rw [eq_some_iff_mem_filled hfirst, h, ← eq_some_iff_mem_filled hfirst']
    rw [ih hrest hnodup (List.append_cancel_left h)]

theorem toString_nat_injective : Function.Injective fun n : Nat => toString n :=
  Function.LeftInverse.injective (g := fun s => Nat.ofDigitChars 10 s.toList 0) fun n => by
    change Nat.ofDigitChars 10 (Nat.repr n).toList 0 = n
    rw [Nat.toList_repr]
    exact Nat.ofDigitChars_toDigits (by decide) (by decide)

theorem places_eq_iff {q q' : PageQuery} : q.places = q'.places ↔ q.Agrees q' := by
  have hsize : Function.Injective fun n : UInt32 => toString n.toNat := fun _ _ h =>
    UInt32.toNat_inj.1 (toString_nat_injective h)
  have hfull : Function.Injective fun b : Bool => if b then "true" else "false" := by
    unfold Function.Injective
    decide
  rw [places, places]
  simp only [List.cons.injEq, Prod.mk.injEq, true_and, and_true, (Option.map_injective hsize).eq_iff]
  constructor
  · rintro ⟨h₁, h₂, h₃, hterm, hfield, h₆⟩
    refine ⟨h₁, h₂, h₃, hterm, fun hsome => ?_⟩
    obtain ⟨term, hq⟩ := Option.isSome_iff_exists.1 hsome
    rw [← hterm, hq, Option.bind_some, Option.bind_some] at hfield h₆
    exact ⟨hfield, Option.map_injective hfull h₆⟩
  · rintro ⟨h₁, h₂, h₃, hterm, hrest⟩
    refine ⟨h₁, h₂, h₃, hterm, ?_⟩
    rw [← hterm]
    cases hq : q.searchTerm.filter (!·.isEmpty) with
    | none => exact ⟨rfl, rfl⟩
    | some term =>
      obtain ⟨hfield, hfull⟩ := hrest (by rw [hq]; rfl)
      rw [hfield, hfull]
      exact ⟨rfl, rfl⟩

theorem toPairs_eq_iff {q q' : PageQuery} : q.toPairs = q'.toPairs ↔ q.Agrees q' := by
  rw [← places_eq_iff, toPairs_eq, toPairs_eq]
  have hnodup : (q.places.map (·.1)).Nodup := by simp [places]
  exact ⟨filled_inj rfl hnodup, congrArg filled⟩

end SignatureDesk.PageQuery
