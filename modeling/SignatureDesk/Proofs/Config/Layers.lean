/-
What one setting leaves of the settings before it. A setting stands under a field of a
section (`Value.at?`). A value that is set there stays there for as long as what is
set afterwards leads elsewhere: into another section, or through another field of
the same one (`Path.Spares`, `at?_layer`).
-/
import SignatureDesk.Config.Load
import SignatureDesk.Proofs.Json.Members

namespace SignatureDesk.Config

open Json (lookup_cons_key)

namespace Value

/-- What stands under a field of a section. -/
def at? (root : Value) (sect field : String) : Option Value :=
  (root.entries.lookup sect).bind fun v => v.entries.lookup field

/-- Not a table: what is there gives way to it. -/
def IsScalar : Value → Prop
  | .table _ => False
  | _ => True

theorem lookup_setEntry (name k : String) (v : Value) (es : List (String × Value)) :
    (setEntry name v es).lookup k = if k = name then some v else es.lookup k := by
  induction es with
  | nil => rw [setEntry, lookup_cons_key]
  | cons e es ih =>
    obtain ⟨key, w⟩ := e
    rw [setEntry]
    by_cases hkey : key = name
    · rw [if_pos hkey, lookup_cons_key, lookup_cons_key, hkey]
      by_cases hk : k = name <;> simp [hk]
    · rw [if_neg hkey, lookup_cons_key, lookup_cons_key, ih]
      by_cases hk : k = key
      · have hne : k ≠ name := fun h => hkey (hk.symm.trans h)
        simp [hk, hk ▸ hne]
      · simp [hk]

theorem lookup_put {v : Value} (h : v.IsScalar) (root : Value) (name k : String) :
    (root.put name v).entries.lookup k = if k = Text.lower name then some v else root.entries.lookup k := by
  have hput : root.put name v = .table (setEntry (Text.lower name) v root.entries) := by
    rw [put]
    intro es htable
    rw [htable] at h
    exact h
  rw [hput, entries, lookup_setEntry]

end Value

namespace Path

variable {sect field : String}

/-- Nothing that is set at the path touches the field of the section. -/
def Spares (sect field : String) : Path → Prop
  | .name s => Text.lower s ≠ sect
  | .child (.name s) f => Text.lower s = sect → Text.lower f ≠ field
  | .child p _ => p.Spares sect field
  | .item p _ => p.Spares sect field

theorem lookup_changeEntry (name k : String) (f : Value → Value) (v : Value) :
    (changeEntry name f v).entries.lookup k =
      if k = Text.lower name then some (f ((v.entries.lookup k).getD .nil)) else v.entries.lookup k := by
  rw [changeEntry, Value.entries, Value.lookup_setEntry]
  by_cases hk : k = Text.lower name <;> simp [hk]

/-- A change inside another section, or one that leaves the field as it is, is not seen there. -/
theorem at?_changeEntry {name : String} {f : Value → Value}
    (h : Text.lower name = sect → ∀ v, (f v).entries.lookup field = v.entries.lookup field) (root : Value) :
    (changeEntry name f root).at? sect field = root.at? sect field := by
  rw [Value.at?, Value.at?, lookup_changeEntry]
  by_cases hsect : sect = Text.lower name
  · rw [if_pos hsect, Option.bind_some, h hsect.symm]
    cases root.entries.lookup sect <;> rfl
  · rw [if_neg hsect]

theorem at?_change {p : Path} (h : p.Spares sect field) (f : Value → Value) (root : Value) :
    (p.change f root).at? sect field = root.at? sect field := by
  induction p generalizing f with
  | name s => exact at?_changeEntry (fun hs => absurd hs h) root
  | child p s ih =>
    cases p with
    | name s' =>
      refine at?_changeEntry (fun hs v => ?_) root
      rw [lookup_changeEntry, if_neg (h hs).symm]
    | child p' s' => exact ih h _
    | item p' i => exact ih h _
  | item p i ih => exact ih h _

theorem at?_set {p : Path} (h : p.Spares sect field) {v : Value} (hv : v.IsScalar) (root : Value) :
    (p.set v root).at? sect field = root.at? sect field := by
  cases p with
  | name s =>
    have hs : sect ≠ Text.lower s := fun hs => h hs.symm
    rw [set, Value.at?, Value.lookup_put hv, if_neg hs]
    rfl
  | child p s =>
    rw [set]
    cases p with
    | name s' =>
      refine at?_changeEntry (fun hs w => ?_) root
      rw [Value.lookup_put hv, if_neg (h hs).symm]
    | child p' s' =>
      have hp : (p'.child s').Spares sect field := h
      exact at?_change hp _ root
    | item p' i =>
      have hp : (p'.item i).Spares sect field := h
      exact at?_change hp _ root
  | item p i =>
    have hp : p.Spares sect field := h
    exact at?_change hp _ root

/-- Nothing that is set under the name touches the field of the section. -/
def NameSpares (sect field name : String) : Prop :=
  match read? name with
  | some p => p.Spares sect field
  | none => Text.lower name ≠ sect

theorem at?_assign {name : String} (h : NameSpares sect field name) {v : Value} (hv : v.IsScalar) (root : Value) :
    (assign root name v).at? sect field = root.at? sect field := by
  unfold NameSpares at h
  unfold assign
  cases hread : read? name with
  | some p =>
    rw [hread] at h
    exact at?_set h hv root
  | none =>
    rw [hread] at h
    have hs : sect ≠ Text.lower name := fun hs => h hs.symm
    rw [Value.at?, Value.lookup_put hv, if_neg hs]
    rfl

/-- A value is found where it was set. -/
theorem at?_assign_self {name s f : String} (hread : read? name = some (.child (.name s) f)) {v : Value} (hv : v.IsScalar)
    (root : Value) : (assign root name v).at? (Text.lower s) (Text.lower f) = some v := by
  rw [assign, hread]
  simp only [set, change, Value.at?, lookup_changeEntry, if_true, Option.bind_some, Value.lookup_put hv]

end Path

/-- Settings that lead elsewhere leave a field as it is. -/
theorem at?_layer {sect field : String} {settings : List (String × Value)}
    (h : ∀ e ∈ settings, Path.NameSpares sect field e.1 ∧ e.2.IsScalar) (root : Value) :
    (layer root settings).at? sect field = root.at? sect field := by
  induction settings generalizing root with
  | nil => rfl
  | cons e settings ih =>
    obtain ⟨hname, hscalar⟩ := h e List.mem_cons_self
    have hrest := ih (fun e he => h e (List.mem_cons_of_mem _ he)) (Path.assign root e.1 e.2)
    exact hrest.trans (Path.at?_assign hname hscalar root)

end SignatureDesk.Config
