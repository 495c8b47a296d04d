/-
The direction of every column after any number of presses. A press of a column turns its
direction and takes that of every other one away (`direction_toggle`), and a press of
what is no column does nothing. So the column pressed last has a direction, and
which one it is depends on how often it was pressed in a row (`direction_toggleAll`).
-/
import Mathlib.Data.List.Induction
import SignatureDesk.Proofs.Listing.Presses

namespace SignatureDesk

/-- The direction of a column after so many presses in a row. -/
def Direction.afterPresses : Nat → Option Direction
  | 0 => none
  | n + 1 => some (toggled (afterPresses n))

theorem Direction.afterPresses_eq_some_iff {n : Nat} {d : Direction} :
    afterPresses n = some d ↔ 0 < n ∧ d = if n % 2 = 1 then .asc else .desc := by
  induction n generalizing d with
  | zero => simp [afterPresses]
  | succ n ih =>
    rw [afterPresses]
    cases hbefore : afterPresses n with
    | none =>
      have hfirst : n = 0 := by
        cases n with
        | zero => rfl
        | succ n => cases hbefore
      simp [hfirst, toggled, eq_comm]
    | some before =>
      obtain ⟨hpos, hturn⟩ := ih.1 hbefore
      rcases Nat.mod_two_eq_zero_or_one n with heven | hodd
      · have hnext : (n + 1) % 2 = 1 := by omega
        simp [hturn, heven, hnext, toggled, eq_comm]
      · have hnext : (n + 1) % 2 = 0 := by omega
        simp [hturn, hodd, hnext, toggled, eq_comm]

/-- How often a name stands at the end of some names, with no other one behind. -/
def endRun (name : String) (names : List String) : Nat := (names.reverse.takeWhile (· = name)).length

theorem endRun_append_self (name : String) (names : List String) :
    endRun name (names ++ [name]) = endRun name names + 1 := by
  simp [endRun]

theorem endRun_append_of_ne {name last : String} (h : last ≠ name) (names : List String) :
    endRun name (names ++ [last]) = 0 := by
  simp [endRun, h]

theorem endRun_pos_iff {name : String} {names : List String} : 0 < endRun name names ↔ names.getLast? = some name := by
  induction names using List.reverseRecOn with
  | nil => simp [endRun]
  | append_singleton names last =>
    rw [List.getLast?_concat]
    by_cases h : last = name
    · simp [h, endRun_append_self]
    · simp [h, endRun_append_of_ne h]

namespace Columns

/-! ## Registered columns -/

/-- Columns that were registered one after the other, none of them pressed yet. -/
def ofList (columns : List (String × Column)) : Columns := columns.foldl (fun c p => c.register p.1 p.2) empty

/-- The last one registered under a name is this column. -/
def Registers (columns : List (String × Column)) (name : String) (column : Column) : Prop :=
  ∃ before behind, columns = before ++ (name, column) :: behind ∧ name ∉ behind.map (·.1)

theorem ofList_eq (columns : List (String × Column)) : ofList columns = ⟨columns.reverse, none⟩ := by
  induction columns using List.reverseRecOn with
  | nil => rfl
  | append_singleton columns p ih =>
    rw [ofList, List.foldl_append, List.foldl_cons, List.foldl_nil, ← ofList, ih, List.reverse_concat, register]

theorem not_mem_names_iff {columns : List (String × Column)} {name : String} :
    name ∉ columns.map (·.1) ↔ ∀ p ∈ columns, (name != p.1) = true := by
  rw [List.mem_map, not_exists]
  refine forall_congr' fun p => ?_
  rw [not_and, bne_iff_ne, ne_comm]

theorem column?_ofList_eq_some_iff {columns : List (String × Column)} {name : String} {column : Column} :
    (ofList columns).column? name = some column ↔ Registers columns name column := by
  rw [ofList_eq, column?, List.lookup_eq_some_iff, Registers]
  simp only [← not_mem_names_iff]
  constructor
  · rintro ⟨behind, before, hsplit, hother⟩
    refine ⟨before.reverse, behind.reverse, ?_, ?_⟩
    · simpa using congrArg List.reverse hsplit
    · simpa using hother
  · rintro ⟨before, behind, rfl, hother⟩
    refine ⟨behind.reverse, before.reverse, by simp, ?_⟩
    simpa using hother

theorem column?_ofList_eq_none_iff {columns : List (String × Column)} {name : String} :
    (ofList columns).column? name = none ↔ name ∉ columns.map (·.1) := by
  rw [ofList_eq, column?, List.lookup_eq_none_iff, ← not_mem_names_iff]
  simp

/-- The names that columns are found under are those that were registered. -/
theorem filter_column? (columns : List (String × Column)) (names : List String) :
    names.filter (fun n => ((ofList columns).column? n).isSome) = names.filter (· ∈ columns.map (·.1)) := by
  refine List.filter_congr fun n _ => ?_
  rw [Bool.eq_iff_iff, decide_eq_true_iff, ← not_iff_not, ← column?_ofList_eq_none_iff]
  simp

/-! ## Presses -/

variable {c : Columns} {name : String} {rows : List Json}

/-- A press of a column turns its direction, and no other column keeps one. -/
theorem direction_toggle {column : Column} (h : c.column? name = some column) (other : String) :
    (c.toggle name rows).1.direction other =
      if name = other then some (Direction.toggled (c.direction name)) else none := by
  rw [toggle_known h, direction]

theorem toggleAll_append (c : Columns) (rows : List Json) (names : List String) (name : String) :
    c.toggleAll rows (names ++ [name]) =
      let after := c.toggleAll rows names
      let next := after.1.toggle name after.2.1
      (next.1, next.2.1, after.2.2 ++ next.2.2.toList) := by
  induction names generalizing c rows with
  | nil => simp [toggleAll]
  | cons first names ih => simp only [List.cons_append, toggleAll, ih, List.append_assoc]

theorem column?_toggleAll (rows : List Json) (names : List String) (name : String) :
    (c.toggleAll rows names).1.column? name = c.column? name := by
  rw [column?, toggleAll_registered, column?]

/-- Of the presses of columns, those at the end that are of one column give its direction. -/
theorem direction_toggleAll (hactive : c.active = none) (names : List String) (name : String) :
    (c.toggleAll rows names).1.direction name =
      Direction.afterPresses (endRun name (names.filter fun n => (c.column? n).isSome)) := by
  induction names using List.reverseRecOn generalizing name with
  | nil =>
    rw [toggleAll, direction, hactive]
    rfl
  | append_singleton names last ih =>
    rw [toggleAll_append, List.filter_append]
    cases hlast : c.column? last with
    | none =>
      have hunknown := (column?_toggleAll rows names last).trans hlast
      simp only [toggle_unknown hunknown, ih, List.filter_cons, hlast]
      simp
    | some column =>
      have hknown := (column?_toggleAll rows names last).trans hlast
      have hpressed : [last].filter (fun n => (c.column? n).isSome) = [last] := by simp [hlast]
      rw [hpressed]
      dsimp only
      rw [direction_toggle hknown]
      split
      next heq =>
        subst heq
        rw [endRun_append_self, Direction.afterPresses, ih]
      next hne =>
        rw [endRun_append_of_ne hne]
        rfl

/-- **The directions after presses.** Let columns be registered, the last of a name standing for it, and let names be
pressed over any rows. Then a column has a direction just when it is, among the names pressed that are registered,
the last one; and the direction is ascending when it stands at their end an odd number of times in a row, and
descending when it does so an even number of times. So no two columns have one. If one more name is pressed,
and it is registered, what is sorted by is the field of its column, of its kind, and in the direction that the
column then has; if it is not, nothing is sorted by and every direction stays. -/
theorem directions_after_presses (columns : List (String × Column)) (rows : List Json) (names : List String) :
    let after := (ofList columns).toggleAll rows names
    let pressed := names.filter (· ∈ columns.map (·.1))
    (∀ name d, after.1.direction name = some d ↔
      pressed.getLast? = some name ∧ d = if endRun name pressed % 2 = 1 then .asc else .desc) ∧
    (∀ name other, (after.1.direction name).isSome → (after.1.direction other).isSome → name = other) ∧
    ∀ name,
      let next := after.1.toggle name after.2.1
      (ofList columns).toggleAll rows (names ++ [name]) = (next.1, next.2.1, after.2.2 ++ next.2.2.toList) ∧
      (name ∈ columns.map (·.1) → ∃ column d, Registers columns name column ∧
        next.2.2 = some ⟨column.field, column.kind, d⟩ ∧ next.1.direction name = some d) ∧
      (name ∉ columns.map (·.1) → next.2.2 = none ∧ ∀ other, next.1.direction other = after.1.direction other) := by
  intro after pressed
  have hdirection : ∀ name d, after.1.direction name = some d ↔
      pressed.getLast? = some name ∧ d = if endRun name pressed % 2 = 1 then .asc else .desc := by
    intro name d
    rw [direction_toggleAll (by rw [ofList_eq]), filter_column?, Direction.afterPresses_eq_some_iff, endRun_pos_iff]
  refine ⟨hdirection, fun name other hname hother => ?_, fun name => ⟨toggleAll_append _ rows names name, ?_, ?_⟩⟩
  · obtain ⟨d, hd⟩ := Option.isSome_iff_exists.1 hname
    obtain ⟨d', hd'⟩ := Option.isSome_iff_exists.1 hother
    have hlast := ((hdirection name d).1 hd).1
    rw [((hdirection other d').1 hd').1] at hlast
    exact (Option.some.inj hlast).symm
  · intro hmem
    obtain ⟨column, hcolumn⟩ : ∃ column, (ofList columns).column? name = some column := by
      rw [← Option.ne_none_iff_exists', ne_eq, column?_ofList_eq_none_iff]
      exact not_not.2 hmem
    have hknown : after.1.column? name = some column := (column?_toggleAll rows names name).trans hcolumn
    refine ⟨column, Direction.toggled (after.1.direction name), column?_ofList_eq_some_iff.1 hcolumn, ?_, ?_⟩
    · rw [toggle_known hknown]
    · rw [direction_toggle hknown, if_pos rfl]
  · intro hnot
    have hunknown : after.1.column? name = none :=
      (column?_toggleAll rows names name).trans (column?_ofList_eq_none_iff.2 hnot)
    rw [toggle_unknown hunknown]
    exact ⟨rfl, fun _ => rfl⟩

end Columns
end SignatureDesk
