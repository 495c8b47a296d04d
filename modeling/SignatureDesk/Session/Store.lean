/-
The live sessions, by id, and what can happen to them. The main statements say
what is found under an id after each operation.
-/
import SignatureDesk.Session.Basic

namespace SignatureDesk

structure SessionStore where
  sessions : List (SessionId × Session)
deriving Repr

namespace SessionStore

def empty : SessionStore := ⟨[]⟩

def get? (store : SessionStore) (id : SessionId) : Option Session := store.sessions.lookup id

def remove (store : SessionStore) (id : SessionId) : SessionStore :=
  ⟨store.sessions.filter fun p => p.1 ≠ id⟩

/-- Puts a session under its own id, in place of one that has it. -/
def insert (store : SessionStore) (s : Session) : SessionStore :=
  ⟨(s.id, s) :: (store.remove s.id).sessions⟩

def size (store : SessionStore) : Nat := store.sessions.length

def isEmpty (store : SessionStore) : Bool := store.size == 0

theorem lookup_filter_key {α : Type} (f : SessionId → Bool) (id : SessionId)
    (ps : List (SessionId × α)) :
    (ps.filter fun p => f p.1).lookup id = if f id then ps.lookup id else none := by
  induction ps with
  | nil => simp
  | cons p ps ih =>
    obtain ⟨k, v⟩ := p
    rw [List.filter_cons]
    by_cases h : id = k
    · rw [h] at ih ⊢
      cases hf : f k <;> simp [hf, ih]
    · have hb : (id == k) = false := beq_false_of_ne h
      cases f k <;> simp [List.lookup_cons, hb, ih]

@[simp] theorem get?_empty (id : SessionId) : empty.get? id = none := rfl

theorem get?_remove (store : SessionStore) (id other : SessionId) :
    (store.remove id).get? other = if other = id then none else store.get? other := by
  rw [get?, remove, lookup_filter_key fun k => decide (k ≠ id)]
  by_cases h : other = id <;> simp [h, get?]

theorem get?_insert (store : SessionStore) (s : Session) (other : SessionId) :
    (store.insert s).get? other = if other = s.id then some s else store.get? other := by
  rw [get?, insert, List.lookup_cons]
  by_cases h : other = s.id
  · simp [h]
  · have hb : (other == s.id) = false := beq_false_of_ne h
    have hr := get?_remove store s.id other
    rw [if_neg h] at hr ⊢
    rw [hb]
    exact hr

end SessionStore

/-- What a request does to the sessions. -/
inductive StoreChange where
  | keep
  | opens (s : Session)
  | closes (id : SessionId)
deriving Repr, DecidableEq

def SessionStore.apply (store : SessionStore) : StoreChange → SessionStore
  | .keep => store
  | .opens s => store.insert s
  | .closes id => store.remove id
end SignatureDesk
