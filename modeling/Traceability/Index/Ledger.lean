import Std.Data.ExtTreeMap
set_option autoImplicit false

/-!
# Index: entries under an id

A ledger keeps, for each id, the entries made under it in the order in which they were made.  An id without
entries is not in the ledger.
-/

namespace Traceability

/-- Lists of entries, each under an id. -/
abbrev Ledger (α : Type) := Std.ExtTreeMap String (List α)

namespace Ledger

variable {α : Type}

/-- The entries under an id, in order. -/
def entries (l : Ledger α) (id : String) : List α := l.getD id []

/-- Adds an entry after the others under its id. -/
def push (l : Ledger α) (id : String) (entry : α) : Ledger α := l.insert id (l.entries id ++ [entry])

/-- Drops the entries under an id that satisfy `p`, and the id itself if no entry is left. -/
def prune (l : Ledger α) (id : String) (p : α → Bool) : Ledger α :=
  match (l.entries id).filter fun entry => !p entry with
  | [] => l.erase id
  | kept => l.insert id kept

theorem entries_push (l : Ledger α) (id key : String) (entry : α) :
    (l.push id entry).entries key = if id = key then l.entries key ++ [entry] else l.entries key := by
  unfold push entries
  rw [Std.ExtTreeMap.getD_insert]
  by_cases h : id = key
  · subst h
    simp
  · simp [h]

theorem entries_prune (l : Ledger α) (id key : String) (p : α → Bool) :
    (l.prune id p).entries key =
      if id = key then (l.entries key).filter fun entry => !p entry else l.entries key := by
  have h : (l.prune id p).entries id = (l.entries id).filter fun entry => !p entry := by
    unfold prune
    split
    · next hk => rw [hk]; simp [entries]
    · next hk => simp [entries]
  by_cases hid : id = key
  · subst hid
    simpa using h
  · unfold prune
    split <;> simp [entries, Std.ExtTreeMap.getD_insert, Std.ExtTreeMap.getD_erase, hid]

end Ledger

end Traceability
