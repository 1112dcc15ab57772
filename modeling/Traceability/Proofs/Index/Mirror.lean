import Mathlib.Logic.Function.Basic
import Traceability.Index.Ledger
set_option autoImplicit false

/-!
# Ledgers that mirror the records of files

The index keeps every definition and every reference twice: in the record of its file, and in a ledger under
its id.  This module says when a ledger holds just what the records hold, and proves that adding an entry on
both sides, and taking a whole file out on both sides, keeps it so.

Nothing here depends on what an entry is: `key` is the id under which it stands and `owner` the uri of the
file to which it belongs.
-/

namespace Traceability.Ledger

variable {α : Type}

/-! ## Occupied ledgers -/

/-- No id stands in the ledger without entries. -/
def Occupied (l : Ledger α) : Prop := ∀ id : String, l[id]? ≠ some []

theorem entries_eq_getD (l : Ledger α) (id : String) : l.entries id = l[id]?.getD [] := by
  unfold entries
  exact Std.ExtTreeMap.getD_eq_getD_getElem?

@[simp] theorem entries_empty (id : String) : (∅ : Ledger α).entries id = [] := by
  rw [entries_eq_getD, Std.ExtTreeMap.getElem?_empty, Option.getD_none]

theorem occupied_empty : (∅ : Ledger α).Occupied := by
  intro id
  rw [Std.ExtTreeMap.getElem?_empty]
  exact (Option.some_ne_none []).symm

theorem Occupied.push {l : Ledger α} (h : l.Occupied) (id : String) (entry : α) : (l.push id entry).Occupied := by
  intro key
  unfold Ledger.push
  rw [Std.ExtTreeMap.getElem?_insert]
  split
  · simp
  · exact h key

theorem Occupied.prune {l : Ledger α} (h : l.Occupied) (id : String) (p : α → Bool) :
    (l.prune id p).Occupied := by
  intro key
  unfold Ledger.prune
  split
  · rw [Std.ExtTreeMap.getElem?_erase]
    split
    · exact (Option.some_ne_none []).symm
    · exact h key
  · next kept hkept =>
    rw [Std.ExtTreeMap.getElem?_insert]
    split
    · rw [ne_eq, Option.some.injEq]
      exact hkept
    · exact h key

/-- In an occupied ledger, an id stands just if there are entries under it. -/
theorem Occupied.contains_eq {l : Ledger α} (h : l.Occupied) (id : String) :
    l.contains id = !(l.entries id).isEmpty := by
  rw [Std.ExtTreeMap.contains_eq_isSome_getElem?, entries_eq_getD]
  have hid := h id
  cases hget : l[id]? with
  | none => rfl
  | some entries =>
    cases entries with
    | nil => exact absurd hget hid
    | cons first rest => rfl

/-- Where the entries under an id are those of a list, the id stands in the ledger just if the list has one for it. -/
theorem Occupied.contains_eq_any {l : Ledger α} (h : l.Occupied) {key : α → String} {id : String} {all : List α}
    (hentries : l.entries id = all.filter (key · == id)) : l.contains id = all.any (key · == id) := by
  rw [h.contains_eq, hentries, Bool.eq_iff_iff, Bool.not_eq_true', List.isEmpty_eq_false_iff_exists_mem,
    List.any_eq_true]
  exact exists_congr fun _ => List.mem_filter

/-- Occupied ledgers are the same as soon as the same entries stand under each id. -/
theorem Occupied.ext {l m : Ledger α} (hl : l.Occupied) (hm : m.Occupied)
    (hentries : ∀ id, l.entries id = m.entries id) : l = m := by
  apply Std.ExtTreeMap.ext_getElem?
  intro id
  have hid := hentries id
  rw [entries_eq_getD, entries_eq_getD] at hid
  have hlid := hl id
  have hmid := hm id
  cases hget : l[id]? with
  | none =>
    cases hget' : m[id]? with
    | none => rfl
    | some entries =>
      rw [hget, hget', Option.getD_none, Option.getD_some] at hid
      exact absurd (hid ▸ hget') hmid
  | some entries =>
    cases hget' : m[id]? with
    | none =>
      rw [hget, hget', Option.getD_none, Option.getD_some] at hid
      exact absurd (hid ▸ hget) hlid
    | some entries' =>
      rw [hget, hget', Option.getD_some, Option.getD_some] at hid
      rw [hid]

/-! ## Several entries at once -/

section Several

variable (key owner : α → String)

/-- Adds entries one after the other, each under its key. -/
def pushAll (entries : List α) (l : Ledger α) : Ledger α := entries.foldl (fun l e => l.push (key e) e) l

/-- Drops what a file owns under the keys of some entries. -/
def pruneAll (uri : String) (entries : List α) (l : Ledger α) : Ledger α :=
  entries.foldl (fun l e => l.prune (key e) (owner · == uri)) l

theorem entries_pushAll (entries : List α) (l : Ledger α) (id : String) :
    (pushAll key entries l).entries id = l.entries id ++ entries.filter (key · == id) := by
  induction entries generalizing l with
  | nil => simp [pushAll]
  | cons e rest ih =>
    have hstep : pushAll key (e :: rest) l = pushAll key rest (l.push (key e) e) := rfl
    rw [hstep, ih, entries_push]
    by_cases he : key e = id
    · simp [he]
    · simp [he]

theorem entries_pruneAll (uri : String) (entries : List α) (l : Ledger α) (id : String) :
    (pruneAll key owner uri entries l).entries id =
      if entries.any (key · == id) then (l.entries id).filter fun e => !(owner e == uri) else l.entries id := by
  induction entries generalizing l with
  | nil => simp [pruneAll]
  | cons e rest ih =>
    have hstep : pruneAll key owner uri (e :: rest) l =
        pruneAll key owner uri rest (l.prune (key e) (owner · == uri)) := rfl
    rw [hstep, ih, entries_prune]
    by_cases he : key e = id
    · simp [he]
    · simp [he]

theorem Occupied.pushAll {l : Ledger α} (h : l.Occupied) (entries : List α) :
    (Ledger.pushAll key entries l).Occupied := by
  induction entries generalizing l with
  | nil => exact h
  | cons e rest ih => exact ih (h.push (key e) e)

theorem Occupied.pruneAll {l : Ledger α} (h : l.Occupied) (uri : String) (entries : List α) :
    (Ledger.pruneAll key owner uri entries l).Occupied := by
  induction entries generalizing l with
  | nil => exact h
  | cons e rest ih => exact ih (h.prune (key e) (owner · == uri))

end Several

/-! ## Mirrors -/

/-- The ledger holds just the entries that the files have in their records. -/
structure Mirrors (key owner : α → String) (l : Ledger α) (records : String → List α) : Prop where
  /-- Under an id, the entries of a file are those of its record, in the same order. -/
  owned : ∀ id uri, (l.entries id).filter (owner · == uri) = (records uri).filter (key · == id)
  /-- Every entry stands under its own id. -/
  keyed : ∀ id, ∀ e ∈ l.entries id, key e = id
  /-- No id stands without entries. -/
  occupied : l.Occupied

namespace Mirrors

variable {key owner : α → String} {l : Ledger α} {records : String → List α}

theorem empty : Mirrors key owner ∅ fun _ => [] where
  owned := by simp
  keyed := by simp
  occupied := occupied_empty

/-- An entry is in the ledger just if it is in the record of its owner. -/
theorem mem_entries_iff (h : Mirrors key owner l records) (id : String) (e : α) :
    e ∈ l.entries id ↔ e ∈ records (owner e) ∧ key e = id := by
  have howned := h.owned id (owner e)
  constructor
  · intro he
    have hmem : e ∈ (l.entries id).filter (owner · == owner e) := by
      simpa using he
    rw [howned] at hmem
    simpa using hmem
  · rintro ⟨he, hid⟩
    have hmem : e ∈ (records (owner e)).filter (key · == id) := by
      simpa [hid] using he
    rw [← howned] at hmem
    exact (List.mem_filter.1 hmem).1

/-- If no other entry of the files stands at the place of an entry, a query for an id gives this place just if it is the
id of the entry. -/
theorem mem_map_entries_iff {β : Type} (h : Mirrors key owner l records) {place : α → β} {e : α}
    (he : e ∈ records (owner e)) (honly : ∀ other ∈ records (owner other), place other = place e → other = e)
    (id : String) : place e ∈ (l.entries id).map place ↔ key e = id := by
  constructor
  · intro hplace
    obtain ⟨other, hother, hsame⟩ := List.mem_map.1 hplace
    obtain ⟨hrecord, hkey⟩ := (h.mem_entries_iff id other).1 hother
    rw [← honly other hrecord hsame, hkey]
  · intro hkey
    exact List.mem_map_of_mem ((h.mem_entries_iff id e).2 ⟨he, hkey⟩)

/-- The record of a file holds only what the file owns. -/
theorem owner_of_mem (h : Mirrors key owner l records) {uri : String} {e : α} (he : e ∈ records uri) :
    owner e = uri := by
  have hmem : e ∈ (records uri).filter (key · == key e) := by
    simpa using he
  rw [← h.owned (key e) uri] at hmem
  simpa using (List.mem_filter.1 hmem).2

theorem push (h : Mirrors key owner l records) (e : α) :
    Mirrors key owner (l.push (key e) e)
      (Function.update records (owner e) (records (owner e) ++ [e])) where
  owned := by
    intro id uri
    have howned := h.owned id uri
    rw [entries_push]
    by_cases hid : key e = id <;> by_cases huri : owner e = uri
    · subst huri
      simp [hid, howned]
    · simp [hid, huri, Ne.symm huri, howned]
    · subst huri
      simp [hid, howned]
    · simp [hid, Ne.symm huri, howned]
  keyed := by
    intro id e' he'
    rw [entries_push] at he'
    by_cases hid : key e = id
    · rw [if_pos hid, List.mem_append, List.mem_singleton] at he'
      rcases he' with he' | rfl
      · exact h.keyed id e' he'
      · exact hid
    · rw [if_neg hid] at he'
      exact h.keyed id e' he'
  occupied := h.occupied.push (key e) e

theorem pushAll (h : Mirrors key owner l records) {uri : String} {entries : List α}
    (howner : ∀ e ∈ entries, owner e = uri) :
    Mirrors key owner (Ledger.pushAll key entries l)
      (Function.update records uri (records uri ++ entries)) := by
  induction entries generalizing l records with
  | nil => simpa [Ledger.pushAll] using h
  | cons e rest ih =>
    obtain ⟨rfl, hrest⟩ := List.forall_mem_cons.1 howner
    have hnext := ih (h.push e) hrest
    rw [Function.update_self, Function.update_idem, List.append_assoc, List.singleton_append] at hnext
    exact hnext

/-- Entries pushed for a file that was taken out are all that the file has. -/
theorem refill {uri : String} (h : Mirrors key owner l (Function.update records uri [])) {entries : List α}
    (howner : ∀ e ∈ entries, owner e = uri) :
    Mirrors key owner (Ledger.pushAll key entries l) (Function.update records uri entries) := by
  have hpushed := h.pushAll howner
  rw [Function.update_self, Function.update_idem, List.nil_append] at hpushed
  exact hpushed

/-- Taking a file out leaves, under each id, the entries of the other files. -/
theorem entries_pruneAll (h : Mirrors key owner l records) (uri id : String) :
    (Ledger.pruneAll key owner uri (records uri) l).entries id =
      (l.entries id).filter fun e => !(owner e == uri) := by
  rw [Ledger.entries_pruneAll]
  split
  · rfl
  · next hnone =>
    -- The file owns nothing under this id, so there is nothing to drop.
    symm
    rw [List.filter_eq_self]
    intro e he
    have hkey := h.keyed id e he
    by_contra howner
    have huri : owner e = uri := by simpa using howner
    apply hnone
    rw [List.any_eq_true]
    exact ⟨e, huri ▸ ((h.mem_entries_iff id e).1 he).1, by simpa using hkey⟩

theorem pruneAll (h : Mirrors key owner l records) (uri : String) :
    Mirrors key owner (Ledger.pruneAll key owner uri (records uri) l) (Function.update records uri []) where
  owned := by
    intro id other
    rw [h.entries_pruneAll, List.filter_filter]
    by_cases hother : other = uri
    · subst hother
      rw [Function.update_self, List.filter_nil, List.filter_eq_nil_iff]
      intro e _
      simp
    · rw [Function.update_of_ne hother, ← h.owned]
      apply List.filter_congr
      intro e _
      by_cases he : owner e = other
      · simp [he, hother]
      · simp [he]
  keyed := by
    intro id e he
    rw [h.entries_pruneAll] at he
    exact h.keyed id e (List.mem_filter.1 he).1
  occupied := h.occupied.pruneAll key owner uri (records uri)

end Mirrors

end Traceability.Ledger
