import Traceability.Proofs.Index.Linked
import Traceability.Proofs.Locator.FileUri
import Traceability.Session.Basic
set_option autoImplicit false

/-!
# What the editor sees

The editor shows, for each document, the findings that were sent for it last.  This module says what it means
for this view to be current, and proves the one fact on which every event relies: it is enough to send the
findings of those documents for which they may have changed.

A session addresses the findings of a document to the uri that reading the document's own uri and writing it again
gives.  Mostly this is the same uri.  Where it is not, the findings of two documents may go to one address: the view
is current for those uris that are the address of their own document and of no other one.
-/

namespace Traceability

/-! ## Addresses of documents -/

/-- The findings of a document with a served uri are sent, and to a watched uri only if it is this document's. -/
structure Serves (watched : String → Prop) (uri : String) : Prop where
  readable : (Locator.address? uri).isSome = true
  apart : ∀ u, watched u → (Locator.address? uri = some u ↔ uri = u)

/-! ## The view of the editor -/

/-- The findings that a message sends for a document. -/
def Message.findingsFor? (uri : String) : Message → Option (List EditorDiagnostic)
  | publish uri' diagnostics => if uri' = uri then some diagnostics else none
  | _ => none

/-- What the editor shows for a document after some messages: the findings sent last for it, if any were sent. -/
def shown? (uri : String) (log : List Message) : Option (List EditorDiagnostic) :=
  log.reverse.findSome? (Message.findingsFor? uri)

/-- The findings of a document as they are sent under a policy. -/
def SeverityPolicy.render (policy : SeverityPolicy) (uri : String) (findings : List Finding) :
    List EditorDiagnostic :=
  findings.map fun f => .ofFinding uri (policy.severity uri f.category) f

/-- The editor shows just the findings of a document, and none for one that is not in the index. -/
def IsShown (policy : SeverityPolicy) (uri : String) (log : List Message) : Option (List Finding) → Prop
  | some findings => shown? uri log = some (policy.render uri findings)
  | none => shown? uri log = none ∨ shown? uri log = some []

instance (policy : SeverityPolicy) (uri : String) (log : List Message) :
    (findings? : Option (List Finding)) → Decidable (IsShown policy uri log findings?)
  | some findings => inferInstanceAs (Decidable (shown? uri log = some (policy.render uri findings)))
  | none => inferInstanceAs (Decidable (shown? uri log = none ∨ shown? uri log = some []))

theorem shown?_append (uri : String) (log sent : List Message) :
    shown? uri (log ++ sent) = (shown? uri sent).or (shown? uri log) := by
  unfold shown?
  rw [List.reverse_append, List.findSome?_append]

theorem shown?_concat (uri : String) (log : List Message) (m : Message) :
    shown? uri (log ++ [m]) = (m.findingsFor? uri).or (shown? uri log) := by
  rw [shown?_append]
  unfold shown?
  cases h : m.findingsFor? uri with
  | none => simp [h]
  | some diagnostics => simp [h]

theorem shown?_concat_publish (uri other : String) (log : List Message) (diagnostics : List EditorDiagnostic) :
    shown? uri (log ++ [.publish other diagnostics]) = if other = uri then some diagnostics else shown? uri log := by
  have hfor : (Message.publish other diagnostics).findingsFor? uri = if other = uri then some diagnostics else none :=
    rfl
  rw [shown?_concat, hfor]
  split
  · rfl
  · rfl

theorem shown?_concat_of_findingsFor?_eq_none {uri : String} {m : Message} (h : m.findingsFor? uri = none)
    (log : List Message) : shown? uri (log ++ [m]) = shown? uri log := by
  rw [shown?_concat, h, Option.none_or]

/-- Whether the right findings are shown depends only on what is shown. -/
theorem IsShown.congr {policy : SeverityPolicy} {uri : String} {log log' : List Message}
    {findings? : Option (List Finding)} (h : IsShown policy uri log findings?)
    (hlog : shown? uri log' = shown? uri log) : IsShown policy uri log' findings? := by
  cases findings? with
  | none =>
    unfold IsShown at h ⊢
    rw [hlog]
    exact h
  | some findings =>
    unfold IsShown at h ⊢
    rw [hlog]
    exact h

namespace Session

/-! ## Sending several findings -/

/-- The findings on record after some more were sent. -/
def recordAll (items : List (String × List Finding)) (published : Std.ExtTreeMap String (List Finding)) :
    Std.ExtTreeMap String (List Finding) :=
  items.foldl (fun m item => m.insert item.1 item.2) published

theorem publish_fst (s : Session) {uri : String} (h : (Locator.address? uri).isSome = true) (findings : List Finding) :
    (s.publish uri findings).1 = { s with published := s.published.insert uri findings } := by
  obtain ⟨address, haddress⟩ := Option.isSome_iff_exists.1 h
  obtain ⟨locator, hread, _⟩ := Option.map_eq_some_iff.1 haddress
  unfold publish
  rw [hread]

theorem publishAll_fst (s : Session) {items : List (String × List Finding)}
    (h : ∀ item ∈ items, (Locator.address? item.1).isSome = true) :
    (s.publishAll items).1 = { s with published := recordAll items s.published } := by
  induction items generalizing s with
  | nil => rfl
  | cons item rest ih =>
    obtain ⟨hitem, hrest⟩ := List.forall_mem_cons.1 h
    unfold publishAll
    simp only [ih _ hrest, publish_fst s hitem]
    rfl

section Items

variable {findings? : String → Option (List Finding)} {items : List (String × List Finding)}

/-- If all that is sent are the right findings, then the right ones are on record for every document that was sent
for, and the same as before for the others. -/
theorem getElem?_recordAll (h : ∀ item ∈ items, findings? item.1 = some item.2)
    (published : Std.ExtTreeMap String (List Finding)) (uri : String) :
    (recordAll items published)[uri]? = if uri ∈ items.map Prod.fst then findings? uri else published[uri]? := by
  induction items generalizing published with
  | nil => rfl
  | cons item rest ih =>
    obtain ⟨hitem, hrest⟩ := List.forall_mem_cons.1 h
    have hstep : recordAll (item :: rest) published = recordAll rest (published.insert item.1 item.2) := rfl
    rw [hstep, ih hrest]
    by_cases huri : uri = item.1
    · subst huri
      simp [hitem]
    · have hget : (published.insert item.1 item.2)[uri]? = published[uri]? := by
        simp [Std.ExtTreeMap.getElem?_insert, Ne.symm huri]
      have hmem : uri ∈ (item :: rest).map Prod.fst ↔ uri ∈ rest.map Prod.fst := by
        simp [huri]
      rw [hget]
      exact (if_congr hmem rfl rfl).symm

end Items

section Watched

variable {watched : String → Prop} {u : String}

theorem shown?_append_publish (hu : watched u) (s : Session) {uri : String} (h : Serves watched uri)
    (findings : List Finding) (log : List Message) :
    shown? u (log ++ (s.publish uri findings).2) =
      if uri = u then some (s.policy.render u findings) else shown? u log := by
  obtain ⟨address, haddress⟩ := Option.isSome_iff_exists.1 h.readable
  have hiff : address = u ↔ uri = u := by
    rw [← h.apart u hu, haddress, Option.some_inj]
  obtain ⟨locator, hread, rfl⟩ := Option.map_eq_some_iff.1 haddress
  unfold publish
  simp only [hread]
  rw [shown?_concat_publish]
  by_cases heq : uri = u
  · have hself := hiff.2 heq
    subst heq
    rw [if_pos hself, if_pos rfl, hself]
    rfl
  · rw [if_neg (mt hiff.1 heq), if_neg heq]

/-- If all that is sent are the right findings, then the editor shows the right ones for every watched document that
was sent for, and the same as before for the others. -/
theorem shown?_append_publishAll {findings? : String → Option (List Finding)} {items : List (String × List Finding)}
    (hu : watched u) (s : Session) (hserves : ∀ item ∈ items, Serves watched item.1)
    (h : ∀ item ∈ items, findings? item.1 = some item.2) (log : List Message) :
    shown? u (log ++ (s.publishAll items).2) =
      if u ∈ items.map Prod.fst then (findings? u).map (s.policy.render u) else shown? u log := by
  induction items generalizing s log with
  | nil => simp [publishAll]
  | cons item rest ih =>
    obtain ⟨hitem, hrest⟩ := List.forall_mem_cons.1 h
    obtain ⟨hserve, hserves⟩ := List.forall_mem_cons.1 hserves
    have hstep : log ++ (s.publishAll (item :: rest)).2 =
        (log ++ (s.publish item.1 item.2).2) ++ ((s.publish item.1 item.2).1.publishAll rest).2 := by
      rw [List.append_assoc]
      rfl
    have hpolicy : (s.publish item.1 item.2).1.policy = s.policy := by
      rw [publish_fst s hserve.readable]
    rw [hstep, ih _ hserves hrest, hpolicy, shown?_append_publish hu s hserve]
    by_cases heq : item.1 = u
    · subst heq
      simp [hitem]
    · have hmem : u ∈ (item :: rest).map Prod.fst ↔ u ∈ rest.map Prod.fst := by
        simp [Ne.symm heq]
      rw [if_neg heq]
      exact (if_congr hmem rfl rfl).symm

end Watched

/-! ## Documents that can be sent for -/

/-- An index that is coherent and all of whose documents are served. -/
structure IsServable (watched : String → Prop) (x : Index) : Prop where
  coherent : x.Coherent
  serves : ∀ uri, (x.file? uri).isSome = true → Serves watched uri

theorem isSome_file?_load {x : Index} {uri text other : String}
    (h : ((x.load uri text).file? other).isSome = true) : other = uri ∨ (x.file? other).isSome = true := by
  rw [Index.file?_load] at h
  by_cases hother : uri = other
  · exact .inl hother.symm
  · rw [if_neg hother] at h
    exact .inr h

theorem isSome_file?_remove {x : Index} {uri other : String} (h : ((x.remove uri).file? other).isSome = true) :
    other ≠ uri ∧ (x.file? other).isSome = true := by
  rw [Index.file?_remove] at h
  by_cases hother : uri = other
  · rw [if_pos hother] at h
    exact absurd h (by simp)
  · rw [if_neg hother] at h
    exact ⟨Ne.symm hother, h⟩

namespace IsServable

variable {watched : String → Prop} {x : Index} {uri : String}

theorem empty (options : Options) : IsServable watched (Index.empty options) := by
  refine ⟨Index.coherent_empty options, ?_⟩
  intro other hother
  rw [Index.file?_empty] at hother
  cases hother

theorem load (h : IsServable watched x) (huri : Serves watched uri) (text : String) :
    IsServable watched (x.load uri text) := by
  refine ⟨h.coherent.load uri text, ?_⟩
  intro other hother
  rcases isSome_file?_load hother with rfl | hold
  · exact huri
  · exact h.serves other hold

theorem remove (h : IsServable watched x) (uri : String) : IsServable watched (x.remove uri) := by
  refine ⟨h.coherent.remove uri, ?_⟩
  intro other hother
  exact h.serves other (isSome_file?_remove hother).2

theorem validateAll (h : IsServable watched x) : IsServable watched x.validateAll.1 :=
  ⟨h.coherent.call .validateAll, h.serves⟩

end IsServable

/-! ## Current sessions -/

/-- The session has been started; the findings on record are the current ones of all documents, and the editor
shows those of the watched documents. -/
structure IsCurrent (watched : String → Prop) (s : Session) (log : List Message) : Prop where
  started : s.stage ≠ .fresh
  ready : s.index.phase = .ready
  servable : IsServable watched s.index
  published : ∀ uri, s.published[uri]? = s.index.revalidate uri
  shown : ∀ uri, watched uri → IsShown s.policy uri log (s.index.revalidate uri)

theorem revalidate_eq_none_iff (x : Index) (uri : String) : x.revalidate uri = none ↔ x.file? uri = none := by
  unfold Index.revalidate
  exact Option.map_eq_none_iff

/-- To make a session current, it is enough to send the findings of those documents for which the editor does not
show them yet. -/
theorem IsCurrent.of_publishAll {watched : String → Prop} {s : Session} {log : List Message}
    {items : List (String × List Finding)} (hstarted : s.stage ≠ .fresh) (hready : s.index.phase = .ready)
    (hservable : IsServable watched s.index)
    (hitems : ∀ item ∈ items, s.index.revalidate item.1 = some item.2)
    (hpublished : ∀ uri, uri ∉ items.map Prod.fst → s.published[uri]? = s.index.revalidate uri)
    (hshown : ∀ uri, watched uri → uri ∉ items.map Prod.fst →
      IsShown s.policy uri log (s.index.revalidate uri)) :
    IsCurrent watched (s.publishAll items).1 (log ++ (s.publishAll items).2) := by
  have hserves : ∀ item ∈ items, Serves watched item.1 := by
    intro item hitem
    exact hservable.serves item.1 (Index.isSome_file?_of_revalidate (hitems item hitem))
  have hsession := publishAll_fst s fun item hitem => (hserves item hitem).readable
  rw [hsession]
  refine ⟨hstarted, hready, hservable, ?_, ?_⟩
  · intro uri
    simp only
    rw [getElem?_recordAll hitems]
    split
    · rfl
    · next hout => exact hpublished uri hout
  · intro uri huri
    simp only
    have hview := shown?_append_publishAll huri s hserves hitems log
    by_cases hin : uri ∈ items.map Prod.fst
    · obtain ⟨item, hitem, rfl⟩ := List.mem_map.1 hin
      rw [hitems item hitem]
      unfold IsShown
      rw [hview, if_pos hin, hitems item hitem]
      rfl
    · rw [if_neg hin] at hview
      exact (hshown uri huri hin).congr hview

end Session

end Traceability
