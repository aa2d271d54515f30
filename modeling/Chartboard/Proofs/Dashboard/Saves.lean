import Chartboard.Dashboard.Store
import Chartboard.Proofs.Ledger.Lookup
import Chartboard.Proofs.Wire.Documents

/-!
# What a store keeps

A store is a map of the documents that were last saved. What was last saved under an identifier is
told from the calls alone: the last call on the identifier says it, by saving a document or by
taking it away. A call changes what stands under its own identifier only, and a stored text is read
back as the document.
-/

namespace Chartboard

open Json (Decoder Number Value)

/-! ## Calls -/

/-- A call on a store. -/
inductive StoreCall where
  /-- Saves a document. Whoever saves says what time it is and which identifier is new. -/
  | save (now : Nat) (fresh : Uuid) (d : Document)
  /-- Loads a document. -/
  | load (id : Uuid)
  /-- Takes a document away. -/
  | delete (id : Uuid)

/-- The answer to a call on a store. -/
inductive StoreAnswer where
  /-- The identifier under which a document was saved. -/
  | saved (id : Uuid)
  /-- The document, or why there is none. -/
  | loaded (result : Except StoreError Document)
  /-- The document was taken away, or why there is none. -/
  | deleted (result : Except StoreError Unit)

namespace Store

/-- Makes a call. A call that is refused leaves the store as it is. -/
def perform (s : Store) : StoreCall → Store × StoreAnswer
  | .save now fresh d => ((s.save now fresh d).2, .saved (s.save now fresh d).1)
  | .load id => (s, .loaded (s.load id))
  | .delete id =>
    match s.delete id with
    | .ok left => (left, .deleted (.ok ()))
    | .error e => (s, .deleted (.error e))

/-- The store that a run of calls leaves, from the first to the last. -/
def after (calls : List StoreCall) : Store :=
  calls.foldl (fun s call => (s.perform call).1) {}

/-- One more call goes on from what the calls before it leave. -/
theorem after_append (calls : List StoreCall) (call : StoreCall) :
    after (calls ++ [call]) = ((after calls).perform call).1 := by
  rw [after, List.foldl_append]
  rfl

end Store

/-! ## The last save -/

/-- A document as it was saved. -/
structure Saved where
  /-- The identifier under which it was saved. -/
  id : Uuid
  /-- The document, with the identifier filled in. -/
  document : Document
  /-- The time at which it was saved. -/
  savedAt : Nat

namespace Saved

/-- What is listed of a saved document. -/
def summary (saved : Saved) : Summary where
  id := saved.id
  name := saved.document.name
  datasetId := saved.document.datasetId
  chartCount := saved.document.charts.length
  savedAt := saved.savedAt

/-- What is stored of a saved document. -/
def stored (saved : Saved) : StoredDashboard :=
  ⟨saved.document.toJson.compress, saved.summary⟩

end Saved

namespace StoreCall

/-- The identifier that the call writes or takes away. -/
def target? : StoreCall → Option Uuid
  | save _ fresh d => some (d.id.getD fresh)
  | load _ => none
  | delete id => some id

/-- What the call saves: the document under its own identifier, or else under the new one. -/
def saved? : StoreCall → Option Saved
  | save now fresh d => some ⟨d.id.getD fresh, { d with id := some (d.id.getD fresh) }, now⟩
  | load _ | delete _ => none

/-- A save is about the identifier that it saves under. -/
theorem target?_of_saved? {call : StoreCall} {saved : Saved} (h : call.saved? = some saved) :
    call.target? = some saved.id := by
  cases call with
  | save now fresh d =>
    cases h
    rfl
  | load id => cases h
  | delete id => cases h

end StoreCall

/-- What was last saved under an identifier and not taken away since. -/
def lastSaved? (calls : List StoreCall) (id : Uuid) : Option Saved :=
  (calls.reverse.find? fun call => call.target? = some id).bind StoreCall.saved?

/-- A call decides what was last saved under its own identifier, and under no other one. -/
theorem lastSaved?_append (calls : List StoreCall) (call : StoreCall) (id : Uuid) :
    lastSaved? (calls ++ [call]) id =
      if call.target? = some id then call.saved? else lastSaved? calls id := by
  rw [lastSaved?, List.reverse_append, List.reverse_singleton, List.singleton_append]
  by_cases htarget : call.target? = some id
  · rw [List.find?_cons_of_pos (by simpa using htarget), if_pos htarget, Option.bind_some]
  · rw [List.find?_cons_of_neg (by simpa using htarget), if_neg htarget, lastSaved?]

/-- What was saved was saved by one of the calls. -/
theorem saved?_of_lastSaved? {calls : List StoreCall} {id : Uuid} {saved : Saved}
    (h : lastSaved? calls id = some saved) : ∃ call ∈ calls, call.saved? = some saved := by
  obtain ⟨call, hfound, hsaved⟩ := Option.bind_eq_some_iff.1 h
  exact ⟨call, List.mem_reverse.1 (List.mem_of_find?_eq_some hfound), hsaved⟩

/-! ## The store of a run of calls -/

namespace Store

variable {s : Store} {id : Uuid}

/-- A dashboard that is there can be taken away. -/
theorem delete_of_mem (h : id ∈ s.dashboards.keys) :
    s.perform (.delete id) = ({ dashboards := s.dashboards.erase id }, .deleted (.ok ())) := by
  rw [perform, delete, if_pos (Ledger.contains_iff.2 h)]

/-- Taking away what is not there is refused and leaves the store as it is. -/
theorem delete_of_not_mem (h : id ∉ s.dashboards.keys) :
    s.perform (.delete id) = (s, .deleted (.error (.notFound id))) := by
  rw [perform, delete, if_neg (mt Ledger.contains_iff.1 h)]

/-- A call writes or takes away what stands under its identifier, and nothing else. -/
theorem get?_perform (s : Store) (call : StoreCall) (id : Uuid) :
    (s.perform call).1.dashboards.get? id =
      if call.target? = some id then call.saved?.map Saved.stored else s.dashboards.get? id := by
  cases call with
  | save now fresh d =>
    refine (Ledger.get?_insert _ _ _ _).trans ?_
    simp only [StoreCall.target?, Option.some.injEq, @eq_comm _ id]
    rfl
  | load other => rfl
  | delete other =>
    by_cases hmem : other ∈ s.dashboards.keys
    · rw [delete_of_mem hmem]
      refine (Ledger.get?_erase _ _ _).trans ?_
      simp only [StoreCall.target?, Option.some.injEq, @eq_comm _ id]
      rfl
    · rw [delete_of_not_mem hmem]
      split
      · next htarget =>
        obtain rfl : other = id := Option.some.inj htarget
        rwa [← Ledger.get?_isSome_iff, Option.not_isSome_iff_eq_none] at hmem
      · rfl

/-- Under every identifier a store has what was last saved under it. -/
theorem get?_after (calls : List StoreCall) (id : Uuid) :
    (after calls).dashboards.get? id = (lastSaved? calls id).map Saved.stored := by
  induction calls using List.reverseRecOn with
  | nil => rfl
  | append_singleton calls call ih =>
    rw [after_append, get?_perform, lastSaved?_append, ih]
    split
    · rfl
    · rfl

/-- A dashboard is there if something was saved under its identifier and not taken away since. -/
theorem mem_keys_after {calls : List StoreCall} :
    id ∈ (after calls).dashboards.keys ↔ (lastSaved? calls id).isSome := by
  rw [← Ledger.get?_isSome_iff, get?_after, Option.isSome_map]

end Store

/-! ## Documents that are read back -/

/-- The document can be read back from what is stored of it: it has the widths and forms that
documents are held in, it nests at most as deep as can be read, and each double in it is printed so
that it is read back. -/
structure Document.IsReadable (d : Document) : Prop where
  /-- The document has the widths and forms that documents are held in. -/
  canonical : d.IsCanonical
  /-- The document nests at most as deep as can be read. -/
  depth : d.toJson.depth ≤ Decoder.maxDepth
  /-- Each double is printed so that it is read back. -/
  doubles : ∀ x, .float x ∈ d.toJson.numbers → (Number.float x).ReadsBack

namespace Document.IsReadable

variable {d : Document}

/-- The identifier of a document makes it neither deeper nor adds a number. -/
theorem fill (h : d.IsReadable) (id : Uuid) : { d with id := some id }.IsReadable := by
  have htext := @Value.membersDepth_optionalMember Uuid (fun u => .string u.text) fun _ => rfl
  have hdepth : { d with id := some id }.toJson.depth = d.toJson.depth := by
    rw [toJson_eq, toJson_eq]
    simp only [Value.depth, Value.membersDepth_append, htext]
  have hnumbers : { d with id := some id }.toJson.numbers = d.toJson.numbers := by
    rw [numbers_toJson, numbers_toJson]
  exact ⟨⟨h.canonical.bins, h.canonical.filters, h.canonical.layout⟩, hdepth.trans_le h.depth,
    hnumbers ▸ h.doubles⟩

/-- A readable document is read back from the text that is stored. -/
theorem ofText_compress (h : d.IsReadable) : Document.ofText d.toJson.compress = .ok d :=
  (reads_toJson h.canonical h.depth).ofText_compress
    (Value.numbers_readBack (fun _ => h.canonical.inRange) h.doubles)

end Document.IsReadable

namespace Store

/-- Every document that is saved can be read back. -/
def SavesReadable (calls : List StoreCall) : Prop :=
  ∀ now fresh d, .save now fresh d ∈ calls → d.IsReadable

/-- What was last saved can be read back if all saves can. -/
theorem isReadable_of_lastSaved? {calls : List StoreCall} (h : SavesReadable calls) {id : Uuid}
    {saved : Saved} (hsaved : lastSaved? calls id = some saved) : saved.document.IsReadable := by
  obtain ⟨call, hcall, hsave⟩ := saved?_of_lastSaved? hsaved
  cases call with
  | save now fresh d =>
    cases hsave
    exact (h now fresh d hcall).fill _
  | load id => cases hsave
  | delete id => cases hsave

/-- A document is loaded as it was last saved. -/
theorem load_after {calls : List StoreCall} (h : SavesReadable calls) (id : Uuid) :
    (after calls).load id =
      match lastSaved? calls id with
      | some saved => .ok saved.document
      | none => .error (.notFound id) := by
  rw [load, get?_after]
  cases hfound : lastSaved? calls id with
  | none => rfl
  | some saved =>
    show (Document.ofText saved.document.toJson.compress).mapError _ = _
    rw [(isReadable_of_lastSaved? h hfound).ofText_compress]
    rfl

/-- A call changes nothing under identifiers that are not its own. -/
theorem load_perform {call : StoreCall} {id : Uuid} (h : call.target? ≠ some id) (s : Store) :
    (s.perform call).1.load id = s.load id := by
  rw [load, load, get?_perform, if_neg h]

/-- After any run of calls, a store is a map of the documents that were last saved: a document is
saved under its identifier or the new one, an identifier has the document that was last saved under
it and not taken away since, a call changes nothing under other identifiers, what is not there
cannot be taken away, and the size is the number of identifiers that are there. Nothing of this
depends on whether the new identifiers are new. -/
theorem maps_last_saved {calls : List StoreCall} (h : SavesReadable calls) :
    (∀ now fresh d,
      ((after calls).perform (.save now fresh d)).2 = .saved (d.id.getD fresh)) ∧
    (∀ id, ((after calls).perform (.load id)).2 = .loaded
      (match lastSaved? calls id with
        | some saved => .ok saved.document
        | none => .error (.notFound id))) ∧
    (∀ call id, call.target? ≠ some id →
      ((after calls).perform call).1.load id = (after calls).load id) ∧
    (∀ id, if (lastSaved? calls id).isSome then
        ((after calls).perform (.delete id)).2 = .deleted (.ok ())
      else (after calls).perform (.delete id) =
        (after calls, .deleted (.error (.notFound id)))) ∧
    ∃ ids : List Uuid, ids.Nodup ∧ (∀ id, id ∈ ids ↔ (lastSaved? calls id).isSome) ∧
      (after calls).size = ids.length := by
  refine ⟨fun _ _ _ => rfl, fun id => congrArg _ (load_after h id),
    fun call id hother => load_perform hother _, fun id => ?_, (after calls).dashboards.keys,
    (after calls).dashboards.nodup_keys, fun id => mem_keys_after, ?_⟩
  · split
    · next hthere => rw [delete_of_mem (mem_keys_after.2 hthere)]
    · next hthere => rw [delete_of_not_mem (mt mem_keys_after.1 hthere)]
  · exact (List.length_map _).symm

/-- A report that has not been saved yet. -/
def draftReport : Document :=
  { Document.salesReport with id := none }

/-- The draft is saved under a new identifier, a second document is saved and taken away, and the
draft is loaded in between. -/
def reportCalls : List StoreCall :=
  [.save 1 (Uuid.ofNat 7) draftReport, .save 1 (Uuid.ofNat 8) Document.salesReport,
    .load (Uuid.ofNat 7), .delete (Uuid.ofNat 0xc0ffee)]

/-- The draft is loaded as it was saved, with its new identifier. -/
theorem maps_last_saved_reportCalls :
    SavesReadable reportCalls ∧
      ((after reportCalls).perform (.load (Uuid.ofNat 7))).2 =
        .loaded (.ok { draftReport with id := some (Uuid.ofNat 7) }) := by
  have hbins : ∀ s ∈ draftReport.charts, ∀ n ∈ s.bins, n < Nat.pow 2 32 := by decide
  have hnumbers : ∀ n ∈ draftReport.toJson.numbers, n.ReadsBack := by decide +kernel
  have hdraft : draftReport.IsReadable :=
    ⟨⟨hbins, by decide +kernel, by decide +kernel⟩, by decide +kernel,
      fun x => hnumbers (.float x)⟩
  have hcalls : SavesReadable reportCalls := by
    intro now fresh d hcall
    simp only [reportCalls, List.mem_cons, StoreCall.save.injEq, reduceCtorEq, List.not_mem_nil,
      or_false] at hcall
    rcases hcall with ⟨-, -, rfl⟩ | ⟨-, -, rfl⟩
    · exact hdraft
    · exact hdraft.fill (Uuid.ofNat 0xc0ffee)
  exact ⟨hcalls, (maps_last_saved hcalls).2.1 (Uuid.ofNat 7)⟩

end Store

end Chartboard
