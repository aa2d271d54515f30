import Chartboard.Proofs.View.Publications
import Mathlib.Data.Finset.Card

/-!
# Nested publications

Handlers may publish to each other in circles, so neither the handlers nor the kinds of events are
in an order that bounds how deep publications nest. What bounds it is that a handler is at work
while it publishes, and is passed over meanwhile: from one publication to the next one inside it,
the publishing handlers that are not at work become fewer. Handlers that are subscribed meanwhile do
not matter as long as they neither publish nor subscribe.
-/

namespace Chartboard

variable {ε κ σ : Type}

/-! ## Open publications -/

namespace Incident

/-- The publication of an event begins. -/
def isPublication : Incident ε κ σ → Bool
  | published _ => true
  | _ => false

/-- A publication is over. -/
def isSettlement : Incident ε κ σ → Bool
  | settled => true
  | _ => false

/-- How many publications begin. -/
def publications (log : List (Incident ε κ σ)) : Nat :=
  log.countP isPublication

/-- How many publications end. -/
def settlements (log : List (Incident ε κ σ)) : Nat :=
  log.countP isSettlement

/-- All publications that begin in the log end there, and no more than so many of them are ever
open at a time. -/
structure NestsWithin (depth : Nat) (log : List (Incident ε κ σ)) : Prop where
  /-- All publications end. -/
  ended : settlements log = publications log
  /-- Not too many are open. -/
  bounded : ∀ before after, log = before ++ after →
    publications before ≤ settlements before + depth

variable {depth : Nat} {log more : List (Incident ε κ σ)}

/-- The publications of two logs add up. -/
theorem publications_append :
    publications (log ++ more) = publications log + publications more :=
  List.countP_append

/-- The ends of publications of two logs add up. -/
theorem settlements_append :
    settlements (log ++ more) = settlements log + settlements more :=
  List.countP_append

/-- A publication that begins counts as one more. -/
theorem publications_published (event : ε) :
    publications (published event :: log) = publications log + 1 :=
  List.countP_cons_of_pos rfl

/-- A publication that begins ends none. -/
theorem settlements_published (event : ε) :
    settlements (published event :: log) = settlements log :=
  List.countP_cons_of_neg Bool.false_ne_true

/-- A publication that ends begins none. -/
theorem publications_settled : publications (log ++ [settled]) = publications log :=
  publications_append

/-- A publication that ends counts as one more end. -/
theorem settlements_settled : settlements (log ++ [settled]) = settlements log + 1 :=
  settlements_append

/-- Where nothing happens nothing is nested. -/
theorem nestsWithin_nil : NestsWithin depth ([] : List (Incident ε κ σ)) where
  ended := rfl
  bounded before after h := by
    rw [(List.append_eq_nil_iff.1 h.symm).1]
    exact Nat.zero_le _

/-- Logs that follow each other nest no deeper than each of them. -/
theorem NestsWithin.append (h : NestsWithin depth log) (hmore : NestsWithin depth more) :
    NestsWithin depth (log ++ more) where
  ended := by rw [settlements_append, publications_append, h.ended, hmore.ended]
  bounded before after hsplit := by
    rcases List.append_eq_append_iff.1 hsplit with ⟨middle, rfl, hmiddle⟩ | ⟨middle, hlog, -⟩
    · have hopen := hmore.bounded middle after hmiddle
      have hended := h.ended
      rw [publications_append, settlements_append]
      omega
    · exact h.bounded before middle hlog

/-- An incident by which no publication begins or ends. -/
theorem nestsWithin_singleton {i : Incident ε κ σ} (hbegin : i.isPublication = false)
    (hend : i.isSettlement = false) : NestsWithin depth [i] := by
  have hnone : ∀ front : List (Incident ε κ σ), (∀ j ∈ front, j = i) → publications front = 0 :=
    fun front hfront => List.countP_eq_zero.2 fun j hj => by rw [hfront j hj, hbegin]; exact nofun
  refine ⟨?_, fun before after hsplit => ?_⟩
  · rw [hnone [i] fun j hj => List.mem_singleton.1 hj]
    exact List.countP_eq_zero.2 fun j hj => by rw [List.mem_singleton.1 hj, hend]; exact nofun
  · have hfront : publications before = 0 := hnone before fun j hj =>
      List.mem_singleton.1 (hsplit ▸ List.mem_append_left after hj)
    rw [hfront]
    exact Nat.zero_le _

/-- A publication is open around all that are open inside it. -/
theorem NestsWithin.publication (h : NestsWithin depth log) (event : ε) :
    NestsWithin (depth + 1) (published event :: log ++ [settled]) where
  ended := by
    rw [List.cons_append, settlements_published, publications_published, settlements_settled,
      publications_settled, h.ended]
  bounded before after hsplit := by
    rcases Orderly.front_enclosed hsplit with rfl | ⟨front, middle, rfl, hlog⟩ | rfl
    · exact Nat.zero_le _
    · have hopen : publications front ≤ settlements front + depth := h.bounded front middle hlog
      rw [publications_published, settlements_published]
      omega
    · have hended : settlements log = publications log := h.ended
      rw [List.cons_append, settlements_published, publications_published, settlements_settled,
        publications_settled]
      omega

end Incident

open Incident

/-! ## What scripts may do -/

/-- The script neither publishes nor subscribes, whatever it finds. -/
def Script.IsSilent : Script ε κ σ → Prop
  | .done => True
  | .read next => ∀ shared, (next shared).IsSilent
  | .write _ next => next.IsSilent
  | .publish _ _ => False
  | .subscribe _ _ _ => False

/-- The script publishes, if it finds the right things. -/
def Script.Publishes : Script ε κ σ → Prop
  | .done => False
  | .read next => ∃ shared, (next shared).Publishes
  | .write _ next => next.Publishes
  | .publish _ _ => True
  | .subscribe _ _ next => next.Publishes

/-- A silent script does not publish. -/
theorem Script.IsSilent.not_publishes {script : Script ε κ σ} (h : script.IsSilent) :
    ¬script.Publishes := by
  induction script with
  | done => exact id
  | read next ih =>
    rintro ⟨shared, hpublishes⟩
    exact ih shared (h shared) hpublishes
  | write shared next ih => exact ih h
  | publish event next => exact h.elim
  | subscribe kind react next => exact h.elim

variable [Kinded ε κ]

/-- The handler neither publishes nor subscribes, whichever of its events it receives. -/
def Handler.IsSilent (handler : Handler ε κ σ) : Prop :=
  ∀ event, Kinded.kind event = handler.kind → (handler.react event).IsSilent

/-- The script subscribes only handlers that neither publish nor subscribe. -/
def Script.IsTame : Script ε κ σ → Prop
  | .done => True
  | .read next => ∀ shared, (next shared).IsTame
  | .write _ next => next.IsTame
  | .publish _ next => next.IsTame
  | .subscribe kind react next => Handler.IsSilent (σ := σ) ⟨kind, react⟩ ∧ next.IsTame

/-- A silent script is tame. -/
theorem Script.IsSilent.isTame {script : Script ε κ σ} (h : script.IsSilent) : script.IsTame := by
  induction script with
  | done => trivial
  | read next ih => exact fun shared => ih shared (h shared)
  | write shared next ih => exact ih h
  | publish event next => exact h.elim
  | subscribe kind react next => exact h.elim

namespace Handler

/-- Whichever of its events it receives, the handler subscribes only handlers that neither publish
nor subscribe. -/
def IsTame (handler : Handler ε κ σ) : Prop :=
  ∀ event, Kinded.kind event = handler.kind → (handler.react event).IsTame

/-- The handler publishes on some of its events. -/
def Publishes (handler : Handler ε κ σ) : Prop :=
  ∃ event, Kinded.kind event = handler.kind ∧ (handler.react event).Publishes

/-- A silent handler is tame. -/
theorem IsSilent.isTame {handler : Handler ε κ σ} (h : handler.IsSilent) : handler.IsTame :=
  fun event hkind => (h event hkind).isTame

/-- A silent handler does not publish. -/
theorem IsSilent.not_publishes {handler : Handler ε κ σ} (h : handler.IsSilent) :
    ¬handler.Publishes :=
  fun ⟨event, hkind, hpublishes⟩ => (h event hkind).not_publishes hpublishes

end Handler

namespace EventBus

/-! ## Growing buses -/

/-- Handlers have been subscribed that neither publish nor subscribe. -/
def Grew (before after : List (Handler ε κ σ)) : Prop :=
  ∃ added, after = before ++ added ∧ ∀ handler ∈ added, handler.IsSilent

/-- A bus on which nothing is subscribed has grown by nothing. -/
theorem Grew.refl (handlers : List (Handler ε κ σ)) : Grew handlers handlers :=
  ⟨[], (List.append_nil handlers).symm, nofun⟩

/-- A silent handler that is subscribed makes a bus grow. -/
theorem Grew.subscribed (handlers : List (Handler ε κ σ)) {handler : Handler ε κ σ}
    (h : handler.IsSilent) : Grew handlers (handlers ++ [handler]) :=
  ⟨[handler], rfl, fun other hother => by rw [List.mem_singleton.1 hother]; exact h⟩

/-- A bus that grows twice has grown. -/
theorem Grew.trans {first second third : List (Handler ε κ σ)} (h : Grew first second)
    (hmore : Grew second third) : Grew first third := by
  obtain ⟨added, rfl, hadded⟩ := h
  obtain ⟨more, rfl, hmore⟩ := hmore
  refine ⟨added ++ more, List.append_assoc _ _ _, fun handler hhandler => ?_⟩
  rcases List.mem_append.1 hhandler with hhandler | hhandler
  · exact hadded handler hhandler
  · exact hmore handler hhandler

/-- Tame handlers are all tame after the bus has grown. -/
theorem Grew.isTame {before after : List (Handler ε κ σ)} (h : Grew before after)
    (htame : ∀ handler ∈ before, handler.IsTame) : ∀ handler ∈ after, handler.IsTame := by
  obtain ⟨added, rfl, hadded⟩ := h
  intro handler hhandler
  rcases List.mem_append.1 hhandler with hhandler | hhandler
  · exact htame handler hhandler
  · exact (hadded handler hhandler).isTame

/-- The handlers that publish stay the same, at the same places. -/
theorem Grew.publishes_iff {before after : List (Handler ε κ σ)} (h : Grew before after)
    (place : Nat) :
    (∃ handler, after[place]? = some handler ∧ handler.Publishes) ↔
      ∃ handler, before[place]? = some handler ∧ handler.Publishes := by
  obtain ⟨added, rfl, hadded⟩ := h
  constructor
  · rintro ⟨handler, hplace, hpublishes⟩
    by_cases hlt : place < before.length
    · rw [List.getElem?_append_left hlt] at hplace
      exact ⟨handler, hplace, hpublishes⟩
    · rw [List.getElem?_append_right (Nat.le_of_not_lt hlt)] at hplace
      exact absurd hpublishes (hadded handler (List.mem_of_getElem? hplace)).not_publishes
  · rintro ⟨handler, hplace, hpublishes⟩
    have hlt : place < before.length := (List.getElem?_eq_some_iff.1 hplace).1
    exact ⟨handler, by rw [List.getElem?_append_left hlt, hplace], hpublishes⟩

open Classical in
/-- The places of the handlers that publish. -/
noncomputable def publishers (handlers : List (Handler ε κ σ)) : Finset Nat :=
  {place ∈ Finset.range handlers.length |
    ∃ handler, handlers[place]? = some handler ∧ handler.Publishes}

/-- The publishers are the places of the handlers that publish. -/
theorem mem_publishers {handlers : List (Handler ε κ σ)} {place : Nat} :
    place ∈ publishers handlers ↔
      ∃ handler, handlers[place]? = some handler ∧ handler.Publishes := by
  classical
  rw [publishers, Finset.mem_filter, Finset.mem_range]
  refine and_iff_right_of_imp ?_
  rintro ⟨handler, hplace, -⟩
  exact (List.getElem?_eq_some_iff.1 hplace).1

/-- Growing adds no publisher. -/
theorem Grew.publishers_eq {before after : List (Handler ε κ σ)} (h : Grew before after) :
    publishers after = publishers before := by
  ext place
  rw [mem_publishers, mem_publishers, h.publishes_iff]

/-! ## Publications that return -/

/-- What is done on a bus has an end, and leaves a bus on which only handlers are new that neither
publish nor subscribe. -/
def Returns (act : EventBus ε κ σ → Option (Run ε κ σ)) (bus : EventBus ε κ σ) : Prop :=
  ∃ run, act bus = some run ∧ Grew bus.handlers run.1.handlers

/-- All handlers are tame, and those that publish are at work or stand at certain places. -/
structure Tamed (idle : Finset Nat) (atWork : List Nat) (handlers : List (Handler ε κ σ)) :
    Prop where
  /-- All handlers are tame. -/
  tame : ∀ handler ∈ handlers, handler.IsTame
  /-- A handler that publishes is at work or at one of the places. -/
  known : ∀ place handler, handlers[place]? = some handler → handler.Publishes →
    place ∈ atWork ∨ place ∈ idle

variable {idle : Finset Nat} {atWork : List Nat}

/-- A tamed bus stays tamed when it grows. -/
theorem Tamed.grow {before after : List (Handler ε κ σ)} (h : Tamed idle atWork before)
    (hgrew : Grew before after) : Tamed idle atWork after where
  tame := hgrew.isTame h.tame
  known place handler hplace hpublishes := by
    obtain ⟨same, hsame, hpublishes⟩ := (hgrew.publishes_iff place).1 ⟨handler, hplace, hpublishes⟩
    exact h.known place same hsame hpublishes

/-- A handler that gets to work is no longer one of those that are idle. -/
theorem Tamed.work {handlers : List (Handler ε κ σ)} (h : Tamed idle atWork handlers)
    (place : Nat) : Tamed (idle.erase place) (place :: atWork) handlers where
  tame := h.tame
  known other handler hother hpublishes := by
    by_cases hplace : other = place
    · exact .inl (hplace ▸ List.mem_cons_self)
    · rcases h.known other handler hother hpublishes with hwork | hidle
      · exact .inl (List.mem_cons_of_mem place hwork)
      · exact .inr (Finset.mem_erase.2 ⟨hplace, hidle⟩)

/-- A tame script returns if its publications do, and without them in any case. -/
theorem returns_follow {publish : ε → EventBus ε κ σ → Option (Run ε κ σ)}
    {script : Script ε κ σ} {start : List (Handler ε κ σ)}
    (hpublish : script.Publishes → ∀ event bus, Grew start bus.handlers →
      Returns (publish event) bus)
    (htame : script.IsTame) {bus : EventBus ε κ σ} (hbus : Grew start bus.handlers) :
    Returns (follow publish script) bus := by
  induction script generalizing bus with
  | done => exact ⟨(bus, []), rfl, Grew.refl _⟩
  | read next ih =>
    exact ih bus.shared (fun hnext => hpublish ⟨bus.shared, hnext⟩) (htame bus.shared) hbus
  | write shared next ih =>
    have hshared : Grew start ({ bus with shared } : EventBus ε κ σ).handlers := hbus
    exact ih hpublish htame hshared
  | publish event next ih =>
    have hall := hpublish trivial
    obtain ⟨inner, hinner, hgrew⟩ := hall event bus hbus
    obtain ⟨later, hlater, hmore⟩ := ih (fun _ => hall) htame (hbus.trans hgrew)
    have hrun : follow publish (.publish event next) bus = some (later.1, inner.2 ++ later.2) :=
      Option.bind_eq_some_iff.2 ⟨inner, hinner, Option.bind_eq_some_iff.2 ⟨later, hlater, rfl⟩⟩
    exact ⟨_, hrun, hgrew.trans hmore⟩
  | subscribe kind react next _ ih =>
    have hgrew : Grew bus.handlers (bus.subscribe ⟨kind, react⟩).handlers :=
      Grew.subscribed bus.handlers htame.1
    obtain ⟨later, hlater, hmore⟩ := ih hpublish htame.2 (hbus.trans hgrew)
    exact ⟨(later.1, .subscribed ⟨kind, react⟩ :: later.2),
      Option.bind_eq_some_iff.2 ⟨later, hlater, rfl⟩, hgrew.trans hmore⟩

variable [DecidableEq κ]

/-- Some handlers are done with an event if publishing returns wherever fewer publishing handlers
are idle. -/
theorem returns_deliver {depth : Nat}
    (hpublish : ∀ {idle : Finset Nat} {atWork : List Nat} (event : ε) (bus : EventBus ε κ σ),
      Tamed idle atWork bus.handlers → idle.card < depth →
        Returns (publishWithin depth atWork event) bus)
    (hcard : idle.card < depth + 1) {event : ε} {targets : List (Nat × Handler ε κ σ)}
    (htargets : ∀ target ∈ targets, Kinded.kind event = target.2.kind ∧ target.2.IsTame ∧
      (target.2.Publishes → target.1 ∈ atWork ∨ target.1 ∈ idle))
    {bus : EventBus ε κ σ} (hbus : Tamed idle atWork bus.handlers) :
    Returns (deliver (publishWithin depth) atWork event targets) bus := by
  induction targets generalizing bus with
  | nil => exact ⟨(bus, []), rfl, Grew.refl _⟩
  | cons target rest ih =>
    obtain ⟨place, handler⟩ := target
    obtain ⟨hkind, htame, hknown⟩ := htargets _ List.mem_cons_self
    have hrest : ∀ {bus : EventBus ε κ σ}, Tamed idle atWork bus.handlers →
        Returns (deliver (publishWithin depth) atWork event rest) bus :=
      ih fun target htarget => htargets target (List.mem_cons_of_mem _ htarget)
    by_cases hplace : place ∈ atWork
    · obtain ⟨later, hlater, hgrew⟩ := hrest hbus
      refine ⟨(later.1, .passedOver place event :: later.2), ?_, hgrew⟩
      rw [deliver, if_pos hplace]
      exact Option.bind_eq_some_iff.2 ⟨later, hlater, rfl⟩
    · have hreaction : Returns
          (follow (publishWithin depth (place :: atWork)) (handler.react event)) bus := by
        refine returns_follow (fun hpublishes event' bus' hgrew => ?_) (htame event hkind)
          (Grew.refl bus.handlers)
        -- The handler publishes and was idle, so now one fewer is.
        have hidle : place ∈ idle :=
          (hknown ⟨event, hkind, hpublishes⟩).resolve_left hplace
        have hfewer : (idle.erase place).card < depth := by
          have hone := Finset.card_erase_add_one hidle
          omega
        exact hpublish event' bus' ((hbus.work place).grow hgrew) hfewer
      obtain ⟨inner, hinner, hgrew⟩ := hreaction
      obtain ⟨later, hlater, hmore⟩ := hrest (hbus.grow hgrew)
      refine ⟨(later.1, .received place event :: inner.2 ++ .finished place :: later.2), ?_,
        hgrew.trans hmore⟩
      rw [deliver, if_neg hplace]
      exact Option.bind_eq_some_iff.2
        ⟨inner, hinner, Option.bind_eq_some_iff.2 ⟨later, hlater, rfl⟩⟩

/-- Publishing returns if it may nest deeper than there are idle handlers that publish. -/
theorem returns_publishWithin {depth : Nat} (event : ε) {bus : EventBus ε κ σ}
    (hbus : Tamed idle atWork bus.handlers) (hcard : idle.card < depth) :
    Returns (publishWithin depth atWork event) bus := by
  induction depth generalizing idle atWork event bus with
  | zero => exact absurd hcard (Nat.not_lt_zero _)
  | succ depth ih =>
    have htargets : ∀ target ∈ handlersOf bus.handlers (Kinded.kind event),
        Kinded.kind event = target.2.kind ∧ target.2.IsTame ∧
          (target.2.Publishes → target.1 ∈ atWork ∨ target.1 ∈ idle) := by
      rintro ⟨place, handler⟩ htarget
      obtain ⟨hplace, hkind⟩ := mem_handlersOf.1 htarget
      exact ⟨hkind.symm, hbus.tame handler (List.mem_of_getElem? hplace),
        hbus.known place handler hplace⟩
    obtain ⟨inner, hinner, hgrew⟩ :=
      returns_deliver (fun event _ hbus hcard => ih event hbus hcard) hcard htargets hbus
    exact ⟨(inner.1, .published event :: inner.2 ++ [.settled]),
      Option.bind_eq_some_iff.2 ⟨inner, hinner, rfl⟩, hgrew⟩

/-! ## Bounds that do not matter -/

omit [Kinded ε κ] [DecidableEq κ] in
/-- A script that returns still does if more publications do. -/
theorem follow_mono {publish further : ε → EventBus ε κ σ → Option (Run ε κ σ)}
    (hpublish : ∀ event bus run, publish event bus = some run → further event bus = some run)
    {script : Script ε κ σ} {bus : EventBus ε κ σ} {run : Run ε κ σ}
    (h : follow publish script bus = some run) : follow further script bus = some run := by
  induction script generalizing bus run with
  | done => exact h
  | read next ih => exact ih bus.shared h
  | write shared next ih => exact ih h
  | publish event next ih =>
    obtain ⟨inner, hinner, h⟩ := Option.bind_eq_some_iff.1 h
    obtain ⟨later, hlater, h⟩ := Option.bind_eq_some_iff.1 h
    exact Option.bind_eq_some_iff.2 ⟨inner, hpublish event bus inner hinner,
      Option.bind_eq_some_iff.2 ⟨later, ih hlater, h⟩⟩
  | subscribe kind react next _ ih =>
    obtain ⟨later, hlater, h⟩ := Option.bind_eq_some_iff.1 h
    exact Option.bind_eq_some_iff.2 ⟨later, ih hlater, h⟩

omit [Kinded ε κ] [DecidableEq κ] in
/-- A delivery that has an end keeps it where publications may nest further. -/
theorem deliver_mono {publish further : List Nat → ε → EventBus ε κ σ → Option (Run ε κ σ)}
    (hpublish : ∀ atWork event bus run,
      publish atWork event bus = some run → further atWork event bus = some run)
    {event : ε} {targets : List (Nat × Handler ε κ σ)} {bus : EventBus ε κ σ} {run : Run ε κ σ}
    (h : deliver publish atWork event targets bus = some run) :
    deliver further atWork event targets bus = some run := by
  induction targets generalizing bus run with
  | nil => exact h
  | cons target rest ih =>
    obtain ⟨place, handler⟩ := target
    rw [deliver] at h ⊢
    split at h
    · rename_i hplace
      rw [if_pos hplace]
      obtain ⟨later, hlater, h⟩ := Option.bind_eq_some_iff.1 h
      exact Option.bind_eq_some_iff.2 ⟨later, ih hlater, h⟩
    · rename_i hplace
      rw [if_neg hplace]
      obtain ⟨inner, hinner, h⟩ := Option.bind_eq_some_iff.1 h
      obtain ⟨later, hlater, h⟩ := Option.bind_eq_some_iff.1 h
      exact Option.bind_eq_some_iff.2 ⟨inner, follow_mono (hpublish (place :: atWork)) hinner,
        Option.bind_eq_some_iff.2 ⟨later, ih hlater, h⟩⟩

/-- A publication that returns does the same when it may nest deeper. -/
theorem publishWithin_mono {depth deeper : Nat} (hle : depth ≤ deeper) {event : ε}
    {bus : EventBus ε κ σ} {run : Run ε κ σ}
    (h : publishWithin depth atWork event bus = some run) :
    publishWithin deeper atWork event bus = some run := by
  induction depth generalizing deeper atWork event bus run with
  | zero => cases h
  | succ depth ih =>
    obtain ⟨deeper, rfl⟩ : ∃ less, deeper = less + 1 := ⟨deeper - 1, by omega⟩
    have hless : depth ≤ deeper := Nat.le_of_succ_le_succ hle
    obtain ⟨inner, hinner, h⟩ := Option.bind_eq_some_iff.1 h
    exact Option.bind_eq_some_iff.2
      ⟨inner, deliver_mono (fun _ _ _ _ hrun => ih hless hrun) hinner, h⟩

/-! ## Nesting -/

omit [Kinded ε κ] [DecidableEq κ] in
/-- What a script does nests no deeper than each publication that it makes. -/
theorem nestsWithin_follow {depth : Nat} {publish : ε → EventBus ε κ σ → Option (Run ε κ σ)}
    (hpublish : ∀ event bus run, publish event bus = some run → NestsWithin depth run.2)
    {script : Script ε κ σ} {bus : EventBus ε κ σ} {run : Run ε κ σ}
    (h : follow publish script bus = some run) : NestsWithin depth run.2 := by
  induction script generalizing bus run with
  | done =>
    cases h
    exact nestsWithin_nil
  | read next ih => exact ih bus.shared h
  | write shared next ih => exact ih h
  | publish event next ih =>
    obtain ⟨inner, hinner, h⟩ := Option.bind_eq_some_iff.1 h
    obtain ⟨later, hlater, h⟩ := Option.bind_eq_some_iff.1 h
    cases h
    exact (hpublish event bus inner hinner).append (ih hlater)
  | subscribe kind react next _ ih =>
    obtain ⟨later, hlater, h⟩ := Option.bind_eq_some_iff.1 h
    cases h
    exact (nestsWithin_singleton (i := .subscribed ⟨kind, react⟩) rfl rfl).append (ih hlater)

omit [Kinded ε κ] [DecidableEq κ] in
/-- A delivery nests no deeper than each publication that a handler makes. -/
theorem nestsWithin_deliver {depth : Nat}
    {publish : List Nat → ε → EventBus ε κ σ → Option (Run ε κ σ)}
    (hpublish : ∀ atWork event bus run, publish atWork event bus = some run →
      NestsWithin depth run.2)
    {event : ε} {targets : List (Nat × Handler ε κ σ)} {bus : EventBus ε κ σ} {run : Run ε κ σ}
    (h : deliver publish atWork event targets bus = some run) : NestsWithin depth run.2 := by
  induction targets generalizing bus run with
  | nil =>
    cases h
    exact nestsWithin_nil
  | cons target rest ih =>
    obtain ⟨place, handler⟩ := target
    rw [deliver] at h
    split at h
    · obtain ⟨later, hlater, h⟩ := Option.bind_eq_some_iff.1 h
      cases h
      exact (nestsWithin_singleton (i := .passedOver place event) rfl rfl).append (ih hlater)
    · obtain ⟨inner, hinner, h⟩ := Option.bind_eq_some_iff.1 h
      obtain ⟨later, hlater, h⟩ := Option.bind_eq_some_iff.1 h
      cases h
      have hbegin : NestsWithin depth [Incident.received (κ := κ) (σ := σ) place event] :=
        nestsWithin_singleton rfl rfl
      have hend : NestsWithin depth [Incident.finished (ε := ε) (κ := κ) (σ := σ) place] :=
        nestsWithin_singleton rfl rfl
      have hreaction : NestsWithin depth inner.2 :=
        nestsWithin_follow (hpublish (place :: atWork)) hinner
      exact (hbegin.append hreaction).append (hend.append (ih hlater))

/-- The bound on how deep publications may nest is kept. -/
theorem nestsWithin_publishWithin {depth : Nat} {event : ε} {bus : EventBus ε κ σ}
    {run : Run ε κ σ} (h : publishWithin depth atWork event bus = some run) :
    NestsWithin depth run.2 := by
  induction depth generalizing atWork event bus run with
  | zero => cases h
  | succ depth ih =>
    obtain ⟨inner, hinner, h⟩ := Option.bind_eq_some_iff.1 h
    cases h
    exact (nestsWithin_deliver (fun _ _ _ _ hrun => ih hrun) hinner).publication event

/-- Handlers may publish whatever they like, to each other and to themselves, as long as they
subscribe only handlers that neither publish nor subscribe. Then whatever is done on the bus from
outside in this way has an end, and the same one however deep publishing may nest. Every publication
ends, and at no time are more of them open than one and one for each handler that publishes. The
handlers that publish stay the same, so the next publication has an end as well. -/
theorem publications_end {script : Script ε κ σ} (hscript : script.IsTame) {bus : EventBus ε κ σ}
    (hbus : ∀ handler ∈ bus.handlers, handler.IsTame) :
    ∃ run, (∀ depth, 1 + (publishers bus.handlers).card ≤ depth →
        performWithin depth script bus = some run) ∧
      settlements run.2 = publications run.2 ∧
      (∀ before after, run.2 = before ++ after →
        publications before ≤ settlements before + (1 + (publishers bus.handlers).card)) ∧
      (∀ handler ∈ run.1.handlers, handler.IsTame) ∧
      publishers run.1.handlers = publishers bus.handlers := by
  have htamed : Tamed (publishers bus.handlers) [] bus.handlers :=
    ⟨hbus, fun place handler hplace hpublishes =>
      .inr (mem_publishers.2 ⟨handler, hplace, hpublishes⟩)⟩
  have hcard : (publishers bus.handlers).card < 1 + (publishers bus.handlers).card :=
    by omega
  obtain ⟨run, hrun, hgrew⟩ : Returns
      (performWithin (1 + (publishers bus.handlers).card) script) bus :=
    returns_follow
      (fun _ event _ hgrew => returns_publishWithin event (htamed.grow hgrew) hcard)
      hscript (Grew.refl bus.handlers)
  have hnests : NestsWithin (1 + (publishers bus.handlers).card) run.2 :=
    nestsWithin_follow (fun _ _ _ h => nestsWithin_publishWithin h) hrun
  refine ⟨run, fun depth hdepth => ?_, hnests.ended, hnests.bounded, hgrew.isTame hbus,
    hgrew.publishers_eq⟩
  exact follow_mono (fun _ _ _ h => publishWithin_mono hdepth h) hrun

/-- It selects a point again when something fails, and passes on the failure. -/
def retry : Handler Event EventKind Nat where
  kind := .chartFailed
  react event :=
    .publish (.crossFilterEmitted default "region" (.string "East")) (.publish event .done)

/-- What happens when a point is selected on a bus with the relay and the retry: each of them is
passed over when the other one publishes to it, and the counter counts the failure twice. -/
def circled : List (Incident Event EventKind Nat) :=
  let selected := Event.crossFilterEmitted default "region" (.string "East")
  let failed := Event.chartFailed default "nested" false
  [published selected, received 0 selected, subscribed failureCounter, published failed,
    received 1 failed, published selected, passedOver 0 selected, settled, published failed,
    passedOver 1 failed, received 2 failed, finished 2, settled, finished 1, received 2 failed,
    finished 2, settled, published selected, passedOver 0 selected, settled, finished 0, settled]

/-- The relay subscribes nothing but a silent counter. -/
theorem isTame_relay : relay.IsTame :=
  fun _ _ => ⟨fun _ _ _ => trivial, trivial⟩

/-- The relay and the retry are the two publishers. -/
theorem publishers_relay_retry : publishers [relay, retry] = {0, 1} := by
  have hrelay : relay.Publishes :=
    ⟨.crossFilterEmitted default "region" (.string "East"), rfl, trivial⟩
  have hretry : retry.Publishes := ⟨.chartFailed default "nested" false, rfl, trivial⟩
  ext place
  rw [mem_publishers, Finset.mem_insert, Finset.mem_singleton]
  constructor
  · rintro ⟨handler, hplace, -⟩
    have hlt : place < 2 := (List.getElem?_eq_some_iff.1 hplace).1
    omega
  · rintro (rfl | rfl)
    · exact ⟨relay, rfl, hrelay⟩
    · exact ⟨retry, rfl, hretry⟩

/-- The relay and the retry publish to each other in a circle, and the bound is reached. -/
theorem publications_end_circled :
    (publishers [relay, retry]).card = 2 ∧
      (∀ depth, 3 ≤ depth →
        performWithin depth (.publish (.crossFilterEmitted default "region" (.string "East")) .done)
          ⟨[relay, retry], 0⟩ = some (⟨[relay, retry, failureCounter], 2⟩, circled)) ∧
      settlements circled = publications circled ∧
      (∀ before after, circled = before ++ after →
        publications before ≤ settlements before + 3) ∧
      publications (circled.take 6) = settlements (circled.take 6) + 3 ∧
      publishers [relay, retry, failureCounter] = publishers [relay, retry] := by
  have hcard : (publishers [relay, retry]).card = 2 := by rw [publishers_relay_retry]; rfl
  have hscript : Script.IsTame (σ := Nat)
      (.publish (Event.crossFilterEmitted default "region" (.string "East")) .done) := trivial
  have htame : ∀ handler ∈ (EventBus.mk [relay, retry] 0).handlers, handler.IsTame := by
    intro handler hhandler
    rcases List.mem_pair.1 hhandler with rfl | rfl
    · exact isTame_relay
    · exact fun _ _ => trivial
  have hbegun : performWithin 3
      (.publish (.crossFilterEmitted default "region" (.string "East")) .done)
        ⟨[relay, retry], 0⟩ = some (⟨[relay, retry, failureCounter], 2⟩, circled) := rfl
  obtain ⟨run, hrun, hended, hbounded, -, hsame⟩ := publications_end hscript htame
  rw [hcard] at hrun hbounded
  have hcircled : run = (⟨[relay, retry, failureCounter], 2⟩, circled) :=
    Option.some.inj ((hrun 3 (Nat.le_refl 3)).symm.trans hbegun)
  rw [hcircled] at hrun hended hbounded hsame
  exact ⟨hcard, hrun, hended, hbounded, rfl, hsame⟩

end EventBus

end Chartboard
