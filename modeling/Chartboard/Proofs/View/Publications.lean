import Chartboard.View.Bus
import Mathlib.Data.List.Basic

/-!
# Publications

What happens on a bus nests: inside a publication handlers receive its event, and inside a reception
there are further publications. A publication considers the handlers that are subscribed to the kind
of its event when it begins, in the order of their subscription. Each of them receives the event
once, unless it is at work at that time, in which case it is passed over. So no handler ever has two
receptions going on.
-/

namespace Chartboard

open EventBus

namespace Incident

variable {ε κ σ : Type}

/-! ## Reading what happened -/

/-- The handlers that are subscribed, in order. -/
def subscriptions (log : List (Incident ε κ σ)) : List (Handler ε κ σ) :=
  log.filterMap fun
    | subscribed handler => some handler
    | _ => none

/-- The handler at a place receives an event. -/
def isReceptionAt (place : Nat) : Incident ε κ σ → Bool
  | received other _ => other = place
  | _ => false

/-- The handler at a place has done all that it does. -/
def isCompletionAt (place : Nat) : Incident ε κ σ → Bool
  | finished other => other = place
  | _ => false

/-- How often the handler at a place receives an event. -/
def receptions (place : Nat) (log : List (Incident ε κ σ)) : Nat :=
  log.countP (isReceptionAt place)

/-- How often the handler at a place gets to its end. -/
def completions (place : Nat) (log : List (Incident ε κ σ)) : Nat :=
  log.countP (isCompletionAt place)

/-- The handler at a place has begun more often than it has ended. -/
def isAtWork (log : List (Incident ε κ σ)) (place : Nat) : Bool :=
  completions place log < receptions place log

/-- What a publication itself does: the handlers that receive its event and those that it passes
over, up to its end. Other publications are open inside it, and what they do is not counted. -/
def offers : Nat → List (Incident ε κ σ) → List (Incident ε κ σ)
  | _, [] => []
  | inner, published _ :: rest => offers (inner + 1) rest
  | inner, settled :: rest =>
    match inner with
    | 0 => []
    | inner + 1 => offers inner rest
  | inner, received place event :: rest =>
    if inner = 0 then received place event :: offers inner rest else offers inner rest
  | inner, passedOver place event :: rest =>
    if inner = 0 then passedOver place event :: offers inner rest else offers inner rest
  | inner, finished _ :: rest => offers inner rest
  | inner, subscribed _ :: rest => offers inner rest

/-- What a publication should do: every handler of the kind of the event receives it, in order,
unless it is busy. -/
def considered [DecidableEq κ] [Kinded ε κ] (handlers : List (Handler ε κ σ))
    (busy : Nat → Bool) (event : ε) : List (Incident ε κ σ) :=
  (handlersOf handlers (Kinded.kind event)).map fun (place, _) =>
    if busy place then passedOver place event else received place event

variable {log more : List (Incident ε κ σ)} {place : Nat}

/-- The handlers that two logs subscribe come one after the other. -/
theorem subscriptions_append :
    subscriptions (log ++ more) = subscriptions log ++ subscriptions more :=
  List.filterMap_append

/-- The receptions of two logs add up. -/
theorem receptions_append :
    receptions place (log ++ more) = receptions place log + receptions place more :=
  List.countP_append

/-- The completions of two logs add up. -/
theorem completions_append :
    completions place (log ++ more) = completions place log + completions place more :=
  List.countP_append

/-- A reception counts for the handler at its own place. -/
theorem receptions_received (other : Nat) (event : ε) :
    receptions place (received other event :: log) =
      receptions place log + if other = place then 1 else 0 := by
  simp [receptions, List.countP_cons, isReceptionAt]

/-- A reception that begins completes nothing. -/
theorem completions_received (other : Nat) (event : ε) :
    completions place (received other event :: log) = completions place log := by
  simp [completions, isCompletionAt]

/-- A completion is no reception. -/
theorem receptions_finished (other : Nat) :
    receptions place ([finished other] : List (Incident ε κ σ)) = 0 := by
  simp [receptions, isReceptionAt]

/-- A completion counts for the handler at its own place. -/
theorem completions_finished (other : Nat) :
    completions place ([finished other] : List (Incident ε κ σ)) =
      if other = place then 1 else 0 := by
  simp [completions, List.countP_cons, isCompletionAt]

/-! ## Closed logs -/

/-- Every publication that begins in the log ends there, and no other one does: what comes behind
belongs to the publication that is open in front of the log. -/
def IsClosed (log : List (Incident ε κ σ)) : Prop :=
  ∀ inner rest, offers inner (log ++ rest) =
    (if inner = 0 then offers 0 log else []) ++ offers inner rest

/-- What comes behind a closed log is offered after it. -/
theorem IsClosed.offers_append (h : IsClosed log) (rest : List (Incident ε κ σ)) :
    offers 0 (log ++ rest) = offers 0 log ++ offers 0 rest := by
  rw [h, if_pos rfl]

/-- A closed log offers nothing to a publication around it that is itself inside. -/
theorem IsClosed.offers_inner (h : IsClosed log) (inner : Nat) (rest : List (Incident ε κ σ)) :
    offers (inner + 1) (log ++ rest) = offers (inner + 1) rest := by
  rw [h, if_neg (Nat.succ_ne_zero inner), List.nil_append]

/-- The log of nothing is closed. -/
theorem isClosed_nil : IsClosed ([] : List (Incident ε κ σ)) := by
  intro inner rest
  simp [offers]

/-- Closed logs that follow each other are closed. -/
theorem IsClosed.append (h : IsClosed log) (hmore : IsClosed more) : IsClosed (log ++ more) := by
  intro inner rest
  cases inner with
  | zero => simp only [List.append_assoc, h.offers_append, hmore.offers_append, if_true]
  | succ inner => simp [List.append_assoc, h.offers_inner, hmore.offers_inner]

/-- A single incident that neither begins nor ends a publication. -/
theorem isClosed_singleton {i : Incident ε κ σ} (hbegin : ∀ event, i ≠ published event)
    (hend : i ≠ settled) : IsClosed [i] := by
  intro inner rest
  cases i with
  | published event => exact absurd rfl (hbegin event)
  | settled => exact absurd rfl hend
  | received place event => by_cases h : inner = 0 <;> simp [offers, h]
  | passedOver place event => by_cases h : inner = 0 <;> simp [offers, h]
  | finished place => simp [offers]
  | subscribed handler => simp [offers]

/-- What a publication offers inside a log is not counted outside it. -/
theorem offers_publication (h : IsClosed log) (event : ε) (inner : Nat)
    (rest : List (Incident ε κ σ)) :
    offers inner (published event :: log ++ [settled] ++ rest) = offers inner rest := by
  rw [List.append_assoc, List.cons_append, offers, h.offers_inner]
  rfl

/-- A publication of which the inside is closed is closed. -/
theorem isClosed_publication (h : IsClosed log) (event : ε) :
    IsClosed (published event :: log ++ [settled]) := by
  intro inner rest
  have hnone := offers_publication h event 0 []
  rw [List.append_nil] at hnone
  rw [offers_publication h, hnone, offers, ite_self, List.nil_append]

/-- A reception of which the inside is closed is closed. -/
theorem isClosed_reception (h : IsClosed log) (place : Nat) (event : ε) :
    IsClosed (received place event :: log ++ [finished place]) := by
  have hbegin : IsClosed ([received place event] : List (Incident ε κ σ)) :=
    isClosed_singleton (fun _ h => nomatch h) fun h => nomatch h
  have hend : IsClosed ([finished place] : List (Incident ε κ σ)) :=
    isClosed_singleton (fun _ h => nomatch h) fun h => nomatch h
  exact (hbegin.append h).append hend

/-- A reception offers itself, and nothing that its handler does. -/
theorem offers_reception (h : IsClosed log) (hown : offers 0 log = []) (place : Nat) (event : ε) :
    offers 0 (received place event :: log ++ [finished place]) = [received place event] := by
  rw [List.cons_append, offers, if_pos rfl, h.offers_append, hown]
  rfl

/-- A reception subscribes what its inside does. -/
theorem subscriptions_reception (log : List (Incident ε κ σ)) (place : Nat) (event : ε) :
    subscriptions (received place event :: log ++ [finished place]) = subscriptions log := by
  rw [subscriptions_append]
  exact List.append_nil _

/-- A publication subscribes what its inside does. -/
theorem subscriptions_publication (log : List (Incident ε κ σ)) (event : ε) :
    subscriptions (published event :: log ++ [settled]) = subscriptions log := by
  rw [subscriptions_append]
  exact List.append_nil _

end Incident

open Incident

/-! ## Orderly logs -/

variable {ε κ σ : Type} [DecidableEq κ] [Kinded ε κ]

/-- What happens is as it should be, given the handlers on the bus and those of them that are busy,
and what happens next. -/
def Incident.Fits (handlers : List (Handler ε κ σ)) (busy : Nat → Bool)
    (next : List (Incident ε κ σ)) : Incident ε κ σ → Prop
  | published event => offers 0 next = considered handlers busy event
  | received place _ => busy place = false
  | passedOver place _ => busy place = true
  | _ => True

/-- What happens on a bus with some handlers while those at some places are at work is as it
should be. -/
structure Orderly (handlers : List (Handler ε κ σ)) (atWork : List Nat)
    (log : List (Incident ε κ σ)) : Prop where
  /-- Publications that begin also end. -/
  closed : IsClosed log
  /-- Receptions that begin also end. -/
  ended : ∀ place, completions place log = receptions place log
  /-- A handler that is not at work in front of the log is never at work twice, and one that is
  receives nothing. -/
  alone : ∀ before after, log = before ++ after → ∀ place,
    completions place before ≤ receptions place before ∧
      receptions place before ≤ completions place before + if place ∈ atWork then 0 else 1
  /-- Whatever happens is as it should be, and stays so when something comes behind the log. -/
  fits : ∀ before i after, log = before ++ i :: after → ∀ rest,
    i.Fits (handlers ++ subscriptions before)
      (fun place => place ∈ atWork || isAtWork before place) (after ++ rest)

namespace Orderly

variable {handlers : List (Handler ε κ σ)} {atWork : List Nat} {log more : List (Incident ε κ σ)}

omit [DecidableEq κ] [Kinded ε κ] in
/-- An incident of two logs is in the first one or in the second one. -/
theorem split_append {before after : List (Incident ε κ σ)} {i : Incident ε κ σ}
    (h : log ++ more = before ++ i :: after) :
    (∃ middle, log = before ++ i :: middle ∧ after = middle ++ more) ∨
      ∃ middle, before = log ++ middle ∧ more = middle ++ i :: after := by
  rcases List.append_eq_append_iff.1 h with ⟨middle, hbefore, hmore⟩ | ⟨middle, hlog, hafter⟩
  · exact .inr ⟨middle, hbefore, hmore⟩
  · cases middle with
    | nil =>
      rw [List.append_nil] at hlog
      exact .inr ⟨[], by rw [hlog, List.append_nil], hafter.symm⟩
    | cons j middle =>
      rw [List.cons_append, List.cons.injEq] at hafter
      obtain ⟨rfl, hafter⟩ := hafter
      exact .inl ⟨middle, hlog, hafter⟩

/-- The log of nothing is orderly. -/
theorem nil : Orderly handlers atWork [] where
  closed := isClosed_nil
  ended _ := rfl
  alone before after h place := by
    rw [(List.append_eq_nil_iff.1 h.symm).1]
    exact ⟨Nat.le_refl _, Nat.zero_le _⟩
  fits before i after h := by simp at h

/-- What happens after something orderly finds the handlers that it subscribed. -/
theorem append (h : Orderly handlers atWork log)
    (hmore : Orderly (handlers ++ subscriptions log) atWork more) :
    Orderly handlers atWork (log ++ more) where
  closed := h.closed.append hmore.closed
  ended place := by rw [completions_append, receptions_append, h.ended, hmore.ended]
  alone before after hsplit place := by
    rcases List.append_eq_append_iff.1 hsplit with ⟨middle, rfl, hmiddle⟩ | ⟨middle, hlog, -⟩
    · have hboth := hmore.alone middle after hmiddle place
      have hended := h.ended place
      rw [completions_append, receptions_append]
      omega
    · exact h.alone before middle hlog place
  fits before i after hsplit rest := by
    rcases split_append hsplit with ⟨middle, hlog, rfl⟩ | ⟨middle, rfl, hmiddle⟩
    · rw [List.append_assoc]
      exact h.fits before i middle hlog _
    · -- All receptions of the first log are over, so it leaves no handler at work.
      have hwork : isAtWork (log ++ middle) = isAtWork middle := by
        funext place
        unfold isAtWork
        rw [completions_append, receptions_append, h.ended]
        simp
      rw [hwork, subscriptions_append, ← List.append_assoc]
      exact hmore.fits middle i after hmiddle rest

/-- An incident by which no publication and no reception begins or ends. -/
theorem singleton {i : Incident ε κ σ} (hclosed : IsClosed [i])
    (hreception : ∀ place, isReceptionAt place i = false)
    (hcompletion : ∀ place, isCompletionAt place i = false)
    (hfits : ∀ rest, i.Fits handlers (fun place => place ∈ atWork) rest) :
    Orderly handlers atWork [i] := by
  have hnone : ∀ before after, [i] = before ++ after → ∀ place,
      completions place before = 0 ∧ receptions place before = 0 := by
    intro before after hsplit place
    have hmem : ∀ j ∈ before, j = i := fun j hj =>
      List.mem_singleton.1 (hsplit ▸ List.mem_append_left after hj)
    unfold completions receptions
    rw [List.countP_eq_zero, List.countP_eq_zero]
    exact ⟨fun j hj => by simp [hmem j hj, hcompletion],
      fun j hj => by simp [hmem j hj, hreception]⟩
  refine ⟨hclosed, ?_, ?_, ?_⟩
  · intro place
    obtain ⟨hc, hr⟩ := hnone [i] [] rfl place
    rw [hc, hr]
  · intro before after hsplit place
    obtain ⟨hc, hr⟩ := hnone before after hsplit place
    rw [hc, hr]
    exact ⟨Nat.le_refl _, Nat.zero_le _⟩
  · intro before j after hsplit rest
    cases before with
    | nil =>
      rw [List.nil_append, List.cons.injEq] at hsplit
      obtain ⟨rfl, rfl⟩ := hsplit
      simpa [subscriptions, isAtWork, completions, receptions] using hfits rest
    | cons k before => simp at hsplit

/-- Subscribing a handler is orderly. -/
theorem subscription (handler : Handler ε κ σ) : Orderly handlers atWork [subscribed handler] :=
  singleton (isClosed_singleton (fun _ h => nomatch h) fun h => nomatch h) (fun _ => rfl)
    (fun _ => rfl) fun _ => trivial

/-- Passing over a handler at work is orderly. -/
theorem passing {place : Nat} (event : ε) (hplace : place ∈ atWork) :
    Orderly handlers atWork [passedOver place event] :=
  singleton (isClosed_singleton (fun _ h => nomatch h) fun h => nomatch h) (fun _ => rfl)
    (fun _ => rfl) fun _ => decide_eq_true hplace

omit [DecidableEq κ] [Kinded ε κ] in
/-- An incident of an enclosed log is the first one, one of the log, or the last one. -/
theorem split_enclosed {before after : List (Incident ε κ σ)} {first last i : Incident ε κ σ}
    (h : first :: log ++ [last] = before ++ i :: after) :
    (before = [] ∧ i = first ∧ after = log ++ [last]) ∨
      (∃ front middle, before = first :: front ∧ log = front ++ i :: middle ∧
        after = middle ++ [last]) ∨ i = last := by
  cases before with
  | nil =>
    rw [List.nil_append, List.cons_append, List.cons.injEq] at h
    exact .inl ⟨rfl, h.1.symm, h.2.symm⟩
  | cons j front =>
    rw [List.cons_append, List.cons_append, List.cons.injEq] at h
    obtain ⟨rfl, h⟩ := h
    rcases split_append h with ⟨middle, hlog, hafter⟩ | ⟨middle, -, hlast⟩
    · exact .inr (.inl ⟨front, middle, rfl, hlog, hafter⟩)
    · have hmem : i ∈ [last] := by rw [hlast]; simp
      exact .inr (.inr (List.mem_singleton.1 hmem))

omit [DecidableEq κ] [Kinded ε κ] in
/-- An enclosed log has come to nothing, to a front of the log, or to its end. -/
theorem front_enclosed {before after : List (Incident ε κ σ)} {first last : Incident ε κ σ}
    (h : first :: log ++ [last] = before ++ after) :
    before = [] ∨ (∃ front middle, before = first :: front ∧ log = front ++ middle) ∨
      before = first :: log ++ [last] := by
  cases before with
  | nil => exact .inl rfl
  | cons j front =>
    rw [List.cons_append, List.cons_append, List.cons.injEq] at h
    obtain ⟨rfl, h⟩ := h
    rcases List.append_eq_append_iff.1 h with ⟨middle, rfl, hlast⟩ | ⟨middle, hlog, -⟩
    · cases middle with
      | nil => exact .inr (.inl ⟨log, [], by rw [List.append_nil], (List.append_nil log).symm⟩)
      | cons j middle =>
        rw [List.cons_append, List.cons.injEq] at hlast
        obtain ⟨rfl, hnil⟩ := hlast
        rw [(List.append_eq_nil_iff.1 hnil.symm).1]
        exact .inr (.inr rfl)
    · exact .inr (.inl ⟨front, middle, rfl, hlog⟩)

/-- A publication that considers the handlers of its event. -/
theorem publication {event : ε} (h : Orderly handlers atWork log)
    (hoffers : offers 0 log = considered handlers (fun place => place ∈ atWork) event) :
    Orderly handlers atWork (published event :: log ++ [settled]) where
  closed := isClosed_publication h.closed event
  ended place := by
    rw [completions_append, receptions_append]
    exact h.ended place
  alone before after hsplit place := by
    rcases front_enclosed hsplit with rfl | ⟨front, middle, rfl, hlog⟩ | rfl
    · exact ⟨Nat.le_refl _, Nat.zero_le _⟩
    · exact h.alone front middle hlog place
    · rw [completions_append, receptions_append]
      exact h.alone log [] (List.append_nil log).symm place
  fits before i after hsplit rest := by
    rcases split_enclosed hsplit with ⟨rfl, rfl, rfl⟩ | ⟨front, middle, rfl, hlog, rfl⟩ | rfl
    · show offers 0 (log ++ [settled] ++ rest) = _
      rw [List.append_assoc, h.closed.offers_append, hoffers]
      simp [subscriptions, isAtWork, completions, receptions, offers]
    · rw [List.append_assoc]
      exact h.fits front i middle hlog _
    · trivial

/-- What a handler does while it is at work. -/
theorem reception {place : Nat} (event : ε) (hplace : place ∉ atWork)
    (h : Orderly handlers (place :: atWork) log) :
    Orderly handlers atWork (received place event :: log ++ [finished place]) where
  closed := isClosed_reception h.closed place event
  ended other := by
    rw [completions_append, receptions_append, completions_received, receptions_received,
      completions_finished, receptions_finished, h.ended]
    rfl
  alone before after hsplit other := by
    rcases front_enclosed hsplit with rfl | ⟨front, middle, rfl, hlog⟩ | rfl
    · exact ⟨Nat.le_refl _, Nat.zero_le _⟩
    · have hfront := h.alone front middle hlog other
      rw [completions_received, receptions_received]
      by_cases hother : place = other
      · subst hother
        rw [if_pos List.mem_cons_self] at hfront
        rw [if_pos rfl, if_neg hplace]
        omega
      · have hmem : other ∈ place :: atWork ↔ other ∈ atWork := by
          rw [List.mem_cons, or_iff_right (Ne.symm hother)]
        simp only [hmem] at hfront
        rw [if_neg hother]
        exact hfront
    · rw [completions_append, receptions_append, completions_received, receptions_received,
        completions_finished, receptions_finished, h.ended]
      exact ⟨Nat.le_refl _, Nat.le_add_right _ _⟩
  fits before i after hsplit rest := by
    rcases split_enclosed hsplit with ⟨rfl, rfl, rfl⟩ | ⟨front, middle, rfl, hlog, rfl⟩ | rfl
    · simp [Fits, isAtWork, completions, receptions, hplace]
    · rw [List.append_assoc]
      -- The handler itself is at work from its reception on, also where it is no longer named.
      have hbusy : (fun place' => decide (place' ∈ place :: atWork) || isAtWork front place') =
          fun place' => decide (place' ∈ atWork) ||
            isAtWork (received place event :: front) place' := by
        funext place'
        have hfront := h.alone front _ hlog place'
        unfold isAtWork
        rw [completions_received, receptions_received]
        by_cases hplace' : place = place'
        · subst hplace'
          rw [if_pos rfl]
          simp [hplace, Nat.lt_succ_of_le hfront.1]
        · simp [hplace', Ne.symm hplace']
      have hfits := h.fits front i middle hlog ([finished place] ++ rest)
      rw [hbusy] at hfits
      exact hfits
    · trivial

end Orderly

/-! ## Runs -/

namespace EventBus

variable {atWork : List Nat}

/-- What a run leaves and what happens in it. -/
abbrev Run (ε κ σ : Type) := EventBus ε κ σ × List (Incident ε κ σ)

/-- A run from a bus is orderly, offers some receptions of its own, and leaves the handlers that it
subscribed behind those of the bus. -/
structure IsOrderlyRun (bus : EventBus ε κ σ) (atWork : List Nat)
    (own : List (Incident ε κ σ)) (run : Run ε κ σ) : Prop where
  /-- What happens is as it should be. -/
  orderly : Orderly bus.handlers atWork run.2
  /-- What happens outside of publications that begin in the run. -/
  offers_eq : offers 0 run.2 = own
  /-- The handlers at the end. -/
  handlers_eq : run.1.handlers = bus.handlers ++ subscriptions run.2

/-- Publishing while the handlers at some places are at work is orderly. -/
def PublishesInOrder (atWork : List Nat)
    (publish : ε → EventBus ε κ σ → Option (Run ε κ σ)) : Prop :=
  ∀ event bus run, publish event bus = some run → IsOrderlyRun bus atWork [] run

/-- A run in which nothing happens is orderly. -/
theorem isOrderlyRun_nil (bus : EventBus ε κ σ) : IsOrderlyRun bus atWork [] (bus, []) :=
  ⟨Orderly.nil, rfl, (List.append_nil _).symm⟩

/-- A run that goes on in order is orderly. -/
theorem IsOrderlyRun.append {bus : EventBus ε κ σ} {own more : List (Incident ε κ σ)}
    {first second : Run ε κ σ} (h : IsOrderlyRun bus atWork own first)
    (hnext : IsOrderlyRun first.1 atWork more second) :
    IsOrderlyRun bus atWork (own ++ more) (second.1, first.2 ++ second.2) where
  orderly := h.orderly.append (h.handlers_eq ▸ hnext.orderly)
  offers_eq := by rw [h.orderly.closed.offers_append, h.offers_eq, hnext.offers_eq]
  handlers_eq := by
    rw [hnext.handlers_eq, h.handlers_eq, subscriptions_append, List.append_assoc]

/-- Following a script is orderly if publishing is. -/
theorem isOrderlyRun_follow {publish : ε → EventBus ε κ σ → Option (Run ε κ σ)}
    (hpublish : PublishesInOrder atWork publish) {script : Script ε κ σ} {bus : EventBus ε κ σ}
    {run : Run ε κ σ} (h : follow publish script bus = some run) :
    IsOrderlyRun bus atWork [] run := by
  induction script generalizing bus run with
  | done =>
    cases h
    exact isOrderlyRun_nil bus
  | read next ih => exact ih bus.shared h
  | write shared next ih =>
    have hnext := ih h
    exact ⟨hnext.orderly, hnext.offers_eq, hnext.handlers_eq⟩
  | publish event next ih =>
    obtain ⟨inner, hinner, h⟩ := Option.bind_eq_some_iff.1 h
    obtain ⟨later, hlater, h⟩ := Option.bind_eq_some_iff.1 h
    cases h
    exact (hpublish event bus inner hinner).append (ih hlater)
  | subscribe kind react next _ ih =>
    obtain ⟨later, hlater, h⟩ := Option.bind_eq_some_iff.1 h
    cases h
    have hfirst : IsOrderlyRun bus atWork []
        (bus.subscribe ⟨kind, react⟩, [subscribed ⟨kind, react⟩]) :=
      ⟨Orderly.subscription _, rfl, rfl⟩
    exact hfirst.append (ih hlater)

/-- Giving an event to some handlers is orderly if publishing is: each of them receives it unless it
is at work. -/
theorem isOrderlyRun_deliver {publish : List Nat → ε → EventBus ε κ σ → Option (Run ε κ σ)}
    (hpublish : ∀ atWork, PublishesInOrder atWork (publish atWork)) {event : ε}
    {targets : List (Nat × Handler ε κ σ)} {bus : EventBus ε κ σ} {run : Run ε κ σ}
    (h : deliver publish atWork event targets bus = some run) :
    IsOrderlyRun bus atWork (targets.map fun (place, _) =>
      if place ∈ atWork then passedOver place event else received place event) run := by
  induction targets generalizing bus run with
  | nil =>
    cases h
    exact isOrderlyRun_nil bus
  | cons target rest ih =>
    obtain ⟨place, handler⟩ := target
    rw [deliver] at h
    rw [List.map_cons]
    split at h
    · rename_i hplace
      obtain ⟨later, hlater, h⟩ := Option.bind_eq_some_iff.1 h
      cases h
      have hfirst : IsOrderlyRun bus atWork [passedOver place event]
          (bus, [passedOver place event]) :=
        ⟨Orderly.passing event hplace, rfl, (List.append_nil _).symm⟩
      simp only [hplace, if_true]
      exact hfirst.append (ih hlater)
    · rename_i hplace
      obtain ⟨inner, hinner, h⟩ := Option.bind_eq_some_iff.1 h
      obtain ⟨later, hlater, h⟩ := Option.bind_eq_some_iff.1 h
      cases h
      have hreaction := isOrderlyRun_follow (hpublish (place :: atWork)) hinner
      have hfirst : IsOrderlyRun bus atWork [received place event]
          (inner.1, received place event :: inner.2 ++ [finished place]) :=
        ⟨hreaction.orderly.reception event hplace,
          offers_reception hreaction.orderly.closed hreaction.offers_eq place event,
          by rw [hreaction.handlers_eq, subscriptions_reception]⟩
      have hall := hfirst.append (ih hlater)
      simp only [hplace, if_false]
      rw [List.append_assoc] at hall
      exact hall

/-- Publishing is orderly, however deep it nests. -/
theorem publishesInOrder (depth : Nat) (atWork : List Nat) :
    PublishesInOrder atWork (publishWithin (ε := ε) (κ := κ) (σ := σ) depth atWork) := by
  induction depth generalizing atWork with
  | zero =>
    intro event bus run h
    cases h
  | succ depth ih =>
    intro event bus run h
    obtain ⟨inner, hinner, h⟩ := Option.bind_eq_some_iff.1 h
    cases h
    have hdelivery := isOrderlyRun_deliver ih hinner
    have hoffers : offers 0 inner.2 =
        considered bus.handlers (fun place => place ∈ atWork) event := by
      rw [hdelivery.offers_eq]
      simp [considered]
    have hnone := offers_publication hdelivery.orderly.closed event 0 []
    rw [List.append_nil] at hnone
    exact ⟨hdelivery.orderly.publication hoffers, hnone,
      by rw [hdelivery.handlers_eq, subscriptions_publication]⟩

omit [Kinded ε κ] in
/-- The handlers of a kind, with their places. -/
theorem mem_handlersOf {handlers : List (Handler ε κ σ)} {kind : κ} {place : Nat}
    {handler : Handler ε κ σ} :
    (place, handler) ∈ handlersOf handlers kind ↔
      handlers[place]? = some handler ∧ handler.kind = kind := by
  unfold handlersOf
  simp only [List.mem_map, List.mem_filter, decide_eq_true_eq, Prod.mk.injEq, Prod.exists,
    List.mk_mem_zipIdx_iff_getElem?]
  constructor
  · rintro ⟨handler, place, ⟨hplace, hkind⟩, rfl, rfl⟩
    exact ⟨hplace, hkind⟩
  · rintro ⟨hplace, hkind⟩
    exact ⟨handler, place, ⟨hplace, hkind⟩, rfl, rfl⟩

omit [Kinded ε κ] in
/-- The handlers of a kind come in the order of their places. -/
theorem pairwise_handlersOf (handlers : List (Handler ε κ σ)) (kind : κ) :
    ((handlersOf handlers kind).map Prod.fst).Pairwise (· < ·) := by
  have hplaces : (handlers.zipIdx.map Prod.snd).Pairwise (· < ·) := by
    rw [List.zipIdx_map_snd]
    exact List.pairwise_lt_range'
  unfold handlersOf
  rw [List.map_map]
  exact hplaces.sublist ((List.filter_sublist).map Prod.snd)

/-- Whatever is done on a bus, every publication considers the handlers of its event that are
subscribed when it begins, in order, and each of them receives the event unless it is at work, in
which case it is passed over. Nothing is received outside of publications, and no handler is ever
at work twice. -/
theorem received_once_each {depth : Nat} {script : Script ε κ σ} {bus : EventBus ε κ σ}
    {run : Run ε κ σ} (h : performWithin depth script bus = some run) :
    (∀ before event after, run.2 = before ++ published event :: after →
      ∃ targets : List Nat, targets.Pairwise (· < ·) ∧
        (∀ place, place ∈ targets ↔ ∃ handler,
          (bus.handlers ++ subscriptions before)[place]? = some handler ∧
            handler.kind = Kinded.kind event) ∧
        offers 0 after = targets.map fun place =>
          if isAtWork before place then passedOver place event else received place event) ∧
    (∀ before place event after, run.2 = before ++ received place event :: after →
      isAtWork before place = false) ∧
    (∀ before place event after, run.2 = before ++ passedOver place event :: after →
      isAtWork before place = true) ∧
    offers 0 run.2 = [] ∧
    (∀ before after, run.2 = before ++ after → ∀ place,
      receptions place before ≤ completions place before + 1) ∧
    run.1.handlers = bus.handlers ++ subscriptions run.2 := by
  have hrun := isOrderlyRun_follow (publishesInOrder depth []) h
  have hfits : ∀ before i after, run.2 = before ++ i :: after →
      i.Fits (bus.handlers ++ subscriptions before) (isAtWork before) after := by
    intro before i after hlog
    have hi := hrun.orderly.fits before i after hlog []
    simpa using hi
  refine ⟨?_, fun before place event after hlog => hfits before _ after hlog,
    fun before place event after hlog => hfits before _ after hlog, hrun.offers_eq,
    fun before after hlog place => (hrun.orderly.alone before after hlog place).2,
    hrun.handlers_eq⟩
  intro before event after hlog
  let targets := handlersOf (bus.handlers ++ subscriptions before) (Kinded.kind event)
  refine ⟨targets.map Prod.fst, pairwise_handlersOf _ _, fun place => ?_, ?_⟩
  · simp [targets, mem_handlersOf]
  · rw [List.map_map]
    exact hfits before _ after hlog

/-- It counts failures. -/
def failureCounter : Handler Event EventKind Nat where
  kind := .chartFailed
  react _ := .read fun failures => .write (failures + 1) .done

/-- It subscribes a counter of failures, announces a failure, and then passes on the event that it
has received. -/
def relay : Handler Event EventKind Nat where
  kind := .crossFilterEmitted
  react event :=
    .subscribe failureCounter.kind failureCounter.react
      (.publish (.chartFailed default "nested" false) (.publish event .done))

/-- What happens when a point is selected: the counter is there for the failure, and the relay is
passed over when it passes on the event. -/
def relayed : List (Incident Event EventKind Nat) :=
  let selected := Event.crossFilterEmitted default "region" (.string "East")
  let failed := Event.chartFailed default "nested" false
  [published selected, received 0 selected, subscribed failureCounter, published failed,
    received 1 failed, finished 1, settled, published selected, passedOver 0 selected, settled,
    finished 0, settled]

/-- The relay receives the selection once and is passed over while it is at work. -/
theorem received_once_each_relayed :
    performWithin 2 (.publish (.crossFilterEmitted default "region" (.string "East")) .done)
        ⟨[relay], 0⟩ = some (⟨[relay, failureCounter], 1⟩, relayed) ∧
      offers 0 relayed = [] ∧
      isAtWork (relayed.take 8) 0 = true ∧
      (∀ before after, relayed = before ++ after → ∀ place,
        receptions place before ≤ completions place before + 1) ∧
      [relay, failureCounter] = [relay] ++ subscriptions relayed := by
  have hrun : performWithin 2
      (.publish (.crossFilterEmitted default "region" (.string "East")) .done) ⟨[relay], 0⟩ =
        some (⟨[relay, failureCounter], 1⟩, relayed) := rfl
  obtain ⟨-, -, hpassed, hnone, halone, hhandlers⟩ := received_once_each hrun
  exact ⟨hrun, hnone, hpassed (relayed.take 8) 0 _ (relayed.drop 9) rfl, halone, hhandlers⟩

end EventBus

end Chartboard
