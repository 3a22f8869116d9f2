import UserAccounts.Proofs.Http.Documented

/-!
# Shutting down

One health is held by many: by whoever starts and stops servers, and by every application and
server that answers probes from it. `HealthUse` is what one of them may do with it, and
`answerAfter` the response to a request after any number of them had their turns.

* `HealthUse.live_afterAll` and `HealthUse.ready_afterAll` — the flags after any number of turns;
* `answerAfter_live` and `answerAfter_ready` — what probes answer then;
* `shutdown_final_iff` — when both probes keep failing once the health was marked unhealthy. It is
  never live again, but one who marks it ready afterwards, or starts a server, makes it ready again.
-/

namespace UserAccounts.Http

/-- What answers requests with the health that it holds. -/
inductive Holder where
  | app (app : App)
  | server (server : Server)

/-- Serve a request. -/
def Holder.serve : Holder → Health → Request → Program Response
  | .app a => a.serve
  | .server s => s.serve

/-- Something that is done with the health. -/
inductive HealthUse where
  | markReady
  | markUnhealthy
  /-- Start a server. -/
  | start (app : App) (counter : Option RequestCounter) (addressIsFree : Bool)
  /-- Let a holder serve a request. -/
  | request (holder : Holder) (r : Request)

namespace HealthUse

/-- The health after a use of it. -/
def after (health : Health) : HealthUse → Health
  | .markReady => health.markReady
  | .markUnhealthy => health.markUnhealthy
  | .start app counter addressIsFree =>
    match Server.start app counter addressIsFree health with
    | .ok (_, health) => health
    | .error _ => health
  | .request _ _ => health

/-- The health after several uses of it, one after the other. -/
def afterAll (health : Health) (uses : List HealthUse) : Health := uses.foldl after health

/-- Whether the health is marked unhealthy. -/
def lowers : HealthUse → Bool
  | .markUnhealthy => true
  | _ => false

/-- Whether the health is marked ready, be it by a server that was started. -/
def raises : HealthUse → Bool
  | .markReady => true
  | .start _ counter addressIsFree => counter.isSome && addressIsFree
  | _ => false

/-- Whether the last of the marks, if there are any, says that the health is ready. -/
def raisedLast (uses : List HealthUse) : Bool :=
  (uses.filter fun use => use.raises || use.lowers).getLast?.any raises

/-! ## The flags -/

theorem live_after (health : Health) (use : HealthUse) :
    (use.after health).live = (health.live && !use.lowers) := by
  cases use with
  | markReady => simp [after, Health.markReady, lowers]
  | markUnhealthy => simp [after, Health.markUnhealthy, lowers]
  | start app counter addressIsFree =>
    cases counter <;> cases addressIsFree <;>
      simp [after, Server.start, Health.markReady, lowers]
  | request holder r => simp [after, lowers]

theorem ready_after (health : Health) (use : HealthUse) :
    (use.after health).ready = (use.raises || (health.ready && !use.lowers)) := by
  cases use with
  | markReady => simp [after, Health.markReady, raises]
  | markUnhealthy => simp [after, Health.markUnhealthy, raises, lowers]
  | start app counter addressIsFree =>
    cases counter <;> cases addressIsFree <;>
      simp [after, Server.start, Health.markReady, raises, lowers]
  | request holder r => simp [after, raises, lowers]

theorem afterAll_concat (health : Health) (uses : List HealthUse) (use : HealthUse) :
    afterAll health (uses ++ [use]) = use.after (afterAll health uses) := by
  simp only [afterAll, List.foldl_concat]

/-- The last mark is the one that was just made, if one was made. -/
theorem raisedLast_concat (uses : List HealthUse) (use : HealthUse) :
    raisedLast (uses ++ [use]) = (use.raises || (raisedLast uses && !use.lowers)) := by
  cases hraises : use.raises <;> cases hlowers : use.lowers <;>
    simp [raisedLast, List.filter_append, hraises, hlowers]

/-- A service that was started is live until it is marked unhealthy. -/
theorem live_afterAll (uses : List HealthUse) :
    (afterAll .starting uses).live = !uses.any lowers := by
  induction uses using List.reverseRecOn with
  | nil => rfl
  | append_singleton uses use ih =>
    rw [afterAll_concat, live_after, ih, List.any_append, Bool.not_or]
    simp

/-- It is ready if it was marked ready, and was not marked unhealthy since. -/
theorem ready_afterAll (uses : List HealthUse) :
    (afterAll .starting uses).ready = raisedLast uses := by
  induction uses using List.reverseRecOn with
  | nil => rfl
  | append_singleton uses use ih => rw [afterAll_concat, ready_after, ih, raisedLast_concat]

/-- Make use of the health, and say what becomes of it. The response to a request is for whoever
sent it. -/
def perform (health : Health) (use : HealthUse) : Program Health :=
  match use with
  | .request holder r => do
    let _ ← holder.serve health r
    pure (use.after health)
  | _ => pure (use.after health)

/-- Make use of the health several times, one after the other. -/
def performAll : Health → List HealthUse → Program Health
  | health, [] => pure health
  | health, use :: rest => do performAll (← use.perform health) rest

theorem run_perform {σ : Type} (health : Health) (use : HealthUse) (m : Machine σ) (s : σ) :
    ((use.perform health).run m s).1 = use.after health := by
  cases use with
  | request holder r =>
    simp only [perform, Program.bind_eq, Program.run_bind, Program.pure_eq_done, Program.run_done]
  | _ => rfl

/-- Whatever is answered meanwhile, the health is what the marks have made of it. -/
theorem run_performAll {σ : Type} (health : Health) (uses : List HealthUse) (m : Machine σ)
    (s : σ) : ((performAll health uses).run m s).1 = afterAll health uses := by
  induction uses generalizing health s with
  | nil => rfl
  | cons use rest ih =>
    rw [performAll, Program.bind_eq, Program.run_bind, run_perform, ih]
    rfl

end HealthUse

/-! ## The probes -/

open HealthUse

/-- The response to a request after the health of a service that was started has been used. -/
def answerAfter (uses : List HealthUse) (holder : Holder) (r : Request) : Program Response := do
  holder.serve (← performAll .starting uses) r

section Answers

variable {σ : Type} {holder : Holder} {r : Request}

theorem Holder.serve_of_route {route : Route} (hroute : r.route? = some route) (health : Health) :
    ∃ app : App, holder.serve health r = respondTracked r (app.handle health r) := by
  cases holder with
  | app app => exact ⟨app, rfl⟩
  | server server =>
    obtain ⟨app, counter⟩ := server
    have hserving : (Server.mk app counter).serve health r ∈
        [app.serve health r, (Server.mk app counter).serve health r] := by simp
    exact ⟨app, eq_respondTracked_of_route hroute hserving⟩

/-- A request for a probe is answered by it. -/
theorem Holder.run_serve_of_probe {health : Health} {route : Route} {passes : Bool}
    (hroute : r.route? = some route)
    (hprobe : ∀ app : App, app.handle health r = .done (Health.probe passes)) (m : Machine σ)
    (s : σ) : ((holder.serve health r).run m s).1.status = if passes then 200 else 503 := by
  obtain ⟨app, hserve⟩ := holder.serve_of_route hroute health
  obtain ⟨entered, -, -, hrun, -⟩ := respondTracked_runs r (app.handle health r) m s
  rw [hserve, hrun, hprobe]
  rfl

theorem run_answerAfter (uses : List HealthUse) (m : Machine σ) (s : σ) :
    ∃ s', ((answerAfter uses holder r).run m s).1 =
      ((holder.serve (afterAll .starting uses) r).run m s').1 := by
  rw [answerAfter, Program.bind_eq, Program.run_bind, run_performAll]
  exact ⟨_, rfl⟩

/-- The service shows that it is alive until it is marked unhealthy, and never afterwards. -/
theorem answerAfter_live (hroute : r.route? = some .live) (uses : List HealthUse) (m : Machine σ)
    (s : σ) : ((answerAfter uses holder r).run m s).1.status =
      if uses.any lowers then 503 else 200 := by
  have hprobe (app : App) : app.handle (afterAll .starting uses) r =
      .done (Health.probe (!uses.any lowers)) := by
    unfold App.handle
    rw [hroute]
    simp only [live_afterAll, Program.pure_eq_done]
  obtain ⟨s', hrun⟩ := run_answerAfter uses m s
  rw [hrun, Holder.run_serve_of_probe hroute hprobe]
  cases uses.any lowers <;> rfl

/-- The service shows that it is ready if the last mark says so. -/
theorem answerAfter_ready (hroute : r.route? = some .ready) (uses : List HealthUse)
    (m : Machine σ) (s : σ) : ((answerAfter uses holder r).run m s).1.status =
      if raisedLast uses then 200 else 503 := by
  have hprobe (app : App) : app.handle (afterAll .starting uses) r =
      .done (Health.probe (raisedLast uses)) := by
    unfold App.handle
    rw [hroute]
    simp only [ready_afterAll, Program.pure_eq_done]
  obtain ⟨s', hrun⟩ := run_answerAfter uses m s
  rw [hrun, Holder.run_serve_of_probe hroute hprobe]

end Answers

/-- A health that was marked unhealthy fails both probes, and one that is ready is live, as anyone
sees who asks. -/
structure IsFinal {σ : Type} (m : Machine σ) (s : σ) (uses : List HealthUse) : Prop where
  failing : uses.any lowers = true → ∀ holder r,
    r.route? = some .ready ∨ r.route? = some .live →
    ((answerAfter uses holder r).run m s).1.status = 503
  live_of_ready : ∀ holder holder' r r', r.route? = some .ready → r'.route? = some .live →
    ((answerAfter uses holder r).run m s).1.status = 200 →
    ((answerAfter uses holder' r').run m s).1.status = 200

/-- A request for a probe. -/
def probeRequest (place : Place) : Request := ⟨"GET", place.pattern, [], []⟩

theorem route?_readyRequest : (probeRequest .ready).route? = some .ready := by decide +kernel

theorem route?_liveRequest : (probeRequest .live).route? = some .live := by decide +kernel

/-- What is wrong is a health that was marked ready when it had been marked unhealthy. -/
theorem isFinal_iff {σ : Type} {m : Machine σ} {s : σ} {uses : List HealthUse} :
    IsFinal m s uses ↔ ¬ (uses.any lowers = true ∧ raisedLast uses = true) := by
  constructor
  · rintro ⟨hfailing, -⟩ ⟨hlowered, hraised⟩
    have hstatus := hfailing hlowered (.app observedApp) _ (.inl route?_readyRequest)
    rw [answerAfter_ready route?_readyRequest, if_pos hraised] at hstatus
    cases hstatus
  · intro h
    constructor
    · rintro hlowered holder r (hroute | hroute)
      · rw [answerAfter_ready hroute, if_neg fun hraised => h ⟨hlowered, hraised⟩]
      · rw [answerAfter_live hroute, if_pos hlowered]
    · intro holder holder' r r' hready hlive hstatus
      rw [answerAfter_ready hready] at hstatus
      have hraised : raisedLast uses = true := by
        by_contra hraised
        rw [if_neg hraised] at hstatus
        cases hstatus
      rw [answerAfter_live hlive, if_neg fun hlowered => h ⟨hlowered, hraised⟩]

theorem lowers_of_raises {use : HealthUse} (h : use.raises = true) : use.lowers = false := by
  cases use with
  | markUnhealthy => cases h
  | _ => rfl

/-- If nothing marks the health ready after it was marked unhealthy, then the last mark does not
either. -/
theorem raisedLast_of_pairwise {uses : List HealthUse}
    (h : uses.Pairwise fun a b => a.lowers = true → b.raises = false)
    (hlowered : uses.any lowers = true) : raisedLast uses = false := by
  induction uses using List.reverseRecOn with
  | nil => cases hlowered
  | append_singleton uses use ih =>
    rw [List.pairwise_append] at h
    obtain ⟨hbefore, -, hlast⟩ := h
    rw [raisedLast_concat]
    by_cases hearlier : uses.any lowers = true
    · obtain ⟨mark, hmark, hlowers⟩ := List.any_eq_true.mp hearlier
      have hraises := hlast mark hmark use (List.mem_singleton_self use) hlowers
      rw [ih hbefore hearlier, hraises, Bool.false_or, Bool.false_and]
    · -- The health is marked unhealthy just now.
      have hlowers : use.lowers = true := by simpa [hearlier] using hlowered
      have hraises : use.raises = false := by
        by_contra hraises
        exact nomatch hlowers.symm.trans (lowers_of_raises (Bool.eq_true_of_not_eq_false hraises))
      rw [hraises, hlowers, Bool.not_true, Bool.and_false, Bool.or_false]

/-- Whoever uses the health of a service that was started, and in whatever order: the service shows
that it is live until it is marked unhealthy and never afterwards, and that it is ready exactly if
the last mark says so. So shutting it down is final all the time exactly if nobody marks it ready,
or starts a server with it, once it was marked unhealthy. -/
theorem shutdown_final_iff {σ : Type} (m : Machine σ) (s : σ) (uses : List HealthUse) :
    (∀ holder r, r.route? = some .live →
      ((answerAfter uses holder r).run m s).1.status = if uses.any lowers then 503 else 200) ∧
    (∀ holder r, r.route? = some .ready →
      ((answerAfter uses holder r).run m s).1.status = if raisedLast uses then 200 else 503) ∧
    ((∀ before, before <+: uses → IsFinal m s before) ↔
      uses.Pairwise fun a b => a.lowers = true → b.raises = false) := by
  refine ⟨fun holder r hroute => answerAfter_live hroute uses m s,
    fun holder r hroute => answerAfter_ready hroute uses m s,
    fun h => ?_, fun h before hbefore => ?_⟩
  · rw [List.pairwise_iff_getElem]
    intro i j hi hj hij hlowers
    have hlowered : (uses.take (j + 1)).any lowers = true := by
      refine List.any_eq_true.mpr ⟨uses[i], List.mem_take_iff_getElem.mpr ⟨i, ?_, rfl⟩, hlowers⟩
      omega
    by_contra hraises
    refine isFinal_iff.mp (h _ (List.take_prefix (j + 1) uses)) ⟨hlowered, ?_⟩
    rw [List.take_add_one, List.getElem?_eq_getElem hj, Option.toList_some, raisedLast_concat,
      Bool.eq_true_of_not_eq_false hraises, Bool.true_or]
  · refine isFinal_iff.mpr fun ⟨hlowered, hraised⟩ => ?_
    have hlast := raisedLast_of_pairwise (h.sublist hbefore.sublist) hlowered
    exact nomatch hraised.symm.trans hlast

/-- A server is started and stopped, and then the health is marked ready once more. -/
def restarted : List HealthUse :=
  [.start observedApp (some ⟨0⟩) true, .request (.app observedApp) (probeRequest .ready),
    .markUnhealthy, .request (.app observedApp) (probeRequest .live), .markReady]

/-- The service shows that it is ready although it is not live. -/
theorem restarted_is_ready :
    let machine := World.machine Backend.memory
    let start := World.start Memory.empty ⟨0, 0, 0⟩ "id"
    let holder : Holder := .server ⟨observedApp, ⟨0⟩⟩
    restarted.any lowers = true ∧
      ((answerAfter restarted holder (probeRequest .ready)).run machine start).1.status = 200 ∧
      ((answerAfter restarted holder (probeRequest .live)).run machine start).1.status = 503 ∧
      ¬ IsFinal machine start restarted := by
  intro machine start holder
  have hready : ((answerAfter restarted holder (probeRequest .ready)).run machine start).1.status =
      200 := answerAfter_ready route?_readyRequest restarted machine start
  have hlive : ((answerAfter restarted holder (probeRequest .live)).run machine start).1.status =
      503 := answerAfter_live route?_liveRequest restarted machine start
  refine ⟨rfl, hready, hlive, fun h => ?_⟩
  exact nomatch hready.symm.trans (h.failing rfl holder _ (.inl route?_readyRequest))

end UserAccounts.Http
