import ChatRelay.Proofs.Coordinator.Sight
import ChatRelay.Web.Surface
import Mathlib.Data.List.Basic

/-!
# Surfaces and their sockets

The handlers of one surface in any order: pages connect and go, report that they are hidden or shown, and send messages.
A page that goes has the surface hidden first, and its socket is forgotten when that has been saved. In the meantime
another page may have come.

- `Scene`: the surface with all handlers that were begun on it, `Scene.step` one move, `Scene.upTo` the moments of a
  schedule;
- `Scene.Attended`: a visible surface has a socket, and the page that came last and has not gone has its own;
- `Scene.attended_iff`: before a shutdown the surface is attended at all moments exactly when every page that has gone
  was the last to come and leaves the surface hidden; and no message of a response is lost when the surface is attended;
- `Scene.reconnect_drops`: a page that connects while the last one goes loses its socket, and a response is lost.
-/

namespace ChatRelay.Surface

/-! ## What a point belongs to -/

/-- What a request asks of the coordinator. -/
def Request.errand : Request → Coordinator.Request
  | .attach _ => .visible
  | .detach _ => .hidden
  | .setVisible visible => if visible then .visible else .hidden
  | .inbound message => .inbound message
  | .shutdown => .shutdown

/-- What a request asks the coordinator for. -/
def Request.purpose : Request → Purpose
  | .attach _ => .showing
  | .detach _ => .leaving
  | .setVisible _ => .showing
  | .inbound _ => .handling
  | .shutdown => .leaving

theorem errand_ne_shutdown {r : Request} (hr : r ≠ .shutdown) : r.errand ≠ .shutdown := by
  cases r with
  | shutdown => exact absurd rfl hr
  | setVisible visible => cases visible <;> simp [Request.errand]
  | _ => simp [Request.errand]

/-- Unless it is a shutdown, only a page that goes makes the surface forget its socket. -/
theorem eq_detach_of_leaving {r : Request} (hr : r ≠ .shutdown) (hp : r.purpose = .leaving) :
    ∃ socket, r = .detach socket := by
  cases r with
  | detach socket => exact ⟨socket, rfl⟩
  | shutdown => exact absurd rfl hr
  | _ => cases hp

/-- The requests whose handlers can wait at a point. -/
def Point.Serves (r : Request) : Point → Prop
  | .asking purpose pt => purpose = r.purpose ∧ pt.Serves r.errand
  | .posting purpose pt => purpose = r.purpose ∧ pt.Serves r.errand

/-- A turn that ends the handler of a request or waits where it can wait. -/
def Turn.Serves (r : Request) (t : Turn) : Prop := ∀ call pt, t.next = .waiting call pt → pt.Serves r

/-! ## Turns -/

/-- All that a surface does after a step of its coordinator. -/
inductive After (s : Surface) (purpose : Purpose) (t : Coordinator.Turn) :
    Surface → Next SurfaceCall Point (Option Coordinator.Outcome) → Prop
  /-- The handler of a page that goes is at its end. -/
  | left (outcome : Coordinator.Outcome) : t.next = .finished (.ok outcome) → purpose = .leaving →
      After s purpose t ⟨none, t.coordinator⟩ (.finished (.ok none))
  | finished (r : Except Fault (Option Coordinator.Outcome)) : (purpose = .leaving → ∃ f, r = .error f) →
      After s purpose t ⟨s.socket, t.coordinator⟩ (.finished r)
  | asking (call : Call) (pt : Coordinator.Point) : t.next = .waiting call pt → (∀ e, call ≠ .deliver e) →
      After s purpose t ⟨s.socket, t.coordinator⟩ (.waiting (.ask call) (.asking purpose pt))
  | posting (e : Outbound) (pt : Coordinator.Point) (socket : Socket) : t.next = .waiting (.deliver e) pt →
      s.socket = some socket →
      After s purpose t ⟨s.socket, t.coordinator⟩ (.waiting (.post socket e.toJson) (.posting purpose pt))
  /-- There is no socket for a message. -/
  | losing (e : Outbound) (pt : Coordinator.Point) : t.next = .waiting (.deliver e) pt → s.socket = none →
      After s purpose t ⟨s.socket, t.coordinator⟩ (.waiting .proceed (.posting purpose pt))

theorem after_cases (s : Surface) (purpose : Purpose) (t : Coordinator.Turn) :
    After s purpose t (after s purpose t).surface (after s purpose t).next := by
  unfold after
  rcases hn : t.next with (f | outcome) | ⟨call, pt⟩
  · exact .finished (.error f) fun _ => ⟨f, rfl⟩
  · cases purpose with
    | showing => exact .finished (.ok none) (by simp)
    | handling => exact .finished (.ok (some outcome)) (by simp)
    | leaving => exact .left outcome hn rfl
  · cases call with
    | deliver e =>
      rcases hs : s.socket with _ | socket
      · have hlost : After s purpose t _ _ := .losing e pt hn hs
        simpa [send, hs, Turn.report] using hlost
      · have hsent : After s purpose t _ _ := .posting e pt socket hn hs
        simpa [send, hs, Turn.report] using hsent
    | _ => exact .asking _ pt hn (by simp)

/-- Unless a page goes, the socket stays. -/
theorem surface_after (s : Surface) {purpose : Purpose} (hp : purpose ≠ .leaving) (t : Coordinator.Turn) :
    (after s purpose t).surface = ⟨s.socket, t.coordinator⟩ := by
  have ha := after_cases s purpose t
  generalize (after s purpose t).surface = s' at ha
  generalize (after s purpose t).next = next at ha
  cases ha with
  | left outcome hn hp' => exact absurd hp' hp
  | _ => rfl

theorem coordinator_after (s : Surface) (purpose : Purpose) (t : Coordinator.Turn) :
    (after s purpose t).surface.coordinator = t.coordinator := by
  have ha := after_cases s purpose t
  generalize (after s purpose t).surface = s' at ha
  generalize (after s purpose t).next = next at ha
  cases ha <;> rfl

/-- A message of a response that finds no socket is one of a visible surface. -/
theorem lost_after {s : Surface} {purpose purpose' : Purpose} {t : Coordinator.Turn} {v : Bool} (ht : t.Shows v)
    {pt : Coordinator.Point} (hn : (after s purpose t).next = .waiting .proceed (.posting purpose' pt))
    (hpt : ∀ restored, pt ≠ .announcing restored) :
    (after s purpose t).surface.coordinator.outbox.visible = true ∧ (after s purpose t).surface.socket = none := by
  have ha := after_cases s purpose t
  rw [hn] at ha
  generalize (after s purpose t).surface = s' at ha
  cases ha with
  | losing e pt hw hs =>
    rcases ht.told _ pt hw e rfl with rfl | ⟨restored, rfl⟩
    · exact ⟨ht.sight, hs⟩
    · exact absurd rfl (hpt restored)

theorem serves_after (s : Surface) {r : Request} {t : Coordinator.Turn} (h : t.Serves r.errand) :
    (after s r.purpose t).Serves r := by
  intro call pt hn
  have ha := after_cases s r.purpose t
  rw [hn] at ha
  generalize (after s r.purpose t).surface = s' at ha
  cases ha with
  | asking call pt' hw => exact ⟨rfl, h _ pt' hw⟩
  | posting e pt' socket hw => exact ⟨rfl, h _ pt' hw⟩
  | losing e pt' hw => exact ⟨rfl, h _ pt' hw⟩

/-- A request is passed over, or asks something of the coordinator. A page that connects has its socket then. -/
theorem begin_cases [Host] (s : Surface) (r : Request) :
    s.begin r = finish s ∨
    ∃ s₁ : Surface, s₁.coordinator = s.coordinator ∧ (s.begin r).surface = (ask s₁ r.purpose r.errand).surface ∧
      (s.begin r).next = (ask s₁ r.purpose r.errand).next := by
  cases r with
  | attach socket => exact .inr ⟨{ s with socket := some socket }, rfl, rfl, rfl⟩
  | detach socket =>
    by_cases hs : s.socket = some socket
    · exact .inr ⟨s, rfl, by simp [begin, hs, Request.purpose, Request.errand]⟩
    · exact .inl (if_neg hs)
  | setVisible visible =>
    by_cases hs : s.socket.isNone = true
    · exact .inl (if_pos hs)
    · exact .inr ⟨s, rfl, by simp [begin, hs, Request.purpose, Request.errand]⟩
  | inbound m => exact .inr ⟨s, rfl, rfl, rfl⟩
  | shutdown => exact .inr ⟨s, rfl, rfl, rfl⟩

/-- A request begins where its handler can wait. -/
theorem serves_begin [Host] (s : Surface) (r : Request) : (s.begin r).Serves r := by
  rcases begin_cases s r with he | ⟨s₁, -, -, hn⟩
  · rw [he]
    rintro call pt ⟨⟩
  · intro call pt hw
    rw [hn] at hw
    exact serves_after s₁ (Coordinator.serves_begin _ _) call pt hw

/-- The coordinator's step when a handler of a surface goes on. -/
def advance (s : Surface) (a : Except Fault SurfaceAnswer) : Point → Coordinator.Turn
  | .asking _ pt => s.coordinator.resume (a.map SurfaceAnswer.toAnswer) pt
  | .posting _ pt => s.coordinator.resume (.ok .done) pt

theorem resume_eq (s : Surface) (a : Except Fault SurfaceAnswer) {pt : Point} {r : Request} (hpt : pt.Serves r) :
    (s.resume a pt).surface = (after s r.purpose (s.advance a pt)).surface ∧
      (s.resume a pt).next = (after s r.purpose (s.advance a pt)).next := by
  cases pt with
  | asking purpose pt =>
    obtain ⟨rfl, -⟩ := hpt
    exact ⟨rfl, rfl⟩
  | posting purpose pt =>
    obtain ⟨rfl, -⟩ := hpt
    exact ⟨rfl, rfl⟩

theorem serves_advance (s : Surface) (a : Except Fault SurfaceAnswer) {pt : Point} {r : Request} (hpt : pt.Serves r) :
    (s.advance a pt).Serves r.errand := by
  cases pt with
  | asking purpose pt => exact Coordinator.serves_resume _ _ hpt.2
  | posting purpose pt => exact Coordinator.serves_resume _ _ hpt.2

theorem shows_advance (s : Surface) (a : Except Fault SurfaceAnswer) {pt : Point} {r : Request} (hpt : pt.Serves r)
    (hr : r.errand ≠ .shutdown) : (s.advance a pt).Shows s.coordinator.outbox.visible := by
  cases pt with
  | asking purpose pt => exact Coordinator.shows_resume s.coordinator _ hpt.2 hr
  | posting purpose pt => exact Coordinator.shows_resume s.coordinator (.ok .done) hpt.2 hr

/-! ## Schedules -/

/-- A request that is being handled or was. -/
abbrev Handler := Schedule.Handler Request SurfaceCall SurfaceAnswer Point (Option Coordinator.Outcome)

/-- A surface with its handlers. -/
abbrev Scene := Schedule.Scene Surface Request SurfaceCall SurfaceAnswer Point (Option Coordinator.Outcome)

/-- What can happen next. -/
abbrev Move := Schedule.Move Request SurfaceAnswer

/-- The page that came last, unless it has gone since. -/
def keep (kept : Option Socket) : Request → Option Socket
  | .attach socket => some socket
  | .detach socket => if kept = some socket then none else kept
  | _ => kept

namespace Scene

/-- The surface of a scene. -/
abbrev surface (s : Scene) : Surface := s.owner

/-- A surface that nothing has happened to. -/
def start (stateKey : String) : Scene := ⟨.new stateKey, []⟩

/-- The surface counts as visible. -/
def Visible (s : Scene) : Prop := s.surface.coordinator.outbox.visible = true

/-- The page that came last, unless it has gone since. -/
def keeper (s : Scene) : Option Socket := (s.handlers.map (·.request)).foldl keep none

/-- A visible surface has a socket, and the page that came last and has not gone has its own. -/
structure Attended (s : Scene) : Prop where
  connected : Visible s → s.surface.socket ≠ none
  kept : ∀ socket, keeper s = some socket → s.surface.socket = some socket

/-- Every handler waits where the handler of its request can wait. -/
def Serving (s : Scene) : Prop := ∀ h ∈ s.handlers, ∀ call pt, h.status = .waiting call pt → pt.Serves h.request

section

variable [Host]

/-- The turn that a move takes, if it does anything. -/
abbrev turn? (s : Scene) (m : Move) : Option Turn := Schedule.turn? begin resume s m

/-- One move. A handler that waits for nothing takes no answer. -/
abbrev step (s : Scene) (m : Move) : Scene := Schedule.step begin resume Turn.surface Turn.next s m

/-- A schedule as far as its first moves. -/
abbrev upTo (stateKey : String) (moves : List Move) (k : Nat) : Scene :=
  Schedule.upTo begin resume Turn.surface Turn.next (start stateKey) moves k

/-- All that one move can do. -/
abbrev Shift (s : Scene) (m : Move) (s' : Scene) : Prop :=
  Schedule.Shift begin resume Turn.surface Turn.next s m s'

/-- With the move the handler of a page that goes comes to its end. -/
def Leaves (s : Scene) (m : Move) : Prop :=
  ∃ i a h socket t, m = .answer i a ∧ s.handlers[i]? = some h ∧ h.request = .detach socket ∧ turn? s m = some t ∧
    t.next = .finished (.ok none)

/-- The move finds no socket for a message of a response. -/
def Drops (s : Scene) (m : Move) : Prop :=
  ∃ t purpose pt, turn? s m = some t ∧ t.next = .waiting .proceed (.posting purpose pt) ∧
    ∀ restored, pt ≠ .announcing restored

/-! ## What one move keeps -/

theorem serving_shift {s s' : Scene} {m : Move} (hs : Shift s m s') (h : s.Serving) : s'.Serving := by
  refine Schedule.forall_shift hs (fun r _ => serves_begin s.surface r) (fun a r d call pt hwaits => ?_) h
  have hpt : pt.Serves r := hwaits call pt rfl
  intro call' pt' hn
  rw [(resume_eq s.surface a hpt).2] at hn
  exact serves_after s.surface (serves_advance s.surface a hpt) call' pt' hn

theorem visible_begin (s : Scene) (r : Request) :
    (s.step (.begin r)).Visible ↔ (s.surface.begin r).surface.coordinator.outbox.visible = true := Iff.rfl

theorem keeper_begin (s : Scene) (r : Request) : (s.step (.begin r)).keeper = keep s.keeper r := by
  simp [keeper, Schedule.step]

omit [Host] in
theorem keeper_answer {s : Scene} {i : Nat} {r : Request} {d d' : List (SurfaceCall × Except Fault SurfaceAnswer)}
    {next next' : Next SurfaceCall Point (Option Coordinator.Outcome)} (hi : s.handlers[i]? = some ⟨r, d, next⟩)
    (surface : Surface) : keeper ⟨surface, s.handlers.set i ⟨r, d', next'⟩⟩ = s.keeper := by
  simp only [keeper, Schedule.requests_answer hi]

/-! ## Attendance -/

/-- A request that begins leaves a surface attended if it leaves a visible one with a socket, and the page that came
last with its own. -/
theorem attended_of_begin {s : Scene} {r : Request}
    (hconnected : (s.step (.begin r)).Visible → (s.surface.begin r).surface.socket ≠ none)
    (hkept : ∀ socket, keep s.keeper r = some socket → (s.surface.begin r).surface.socket = some socket) :
    (s.step (.begin r)).Attended :=
  ⟨hconnected, fun socket hk => hkept socket ((keeper_begin s r).symm.trans hk)⟩

omit [Host] in
/-- A page that is left when one goes is another one, and has the socket of an attended surface. -/
theorem Attended.kept_detach {s : Scene} (h : s.Attended) {socket socket' : Socket}
    (hk : keep s.keeper (.detach socket) = some socket') : s.surface.socket = some socket' ∧ socket' ≠ socket := by
  simp only [keep] at hk
  split at hk
  · cases hk
  · next hne =>
    refine ⟨h.kept socket' hk, ?_⟩
    rintro rfl
    exact hne hk

/-- A page that goes has the surface hidden if it has the socket, and else changes nothing. -/
theorem attended_detach {s : Scene} (h : s.Attended) (socket : Socket) :
    (s.step (.begin (.detach socket))).Attended := by
  by_cases hsocket : s.surface.socket = some socket
  · have hs : s.surface.begin (.detach socket) = ask s.surface .leaving .hidden := if_pos hsocket
    have hv : ¬(s.step (.begin (.detach socket))).Visible := by
      have hsight := (Coordinator.shows_begin s.surface.coordinator (r := .hidden) (by simp)).sight
      rw [visible_begin, hs, ask, coordinator_after, hsight]
      exact Bool.false_ne_true
    refine attended_of_begin (fun hvis => absurd hvis hv) fun socket' hk => ?_
    obtain ⟨hs', hne⟩ := h.kept_detach hk
    exact absurd (Option.some.inj (hs'.symm.trans hsocket)) hne
  · have hs : s.surface.begin (.detach socket) = finish s.surface := if_neg hsocket
    refine attended_of_begin ?_ ?_
    · rw [visible_begin, hs]
      exact h.connected
    · rw [hs]
      exact fun socket' hk => (h.kept_detach hk).1

/-- Unless it is a shutdown, a request that begins leaves an attended surface attended. -/
theorem attended_begin {s : Scene} (h : s.Attended) {r : Request} (hr : r ≠ .shutdown) :
    (s.step (.begin r)).Attended := by
  cases r with
  | attach socket =>
    have hs : (s.surface.begin (.attach socket)).surface.socket = some socket :=
      congrArg Surface.socket (surface_after { s.surface with socket := some socket } (by simp) _)
    exact attended_of_begin (by simp [hs]) fun socket' hk => hs.trans hk
  | detach socket => exact attended_detach h socket
  | setVisible visible =>
    rcases hsocket : s.surface.socket with _ | socket
    · have hs : s.surface.begin (.setVisible visible) = finish s.surface := if_pos (by simp [hsocket])
      refine attended_of_begin ?_ ?_
      · rw [visible_begin, hs]
        exact h.connected
      · rw [hs]
        exact h.kept
    · have hs : s.surface.begin (.setVisible visible) =
          ask s.surface .showing (if visible then .visible else .hidden) := if_neg (by simp [hsocket])
      have hs' : (s.surface.begin (.setVisible visible)).surface.socket = s.surface.socket := by
        rw [hs, ask, surface_after _ (by simp)]
      refine attended_of_begin (fun _ => by simp [hs', hsocket]) ?_
      rw [hs']
      exact h.kept
  | inbound m =>
    have hs : (s.surface.begin (.inbound m)).surface =
        ⟨s.surface.socket, (s.surface.coordinator.begin (.inbound m)).coordinator⟩ := surface_after _ (by simp) _
    have hsight := (Coordinator.shows_begin s.surface.coordinator (r := .inbound m) (by simp)).sight
    refine attended_of_begin ?_ ?_
    · rw [visible_begin, hs, hsight]
      exact h.connected
    · rw [hs]
      exact h.kept
  | shutdown => exact absurd rfl hr

/-- Unless a shutdown is being handled, an answer leaves an attended surface attended exactly when it ends the handler
of no page that has gone, or the surface is hidden and no page is left. -/
theorem attended_answer {s : Scene} (hserve : s.Serving) (hopen : ∀ h ∈ s.handlers, h.request ≠ .shutdown)
    (h : s.Attended) (i : Nat) (a : Except Fault SurfaceAnswer) :
    (s.step (.answer i a)).Attended ↔ (s.Leaves (.answer i a) → ¬s.Visible ∧ s.keeper = none) := by
  rcases hi : s.handlers[i]? with _ | ⟨r, d, result | ⟨call, pt⟩⟩
  · simp [Leaves, Schedule.step, Schedule.turn?, hi, h]
  · simp [Leaves, Schedule.step, Schedule.turn?, hi, h]
  have hmem := List.mem_of_getElem? hi
  have hpt : pt.Serves r := hserve _ hmem call pt rfl
  have hr : r ≠ .shutdown := hopen _ hmem
  have hsight := (shows_advance s.surface a hpt (errand_ne_shutdown hr)).sight
  have ha := after_cases s.surface r.purpose (s.surface.advance a pt)
  rw [← (resume_eq s.surface a hpt).1, ← (resume_eq s.surface a hpt).2] at ha
  have hleaves : s.Leaves (.answer i a) ↔
      (∃ socket, r = .detach socket) ∧ (s.surface.resume a pt).next = .finished (.ok none) := by
    simp [Leaves, Schedule.turn?, hi]
  rw [hleaves]
  simp only [Schedule.step_answer hi]
  generalize (s.surface.resume a pt).surface = surface at ha
  generalize (s.surface.resume a pt).next = next at ha
  have hkeep : keeper ⟨surface, s.handlers.set i ⟨r, d ++ [(call, a)], next⟩⟩ = s.keeper := keeper_answer hi surface
  have hstay (hsurface : surface = ⟨s.surface.socket, (s.surface.advance a pt).coordinator⟩) :
      Attended ⟨surface, s.handlers.set i ⟨r, d ++ [(call, a)], next⟩⟩ := by
    subst hsurface
    exact ⟨fun hv => h.connected (hsight.symm.trans hv), fun socket hk => h.kept socket (hkeep.symm.trans hk)⟩
  cases ha with
  | left outcome hn hp =>
    constructor
    · intro hatt hl
      refine ⟨fun hv => hatt.connected (hsight.trans hv) rfl, ?_⟩
      rcases hk : s.keeper with _ | socket
      · rfl
      · cases hatt.kept socket (hkeep.trans hk)
    · intro hl
      obtain ⟨hv, hk⟩ := hl ⟨eq_detach_of_leaving hr hp, rfl⟩
      refine ⟨fun hv' => absurd (hsight.symm.trans hv') hv, fun socket hk' => ?_⟩
      rw [hkeep, hk] at hk'
      cases hk'
  | finished result hp =>
    refine ⟨?_, fun _ => hstay rfl⟩
    rintro - ⟨⟨socket, rfl⟩, hfin⟩
    obtain ⟨f, rfl⟩ := hp rfl
    cases hfin
  | _ =>
    refine ⟨?_, fun _ => hstay rfl⟩
    rintro - ⟨-, hfin⟩
    cases hfin

/-- When the surface is attended after a move, the move has lost no message of a response. -/
theorem not_drops_of_attended {s : Scene} (hserve : s.Serving) (hopen : ∀ h ∈ s.handlers, h.request ≠ .shutdown)
    {m : Move} (hm : m ≠ .begin .shutdown) (h : (s.step m).Attended) : ¬s.Drops m := by
  rintro ⟨t, purpose, pt, ht, hn, hpt⟩
  suffices hlost : t.surface.coordinator.outbox.visible = true ∧ t.surface.socket = none by
    have hs : (s.step m).surface = t.surface := Schedule.owner_step ht
    exact h.connected (by rw [Visible, hs, hlost.1]) (by rw [hs, hlost.2])
  rcases Schedule.of_turn? ht with ⟨r, rfl, rfl⟩ | ⟨i, a, r, d, call, pt', rfl, hi, rfl⟩
  · have hr : r ≠ .shutdown := fun he => hm (by rw [he])
    rcases begin_cases s.surface r with he | ⟨s₁, -, hsurface, hnext⟩
    · rw [he] at hn
      cases hn
    · rw [hnext] at hn
      rw [hsurface]
      exact lost_after (Coordinator.shows_begin _ (errand_ne_shutdown hr)) hn hpt
  · have hmem := List.mem_of_getElem? hi
    have hpt' : pt'.Serves r := hserve _ hmem call pt' rfl
    obtain ⟨hsurface, hnext⟩ := resume_eq s.surface a hpt'
    rw [hnext] at hn
    rw [hsurface]
    exact lost_after (shows_advance s.surface a hpt' (errand_ne_shutdown (hopen _ hmem))) hn hpt

/-! ## Schedules without a shutdown -/

section

variable {stateKey : String} {moves : List Move} {k : Nat}

theorem serving_upTo : (upTo stateKey moves k).Serving :=
  Schedule.upTo_induction (P := Serving) (by simp [Serving, start]) (fun _ hs h => serving_shift hs h) k

/-- In a schedule without a shutdown no handler handles one. -/
theorem open_upTo (hopen : ∀ m ∈ moves, m ≠ .begin .shutdown) :
    ∀ h ∈ (upTo stateKey moves k).handlers, h.request ≠ .shutdown :=
  Schedule.request_ne hopen

end

/-- **When a surface is attended.** In a schedule without a shutdown the surface is attended at all moments exactly
when, whenever the handler of a page that has gone comes to its end, the surface is hidden and no page is left that came
after it. And no move after which the surface is attended loses a message of a response. -/
theorem attended_iff (stateKey : String) (moves : List Move) (hopen : ∀ m ∈ moves, m ≠ .begin .shutdown) :
    let s := upTo stateKey moves
    ((∀ k, (s k).Attended) ↔
      ∀ k m, moves[k]? = some m → (s k).Leaves m → ¬(s k).Visible ∧ (s k).keeper = none) ∧
    ∀ k m, moves[k]? = some m → (s (k + 1)).Attended → ¬(s k).Drops m := by
  intro s
  have hstart : (s 0).Attended := ⟨fun hv => absurd hv Bool.false_ne_true, fun socket hk => by cases hk⟩
  refine ⟨⟨fun hall k m hm hl => ?_, fun hall k => ?_⟩, fun k m hm hatt => ?_⟩
  · obtain ⟨i, a, -, -, -, rfl, -⟩ := id hl
    have hs : s (k + 1) = (s k).step (.answer i a) := Schedule.upTo_succ hm
    exact (attended_answer serving_upTo (open_upTo hopen) (hall k) i a).1 (hs ▸ hall (k + 1)) hl
  · induction k with
    | zero => exact hstart
    | succ k ih =>
      rcases hm : moves[k]? with _ | m
      · have hs : s (k + 1) = s k := Schedule.upTo_past hm
        rw [hs]
        exact ih
      · have hs : s (k + 1) = (s k).step m := Schedule.upTo_succ hm
        rw [hs]
        cases m with
        | begin r => exact attended_begin ih fun hr => hopen _ (List.mem_of_getElem? hm) (by rw [hr])
        | answer i a => exact (attended_answer serving_upTo (open_upTo hopen) ih i a).2 (hall k _ hm)
  · have hs : s (k + 1) = (s k).step m := Schedule.upTo_succ hm
    rw [hs] at hatt
    exact not_drops_of_attended serving_upTo (open_upTo hopen) (hopen m (List.mem_of_getElem? hm)) hatt

end

/-! ## A page that connects while another goes -/

section

attribute [local instance] Host.sample

/-- A page connects and goes, and when it has gone another one connects. -/
def reconnectInTime : List Move :=
  [.begin (.attach ⟨"a", 0⟩), .begin (.detach ⟨"a", 0⟩), .answer 1 (.ok (.answer (.value .null))),
    .answer 1 (.ok (.answer .done)), .begin (.attach ⟨"b", 1⟩)]

/-- The surface is attended throughout. -/
theorem reconnectInTime_attended :
    let s := upTo "k" reconnectInTime
    (∀ m ∈ reconnectInTime, m ≠ .begin .shutdown) ∧ (s 3).Leaves (.answer 1 (.ok (.answer .done))) ∧
      (∀ k, (s k).Attended) ∧ (s 5).Visible := by
  intro s
  have hopen : ∀ m ∈ reconnectInTime, m ≠ .begin .shutdown := by simp [reconnectInTime]
  refine ⟨hopen, ⟨1, _, _, ⟨"a", 0⟩, _, rfl, rfl, rfl, rfl, rfl⟩, ?_, rfl⟩
  refine (attended_iff "k" reconnectInTime hopen).1.2 fun k m hm hl => ?_
  -- answers come only while the page has gone and the other has not come
  obtain ⟨i, a, -, -, -, rfl, -⟩ := hl
  have hk : k = 2 ∨ k = 3 := by
    rcases k with _ | _ | _ | _ | _ | k <;> simp [reconnectInTime] at hm ⊢
  rcases hk with rfl | rfl
  · exact ⟨Bool.false_ne_true, rfl⟩
  · exact ⟨Bool.false_ne_true, rfl⟩

/-- A tab is open when its page goes. While the tab is being saved another page connects, and then the tab is
prompted. -/
def reconnectMidway : List Move :=
  [.begin (.attach ⟨"a", 0⟩), .begin (.inbound (Coordinator.newTabMessage "t")),
    .answer 1 (.ok (.answer (.session "s"))), .answer 1 (.ok (.answer (.value .null))),
    .answer 1 (.ok (.answer (.value (.int 0)))), .answer 1 (.ok (.answer .done)), .begin (.detach ⟨"a", 0⟩),
    .begin (.attach ⟨"b", 1⟩), .answer 2 (.ok (.answer (.value .null))), .answer 2 (.ok (.answer (.value (.int 0)))),
    .answer 2 (.ok (.answer .done)), .begin (.inbound (Coordinator.promptMessage "t" "m" "x")),
    .answer 4 (.ok (.answer .done))]

/-- The end of the page that went takes the socket of the page that came, and the answer to the prompt is lost. -/
theorem reconnect_drops :
    let s := upTo "k" reconnectMidway 13
    (∀ m ∈ reconnectMidway, m ≠ .begin .shutdown) ∧ s.Visible ∧ s.surface.socket = none ∧
      s.keeper = some ⟨"b", 1⟩ ∧ s.Drops (.answer 4 (.ok (.answer (.chunk (.str "hi"))))) ∧
      (s.turn? (.answer 4 (.ok (.answer (.chunk (.str "hi")))))).map (·.notices) =
        some [.noSocket "response-chunk"] := by
  intro s
  exact ⟨by simp [reconnectMidway], rfl, rfl, rfl, ⟨_, .handling, _, rfl, rfl, by simp⟩, rfl⟩

end

end Scene

end ChatRelay.Surface
