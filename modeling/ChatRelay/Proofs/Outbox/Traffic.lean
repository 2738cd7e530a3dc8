import ChatRelay.Outbox
import Mathlib.Data.List.Basic

/-!
# The traffic of an outbox

The routines of one outbox in any order: every list of moves is a schedule. A task calls a routine, and when the
routine waits for a delivery, the end of the delivery is a move of its own, which may come at any time and be a
failure.

- `Letter`: an event with the number of its send, by which events are told apart, and the task that sent it;
- `Traffic`: the outbox with the routines that wait, and the record of what has happened to the letters;
- `Traffic.step`, `Traffic.run`: one move and a schedule, made of the routines `Outbox.send`, `Outbox.release`,
  `Outbox.flush`, `Outbox.resume` and the changes `Outbox.hold`, `Outbox.close`;
- `Traffic.Shift`: all that one move can do (`Traffic.step_shift`).
-/

namespace ChatRelay.Outbox

variable {ε : Type}

/-- An event with the number of its send and the task that sent it. -/
structure Letter (ε : Type) where
  number : Nat
  sender : Nat
  event : ε

/-- The event that is being delivered. -/
def Point.event : Point ε → ε
  | .direct e => e
  | .replaying e _ => e

@[simp] theorem Point.event_direct (e : ε) : (Point.direct e).event = e := rfl

@[simp] theorem Point.event_replaying (e : ε) (n : Nat) : (Point.replaying e n).event = e := rfl

/-- The event that a replay has taken from the queue. -/
def Point.replayed? : Point ε → Option ε
  | .direct _ => none
  | .replaying e _ => some e

/-- A routine that waits for a delivery: the task that called it, the letter if it is a send, and where it waits. -/
structure Routine (ε : Type) where
  task : Nat
  carried : Option (Letter ε)
  point : Point (Letter ε)

/-- Something that happened to letters. -/
inductive Entry (ε : Type)
  /-- The letter was sent after the outbox was closed. -/
  | refused (l : Letter ε)
  /-- A delivery of the letter was begun while the surface was visible, or was not. -/
  | begun (l : Letter ε) (visible : Bool)
  /-- The delivery of the letter has ended well. -/
  | delivered (l : Letter ε)
  /-- The delivery that a routine waited for has failed. -/
  | failed (pt : Point (Letter ε)) (f : Fault)
  /-- The outbox was closed while the letters were queued, and a number of lost events was told. -/
  | closed (queued : List (Letter ε)) (told : Nat)

namespace Entry

/-- The delivery that was begun. -/
@[simp] def begun? : Entry ε → Option (Letter ε × Bool)
  | .begun l visible => some (l, visible)
  | _ => none

/-- The letter that was delivered. -/
@[simp] def delivered? : Entry ε → Option (Letter ε)
  | .delivered l => some l
  | _ => none

/-- The letter whose direct delivery has failed. -/
@[simp] def failed? : Entry ε → Option (Letter ε × Fault)
  | .failed (.direct l) f => some (l, f)
  | _ => none

/-- The letters that were dropped. -/
@[simp] def dropped : Entry ε → List (Letter ε)
  | .refused l => [l]
  | .closed ls _ => ls
  | _ => []

/-- How the delivery that a routine waited for has ended. -/
@[simp] def ofResult (pt : Point (Letter ε)) : Except Fault Unit → Entry ε
  | .ok () => .delivered pt.event
  | .error f => .failed pt f

end Entry

/-- An outbox with the routines that wait for a delivery. Then the record: the letters sent, what has happened to
them, and how the routines have ended, each in order. -/
structure Traffic (ε : Type) where
  outbox : Outbox (Letter ε)
  waiting : List (Routine ε)
  sent : List (Letter ε)
  log : List (Entry ε)
  ended : List (Option (Letter ε) × Except Fault Unit)

/-- What can happen next. -/
inductive Move (ε : Type)
  | send (task : Nat) (e : ε)
  | release (task : Nat)
  | flush (task : Nat)
  | hold
  | close
  /-- The delivery ends that the routine of a task waits for. -/
  | settle (task : Nat) (r : Except Fault Unit)

namespace Traffic

/-- An outbox that nothing has happened to. -/
def start (visible : Bool) : Traffic ε := ⟨.new visible, [], [], [], []⟩

/-- Adds to the log. -/
def note (t : Traffic ε) (entries : List (Entry ε)) : Traffic ε := { t with log := t.log ++ entries }

/-- Goes on after a step of a routine. -/
def after (t : Traffic ε) (task : Nat) (carried : Option (Letter ε)) (turn : Turn (Letter ε)) : Traffic ε :=
  let t := { t with outbox := turn.outbox }
  match turn.next with
  | .finished r => { t with ended := t.ended ++ [(carried, r)] }
  | .waiting l pt => { t with
    waiting := t.waiting ++ [⟨task, carried, pt⟩]
    log := t.log ++ [.begun l turn.outbox.visible] }

/-- The letter that a task sends next. -/
def nextLetter (t : Traffic ε) (task : Nat) (e : ε) : Letter ε := ⟨t.sent.length, task, e⟩

/-- A task sends an event. -/
def post (t : Traffic ε) (task : Nat) (e : ε) : Traffic ε :=
  let l := t.nextLetter task e
  let t := { t with sent := t.sent ++ [l] }
  (t.note (if t.outbox.closed then [.refused l] else [])).after task (some l) (t.outbox.send l)

/-- A delivery ends. -/
def settle (t : Traffic ε) (task : Nat) (r : Except Fault Unit) : Traffic ε :=
  match t.waiting.find? (·.task = task) with
  | some w =>
    ({ t with waiting := t.waiting.eraseP (·.task = task) }.note [.ofResult w.point r]).after task w.carried
      (t.outbox.resume w.point r)
  | none => t

/-- One move. -/
def step (t : Traffic ε) : Move ε → Traffic ε
  | .send task e => t.post task e
  | .release task => t.after task none t.outbox.release
  | .flush task => t.after task none t.outbox.flush
  | .hold => { t with outbox := t.outbox.hold }
  | .close => { t with outbox := t.outbox.close.1 }.note [.closed t.outbox.queue t.outbox.close.2]
  | .settle task r => t.settle task r

/-- A schedule. -/
def run (t : Traffic ε) (moves : List (Move ε)) : Traffic ε := moves.foldl step t

/-! ## Where the letters are -/

/-- The deliveries in the order in which they were begun, and whether the surface was visible. -/
def begun (t : Traffic ε) : List (Letter ε × Bool) := t.log.filterMap Entry.begun?

/-- The letters delivered, in the order in which the deliveries ended. -/
def delivered (t : Traffic ε) : List (Letter ε) := t.log.filterMap Entry.delivered?

/-- The letters whose direct delivery has failed, and how. -/
def failed (t : Traffic ε) : List (Letter ε × Fault) := t.log.filterMap Entry.failed?

/-- The letters sent to the closed outbox, and those queued when it was closed. -/
def dropped (t : Traffic ε) : List (Letter ε) := t.log.flatMap Entry.dropped

/-- The letters that are being delivered. -/
def inFlight (t : Traffic ε) : List (Letter ε) := t.waiting.map (·.point.event)

/-- The letters that routines have taken from the queue. -/
def replayed (ws : List (Routine ε)) : List (Letter ε) := ws.filterMap (·.point.replayed?)

/-- The letters that are being replayed, and behind them those that wait for it. -/
def line (t : Traffic ε) : List (Letter ε) := replayed t.waiting ++ t.outbox.queue

/-! ## What one move can do -/

/-- All that one move can do. Which routines have ended besides is left open. -/
inductive Shift (t : Traffic ε) : Move ε → Traffic ε → Prop
  /-- There is no such delivery. -/
  | idle (task : Nat) (r : Except Fault Unit) : Shift t (.settle task r) t
  | hold : Shift t .hold { t with outbox.visible := false }
  /-- A release or a flush that begins no replay. -/
  | still (m : Move ε) (visible : Bool) (es) :
      (visible = true → t.outbox.draining = false → t.outbox.queue = []) →
      Shift t m { t with outbox.visible := visible, ended := t.ended ++ es }
  | refuse (task : Nat) (e : ε) (es) : t.outbox.closed = true →
      Shift t (.send task e) { t with
        sent := t.sent ++ [t.nextLetter task e]
        log := t.log ++ [.refused (t.nextLetter task e)]
        ended := t.ended ++ es }
  /-- A letter goes to the surface at once. -/
  | direct (task : Nat) (e : ε) : t.outbox.visible = true → t.outbox.queue = [] → t.outbox.draining = false →
      Shift t (.send task e) { t with
        sent := t.sent ++ [t.nextLetter task e]
        waiting := t.waiting ++ [⟨task, some (t.nextLetter task e), .direct (t.nextLetter task e)⟩]
        log := t.log ++ [.begun (t.nextLetter task e) t.outbox.visible] }
  | enqueue (task : Nat) (e : ε) (es) : t.outbox.visible = false ∨ t.outbox.draining = true →
      Shift t (.send task e) { t with
        sent := t.sent ++ [t.nextLetter task e]
        outbox.queue := t.outbox.queue ++ [t.nextLetter task e]
        ended := t.ended ++ es }
  /-- A letter goes behind others that nobody was replaying, and a replay begins with the first of them. -/
  | enqueueReplay (task : Nat) (e : ε) (h : Letter ε) (rest : List (Letter ε)) : t.outbox.visible = true →
      t.outbox.draining = false → t.outbox.queue ++ [t.nextLetter task e] = h :: rest →
      Shift t (.send task e) { t with
        sent := t.sent ++ [t.nextLetter task e]
        outbox.queue := rest
        outbox.draining := true
        waiting := t.waiting ++ [⟨task, some (t.nextLetter task e), .replaying h 0⟩]
        log := t.log ++ [.begun h t.outbox.visible] }
  /-- A release or a flush begins a replay. -/
  | replay (m : Move ε) (task : Nat) (h : Letter ε) (rest : List (Letter ε)) :
      m = .release task ∨ m = .flush task → t.outbox.draining = false → t.outbox.queue = h :: rest →
      Shift t m { t with
        outbox.visible := true
        outbox.queue := rest
        outbox.draining := true
        waiting := t.waiting ++ [⟨task, none, .replaying h 0⟩]
        log := t.log ++ [.begun h true] }
  | close : Shift t .close { t with
      outbox.closed := true
      outbox.visible := false
      outbox.queue := []
      log := t.log ++ [.closed t.outbox.queue t.outbox.queue.length] }
  /-- A direct delivery ends. -/
  | settleDirect (task : Nat) (r : Except Fault Unit) (c : Option (Letter ε)) (l : Letter ε)
      (l₁ l₂ : List (Routine ε)) : t.waiting = l₁ ++ ⟨task, c, .direct l⟩ :: l₂ →
      Shift t (.settle task r) { t with
        waiting := l₁ ++ l₂
        log := t.log ++ [.ofResult (.direct l) r]
        ended := t.ended ++ [(c, r)] }
  /-- A delivery of a replay ends well and the next one begins. -/
  | replayNext (task : Nat) (c : Option (Letter ε)) (l h : Letter ε) (n : Nat) (rest : List (Letter ε))
      (l₁ l₂ : List (Routine ε)) : t.waiting = l₁ ++ ⟨task, c, .replaying l n⟩ :: l₂ → t.outbox.visible = true →
      t.outbox.queue = h :: rest →
      Shift t (.settle task (.ok ())) { t with
        outbox.queue := rest
        waiting := l₁ ++ l₂ ++ [⟨task, c, .replaying h (n + 1)⟩]
        log := t.log ++ [.delivered l] ++ [.begun h t.outbox.visible] }
  /-- The last delivery of a replay ends well. -/
  | replayEnd (task : Nat) (c : Option (Letter ε)) (l : Letter ε) (n : Nat) (l₁ l₂ : List (Routine ε)) (es) :
      t.waiting = l₁ ++ ⟨task, c, .replaying l n⟩ :: l₂ → t.outbox.visible = false ∨ t.outbox.queue = [] →
      Shift t (.settle task (.ok ())) { t with
        outbox.draining := false
        waiting := l₁ ++ l₂
        log := t.log ++ [.delivered l]
        ended := t.ended ++ es }
  /-- A delivery of a replay fails. -/
  | putBack (task : Nat) (f : Fault) (c : Option (Letter ε)) (l : Letter ε) (n : Nat) (l₁ l₂ : List (Routine ε))
      (es) : t.waiting = l₁ ++ ⟨task, c, .replaying l n⟩ :: l₂ →
      Shift t (.settle task (.error f)) { t with
        outbox.queue := l :: t.outbox.queue
        outbox.draining := false
        waiting := l₁ ++ l₂
        log := t.log ++ [.failed (.replaying l n) f]
        ended := t.ended ++ es }

/-- A replay that goes on: it ends, or it takes the next event. -/
theorem replay_cases (b : Outbox ε) (n : Nat) :
    (b.visible = false ∨ b.queue = []) ∧ b.replay n = finish { b with draining := false } [.replayed n] ∨
    ∃ h rest, b.visible = true ∧ b.queue = h :: rest ∧
      b.replay n = ⟨{ b with queue := rest }, [], .waiting h (.replaying h n)⟩ := by
  unfold replay
  cases hq : b.queue with
  | nil => exact .inl ⟨.inr rfl, rfl⟩
  | cons h rest =>
    cases hv : b.visible with
    | true => exact .inr ⟨h, rest, rfl, rfl, by simp⟩
    | false => exact .inl ⟨.inl rfl, by simp⟩

/-- A flush does nothing, or it begins a replay. -/
theorem flush_cases (b : Outbox ε) :
    (b.visible = true → b.draining = false → b.queue = []) ∧ (∃ reports, b.flush = finish b reports) ∨
    ∃ h rest, b.visible = true ∧ b.draining = false ∧ b.queue = h :: rest ∧
      b.flush = ⟨{ b with queue := rest, draining := true }, [], .waiting h (.replaying h 0)⟩ := by
  unfold flush
  cases hd : b.draining with
  | true => exact .inl ⟨by simp, [], rfl⟩
  | false =>
    by_cases hq : b.queue = []
    · exact .inl ⟨fun _ _ => hq, [], by simp [hq]⟩
    · have hq' : (false || b.queue.isEmpty) = false := by simp [hq]
      rw [hq', if_neg (by simp)]
      rcases replay_cases { b with draining := true } 0 with ⟨hs, he⟩ | ⟨h, rest, hv, hr, he⟩
      · refine .inl ⟨fun hv _ => ?_, [.replayed 0], ?_⟩
        · rcases hs with hs | hs
          · exact absurd (hv.symm.trans hs) (by simp)
          · exact hs
        · rw [he, ← hd]
      · exact .inr ⟨h, rest, hv, rfl, hr, he⟩

/-- A send drops its event, delivers it, queues it, or queues it and begins a replay. -/
theorem send_cases (b : Outbox ε) (e : ε) :
    b.closed = true ∧ b.send e = finish b [.dropped e] ∨
    b.closed = false ∧ b.visible = true ∧ b.queue = [] ∧ b.draining = false ∧
      b.send e = ⟨b, [], .waiting e (.direct e)⟩ ∨
    b.closed = false ∧ (b.visible = false ∨ b.draining = true) ∧
      (∃ reports, b.send e = finish { b with queue := b.queue ++ [e] } reports) ∨
    b.closed = false ∧ b.visible = true ∧ b.draining = false ∧ ∃ h rest, b.queue ++ [e] = h :: rest ∧
      b.send e = ⟨{ b with queue := rest, draining := true }, [], .waiting h (.replaying h 0)⟩ := by
  obtain ⟨visible, queue, draining, closed⟩ := b
  cases closed with
  | true => exact .inl ⟨rfl, rfl⟩
  | false =>
    cases visible with
    | false => exact .inr (.inr (.inl ⟨rfl, .inl rfl, _, rfl⟩))
    | true =>
      cases draining with
      | true => exact .inr (.inr (.inl ⟨rfl, .inr rfl, [], by simp [send]⟩))
      | false =>
        cases queue with
        | nil => exact .inr (.inl ⟨rfl, rfl, rfl, rfl, rfl⟩)
        | cons h rest => exact .inr (.inr (.inr ⟨rfl, rfl, rfl, h, rest ++ [e], rfl, rfl⟩))

/-- A release or a flush. -/
theorem shift_flush (t : Traffic ε) {m : Move ε} {task : Nat} (hm : m = .release task ∨ m = .flush task)
    (visible : Bool) : Shift t m (t.after task none (flush { t.outbox with visible := visible })) := by
  rcases flush_cases { t.outbox with visible := visible } with ⟨hs, reports, he⟩ | ⟨h, rest, hv, hd, hq, he⟩
  · rw [he]
    exact .still m visible [_] hs
  · rw [he]
    simp only at hv
    subst hv
    exact .replay m task h rest hm hd hq

/-- A send. -/
theorem shift_post (t : Traffic ε) (task : Nat) (e : ε) : Shift t (.send task e) (t.post task e) := by
  unfold post
  dsimp only
  rcases send_cases t.outbox (t.nextLetter task e) with
    ⟨hc, he⟩ | ⟨hc, hv, hq, hd, he⟩ | ⟨hc, hs, _, he⟩ | ⟨hc, hv, hd, h, rest, hq, he⟩
  · rw [he, if_pos hc]
    exact .refuse task e [_] hc
  all_goals
    rw [he, if_neg (by simp [hc])]
    simp only [note, List.append_nil]
  · exact .direct task e hv hq hd
  · exact .enqueue task e [_] hs
  · exact .enqueueReplay task e h rest hv hd hq

/-- The routine of a task among those that wait. -/
theorem waiting_split {ws : List (Routine ε)} {task : Nat} {w : Routine ε}
    (h : ws.find? (·.task = task) = some w) :
    ∃ l₁ l₂, w.task = task ∧ ws = l₁ ++ w :: l₂ ∧ ws.eraseP (·.task = task) = l₁ ++ l₂ := by
  obtain ⟨hp, l₁, l₂, hl, hl₁⟩ := List.find?_eq_some_iff_append.1 h
  refine ⟨l₁, l₂, by simpa using hp, hl, ?_⟩
  rw [hl, List.eraseP_append_right _ (by simpa using hl₁)]
  simp only [List.eraseP_cons, hp, cond_true]

/-- The end of a delivery. -/
theorem shift_settle (t : Traffic ε) (task : Nat) (r : Except Fault Unit) :
    Shift t (.settle task r) (t.settle task r) := by
  unfold settle
  cases hw : t.waiting.find? (·.task = task) with
  | none => exact .idle task r
  | some w =>
    obtain ⟨l₁, l₂, hp, hl, he⟩ := waiting_split hw
    obtain ⟨task', c, pt⟩ := w
    obtain rfl : task' = task := hp
    simp only [he, note]
    cases pt with
    | direct l => exact .settleDirect _ r c l l₁ l₂ hl
    | replaying l n =>
      cases r with
      | error f => exact .putBack _ f c l n l₁ l₂ [_] hl
      | ok _ =>
        simp only [resume]
        rcases replay_cases t.outbox (n + 1) with ⟨hs, hr⟩ | ⟨h, rest, hv, hq, hr⟩
        · rw [hr]
          exact .replayEnd _ c l n l₁ l₂ [_] hl hs
        · rw [hr]
          exact .replayNext _ c l h n rest l₁ l₂ hl hv hq

/-- One move does one of the things of `Shift`. -/
theorem step_shift (t : Traffic ε) (m : Move ε) : Shift t m (t.step m) := by
  cases m with
  | send task e => exact shift_post t task e
  | release task => exact shift_flush t (.inl rfl) true
  | flush task => exact shift_flush t (.inr rfl) t.outbox.visible
  | hold => exact .hold
  | close => exact .close
  | settle task r => exact shift_settle t task r

/-- What every move keeps, every schedule keeps. -/
theorem run_induction {P : Traffic ε → Prop} (hs : ∀ {t m t'}, Shift t m t' → P t → P t') {t : Traffic ε} (h : P t)
    (moves : List (Move ε)) : P (t.run moves) := by
  induction moves generalizing t with
  | nil => exact h
  | cons m moves ih => exact ih (hs (step_shift t m) h)

/-- A routine that waits after a move has waited before, or is the direct delivery of a send, or replays. -/
theorem mem_waiting_shift {t t' : Traffic ε} {m : Move ε} (hs : Shift t m t') {w : Routine ε} (hw : w ∈ t'.waiting) :
    w ∈ t.waiting ∨
    (∃ task e, m = .send task e ∧
      w = ⟨task, some (t.nextLetter task e), .direct (t.nextLetter task e)⟩) ∨
    ∃ l n, w.point = .replaying l n := by
  -- a routine that was removed takes no other with it
  have hrest : ∀ {w' : Routine ε} {l₁ l₂ : List (Routine ε)}, t.waiting = l₁ ++ w' :: l₂ → w ∈ l₁ ++ l₂ →
      w ∈ t.waiting := fun hl hmem => hl ▸ ((List.sublist_cons_self _ _).append_left _).subset hmem
  cases hs with
  | direct task e =>
    rcases List.mem_append.1 hw with hw | hw
    · exact .inl hw
    · exact .inr (.inl ⟨task, e, rfl, List.mem_singleton.1 hw⟩)
  | enqueueReplay task e h =>
    rcases List.mem_append.1 hw with hw | hw
    · exact .inl hw
    · exact .inr (.inr ⟨h, 0, by rw [List.mem_singleton.1 hw]⟩)
  | replay _ task h =>
    rcases List.mem_append.1 hw with hw | hw
    · exact .inl hw
    · exact .inr (.inr ⟨h, 0, by rw [List.mem_singleton.1 hw]⟩)
  | settleDirect _ _ _ _ _ _ hl => exact .inl (hrest hl hw)
  | replayNext _ _ _ h n _ _ _ hl =>
    rcases List.mem_append.1 hw with hw | hw
    · exact .inl (hrest hl hw)
    · exact .inr (.inr ⟨h, n + 1, by rw [List.mem_singleton.1 hw]⟩)
  | replayEnd _ _ _ _ _ _ _ hl => exact .inl (hrest hl hw)
  | putBack _ _ _ _ _ _ _ _ hl => exact .inl (hrest hl hw)
  | _ => exact .inl hw

/-! ## Sends and replays -/

/-- The letters sent are numbered from zero. -/
def Numbered (t : Traffic ε) : Prop := t.sent.map (·.number) = List.range t.sent.length

theorem numbered_shift {t t' : Traffic ε} {m : Move ε} (hs : Shift t m t') (h : t.Numbered) : t'.Numbered := by
  unfold Numbered at h ⊢
  cases hs <;> simp_all [List.range_succ, nextLetter]

theorem numbered_run (visible : Bool) (moves : List (Move ε)) : ((start visible : Traffic ε).run moves).Numbered :=
  run_induction (P := Numbered) numbered_shift (t := start visible) rfl moves

/-- The number of a letter is the place of its send. -/
theorem number_of_sent (visible : Bool) (moves : List (Move ε)) {n : Nat} {l : Letter ε}
    (h : ((start visible).run moves).sent[n]? = some l) : l.number = n := by
  have hn := numbered_run visible moves
  obtain ⟨hlt, rfl⟩ := List.getElem?_eq_some_iff.1 h
  have := congrArg (·[n]?) hn
  simpa [hlt] using this

/-- At most one routine replays, and it does so exactly while the outbox says so. -/
def OneReplay (t : Traffic ε) : Prop := (replayed t.waiting).length = t.outbox.draining.toNat

@[simp] theorem replayed_append (ws ws' : List (Routine ε)) : replayed (ws ++ ws') = replayed ws ++ replayed ws' :=
  List.filterMap_append

@[simp] theorem replayed_nil : replayed ([] : List (Routine ε)) = [] := rfl

@[simp] theorem replayed_direct (task : Nat) (c : Option (Letter ε)) (l : Letter ε) (ws : List (Routine ε)) :
    replayed (⟨task, c, .direct l⟩ :: ws) = replayed ws := rfl

@[simp] theorem replayed_replaying (task : Nat) (c : Option (Letter ε)) (l : Letter ε) (n : Nat)
    (ws : List (Routine ε)) : replayed (⟨task, c, .replaying l n⟩ :: ws) = l :: replayed ws := rfl

/-- The routine that replays is the only one. -/
theorem OneReplay.alone {t : Traffic ε} (h : t.OneReplay) {task : Nat} {c : Option (Letter ε)} {l : Letter ε} {n : Nat}
    {l₁ l₂ : List (Routine ε)} (hw : t.waiting = l₁ ++ ⟨task, c, .replaying l n⟩ :: l₂) :
    replayed l₁ = [] ∧ replayed l₂ = [] ∧ t.outbox.draining = true := by
  unfold OneReplay at h
  rw [hw] at h
  simp only [replayed_append, replayed_replaying, List.length_append, List.length_cons] at h
  cases hd : t.outbox.draining with
  | true =>
    rw [hd] at h
    simp only [Bool.toNat_true] at h
    exact ⟨List.length_eq_zero_iff.1 (by omega), List.length_eq_zero_iff.1 (by omega), rfl⟩
  | false =>
    rw [hd] at h
    simp at h

/-- Without a replay nothing is taken from the queue. -/
theorem OneReplay.none {t : Traffic ε} (h : t.OneReplay) (hd : t.outbox.draining = false) :
    replayed t.waiting = [] := by
  unfold OneReplay at h
  rw [hd] at h
  exact List.length_eq_zero_iff.1 h

theorem oneReplay_shift {t t' : Traffic ε} {m : Move ε} (hs : Shift t m t') (h : t.OneReplay) : t'.OneReplay := by
  cases hs with
  | direct => simpa [OneReplay] using h
  | enqueueReplay _ _ _ _ _ hd => simp [OneReplay, h.none hd]
  | replay _ _ _ _ _ hd => simp [OneReplay, h.none hd]
  | settleDirect _ _ _ _ _ _ hw => simpa [OneReplay, hw] using h
  | replayNext _ _ _ _ _ _ _ _ hw =>
    obtain ⟨h₁, h₂, hd⟩ := h.alone hw
    simp [OneReplay, h₁, h₂, hd]
  | replayEnd _ _ _ _ _ _ _ hw =>
    obtain ⟨h₁, h₂, -⟩ := h.alone hw
    simp [OneReplay, h₁, h₂]
  | putBack _ _ _ _ _ _ _ _ hw =>
    obtain ⟨h₁, h₂, -⟩ := h.alone hw
    simp [OneReplay, h₁, h₂]
  | _ => exact h

theorem oneReplay_start (visible : Bool) : (start visible : Traffic ε).OneReplay := rfl

end Traffic

end ChatRelay.Outbox
