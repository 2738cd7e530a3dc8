import ChatRelay.Proofs.Outbox.Sender

/-!
# Letters and their events

An outbox does not look into what it is given: it does with letters what it does with the events in them.

- `Outbox.map`, `Turn.map`: an outbox and a turn with other events, and `send_map`, `flush_map`, `resume_map`;
- `Turn.Asks`: the delivery that a turn asks for;
- `Traffic.events`: the outbox as its owner sees it, without numbers and senders, and `Traffic.pointOf`, where a task
  waits;
- `Traffic.sent_run`, `Traffic.delivered_step`: the events that a schedule gives a task to send, and those whose
  delivery ends well;
- `Traffic.Did`: a move of a task does to these what one turn of the outbox does, and nothing to the other tasks
  (`did_send`, `did_release`, `did_settle`).
-/

namespace ChatRelay.Outbox

variable {ε δ : Type}

/-! ## Other events -/

/-- An outbox with other events. -/
def map (f : ε → δ) (b : Outbox ε) : Outbox δ := ⟨b.visible, b.queue.map f, b.draining, b.closed⟩

/-- A point with another event. -/
def Point.map (f : ε → δ) : Point ε → Point δ
  | .direct e => .direct (f e)
  | .replaying e n => .replaying (f e) n

/-- A report about another event. -/
def Report.map (f : ε → δ) : Report ε → Report δ
  | .dropped e => .dropped (f e)
  | .buffered e n => .buffered (f e) n
  | .replayed n => .replayed n

/-- A turn with other events. -/
def Turn.map (f : ε → δ) (t : Turn ε) : Turn δ where
  outbox := t.outbox.map f
  reports := t.reports.map (Report.map f)
  next :=
    match t.next with
    | .finished r => .finished r
    | .waiting e pt => .waiting (f e) (pt.map f)

/-- Where a routine waits after a turn. -/
def Turn.point? (t : Turn ε) : Option (Point ε) :=
  match t.next with
  | .finished _ => none
  | .waiting _ pt => some pt

theorem replay_map (f : ε → δ) (b : Outbox ε) (n : Nat) : (b.map f).replay n = (b.replay n).map f := by
  obtain ⟨visible, queue, draining, closed⟩ := b
  cases queue with
  | nil => rfl
  | cons h rest => cases visible <;> rfl

theorem flush_map (f : ε → δ) (b : Outbox ε) : (b.map f).flush = b.flush.map f := by
  obtain ⟨visible, queue, draining, closed⟩ := b
  cases draining with
  | true => rfl
  | false =>
    cases queue with
    | nil => rfl
    | cons h rest => exact replay_map f ⟨visible, h :: rest, true, closed⟩ 0

theorem release_map (f : ε → δ) (b : Outbox ε) : (b.map f).release = b.release.map f :=
  flush_map f { b with visible := true }

theorem send_map (f : ε → δ) (b : Outbox ε) (e : ε) : (b.map f).send (f e) = (b.send e).map f := by
  obtain ⟨visible, queue, draining, closed⟩ := b
  cases closed with
  | true => rfl
  | false =>
    cases visible with
    | false => simp [send, map, Turn.map, finish, Report.map]
    | true =>
      cases draining with
      | true => simp [send, map, Turn.map, finish]
      | false =>
        cases queue with
        | nil => rfl
        | cons h rest => simpa [send, map] using flush_map f ⟨true, h :: (rest ++ [e]), false, false⟩

theorem resume_map (f : ε → δ) (b : Outbox ε) (pt : Point ε) (r : Except Fault Unit) :
    (b.map f).resume (pt.map f) r = (b.resume pt r).map f := by
  cases pt with
  | direct e => rfl
  | replaying e n =>
    cases r with
    | ok _ => exact replay_map f b (n + 1)
    | error _ => rfl

/-! ## What turns ask for -/

/-- A turn that waits asks for the delivery of the event of its point. -/
def Turn.Asks (t : Turn ε) : Prop := ∀ e pt, t.next = .waiting e pt → e = pt.event

theorem asks_finish (b : Outbox ε) (reports : List (Report ε)) : (finish b reports).Asks := by
  simp [Turn.Asks, finish]

theorem asks_replay (b : Outbox ε) (n : Nat) : (b.replay n).Asks := by
  rcases Traffic.replay_cases b n with ⟨-, h⟩ | ⟨e, rest, -, -, h⟩
  · rw [h]
    exact asks_finish _ _
  · simp [Turn.Asks, h]

theorem asks_flush (b : Outbox ε) : b.flush.Asks := by
  rcases Traffic.flush_cases b with ⟨-, reports, h⟩ | ⟨e, rest, -, -, -, h⟩
  · rw [h]
    exact asks_finish _ _
  · simp [Turn.Asks, h]

theorem asks_send (b : Outbox ε) (e : ε) : (b.send e).Asks := by
  rcases Traffic.send_cases b e with ⟨-, h⟩ | ⟨-, -, -, -, h⟩ | ⟨-, -, reports, h⟩ | ⟨-, -, -, e', rest, -, h⟩
  · rw [h]
    exact asks_finish _ _
  · simp [Turn.Asks, h]
  · rw [h]
    exact asks_finish _ _
  · simp [Turn.Asks, h]

theorem asks_resume (b : Outbox ε) (pt : Point ε) (r : Except Fault Unit) : (b.resume pt r).Asks := by
  cases pt with
  | direct e => simp [Turn.Asks, resume]
  | replaying e n =>
    cases r with
    | ok _ => exact asks_replay b (n + 1)
    | error _ => simp [Turn.Asks, resume]

/-- What a move gives a task to send. -/
def Move.sends (i : Nat) : Move ε → List ε
  | .send task e => if task = i then [e] else []
  | _ => []

namespace Traffic

/-! ## The outbox as its owner sees it -/

/-- The outbox with the events in place of the letters. -/
def events (t : Traffic ε) : Outbox ε := t.outbox.map Letter.event

/-- Where a task waits. -/
def pointOf (t : Traffic ε) (task : Nat) : Option (Point ε) :=
  (t.waiting.find? (·.task = task)).map (·.point.map Letter.event)

theorem pointOf_eq_none {t : Traffic ε} {task : Nat} : t.pointOf task = none ↔ t.Idle task := by
  simp [pointOf, Idle]

/-- A move of a task, seen by the owner, is one turn of the outbox. -/
structure Did (t t' : Traffic ε) (task : Nat) (turn : Turn ε) : Prop where
  outbox : t'.events = turn.outbox
  point : t'.pointOf task = turn.point?
  others : ∀ j, j ≠ task → t'.pointOf j = t.pointOf j

/-- A turn on behalf of an idle task. -/
theorem did_after {t : Traffic ε} {task : Nat} (hi : t.Idle task) (c : Option (Letter ε)) (turn : Turn (Letter ε)) :
    Did t (t.after task c turn) task (turn.map Letter.event) := by
  have hnone : t.waiting.find? (·.task = task) = none := by simpa [Idle] using hi
  unfold after
  cases hn : turn.next with
  | finished r =>
    refine ⟨rfl, ?_, fun j _ => rfl⟩
    simp [pointOf, Turn.point?, Turn.map, hn, hnone]
  | waiting l pt =>
    refine ⟨rfl, ?_, fun j hj => ?_⟩
    · simp [pointOf, Turn.point?, Turn.map, hn, hnone]
    · have hj' : ¬task = j := fun h => hj h.symm
      simp [pointOf, List.find?_append, hj']

/-- A send of an idle task. -/
theorem did_send {t : Traffic ε} {task : Nat} (hi : t.pointOf task = none) (e : ε) :
    Did t (t.step (.send task e)) task (t.events.send e) := by
  have h := send_map Letter.event t.outbox (t.nextLetter task e)
  rw [show t.events.send e = _ from h]
  obtain ⟨ho, hp, hj⟩ := did_after (t := ({ t with sent := t.sent ++ [t.nextLetter task e] } : Traffic ε).note
    (if t.outbox.closed then [.refused (t.nextLetter task e)] else [])) (pointOf_eq_none.1 hi)
    (some (t.nextLetter task e)) (t.outbox.send (t.nextLetter task e))
  exact ⟨ho, hp, hj⟩

/-- A release of an idle task. -/
theorem did_release {t : Traffic ε} {task : Nat} (hi : t.pointOf task = none) :
    Did t (t.step (.release task)) task t.events.release := by
  rw [events, release_map]
  exact did_after (pointOf_eq_none.1 hi) none _

/-- The end of the delivery that a task waits for. -/
theorem did_settle {t : Traffic ε} (ho : (t.waiting.map (·.task)).Nodup) {task : Nat} {pt : Point ε}
    (hi : t.pointOf task = some pt) (r : Except Fault Unit) :
    Did t (t.step (.settle task r)) task (t.events.resume pt r) := by
  obtain ⟨w, hw, rfl⟩ := Option.map_eq_some_iff.1 hi
  obtain ⟨l₁, l₂, hp, hl, he⟩ := waiting_split hw
  obtain ⟨task', c, pt⟩ := w
  obtain rfl : task' = task := hp
  have hidle : ∀ w ∈ l₁ ++ l₂, w.task ≠ task' := others_of_nodup (hl ▸ ho)
  obtain ⟨ho', hp', hj'⟩ := did_after (t := ({ t with waiting := l₁ ++ l₂ } : Traffic ε).note [.ofResult pt r]) hidle c
    (t.outbox.resume pt r)
  rw [events, resume_map]
  simp only [step, settle, hw, he]
  refine ⟨ho', hp', fun j hj => (hj' j hj).trans ?_⟩
  have hne : ¬task' = j := fun h => hj h.symm
  simp [pointOf, note, hl, List.find?_append, hne]

/-! ## What a sender was given to send -/

/-- The events of the letters of one sender. -/
def eventsOf (i : Nat) (ls : List (Letter ε)) : List ε := (lettersOf i ls).map (·.event)

theorem sent_after (t : Traffic ε) (task : Nat) (c : Option (Letter ε)) (turn : Turn (Letter ε)) :
    (t.after task c turn).sent = t.sent := by
  unfold after
  cases turn.next <;> rfl

/-- The letter that a move adds to those sent. -/
def posted (t : Traffic ε) : Move ε → List (Letter ε)
  | .send task e => [t.nextLetter task e]
  | _ => []

theorem sent_posted (t : Traffic ε) (m : Move ε) : (t.step m).sent = t.sent ++ t.posted m := by
  cases m with
  | send task e => exact sent_after ..
  | settle task r =>
    rcases hw : t.waiting.find? (·.task = task) with _ | w
    · simp [step, settle, hw, posted]
    · simp [step, settle, hw, sent_after, note, posted]
  | release task => simp [step, sent_after, posted]
  | flush task => simp [step, sent_after, posted]
  | hold => simp [step, posted]
  | close => simp [step, note, posted]

theorem sent_step (t : Traffic ε) (m : Move ε) (i : Nat) :
    eventsOf i (t.step m).sent = eventsOf i t.sent ++ m.sends i := by
  rw [sent_posted]
  cases m with
  | send task e =>
    by_cases hi : task = i <;> simp [eventsOf, lettersOf_cons, Move.sends, posted, nextLetter, hi]
  | _ => simp [eventsOf, Move.sends, posted]

theorem sent_run (t : Traffic ε) (moves : List (Move ε)) (i : Nat) :
    eventsOf i (t.run moves).sent = eventsOf i t.sent ++ moves.flatMap (Move.sends i) := by
  induction moves generalizing t with
  | nil => simp [run]
  | cons m moves ih =>
    rw [show t.run (m :: moves) = (t.step m).run moves from rfl, ih, sent_step, List.flatMap_cons, List.append_assoc]

/-! ## What is delivered -/

/-- The event whose delivery ends well in a move. -/
def delivers (t : Traffic ε) : Move ε → List ε
  | .settle task (.ok ()) => ((t.pointOf task).map Point.event).toList
  | _ => []

theorem delivered_after (t : Traffic ε) (task : Nat) (c : Option (Letter ε)) (turn : Turn (Letter ε)) :
    (t.after task c turn).delivered = t.delivered := by
  unfold after
  cases turn.next <;> simp [delivered, List.filterMap_cons]

theorem delivered_step (t : Traffic ε) (m : Move ε) :
    (t.step m).delivered.map Letter.event = t.delivered.map Letter.event ++ t.delivers m := by
  cases m with
  | send task e =>
    simp only [step, post, delivered_after, delivers, List.append_nil]
    split <;> simp [note, delivered]
  | settle task r =>
    rcases hw : t.waiting.find? (·.task = task) with _ | w
    · cases r <;> simp [step, settle, hw, delivers, pointOf]
    · have hmap : (w.point.map Letter.event).event = w.point.event.event := by cases w.point <;> rfl
      simp only [step, settle, hw, delivered_after]
      cases r <;> simp [delivers, pointOf, hw, note, delivered, hmap]
  | release task => simp [step, delivered_after, delivers]
  | flush task => simp [step, delivered_after, delivers]
  | hold => simp [step, delivered, delivers]
  | close => simp [step, note, delivered, delivers]

end Traffic

end ChatRelay.Outbox
