import ChatRelay.Relay

/-!
# The dialogue of a response

A response is relayed between two parties who can both fail: the stream that gives its chunks, and the one who takes
its events. Whatever they do, the dialogue with them is one of few.

- `Relay.Source`, `Relay.Taker`: what a stream does, and what becomes of the events that are handed over;
- `Relay.Relays`: the routine between the two, from its start to its end, with all its calls and their answers;
- `Relay.Ends`: how a dialogue ends after the rounds in which a chunk was pulled and taken;
- `Relay.Faithful`: what is handed over, what the result tells, and what becomes of the stream;
- `Relay.response_relayed`: the routine comes to its end in one way, and is faithful, as it is where the second event
  is refused (`Relay.secondRefused_relayed`).
-/

namespace ChatRelay.Relay

/-! ## The two parties -/

/-- What the stream of a response does: it cannot be opened, or it gives its pieces and is exhausted, or fails. -/
inductive Source
  | refused (f : Fault)
  | stream (pieces : List Json) (failure : Option Fault)

/-- The pieces that a stream has to give. -/
def Source.pieces : Source → List Json
  | .refused _ => []
  | .stream pieces _ => pieces

/-- A fault of another kind than a response that broke off. -/
def Plain (f : Fault) : Prop := ∀ tab message sent cause, f ≠ .relay tab message sent cause

/-- One who takes events: what becomes of the last of the events that were handed over so far. -/
structure Taker where
  take : List Outbound → Except Fault Unit
  plain : ∀ {events f}, take events = .error f → Plain f

/-- Where a stream stands. -/
inductive Supply
  | unopened
  | flowing (left : List Json)
  | spent
  | closed

/-- What the parties answer. The stream has an answer neither to a pull after its end or its failure, nor to anything
after it was closed. -/
inductive Answers (source : Source) (taker : Taker) :
    Supply × List Outbound → Call → Except Fault Answer → Supply × List Outbound → Prop
  | refuses (events : List Outbound) (session text : String) {f : Fault} : source = .refused f →
      Answers source taker (.unopened, events) (.openStream session text) (.error f) (.spent, events)
  | opens (events : List Outbound) (session text : String) {pieces : List Json} {failure : Option Fault} :
      source = .stream pieces failure →
      Answers source taker (.unopened, events) (.openStream session text) (.ok .done) (.flowing pieces, events)
  | gives (events : List Outbound) (piece : Json) (left : List Json) :
      Answers source taker (.flowing (piece :: left), events) .pullStream (.ok (.chunk piece)) (.flowing left, events)
  | exhausts (events : List Outbound) {pieces : List Json} : source = .stream pieces none →
      Answers source taker (.flowing [], events) .pullStream (.ok .exhausted) (.spent, events)
  | fails (events : List Outbound) {pieces : List Json} {f : Fault} : source = .stream pieces (some f) →
      Answers source taker (.flowing [], events) .pullStream (.error f) (.spent, events)
  | closesEarly (events : List Outbound) (left : List Json) :
      Answers source taker (.flowing left, events) .closeStream (.ok .done) (.closed, events)
  | closes (events : List Outbound) : Answers source taker (.spent, events) .closeStream (.ok .done) (.closed, events)
  | takes (s : Supply) (events : List Outbound) (e : Outbound) :
      Answers source taker (s, events) (.deliver e) ((taker.take (events ++ [e])).map fun _ => .done)
        (s, events ++ [e])

theorem Answers.unique {source : Source} {taker : Taker} {w w' w'' : Supply × List Outbound} {call : Call}
    {a a' : Except Fault Answer} (h : Answers source taker w call a w') (h' : Answers source taker w call a' w'') :
    a = a' ∧ w' = w'' := by
  cases h <;> cases h' <;> simp_all

section

variable {source : Source} {taker : Taker} {s : Supply} {events : List Outbound} {e : Outbound}

theorem Answers.taken (h : taker.take (events ++ [e]) = .ok ()) :
    Answers source taker (s, events) (.deliver e) (.ok .done) (s, events ++ [e]) := by
  have hanswer : Answers source taker (s, events) (.deliver e) _ _ := .takes s events e
  rwa [h] at hanswer

theorem Answers.rejected {f : Fault} (h : taker.take (events ++ [e]) = .error f) :
    Answers source taker (s, events) (.deliver e) (.error f) (s, events ++ [e]) := by
  have hanswer : Answers source taker (s, events) (.deliver e) _ _ := .takes s events e
  rwa [h] at hanswer

end

/-! ## The routine between the parties -/

/-- The calls of a routine with their answers. -/
abbrev Dialogue := List (Call × Except Fault Answer)

/-- How a step goes on, where handing an event over is a call too. -/
def Step.goesOn : Step → Next Call (Point ⊕ Handover) Nat
  | .pass e handover => .waiting (.deliver e) (.inr handover)
  | .next (.waiting call pt) => .waiting call (.inl pt)
  | .next (.finished result) => .finished result

/-- Goes on with an answer of either party. -/
def answered (p : Prompt) : Point ⊕ Handover → Except Fault Answer → Step
  | .inl pt, a => resume p pt a
  | .inr handover, a => .next (passed handover (a.map fun _ => ()))

/-- The rest of a response, from a step to its end. -/
abbrev RelayRuns (p : Prompt) (source : Source) (taker : Taker) :
    Step → Supply × List Outbound → Dialogue → Step → Supply × List Outbound → Except Fault Nat → Prop :=
  Runs Step.goesOn (fun _ => answered p) (Answers source taker)

/-- A response from its start to its end. -/
def Relays (p : Prompt) (source : Source) (taker : Taker) (dialogue : Dialogue) (result : Except Fault Nat) : Prop :=
  ∃ step w, RelayRuns p source taker (.next (start p)) (.unopened, []) dialogue step w result

theorem Relays.unique {p : Prompt} {source : Source} {taker : Taker} {d d' : Dialogue} {r r' : Except Fault Nat}
    (h : Relays p source taker d r) (h' : Relays p source taker d' r') : d = d' ∧ r = r' := by
  obtain ⟨_, _, h⟩ := h
  obtain ⟨_, _, h'⟩ := h'
  obtain ⟨hd, -, -, hr⟩ := Runs.unique (R := Answers source taker) (fun h h' => h.unique h') h h'
  exact ⟨hd, hr⟩

/-! ## Rounds and endings -/

/-- A chunk event of a response. -/
def chunkOf (p : Prompt) (piece : Json) : Outbound := .chunk p.tab p.message piece

/-- The completion of a response. -/
def completionOf (p : Prompt) : Outbound := .complete p.tab p.message

/-- The rounds in which pieces were pulled and taken. -/
def rounds (p : Prompt) (told : List Json) : Dialogue :=
  told.flatMap fun piece => [(.pullStream, .ok (.chunk piece)), (.deliver (chunkOf p piece), .ok .done)]

/-- How a dialogue ends after the rounds for some pieces, and its result. -/
inductive Ends (p : Prompt) (pieces : List Json) (failure : Option Fault) (told : List Json) :
    Dialogue → Except Fault Nat → Prop
  | completed : told = pieces → failure = none →
      Ends p pieces failure told
        [(.pullStream, .ok .exhausted), (.closeStream, .ok .done), (.deliver (completionOf p), .ok .done)]
        (.ok told.length)
  | uncompleted {f : Fault} : told = pieces → failure = none → Plain f →
      Ends p pieces failure told
        [(.pullStream, .ok .exhausted), (.closeStream, .ok .done), (.deliver (completionOf p), .error f)] (.error f)
  | broken {f : Fault} : told = pieces → failure = some f →
      Ends p pieces failure told [(.pullStream, .error f), (.closeStream, .ok .done)]
        (.error (.relay p.tab p.message told.length f))
  | refused {f : Fault} (piece : Json) : told ++ [piece] <+: pieces → Plain f →
      Ends p pieces failure told
        [(.pullStream, .ok (.chunk piece)), (.deliver (chunkOf p piece), .error f), (.closeStream, .ok .done)]
        (.error f)

/-- A response from a pull on, after some pieces were told. -/
theorem ends_pulling (p : Prompt) (taker : Taker) (failure : Option Fault) {pieces told left : List Json}
    (hpieces : told ++ left = pieces) (events : List Outbound) :
    ∃ more ending result step w,
      RelayRuns p (.stream pieces failure) taker (.next (.waiting .pullStream (.pulling told.length)))
        (.flowing left, events) (rounds p more ++ ending) step w result ∧
      Ends p pieces failure (told ++ more) ending result := by
  induction left generalizing told events with
  | nil =>
    rw [List.append_nil] at hpieces
    cases failure with
    | some f =>
      exact ⟨[], _, _, _, _, .waiting rfl (.fails events rfl) (.waiting rfl (.closes events) (.finished rfl)),
        by simpa using .broken hpieces rfl⟩
    | none =>
      rcases htake : taker.take (events ++ [completionOf p]) with f | _
      · exact ⟨[], _, _, _, _, .waiting rfl (.exhausts events rfl) (.waiting rfl (.closes events)
          (.waiting rfl (.rejected htake) (.finished rfl))),
          by simpa using .uncompleted hpieces rfl (taker.plain htake)⟩
      · exact ⟨[], _, _, _, _, .waiting rfl (.exhausts events rfl) (.waiting rfl (.closes events)
          (.waiting rfl (.taken htake) (.finished rfl))), by simpa using .completed hpieces rfl⟩
  | cons piece left ih =>
    have hnext : (told ++ [piece]) ++ left = pieces := by simpa using hpieces
    rcases htake : taker.take (events ++ [chunkOf p piece]) with f | _
    · refine ⟨[], _, _, _, _, .waiting rfl (.gives events piece left) (.waiting rfl (.rejected htake)
        (.waiting rfl (.closesEarly _ left) (.finished rfl))), ?_⟩
      exact .refused piece ⟨left, by simpa using hpieces⟩ (taker.plain htake)
    · obtain ⟨more, ending, result, step, w, hruns, hends⟩ := ih hnext (events ++ [chunkOf p piece])
      rw [List.length_append] at hruns
      exact ⟨piece :: more, ending, result, step, w,
        .waiting rfl (.gives events piece left) (.waiting rfl (.taken htake) hruns), by simpa using hends⟩

/-- What a dialogue comes to: the stream cannot be opened, or rounds follow its opening. -/
inductive Shape (p : Prompt) : Source → Dialogue → Except Fault Nat → Prop
  | unopened (f : Fault) :
      Shape p (.refused f) [(.openStream p.session p.text, .error f)] (.error (.relay p.tab p.message 0 f))
  | opened {pieces told : List Json} {failure : Option Fault} {ending : Dialogue} {result : Except Fault Nat} :
      Ends p pieces failure told ending result →
      Shape p (.stream pieces failure) ((.openStream p.session p.text, .ok .done) :: rounds p told ++ ending) result

theorem exists_shape (p : Prompt) (source : Source) (taker : Taker) :
    ∃ dialogue result, Relays p source taker dialogue result ∧ Shape p source dialogue result := by
  cases source with
  | refused f =>
    exact ⟨_, _, ⟨_, _, .waiting rfl (.refuses [] p.session p.text rfl) (.finished rfl)⟩, .unopened f⟩
  | stream pieces failure =>
    obtain ⟨told, ending, result, step, w, hruns, hends⟩ :=
      ends_pulling p taker failure (List.nil_append pieces) []
    exact ⟨_, result, ⟨step, w, .waiting rfl (.opens [] p.session p.text rfl) hruns⟩, .opened hends⟩

/-! ## What a dialogue tells -/

/-- The event that a call hands over. -/
def event? : Call × Except Fault Answer → Option Outbound
  | (.deliver e, _) => some e
  | _ => none

/-- The events that were handed over, in order. -/
def handed (d : Dialogue) : List Outbound := d.filterMap event?

/-- The fault with which the stream could not be opened or pulled. -/
def failure? : Call × Except Fault Answer → Option Fault
  | (.openStream _ _, .error f) | (.pullStream, .error f) => some f
  | _ => none

/-- The fault with which an event was refused. -/
def refusal? : Call × Except Fault Answer → Option Fault
  | (.deliver _, .error f) => some f
  | _ => none

/-- Whether a chunk was handed over and taken. -/
def takesChunk : Call × Except Fault Answer → Bool
  | (.deliver (.chunk ..), .ok _) => true
  | _ => false

/-- Whether a chunk was handed over and refused. -/
def refusesChunk : Call × Except Fault Answer → Bool
  | (.deliver (.chunk ..), .error _) => true
  | _ => false

/-- Whether the stream was exhausted. -/
def exhausts : Call × Except Fault Answer → Bool
  | (.pullStream, .ok .exhausted) => true
  | _ => false

/-- Whether the stream was opened. -/
def opens : Call × Except Fault Answer → Bool
  | (.openStream _ _, .ok _) => true
  | _ => false

/-- Whether the stream was closed. -/
def closes : Call × Except Fault Answer → Bool
  | (.closeStream, _) => true
  | _ => false

/-- The stream was exhausted, and no chunk was refused. -/
def IsWhole (d : Dialogue) : Prop := (∃ x ∈ d, exhausts x = true) ∧ ∀ x ∈ d, refusesChunk x = false

/-- A dialogue and its result give what the stream has given. -/
structure Faithful (p : Prompt) (pieces : List Json) (d : Dialogue) (result : Except Fault Nat) : Prop where
  /-- Chunks of the first pieces are handed over, and then the completion exactly if the response is whole. -/
  events : ∃ told tail, told <+: pieces ∧ handed d = told.map (chunkOf p) ++ tail ∧
    (IsWhole d ∧ tail = [completionOf p] ∨ ¬ IsWhole d ∧ tail = [])
  /-- The result is the number of pieces exactly if the completion was taken. -/
  counts : ∀ n, result = .ok n ↔ n = pieces.length ∧ (.deliver (completionOf p), .ok .done) ∈ d
  /-- The response breaks off exactly if the stream could not be opened or pulled. -/
  breaks : (∃ tab message sent cause, result = .error (.relay tab message sent cause)) ↔
    ∃ x ∈ d, (failure? x).isSome
  /-- A response that broke off tells how many chunks were taken, and why it did. It is not completed. -/
  cause : ∀ x ∈ d, ∀ f, failure? x = some f →
    result = .error (.relay p.tab p.message (d.countP takesChunk) f) ∧ completionOf p ∉ handed d
  /-- The fault of a refused event is the result, and nothing is pulled or handed over after it. -/
  refusal : ∀ x ∈ d, ∀ f, refusal? x = some f → result = .error f
  afterRefusal : d.Pairwise fun x y => (refusal? x).isSome → y.1 = .closeStream
  /-- The stream is not pulled after its end or its failure. -/
  afterEnd : d.Pairwise fun x y => exhausts x = true ∨ (failure? x).isSome → y.1 ≠ .pullStream
  /-- A stream that was opened is closed exactly once. -/
  closed : d.countP closes = if d.any opens then 1 else 0

/-! ## Rounds -/

/-- The dialogue from the opening of the stream to the end of the rounds for some pieces. -/
def upToRounds (p : Prompt) (told : List Json) : Dialogue := (.openStream p.session p.text, .ok .done) :: rounds p told

section

variable {p : Prompt} {told : List Json} {ending : Dialogue} {x : Call × Except Fault Answer}

theorem mem_rounds : x ∈ rounds p told ↔
    ∃ piece ∈ told, x = (.pullStream, .ok (.chunk piece)) ∨ x = (.deliver (chunkOf p piece), .ok .done) := by
  simp [rounds]

@[simp] theorem handed_append (d d' : Dialogue) : handed (d ++ d') = handed d ++ handed d' := List.filterMap_append

@[simp] theorem handed_rounds : handed (rounds p told) = told.map (chunkOf p) := by
  induction told with
  | nil => rfl
  | cons piece told ih => simpa [rounds, handed, event?, List.filterMap_cons] using ih

@[simp] theorem countP_takesChunk_rounds : (rounds p told).countP takesChunk = told.length := by
  induction told with
  | nil => rfl
  | cons piece told ih => simpa [rounds, takesChunk, chunkOf, List.countP_cons] using ih

/-- Nothing ends in a round. -/
theorem quiet_upToRounds (h : x ∈ upToRounds p told) :
    exhausts x = false ∧ failure? x = none ∧ refusal? x = none ∧ refusesChunk x = false ∧ closes x = false ∧
      x ≠ (.deliver (completionOf p), .ok .done) := by
  rcases List.mem_cons.1 h with rfl | h
  · simp [exhausts, failure?, refusal?, refusesChunk, closes]
  · obtain ⟨piece, -, rfl | rfl⟩ := mem_rounds.1 h <;>
      simp [exhausts, failure?, refusal?, refusesChunk, closes, chunkOf, completionOf]

/-- What holds of a dialogue because something ends in it holds of its ending. -/
theorem exists_ending {P : Call × Except Fault Answer → Prop} (h : ∀ x ∈ upToRounds p told, ¬ P x) :
    (∃ x ∈ upToRounds p told ++ ending, P x) ↔ ∃ x ∈ ending, P x := by
  constructor
  · rintro ⟨x, hx, hP⟩
    exact ⟨x, (List.mem_append.1 hx).resolve_left fun hx => h x hx hP, hP⟩
  · rintro ⟨x, hx, hP⟩
    exact ⟨x, List.mem_append_right _ hx, hP⟩

theorem pairwise_ending {R : Call × Except Fault Answer → Call × Except Fault Answer → Prop}
    (h : ∀ x ∈ upToRounds p told, ∀ y, R x y) :
    (upToRounds p told ++ ending).Pairwise R ↔ ending.Pairwise R := by
  rw [List.pairwise_append]
  constructor
  · exact fun hR => hR.2.1
  · exact fun hR => ⟨List.pairwise_of_forall_mem_list fun x hx y _ => h x hx y, hR, fun x hx y _ => h x hx y⟩

theorem isWhole_ending : IsWhole (upToRounds p told ++ ending) ↔ IsWhole ending := by
  unfold IsWhole
  rw [exists_ending fun x hx => by simp [quiet_upToRounds hx]]
  refine and_congr_right fun _ => ⟨fun h x hx => h x (List.mem_append_right _ hx), fun h x hx => ?_⟩
  rcases List.mem_append.1 hx with hx | hx
  · exact (quiet_upToRounds hx).2.2.2.1
  · exact h x hx

@[simp] theorem handed_upToRounds : handed (upToRounds p told) = told.map (chunkOf p) := by
  rw [upToRounds, ← handed_rounds]
  rfl

@[simp] theorem countP_takesChunk_upToRounds : (upToRounds p told).countP takesChunk = told.length := by
  rw [upToRounds, List.countP_cons_of_neg (by simp [takesChunk]), countP_takesChunk_rounds]

theorem countP_closes_upToRounds : (upToRounds p told).countP closes = 0 :=
  List.countP_eq_zero.2 fun x hx => by simp [quiet_upToRounds hx]

/-- A dialogue is faithful if its ending is, after the rounds. -/
theorem faithful_ending {pieces : List Json} {result : Except Fault Nat}
    (hevents : ∃ told' tail, told' <+: pieces ∧
      told.map (chunkOf p) ++ handed ending = told'.map (chunkOf p) ++ tail ∧
      (IsWhole ending ∧ tail = [completionOf p] ∨ ¬ IsWhole ending ∧ tail = []))
    (hcounts : ∀ n, result = .ok n ↔ n = pieces.length ∧ (.deliver (completionOf p), .ok .done) ∈ ending)
    (hbreaks : (∃ tab message sent cause, result = .error (.relay tab message sent cause)) ↔
      ∃ x ∈ ending, (failure? x).isSome)
    (hcause : ∀ x ∈ ending, ∀ f, failure? x = some f → handed ending = [] ∧ ending.countP takesChunk = 0 ∧
      result = .error (.relay p.tab p.message told.length f))
    (hrefusal : ∀ x ∈ ending, ∀ f, refusal? x = some f → result = .error f)
    (hafterRefusal : ending.Pairwise fun x y => (refusal? x).isSome → y.1 = .closeStream)
    (hafterEnd : ending.Pairwise fun x y => exhausts x = true ∨ (failure? x).isSome → y.1 ≠ .pullStream)
    (hclosed : ending.countP closes = 1) : Faithful p pieces (upToRounds p told ++ ending) result where
  events := by
    simpa only [handed_append, handed_upToRounds, isWhole_ending] using hevents
  counts n := by
    rw [hcounts n, List.mem_append, or_iff_right fun h => (quiet_upToRounds h).2.2.2.2.2 rfl]
  breaks := by
    rw [hbreaks, exists_ending fun x hx => by simp [quiet_upToRounds hx]]
  cause x hx f hf := by
    rcases List.mem_append.1 hx with hx | hx
    · simp [(quiet_upToRounds hx).2.1] at hf
    · obtain ⟨hnone, hcount, hresult⟩ := hcause x hx f hf
      refine ⟨by simp [hresult, hcount], ?_⟩
      simp [hnone, chunkOf, completionOf]
  refusal x hx f hf := by
    rcases List.mem_append.1 hx with hx | hx
    · simp [(quiet_upToRounds hx).2.2.1] at hf
    · exact hrefusal x hx f hf
  afterRefusal := (pairwise_ending fun x hx y => by simp [quiet_upToRounds hx]).2 hafterRefusal
  afterEnd := (pairwise_ending fun x hx y => by simp [quiet_upToRounds hx]).2 hafterEnd
  closed := by
    rw [List.countP_append, countP_closes_upToRounds, hclosed]
    simp [upToRounds, opens]

end

/-- A plain fault is not that of a response that broke off. -/
theorem Plain.not_breaks {f : Fault} (h : Plain f) :
    ¬ ∃ tab message sent cause, (.error f : Except Fault Nat) = .error (.relay tab message sent cause) := by
  rintro ⟨tab, message, sent, cause, heq⟩
  exact h tab message sent cause (Except.error.inj heq)

/-- The first case of each ending is whether the response is whole; then come the result, the faults, and the order
of the calls. -/
theorem Ends.faithful {p : Prompt} {pieces told : List Json} {failure : Option Fault} {ending : Dialogue}
    {result : Except Fault Nat} (h : Ends p pieces failure told ending result) :
    Faithful p pieces (upToRounds p told ++ ending) result := by
  cases h with
  | completed htold hfailure =>
    subst htold
    refine faithful_ending ⟨told, [completionOf p], List.prefix_rfl, rfl, .inl ⟨?_, rfl⟩⟩ ?_ ?_ ?_ ?_ ?_ ?_ rfl
    · simp [IsWhole, exhausts, refusesChunk, completionOf]
    · intro n
      simp [eq_comm (a := told.length)]
    all_goals simp [failure?, refusal?, exhausts]
  | uncompleted htold hfailure hplain =>
    subst htold
    refine faithful_ending ⟨told, [completionOf p], List.prefix_rfl, rfl, .inl ⟨?_, rfl⟩⟩ ?_ ?_ ?_ ?_ ?_ ?_ rfl
    · simp [IsWhole, exhausts, refusesChunk, completionOf]
    · simp
    · simpa [failure?] using hplain.not_breaks
    all_goals simp [failure?, refusal?, exhausts]
  | broken htold hfailure =>
    subst htold
    refine faithful_ending ⟨told, [], List.prefix_rfl, rfl, .inr ⟨?_, rfl⟩⟩ ?_ ?_ ?_ ?_ ?_ ?_ rfl
    · simp [IsWhole, exhausts]
    all_goals simp [failure?, refusal?, exhausts, handed, event?, takesChunk]
  | refused piece htold hplain =>
    have hhanded : told.map (chunkOf p) ++ [chunkOf p piece] = (told ++ [piece]).map (chunkOf p) ++ [] := by simp
    refine faithful_ending ⟨told ++ [piece], [], htold, hhanded, .inr ⟨?_, rfl⟩⟩ ?_ ?_ ?_ ?_ ?_ ?_ rfl
    · simp [IsWhole, exhausts]
    · simp
    · simpa [failure?] using hplain.not_breaks
    all_goals simp [failure?, refusal?, exhausts]

theorem Shape.faithful {p : Prompt} {source : Source} {dialogue : Dialogue} {result : Except Fault Nat}
    (h : Shape p source dialogue result) : Faithful p source.pieces dialogue result := by
  cases h with
  | opened hends => exact hends.faithful
  | unopened f =>
    refine ⟨⟨[], [], List.prefix_rfl, rfl, .inr ⟨?_, rfl⟩⟩, ?_, ?_, ?_, ?_, ?_, ?_, rfl⟩
    · simp [IsWhole, exhausts]
    all_goals simp [failure?, refusal?, handed, event?, takesChunk]

/-! ## The response -/

/-- **A response is relayed faithfully.** Whatever the stream does and whichever events are refused, the routine comes
to its end in exactly one way. It hands over chunks for the first pieces of the stream, and the completion after them
exactly if the stream was exhausted and no chunk was refused. The number of pieces is the result exactly if the
completion was taken. The response breaks off exactly if the stream could not be opened or pulled, and tells then how
many chunks were taken and why; the fault of a refused event is the result as it is, and nothing but the closing of
the stream comes after it. The stream is never pulled after its end, and closed exactly once if it was opened. -/
theorem response_relayed (p : Prompt) (source : Source) (taker : Taker) :
    ∃ dialogue result, (∀ d r, Relays p source taker d r ↔ d = dialogue ∧ r = result) ∧
      Faithful p source.pieces dialogue result := by
  obtain ⟨dialogue, result, hrelays, hshape⟩ := exists_shape p source taker
  refine ⟨dialogue, result, fun d r => ⟨fun h => h.unique hrelays, ?_⟩, hshape.faithful⟩
  rintro ⟨rfl, rfl⟩
  exact hrelays

/-! ## An event that is refused -/

/-- One who refuses the second event. -/
def secondRefused : Taker where
  take events := if events.length = 2 then .error .fileSystem else .ok ()
  plain h := by
    split at h
    · obtain rfl := Except.error.inj h
      rintro tab message sent cause ⟨⟩
    · cases h

/-- A stream with three pieces. -/
def threePieces : Source := .stream [.str "a", .str "b", .str "c"] none

/-- The dialogue of a response whose second chunk is refused. -/
def brokenDialogue (p : Prompt) : Dialogue :=
  upToRounds p [.str "a"] ++ [(.pullStream, .ok (.chunk (.str "b"))),
    (.deliver (chunkOf p (.str "b")), .error .fileSystem), (.closeStream, .ok .done)]

/-- The third piece is not pulled, the stream is closed, and the fault of the refused event is the result. -/
theorem secondRefused_relayed :
    let p : Prompt := ⟨"t", "m", "s", "x"⟩
    (∀ d r, Relays p threePieces secondRefused d r ↔ d = brokenDialogue p ∧ r = .error .fileSystem) ∧
      Faithful p [.str "a", .str "b", .str "c"] (brokenDialogue p) (.error .fileSystem) ∧
      handed (brokenDialogue p) = [chunkOf p (.str "a"), chunkOf p (.str "b")] := by
  intro p
  obtain ⟨dialogue, result, hrelays, hfaithful⟩ := response_relayed p threePieces secondRefused
  have hbroken : Relays p threePieces secondRefused (brokenDialogue p) (.error .fileSystem) :=
    ⟨_, _, .waiting rfl (.opens [] "s" "x" rfl) <| .waiting rfl (.gives _ _ _) <| .waiting rfl (.taken rfl) <|
      .waiting rfl (.gives _ _ _) <| .waiting rfl (.rejected rfl) <| .waiting rfl (.closesEarly _ _) <|
      .finished rfl⟩
  obtain ⟨rfl, rfl⟩ := (hrelays _ _).1 hbroken
  exact ⟨hrelays, hfaithful, rfl⟩

end ChatRelay.Relay
