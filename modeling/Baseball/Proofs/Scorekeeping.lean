import Baseball.Proofs.Innings
import Baseball.Report.Tally

/-!
# A game and the box score kept beside it

The box score of a game is defined by letting a scorer watch a replay. What the two of them do is
taken apart here once: there is a state of the game and a box score beside it, every event is first
noted in the box score and then happens, and at the end the box score is closed.

## The relation

`BoxScore.Kept g es s b` says that after the events `es` of `g` the game is in state `s` and the box
score has come to `b`, everything so far having gone well. It is the relation along which every fact
about whole games is proved: one case for the opening, one for an event.

## Main definitions

* `BoxScore.note` — the box score after an event
* `BoxScore.Kept` — a point of a game and the box score there
* `BoxScore.Breaks` — an event that cannot be noted, or cannot happen
* `Game.plays` — the plays of a game, each with the state it was made in
* `Game.finalState` — the state after the last event

## Main results

* `BoxScore.ofGame_cases` — the box score of a game is not opened, breaks off at an event, or is
  closed at a point that was kept to the end
* `BoxScore.Kept.fits` — innings and outs stay within what can be counted
* `BoxScore.Kept.plays_induction` — what holds of the plays so far and the state they led to
* `BoxScore.Kept.finalState_eq` — the state kept to the end is the one the replay ends in
-/

namespace Baseball

/-- A result that is there was computed without an error. -/
theorem toOption_eq_some_iff {ε α : Type} {e : Except ε α} {a : α} :
    e.toOption = some a ↔ e = .ok a := by
  cases e <;> simp [Except.toOption]

/-! ### Plays in the order in which they were made -/

/-- The plays among some events, each with the state it was made in. -/
def State.plays (gameId : String) (s : State) : List Event → List (State × Play)
  | [] => []
  | .play p :: es => (s, p) :: plays gameId (s.applyPlay gameId p).state es
  | .noPlay subs :: es => plays gameId (subs.foldl substitute s) es

/-- The state of a game after some events, or after those before the first that could not happen. -/
def State.run (gameId : String) (s : State) (es : List Event) : Attempt State :=
  Attempt.forEach (applyEvent gameId) s es

/-- The plays of a game, each with the state it was made in. -/
def Game.plays (g : Game) : List (State × Play) := State.plays g.id (.ofGame g) g.events

/-- The state in which the replay of a game ends. -/
def Game.finalState (g : Game) : State := (Replay.ofGame g).seekToEnd.state.state

theorem State.plays_append {gameId : String} {s s' : State} {es : List Event}
    (h : s.run gameId es = .ok s') (fs : List Event) :
    s.plays gameId (es ++ fs) = s.plays gameId es ++ s'.plays gameId fs := by
  induction es generalizing s with
  | nil =>
    obtain rfl : s = s' := congrArg Attempt.state h
    rfl
  | cons e es ih =>
    rw [run, Attempt.forEach_cons] at h
    obtain ⟨m, hm, hrest⟩ := Attempt.andThen_eq_ok.mp h
    have htail := ih hrest
    cases e with
    | play p =>
      have hp : (s.applyPlay gameId p).state = m := (Attempt.eq_ok_iff.mp hm).2
      simp [plays, hp, htail]
    | noPlay subs =>
      have hp : subs.foldl substitute s = m := (Attempt.eq_ok_iff.mp hm).2
      simp [plays, hp, htail]

namespace BoxScore

/-! ### The relation -/

/-- The box score after an event, noted with the answers that the game gave before it. -/
def note (gameId : String) (b : BoxScore) (s : Situation) : Event → Attempt BoxScore
  | .play p => b.postPlay gameId s p
  | .noPlay subs => Attempt.forEach (enter gameId) b subs

/-- After the events `es` of a game its state is `s`, and the box score kept beside it is `b`. -/
inductive Kept (g : Game) : List Event → State → BoxScore → Prop
  | opened {b : BoxScore} (h : ofStarters g = .ok b) : Kept g [] (.ofGame g) b
  | event {es : List Event} {s s' : State} {b b' : BoxScore} {e : Event} (before : Kept g es s b)
      (noted : b.note g.id s.situation e = .ok b') (happened : s.applyEvent g.id e = .ok s') :
      Kept g (es ++ [e]) s' b'

/-- Somewhere along a game an event cannot be noted, or cannot happen. -/
def Breaks (g : Game) (error : ScoringError) : Prop :=
  ∃ es e s b, es ++ [e] <+: g.events ∧ Kept g es s b ∧
    ((b.note g.id s.situation e).error? = some error ∨ (s.applyEvent g.id e).error? = some error)

variable {g : Game} {es : List Event} {s : State} {b : BoxScore}

theorem Kept.run (h : Kept g es s b) : (State.ofGame g).run g.id es = .ok s := by
  induction h with
  | opened => rfl
  | event _ _ happened ih =>
    have : (State.ofGame g).run g.id _ = .ok _ := ih
    simp only [State.run] at this ⊢
    rw [Attempt.forEach_append, this]
    simp [happened]

/-- **Innings and outs can be counted** wherever a game was kept. -/
theorem Kept.fits (h : Kept g es s b) : s.Fits := by
  induction h with
  | opened => exact State.fits_ofGame g
  | @event es s s' b b' e before noted happened ih =>
    have hfits : (s.applyEvent g.id e).state.Fits := State.fits_applyEvent ih e
    rwa [happened] at hfits

/-- The plays of a longer stretch of a game are those before, and the last if it is one. -/
theorem Kept.plays_concat (h : Kept g es s b) (e : Event) :
    (State.ofGame g).plays g.id (es ++ [e])
      = (State.ofGame g).plays g.id es ++ s.plays g.id [e] :=
  State.plays_append h.run [e]

/-- **Along the plays of a game**: what is true before the first play, is kept by a play that could be
made and does not ask who is in the game, is true of the plays so far and the state they led to. -/
theorem Kept.plays_induction {P : List (State × Play) → State → Prop}
    (hstart : P [] (.ofGame g))
    (hplay : ∀ {qs s p}, P qs s → (s.newRunner? p).isSome = p.batterEvent →
      P (qs ++ [(s, p)]) (s.afterPlay p (s.newRunner? p)))
    (hsame : ∀ {qs s t}, P qs s → s.SameCount t → P qs t) (h : Kept g es s b) :
    P ((State.ofGame g).plays g.id es) s := by
  induction h with
  | opened => exact hstart
  | @event es s s' b b' e before noted happened ih =>
    rw [before.plays_concat]
    cases e with
    | play p =>
      obtain ⟨-, hbatter, -, rfl⟩ := State.applyPlay_eq_ok_iff.mp happened
      exact hplay ih hbatter
    | noPlay subs =>
      obtain rfl : subs.foldl State.substitute s = s' := (Attempt.eq_ok_iff.mp happened).2
      rw [State.plays, State.plays, List.append_nil]
      exact hsame ih (.foldl_substitute s subs)

/-- **Every play of a stretch that was kept** was made at a point that was kept; there it was noted,
and happened. -/
theorem Kept.exists_of_mem_plays (h : Kept g es s b) :
    ∀ q ∈ (State.ofGame g).plays g.id es, ∃ ds c c' s', ds ++ [.play q.2] <+: es ∧ Kept g ds q.1 c ∧
      c.postPlay g.id q.1.situation q.2 = .ok c' ∧ q.1.applyPlay g.id q.2 = .ok s' := by
  induction h with
  | opened => exact fun _ hq => nomatch hq
  | @event es s s' b b' e before noted happened ih =>
    rw [before.plays_concat]
    intro q hq
    rcases List.mem_append.mp hq with hq | hq
    · obtain ⟨ds, c, c', t, hprefix, hmade⟩ := ih q hq
      exact ⟨ds, c, c', t, hprefix.trans (List.prefix_append es [e]), hmade⟩
    · cases e with
      | play p =>
        obtain rfl := List.mem_singleton.mp hq
        exact ⟨es, b, b', s', List.prefix_refl _, before, noted, happened⟩
      | noPlay subs => cases hq

theorem Kept.replay (h : Kept g es s b) (hp : es <+: g.events) :
    Attempt.forEach (fun r (_ : Event) => r.step) (Replay.ofGame g) es = .ok ⟨g, es.length, s⟩ := by
  induction h with
  | opened => rfl
  | @event es s s' b b' e before noted happened ih =>
    have hes : es <+: g.events := (List.prefix_append es [e]).trans hp
    have hcur : g.events[es.length]? = some e := by
      obtain ⟨rest, hrest⟩ := hp
      rw [← hrest]
      simp
    rw [Attempt.forEach_append, ih hes]
    simp [Replay.step, Replay.current?, hcur, happened]

/-- **The state kept to the end is the one the replay ends in.** -/
theorem Kept.finalState_eq (h : Kept g g.events s b) : g.finalState = s := by
  have hrun := h.replay (List.prefix_refl _)
  have hend : (Replay.ofGame g).seekToEnd = .ok ⟨g, g.events.length, s⟩ := hrun
  rw [Game.finalState, hend]
  rfl

end BoxScore

/-! ### A scorer who watches alone -/

theorem tellEach_singleton {ρ : Type} (tell : ρ → Attempt ρ) (r : ρ) :
    tellEach tell [r] = (tell r).map fun r => [r] := by
  rcases h : tell r with ⟨r', _ | e⟩ <;> simp [tellEach, h, Attempt.map, Attempt.ok, Attempt.fail]

namespace Watch

/-- A scorer watches a game alone: `n` events are done, they led to `s`, and he has noted `b`. -/
def ofBox (g : Game) (n : Nat) (s : State) (b : BoxScore) : Watch Scorer :=
  ⟨⟨g, n, s⟩, [{ current? := some b }]⟩

variable {g : Game} {n : Nat} {s : State} {b : BoxScore} {e : Event}

theorem tellEvent_ofBox (g : Game) (n : Nat) (s : State) (b : BoxScore) (e : Event) :
    (ofBox g n s b).tellEvent g e = (b.note g.id s.situation e).map (ofBox g n s) := by
  rw [tellEvent, tell, show (ofBox g n s b).observers = [{ current? := some b }] from rfl,
    tellEach_singleton]
  cases e <;> rfl

theorem error?_step_ofBox (he : g.events[n]? = some e) :
    (ofBox g n s b).step.error? = (s.applyEvent g.id e).error? := by
  rcases h : s.applyEvent g.id e with ⟨s', _ | e⟩ <;>
    simp [step, ofBox, Replay.step, Replay.current?, he, h, Attempt.map, Attempt.andThen,
      Attempt.ok]

theorem step_ofBox {s' : State} (he : g.events[n]? = some e) (hs : s.applyEvent g.id e = .ok s') :
    (ofBox g n s b).step = .ok (ofBox g (n + 1) s' b) := by
  simp [step, ofBox, Replay.step, Replay.current?, he, hs]

theorem event_ofBox {s' : State} {b' : BoxScore} (he : g.events[n]? = some e)
    (hb : b.note g.id s.situation e = .ok b') (hs : s.applyEvent g.id e = .ok s') :
    event g (ofBox g n s b) e = .ok (ofBox g (n + 1) s' b') := by
  rw [event, tellEvent_ofBox, hb, Attempt.map_ok, Attempt.andThen_ok, step_ofBox he hs]

/-- An event that went through was noted, and happened. -/
theorem exists_of_event_ofBox {w : Watch Scorer} (he : g.events[n]? = some e)
    (h : event g (ofBox g n s b) e = .ok w) :
    ∃ s' b', b.note g.id s.situation e = .ok b' ∧ s.applyEvent g.id e = .ok s' ∧
      w = ofBox g (n + 1) s' b' := by
  have hw := h
  rw [event, tellEvent_ofBox] at h
  obtain ⟨v, hnote, hstep⟩ := Attempt.andThen_eq_ok.mp h
  obtain ⟨b', hb, rfl⟩ := Attempt.map_eq_ok.mp hnote
  have hs : s.applyEvent g.id e = .ok (s.applyEvent g.id e).state := by
    rw [Attempt.eq_ok_iff, ← error?_step_ofBox (b := b') he, hstep, Attempt.error?_ok]
    exact ⟨rfl, rfl⟩
  rw [event_ofBox he hb hs] at hw
  exact ⟨_, b', hb, hs, (Attempt.ok_inj.mp hw).symm⟩

/-- What stops an event is that it cannot be noted or cannot happen. -/
theorem error?_event_ofBox {error : ScoringError} (he : g.events[n]? = some e)
    (h : (event g (ofBox g n s b) e).error? = some error) :
    (b.note g.id s.situation e).error? = some error ∨
      (s.applyEvent g.id e).error? = some error := by
  rw [event, tellEvent_ofBox, Attempt.error?_andThen_eq_some, Attempt.error?_map] at h
  refine h.imp_right ?_
  rintro ⟨-, hstep⟩
  rwa [show ((b.note g.id s.situation e).map (ofBox g n s)).state
    = ofBox g n s (b.note g.id s.situation e).state from rfl, error?_step_ofBox he] at hstep

open BoxScore

/-- From any point that was kept, a game is kept to its end or breaks off. -/
theorem forEach_event_cases {es rest : List Event} (h : Kept g es s b)
    (hg : g.events = es ++ rest) :
    (∃ s' b', Kept g g.events s' b' ∧ Attempt.forEach (event g) (ofBox g es.length s b) rest
        = .ok (ofBox g g.events.length s' b')) ∨
      ∃ error, Breaks g error ∧
        (Attempt.forEach (event g) (ofBox g es.length s b) rest).error? = some error := by
  induction rest generalizing es s b with
  | nil =>
    obtain rfl : g.events = es := by simpa using hg
    exact .inl ⟨s, b, h, rfl⟩
  | cons e rest ih =>
    have hg' : g.events = (es ++ [e]) ++ rest := by simpa using hg
    have he : g.events[es.length]? = some e := by simp [hg]
    rw [Attempt.forEach_cons]
    rcases Attempt.eq_ok_or_error (event g (ofBox g es.length s b) e) with ⟨w, hw⟩ | ⟨error, herr⟩
    · obtain ⟨s', b', hb, hs, rfl⟩ := exists_of_event_ofBox he hw
      rw [hw, Attempt.andThen_ok]
      simpa using ih (.event h hb hs) hg'
    · refine .inr ⟨error, ⟨es, e, s, b, ⟨rest, hg'.symm⟩, h, error?_event_ofBox he herr⟩, ?_⟩
      rw [Attempt.error?_andThen_eq_some]
      exact .inl herr

end Watch

namespace BoxScore

variable {g : Game}

/-- A scorer who has opened a game watches its events, and then its end. -/
theorem watchGame_eq_of_opened {b₀ : BoxScore} (h₀ : ofStarters g = .ok b₀) :
    watchGame g [({} : Scorer)] =
      ((Attempt.forEach (Watch.event g) (Watch.ofBox g 0 (.ofGame g) b₀) g.events).andThen
        fun w => w.tell (Observer.gameEnded · g ·)).map Watch.observers := by
  have hopen : (⟨.ofGame g, [{}]⟩ : Watch Scorer).tell (Observer.gameStarted · g ·)
      = .ok (Watch.ofBox g 0 (.ofGame g) b₀) := by
    rw [Watch.tell, tellEach_singleton]
    simp [Observer.gameStarted, Scorer.openGame, h₀, Watch.ofBox, Replay.ofGame]
  rw [watchGame, Watch.game, hopen, Attempt.andThen_ok]

/-- The scorer files the box score that he closes. -/
theorem tell_gameEnded_ofBox (g : Game) (n : Nat) (s : State) (b : BoxScore) :
    (Watch.ofBox g n s b).tell (Observer.gameEnded · g ·) =
      match b.close g s.situation with
      | .ok b' => .ok ⟨⟨g, n, s⟩, [{ finished := [b'] }]⟩
      | .error e => .fail ⟨⟨g, n, s⟩, [{}]⟩ e := by
  rw [Watch.tell, show (Watch.ofBox g n s b).observers = [{ current? := some b }] from rfl,
    tellEach_singleton]
  simp only [Observer.gameEnded, Scorer.closeGame, Watch.ofBox, Replay.situation]
  cases b.close g s.situation <;> rfl

/-- **A box score is not opened, breaks off at an event, or is closed.** -/
theorem ofGame_cases (g : Game) :
    (∃ error, ofStarters g = .error error ∧ ofGame g = .error error) ∨
      (∃ error, Breaks g error ∧ ofGame g = .error error) ∨
        ∃ s b, Kept g g.events s b ∧ ofGame g = b.close g s.situation := by
  rcases h₀ : ofStarters g with error | b₀
  · refine .inl ⟨error, rfl, ?_⟩
    have hopen : (⟨.ofGame g, [{}]⟩ : Watch Scorer).tell (Observer.gameStarted · g ·)
        = .fail ⟨.ofGame g, [{}]⟩ error := by
      rw [Watch.tell, tellEach_singleton]
      simp [Observer.gameStarted, Scorer.openGame, h₀, Attempt.map, Attempt.fail]
    rw [ofGame, watchGame, Watch.game, hopen]
    rfl
  · rw [ofGame, watchGame_eq_of_opened h₀]
    rcases Watch.forEach_event_cases (.opened h₀) (show g.events = [] ++ g.events from rfl) with
      ⟨s, b, hkept, hrun⟩ | ⟨error, hbreak, herr⟩
    · refine .inr (.inr ⟨s, b, hkept, ?_⟩)
      rw [List.length_nil] at hrun
      rw [hrun, Attempt.andThen_ok, tell_gameEnded_ofBox]
      cases b.close g s.situation <;> rfl
    · refine .inr (.inl ⟨error, hbreak, ?_⟩)
      rw [List.length_nil] at herr
      rw [Attempt.error?_map, (Attempt.error?_andThen_eq_some.mpr (.inl herr))]

/-- A box score that was made is one that was kept to the end of the game and closed there. -/
theorem exists_kept_of_ofGame {b : BoxScore} (h : ofGame g = .ok b) :
    ∃ b₀, Kept g g.events g.finalState b₀ ∧ b₀.close g g.finalState.situation = .ok b := by
  rcases ofGame_cases g with ⟨error, -, herr⟩ | ⟨error, -, herr⟩ | ⟨s, b₀, hkept, hclose⟩
  · cases herr.symm.trans h
  · cases herr.symm.trans h
  · rw [hkept.finalState_eq]
    exact ⟨b₀, hkept, hclose.symm.trans h⟩

end BoxScore

end Baseball
