import Baseball.Proofs.Scorekeeping
import Mathlib.Data.List.Forall2

/-!
# Watching together and watching alone

Observers who watch a game together are told of every event one after the other, so what they do is
interleaved event by event, and one of them can stop the game for all. If nobody does, the order is
of no account: each of them has done what he would have done alone with the game. This is the
exchange of two loops, over the events and over the observers.

## Keeping a box score

Most observers do nothing but keep a box score while a game lasts and make something of it when it
is over. `Observer.KeepsBox` says so, and what such an observer has in the end is told by the box
score of the game alone, whatever he was doing before.

## Main definitions

* `Observer.note` — what an observer does when he is told of an event
* `State.tellAll` — tells somebody of some events, each in the state before it
* `Observer.watch` — an observer alone with a game
* `Observer.Embeds` — a way of being part of another observer
* `Observer.KeepsBox` — an observer who keeps a box score

## Main results

* `watchGame_eq_ok_iff` — observers watch a game together exactly if it can be played and each of
  them watches it alone, and they do the same
* `Observer.KeepsBox.watch_eq_ok_iff` — what an observer who keeps a box score makes of a game
-/

namespace Baseball

variable {ρ σ τ : Type} {g : Game} {gameId : String} {s : State} {es : List Event}

/-! ### Telling everybody two things -/

theorem tellEach_eq_ok_iff {tell : ρ → Attempt ρ} {rs rs' : List ρ} :
    tellEach tell rs = .ok rs' ↔
      (∀ r ∈ rs, (tell r).error? = none) ∧ (rs.map fun r => (tell r).state) = rs' := by
  rw [Attempt.eq_ok_iff, error?_tellEach_eq_none]
  refine and_congr_right fun h => ?_
  rw [state_tellEach (error?_tellEach_eq_none.mpr h)]

/-- Everybody is told exactly if each of them can be told. -/
theorem tellEach_eq_ok_iff_forall₂ {tell : ρ → Attempt ρ} {rs rs' : List ρ} :
    tellEach tell rs = .ok rs' ↔ List.Forall₂ (fun r r' => tell r = .ok r') rs rs' := by
  rw [tellEach_eq_ok_iff]
  simp only [Attempt.eq_ok_iff, List.forall₂_and_left]
  rw [← List.forall₂_map_left_iff (R := Eq), List.forall₂_eq_eq_eq]

/-- **The exchange.** To tell everybody one thing and then everybody another is to tell each of them
both. -/
theorem tellEach_andThen_eq_ok_iff {tell tell' : ρ → Attempt ρ} {rs rs' : List ρ} :
    (tellEach tell rs).andThen (tellEach tell') = .ok rs' ↔
      tellEach (fun r => (tell r).andThen tell') rs = .ok rs' := by
  have hstate (r : ρ) (h : (tell r).error? = none) :
      ((tell r).andThen tell').state = (tell' (tell r).state).state := by
    rw [Attempt.andThen, h]
  rw [Attempt.andThen_eq_ok]
  simp only [tellEach_eq_ok_iff, Attempt.error?_andThen_eq_none]
  constructor
  · rintro ⟨_, ⟨h, rfl⟩, h', rfl⟩
    rw [List.forall_mem_map] at h'
    refine ⟨fun r hr => ⟨h r hr, h' r hr⟩, ?_⟩
    rw [List.map_map]
    exact List.map_congr_left fun r hr => hstate r (h r hr)
  · rintro ⟨h, rfl⟩
    refine ⟨_, ⟨fun r hr => (h r hr).1, rfl⟩, ?_, ?_⟩
    · rw [List.forall_mem_map]
      exact fun r hr => (h r hr).2
    · rw [List.map_map]
      exact List.map_congr_left fun r hr => (hstate r (h r hr).1).symm

theorem tellEach_ok (rs : List ρ) : tellEach Attempt.ok rs = .ok rs := by
  rw [tellEach_eq_ok_iff]
  exact ⟨fun _ _ => rfl, List.map_id rs⟩

/-! ### One event after the other -/

/-- Tells somebody who takes notes of some events, each in the state of the game before it. -/
def State.tellAll (gameId : String) (note : σ → Situation → Event → Attempt σ) (s : State) (x : σ) :
    List Event → Attempt σ
  | [] => .ok x
  | e :: es =>
    (note x s.situation e).andThen (tellAll gameId note (s.applyEvent gameId e).state · es)

/-- Whoever takes the same notes within something larger takes them from the same events. -/
theorem State.tellAll_map {note : σ → Situation → Event → Attempt σ}
    {note' : τ → Situation → Event → Attempt τ} {c : σ → τ}
    (h : ∀ x s e, note' (c x) s e = (note x s e).map c) (x : σ) :
    s.tellAll gameId note' (c x) es = (s.tellAll gameId note x es).map c := by
  induction es generalizing s x with
  | nil => rfl
  | cons e es ih =>
    rw [tellAll, tellAll, h]
    exact Attempt.map_andThen ih _

namespace Observer

/-- What an observer does when he is told of an event. -/
def note [Observer ρ] (g : Game) (r : ρ) (s : Situation) : Event → Attempt ρ
  | .play p => playMade r g p s
  | .noPlay subs => lineupChanged r g subs s

/-- The state that the events of a game lead to. -/
abbrev lastState (g : Game) : State := ((State.ofGame g).run g.id g.events).state

/-- An observer alone with a game, up to its last event. -/
def follow [Observer ρ] (g : Game) (r : ρ) : Attempt ρ :=
  (gameStarted r g (State.ofGame g).situation).andThen
    fun r => (State.ofGame g).tellAll g.id (note g) r g.events

/-- An observer alone with a game: he follows it, and is told that it is over. -/
def watch [Observer ρ] (g : Game) (r : ρ) : Attempt ρ :=
  (follow g r).andThen fun r => gameEnded r g (lastState g).situation

end Observer

namespace Watch

variable [Observer ρ] {n : Nat} {e : Event} {rs : List ρ} {w : Watch ρ}

/-- An event goes through exactly if everybody can be told of it and it can happen. -/
theorem event_eq_ok_iff (he : g.events[n]? = some e) :
    event g ⟨⟨g, n, s⟩, rs⟩ e = .ok w ↔ ∃ s' rs', s.applyEvent g.id e = .ok s' ∧
      tellEach (Observer.note g · s.situation e) rs = .ok rs' ∧ w = ⟨⟨g, n + 1, s'⟩, rs'⟩ := by
  have htell : tellEvent g ⟨⟨g, n, s⟩, rs⟩ e =
      (tellEach (Observer.note g · s.situation e) rs).map fun rs => ⟨⟨g, n, s⟩, rs⟩ := by
    cases e <;> rfl
  have hstep (rs' : List ρ) : step ⟨⟨g, n, s⟩, rs'⟩ =
      (((s.applyEvent g.id e).map fun s => (⟨g, n, s⟩ : Replay)).andThen fun r =>
        .ok { r with cursor := r.cursor + 1 }).map fun replay => ⟨replay, rs'⟩ := by
    simp only [step, Replay.step, Replay.current?, he]
  rw [event, htell, Attempt.andThen_eq_ok]
  simp only [Attempt.map_eq_ok]
  constructor
  · rintro ⟨_, ⟨rs', hrs', rfl⟩, h⟩
    rw [hstep, Attempt.map_eq_ok] at h
    obtain ⟨_, h, rfl⟩ := h
    obtain ⟨_, h, hmoved⟩ := Attempt.andThen_eq_ok.mp h
    obtain ⟨s', hs', rfl⟩ := Attempt.map_eq_ok.mp h
    exact ⟨s', rs', hs', hrs', by rw [← Attempt.ok_inj.mp hmoved]⟩
  · rintro ⟨s', rs', hs', hrs', rfl⟩
    exact ⟨_, ⟨rs', hrs', rfl⟩, by rw [hstep, hs']; rfl⟩

/-- **The events of a game** go through exactly if they can happen and each observer can be told of
all of them. -/
theorem forEach_event_eq_ok_iff (hes : g.events.drop n = es) :
    Attempt.forEach (event g) ⟨⟨g, n, s⟩, rs⟩ es = .ok w ↔ ∃ s' rs', s.run g.id es = .ok s' ∧
      tellEach (s.tellAll g.id (Observer.note g) · es) rs = .ok rs' ∧
        w = ⟨⟨g, n + es.length, s'⟩, rs'⟩ := by
  induction es generalizing n s rs with
  | nil =>
    have hnil : tellEach (s.tellAll g.id (Observer.note g) · []) rs = .ok rs := tellEach_ok rs
    rw [hnil]
    simp [State.run, eq_comm]
  | cons e es ih =>
    have he : g.events[n]? = some e := by
      have hhead := congrArg (·[0]?) hes
      simpa [List.getElem?_drop] using hhead
    have hrest : g.events.drop (n + 1) = es := by rw [← List.tail_drop, hes, List.tail_cons]
    have hlength : n + (e :: es).length = n + 1 + es.length := by
      rw [List.length_cons]
      omega
    rw [Attempt.forEach_cons, Attempt.andThen_eq_ok, hlength]
    simp only [event_eq_ok_iff he]
    constructor
    · rintro ⟨_, ⟨m, ms, hm, hms, rfl⟩, h⟩
      obtain ⟨s', rs', hs', hrs', rfl⟩ := (ih hrest).mp h
      refine ⟨s', rs', ?_, ?_, rfl⟩
      · rw [State.run, Attempt.forEach_cons, hm, Attempt.andThen_ok]
        exact hs'
      · refine tellEach_andThen_eq_ok_iff.mp ?_
        rw [hms, hm]
        exact hrs'
    · rintro ⟨s', rs', hs', hrs', rfl⟩
      rw [State.run, Attempt.forEach_cons] at hs'
      obtain ⟨m, hm, hrun⟩ := Attempt.andThen_eq_ok.mp hs'
      obtain ⟨ms, hms, hnotes⟩ := Attempt.andThen_eq_ok.mp (tellEach_andThen_eq_ok_iff.mpr hrs')
      rw [hm] at hnotes
      exact ⟨_, ⟨m, ms, hm, hms, rfl⟩, (ih hrest).mpr ⟨s', rs', hrun, hnotes, rfl⟩⟩

/-- A game is followed to its last event exactly if its events can happen and each observer follows
it alone. -/
theorem follow_eq_ok_iff :
    (Watch.tell ⟨.ofGame g, rs⟩ (Observer.gameStarted · g ·)).andThen
        (Attempt.forEach (event g) · g.events) = .ok w ↔
      ∃ s rs', (State.ofGame g).run g.id g.events = .ok s ∧
        tellEach (Observer.follow g) rs = .ok rs' ∧ w = ⟨⟨g, g.events.length, s⟩, rs'⟩ := by
  have hstart : Watch.tell ⟨.ofGame g, rs⟩ (Observer.gameStarted · g ·) =
      (tellEach (Observer.gameStarted · g (State.ofGame g).situation) rs).map
        fun rs => ⟨⟨g, 0, .ofGame g⟩, rs⟩ := rfl
  have hevents {rs : List ρ} :
      Attempt.forEach (event g) ⟨⟨g, 0, .ofGame g⟩, rs⟩ g.events = .ok w ↔ _ :=
    forEach_event_eq_ok_iff rfl
  have hfollow {rs' : List ρ} : tellEach (Observer.follow g) rs = .ok rs' ↔ _ :=
    tellEach_andThen_eq_ok_iff.symm
  rw [hstart, Attempt.andThen_eq_ok]
  simp only [Attempt.map_eq_ok, hfollow, Attempt.andThen_eq_ok]
  constructor
  · rintro ⟨_, ⟨r₀, h₀, rfl⟩, h⟩
    obtain ⟨s, r₁, hs, h₁, rfl⟩ := hevents.mp h
    exact ⟨s, r₁, hs, ⟨r₀, h₀, h₁⟩, by rw [Nat.zero_add]⟩
  · rintro ⟨s, r₁, hs, ⟨r₀, h₀, h₁⟩, rfl⟩
    exact ⟨_, ⟨r₀, h₀, rfl⟩, hevents.mpr ⟨s, r₁, hs, h₁, by rw [Nat.zero_add]⟩⟩

end Watch

/-- **Together as alone.** Observers watch a game together exactly if its events can happen and each
of them watches it alone; and then each has done what he does alone, whoever else is there. -/
theorem watchGame_eq_ok_iff [Observer ρ] {rs rs' : List ρ} :
    watchGame g rs = .ok rs' ↔ (∃ s, (State.ofGame g).run g.id g.events = .ok s) ∧
      tellEach (Observer.watch g) rs = .ok rs' := by
  have hend (n : Nat) (s : State) (rs : List ρ) :
      Watch.tell ⟨⟨g, n, s⟩, rs⟩ (Observer.gameEnded · g ·) =
        (tellEach (Observer.gameEnded · g s.situation) rs).map fun rs => ⟨⟨g, n, s⟩, rs⟩ := rfl
  have hwatch : tellEach (Observer.watch g) rs = .ok rs' ↔ _ :=
    tellEach_andThen_eq_ok_iff.symm
  have hlast {s : State} (hs : (State.ofGame g).run g.id g.events = .ok s) :
      Observer.lastState g = s := congrArg Attempt.state hs
  rw [hwatch, watchGame, Watch.game, Attempt.map_eq_ok]
  simp only [Attempt.andThen_eq_ok (a := Attempt.andThen _ _), Watch.follow_eq_ok_iff]
  rw [Attempt.andThen_eq_ok]
  constructor
  · rintro ⟨_, ⟨_, ⟨s, r₁, hs, h₁, rfl⟩, h⟩, rfl⟩
    rw [hend, Attempt.map_eq_ok] at h
    obtain ⟨r₂, h₂, rfl⟩ := h
    exact ⟨⟨s, hs⟩, r₁, h₁, hlast hs ▸ h₂⟩
  · rintro ⟨⟨s, hs⟩, r₁, h₁, h₂⟩
    refine ⟨⟨⟨g, g.events.length, s⟩, rs'⟩, ⟨_, ⟨s, r₁, hs, h₁, rfl⟩, ?_⟩, rfl⟩
    rw [hend, ← hlast hs, h₂, Attempt.map_ok]

/-! ### Being part of an observer -/

namespace Observer

variable [Observer ρ] [Observer τ]

/-- A way of being part of another observer: whatever the whole is told, the part is told, and
nothing else happens. -/
structure Embeds (c : ρ → τ) : Prop where
  started : ∀ r g s, gameStarted (c r) g s = (gameStarted r g s).map c
  noted : ∀ g r s e, note g (c r) s e = (note g r s e).map c
  ended : ∀ r g s, gameEnded (c r) g s = (gameEnded r g s).map c

theorem Embeds.watch {c : ρ → τ} (hc : Embeds c) (g : Game) (r : ρ) :
    watch g (c r) = (watch g r).map c := by
  have hevents (r : ρ) : (State.ofGame g).tellAll g.id (note g) (c r) g.events =
      ((State.ofGame g).tellAll g.id (note g) r g.events).map c :=
    State.tellAll_map (fun r s e => hc.noted g r s e) r
  have hfollow : follow g (c r) = (follow g r).map c := by
    rw [follow, follow, hc.started]
    exact Attempt.map_andThen hevents _
  rw [Observer.watch, Observer.watch, hfollow]
  exact Attempt.map_andThen (fun r => hc.ended r g _) _

/-! ### Keeping a box score -/

/-- **An observer who keeps a box score.** When a game starts he opens one, whatever he was doing;
he notes in it what happens; and when the game is over he closes it and makes something of it. While
he keeps `b` he is `keeping b`, and `made b` is what he makes of a finished `b`. -/
structure KeepsBox (g : Game) (r : ρ) (keeping made : BoxScore → ρ) : Prop where
  started : ∀ s r', gameStarted r g s = .ok r' ↔
    ∃ b, BoxScore.ofStarters g = .ok b ∧ keeping b = r'
  noted : ∀ b s e, note g (keeping b) s e = (b.note g.id s e).map keeping
  ended : ∀ b s r', gameEnded (keeping b) g s = .ok r' ↔ ∃ b', b.close g s = .ok b' ∧ made b' = r'

variable {r r' : ρ} {keeping made : BoxScore → ρ}

theorem KeepsBox.embed {c : ρ → τ} (hc : Embeds c) (h : KeepsBox g r keeping made) :
    KeepsBox g (c r) (c ∘ keeping) (c ∘ made) where
  started s r' := by
    rw [hc.started, Attempt.map_eq_ok]
    simp only [h.started]
    constructor
    · rintro ⟨_, ⟨b, hb, rfl⟩, rfl⟩
      exact ⟨b, hb, rfl⟩
    · rintro ⟨b, hb, rfl⟩
      exact ⟨_, ⟨b, hb, rfl⟩, rfl⟩
  noted b s e := by
    rw [Function.comp_apply, hc.noted, h.noted]
    rfl
  ended b s r' := by
    rw [Function.comp_apply, hc.ended, Attempt.map_eq_ok]
    simp only [h.ended]
    constructor
    · rintro ⟨_, ⟨b', hb', rfl⟩, rfl⟩
      exact ⟨b', hb', rfl⟩
    · rintro ⟨b', hb', rfl⟩
      exact ⟨_, ⟨b', hb', rfl⟩, rfl⟩

/-- What such an observer makes of a game, step by step. -/
theorem KeepsBox.watch_eq_ok_iff_close (h : KeepsBox g r keeping made) :
    watch g r = .ok r' ↔ ∃ b₀ b₁ b, BoxScore.ofStarters g = .ok b₀ ∧
      (State.ofGame g).tellAll g.id (BoxScore.note g.id) b₀ g.events = .ok b₁ ∧
        b₁.close g (lastState g).situation = .ok b ∧ made b = r' := by
  have hevents (b : BoxScore) : (State.ofGame g).tellAll g.id (note g) (keeping b) g.events =
      ((State.ofGame g).tellAll g.id (BoxScore.note g.id) b g.events).map keeping :=
    State.tellAll_map (fun b s e => h.noted b s e) b
  rw [watch, Attempt.andThen_eq_ok]
  simp only [follow, Attempt.andThen_eq_ok, h.started]
  constructor
  · rintro ⟨_, ⟨_, ⟨b₀, hb₀, rfl⟩, hnoted⟩, hended⟩
    rw [hevents, Attempt.map_eq_ok] at hnoted
    obtain ⟨b₁, hb₁, rfl⟩ := hnoted
    obtain ⟨b, hb, rfl⟩ := (h.ended ..).mp hended
    exact ⟨b₀, b₁, b, hb₀, hb₁, hb, rfl⟩
  · rintro ⟨b₀, b₁, b, hb₀, hb₁, hb, rfl⟩
    refine ⟨keeping b₁, ⟨keeping b₀, ⟨b₀, hb₀, rfl⟩, ?_⟩, (h.ended ..).mpr ⟨b, hb, rfl⟩⟩
    rw [hevents, hb₁, Attempt.map_ok]

/-- A scorer keeps a box score. -/
theorem keepsBox_scorer (g : Game) (k : Scorer) :
    KeepsBox g k (fun b => { k with current? := some b })
      (fun b => { current? := none, finished := k.finished ++ [b] }) where
  started s k' := by
    simp only [gameStarted, Scorer.openGame]
    cases BoxScore.ofStarters g <;> simp [Attempt.ok, Attempt.fail]
  noted b s e := by
    cases e <;> rfl
  ended b s k' := by
    simp only [gameEnded, Scorer.closeGame]
    cases b.close g s <;> simp [Attempt.ok, Attempt.fail, Scorer.file]

/-- So does a tally with its scorer. -/
theorem keepsBox_tallied {α : Type} [GameTally α] (g : Game) (t : Tallied α) :
    KeepsBox g t (fun b => ⟨{ t.scorer with current? := some b }, t.tally⟩)
      (fun b => ⟨{ t.scorer with current? := none }, GameTally.addBox t.tally g b⟩) where
  started s t' := by
    simp only [gameStarted, Scorer.openGame]
    cases BoxScore.ofStarters g <;> simp [Attempt.map, Attempt.ok, Attempt.fail]
  noted b s e := by
    cases e <;> rfl
  ended b s t' := by
    simp only [gameEnded, Scorer.closeGame]
    cases b.close g s <;> simp [Attempt.ok, Attempt.fail]

end Observer

/-- **The box score of a game** is opened, kept to the last event, and closed. -/
theorem BoxScore.ofGame_eq_ok_iff {b : BoxScore} :
    ofGame g = .ok b ↔ (∃ s, (State.ofGame g).run g.id g.events = .ok s) ∧
      ∃ b₀ b₁, ofStarters g = .ok b₀ ∧
        (State.ofGame g).tellAll g.id (note g.id) b₀ g.events = .ok b₁ ∧
          b₁.close g (Observer.lastState g).situation = .ok b := by
  have hofGame : ofGame g = .ok b ↔
      ∃ rs, watchGame g [({} : Scorer)] = .ok rs ∧
        rs.head?.bind (·.finished.getLast?) = some b := by
    rw [ofGame]
    rcases watchGame g [({} : Scorer)] with ⟨rs, _ | error⟩
    · cases hlast : rs.head?.bind (·.finished.getLast?) <;> simp [hlast, Attempt.ok]
    · simp [Attempt.ok]
  have hclose {k : Scorer} : Observer.watch g ({} : Scorer) = .ok k ↔ _ :=
    (Observer.keepsBox_scorer g {}).watch_eq_ok_iff_close
  rw [hofGame]
  simp only [watchGame_eq_ok_iff, tellEach_eq_ok_iff_forall₂, List.forall₂_cons_left_iff,
    List.forall₂_nil_left_iff]
  constructor
  · rintro ⟨_, ⟨hrun, k, _, hk, rfl, rfl⟩, hlast⟩
    obtain ⟨b₀, b₁, b', hb₀, hb₁, hb', rfl⟩ := hclose.mp hk
    obtain rfl : b' = b := Option.some.inj hlast
    exact ⟨hrun, b₀, b₁, hb₀, hb₁, hb'⟩
  · rintro ⟨hrun, b₀, b₁, hb₀, hb₁, hb⟩
    exact ⟨_, ⟨hrun, _, _, hclose.mpr ⟨b₀, b₁, b, hb₀, hb₁, hb, rfl⟩, rfl, rfl⟩, rfl⟩

/-- **What an observer who keeps a box score makes of a game** is told by the box score of the game
alone, whatever he was doing before. -/
theorem Observer.KeepsBox.watch_eq_ok_iff [Observer ρ] {r r' : ρ} {keeping made : BoxScore → ρ}
    (h : KeepsBox g r keeping made)
    (hrun : ∃ s, (State.ofGame g).run g.id g.events = .ok s) :
    watch g r = .ok r' ↔ ∃ b, BoxScore.ofGame g = .ok b ∧ made b = r' := by
  rw [h.watch_eq_ok_iff_close]
  simp only [BoxScore.ofGame_eq_ok_iff]
  constructor
  · rintro ⟨b₀, b₁, b, hb₀, hb₁, hb, rfl⟩
    exact ⟨b, ⟨hrun, b₀, b₁, hb₀, hb₁, hb⟩, rfl⟩
  · rintro ⟨b, ⟨-, b₀, b₁, hb₀, hb₁, hb⟩, rfl⟩
    exact ⟨b₀, b₁, b, hb₀, hb₁, hb, rfl⟩

end Baseball
