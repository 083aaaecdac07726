import Baseball.Proofs.FailedStep
import Baseball.Proofs.Roster

/-!
# Lineup, positions and fielders agree

A squad keeps three tables, and seating a player changes them in turn. They stay in agreement.
Whoever fields a position holds it, because a player gives up the post he held when he takes
another; this needs nothing of the game. Whoever holds a position stands in the lineup, because the
man who has to make way for a substitute loses his position; this needs that the starters do not
take each other's slots and that nobody is sent to a slot which lineups do not have.

A player may stand in two slots for a time, as when two players trade slots by two substitutions in
a row. The second displaces him from his old slot, and he loses a position that he would still be
entitled to. So the converse is not claimed: a player in the lineup need not hold a position.

## Main definitions

* `Squad.Posted` — whoever fields a position holds it
* `Squad.Lined` — whoever holds a position stands in the lineup
* `Game.ProperSlots` — the games in which the lineups are entered as they should be
* `Situation.Coherent` — what the answers about one side have in common

## Main results

* `Squad.positionOf?_substitute`, `Squad.playerAt?_substitute` — the squad after a substitution
* `Replay.Visited.squad` — what substitutions keep is true wherever a replay comes to
* `Replay.Visited.coherent` — the answers about a side agree wherever a replay comes to
-/

namespace Baseball

namespace Squad

variable {q : Squad} {player x : String} {p r : Position} {slot i : Nat}

/-! ### Positions and slots after a change -/

@[simp] theorem positionOf?_empty (x : String) : empty.positionOf? x = none := Keyed.get?_empty ..

theorem positionOf?_seat (q : Squad) (player : String) (p : Position) (x : String) :
    (q.seat player p).positionOf? x = if x = player then some p else q.positionOf? x :=
  Keyed.get?_insert ..

theorem positionOf?_unseat (q : Squad) (player x : String) :
    (q.unseat player).positionOf? x = if x = player then none else q.positionOf? x :=
  Keyed.get?_erase ..

@[simp] theorem positionOf?_takeSlot (q : Squad) (slot : Nat) (player x : String) :
    (q.takeSlot slot player).positionOf? x = q.positionOf? x := rfl

theorem displaced?_eq_some_iff {sub : Substitution} :
    q.displaced? sub = some x ↔ q.playerAt? sub.slot = some x ∧ x ≠ sub.player := by
  rw [displaced?, Option.filter_eq_some_iff, bne_iff_ne]

/-- **Positions after a substitution.** The substitute has his, and whoever stood in his slot has
none. -/
theorem positionOf?_substitute (q : Squad) (sub : Substitution) (x : String) :
    (q.substitute sub).positionOf? x =
      if x = sub.player then some sub.position
      else if q.playerAt? sub.slot = some x then none
      else q.positionOf? x := by
  rw [substitute, positionOf?_seat]
  by_cases hx : x = sub.player
  · rw [if_pos hx, if_pos hx]
  · rw [if_neg hx, if_neg hx]
    rcases hd : q.displaced? sub with _ | old
    · have hnot : q.playerAt? sub.slot ≠ some x := fun hslot => by
        cases hd.symm.trans (displaced?_eq_some_iff.mpr ⟨hslot, hx⟩)
      rw [if_neg hnot]
      rfl
    · have hold := (displaced?_eq_some_iff.mp hd).1
      dsimp only
      rw [positionOf?_unseat, positionOf?_takeSlot]
      simp only [hold, Option.some.injEq, eq_comm]

/-- **The lineup after a substitution.** -/
theorem playerAt?_substitute (q : Squad) (sub : Substitution) (i : Nat) :
    (q.substitute sub).playerAt? i =
      if sub.slot = i ∧ i < slotCount then some sub.player else q.playerAt? i := by
  rw [substitute, playerAt?_seat, ← playerAt?_takeSlot]
  rcases q.displaced? sub with _ | old <;> rfl

/-! ### Whoever fields a position holds it -/

/-- **Whoever fields a position holds it**, and it is one that has a post. -/
structure Posted (q : Squad) : Prop where
  position : ∀ {p x}, q.fielder? p = some x → q.positionOf? x = some p
  post : ∀ {p x}, q.fielder? p = some x → hasPost p

theorem posted_empty : Posted .empty where
  position h := nomatch (fielder?_empty _).symm.trans h
  post h := nomatch (fielder?_empty _).symm.trans h

/-- Nobody fields two positions. -/
theorem Posted.inj (hq : q.Posted) (hp : q.fielder? p = some x) (hr : q.fielder? r = some x) :
    p = r :=
  Option.some.inj ((hq.position hp).symm.trans (hq.position hr))

theorem Posted.seat (hq : q.Posted) (player : String) (p : Position) :
    (q.seat player p).Posted := by
  -- Who fields `r` afterwards is the man who was seated, or has kept his post and is not that man.
  have hcases {r x} (h : (q.seat player p).fielder? r = some x) :
      (x = player ∧ r = p ∧ hasPost p) ∨ (x ≠ player ∧ q.fielder? r = some x) := by
    rw [fielder?_seat] at h
    split at h
    · next hr => exact .inl ⟨(Option.some.inj h).symm, hr⟩
    · split at h
      · cases h
      · next hleft =>
        refine .inr ⟨?_, h⟩
        rintro rfl
        exact hleft ⟨hq.position h, h⟩
  constructor
  · intro r x h
    rw [positionOf?_seat]
    rcases hcases h with ⟨hx, hr, -⟩ | ⟨hx, hold⟩
    · rw [if_pos hx, hr]
    · rw [if_neg hx, hq.position hold]
  · intro r x h
    rcases hcases h with ⟨-, rfl, hp⟩ | ⟨-, hold⟩
    · exact hp
    · exact hq.post hold

theorem Posted.unseat (hq : q.Posted) (player : String) : (q.unseat player).Posted := by
  have hcases {r x} (h : (q.unseat player).fielder? r = some x) :
      x ≠ player ∧ q.fielder? r = some x := by
    rw [fielder?_unseat] at h
    split at h
    · cases h
    · next hstays => exact ⟨fun hx => hstays (hx ▸ h), h⟩
  constructor
  · intro r x h
    rw [positionOf?_unseat, if_neg (hcases h).1, hq.position (hcases h).2]
  · intro r x h
    exact hq.post (hcases h).2

theorem Posted.takeSlot (hq : q.Posted) (slot : Nat) (player : String) :
    (q.takeSlot slot player).Posted :=
  ⟨hq.position, hq.post⟩

/-- A substitution leaves everybody who fields a position in possession of it. -/
theorem Posted.substitute (hq : q.Posted) (sub : Substitution) : (q.substitute sub).Posted := by
  have htaken := hq.takeSlot sub.slot sub.player
  rw [Squad.substitute]
  rcases q.displaced? sub with _ | old
  · exact htaken.seat ..
  · exact (htaken.unseat old).seat ..

theorem posted_ofStarters (starters : List Starter) : Posted (.ofStarters starters) := by
  rw [ofStarters]
  refine List.foldlRecOn starters enterStarter posted_empty fun q hq s _ => ?_
  exact (hq.takeSlot s.slot s.player).seat ..

/-! ### Whoever holds a position stands in the lineup -/

/-- **Whoever holds a position stands in the lineup.** -/
def Lined (q : Squad) : Prop := ∀ x p, q.positionOf? x = some p → ∃ i, q.playerAt? i = some x

/-- There are no players outside the slots. -/
theorem lt_slotCount_of_playerAt? (h : q.playerAt? i = some x) : i < slotCount := by
  by_contra hi
  rw [playerAt?, Vector.getElem?_eq_none (Nat.le_of_not_lt hi)] at h
  cases h

/-- A substitute who is sent to one of the slots stands there, and the others with a position have
kept theirs. -/
theorem Lined.substitute (hq : q.Lined) {sub : Substitution} (hslot : sub.slot < slotCount) :
    (q.substitute sub).Lined := by
  intro x p h
  rw [positionOf?_substitute] at h
  split at h
  · next hx =>
    refine ⟨sub.slot, ?_⟩
    rw [playerAt?_substitute, if_pos ⟨rfl, hslot⟩, hx]
  · split at h
    · cases h
    · next hkept =>
      obtain ⟨i, hi⟩ := hq x p h
      refine ⟨i, ?_⟩
      rw [playerAt?_substitute, if_neg, hi]
      rintro ⟨rfl, -⟩
      exact hkept hi

/-- A starter who takes a free slot displaces nobody. -/
theorem Lined.enterStarter (hq : q.Lined) {s : Starter} (hslot : s.slot < slotCount)
    (hfree : q.playerAt? s.slot = none) : (q.enterStarter s).Lined := by
  have hplayer (i : Nat) : (q.enterStarter s).playerAt? i =
      if s.slot = i ∧ i < slotCount then some s.player else q.playerAt? i := by
    rw [Squad.enterStarter, playerAt?_seat, playerAt?_takeSlot]
  intro x p h
  rw [Squad.enterStarter, positionOf?_seat, positionOf?_takeSlot] at h
  split at h
  · next hx =>
    refine ⟨s.slot, ?_⟩
    rw [hplayer, if_pos ⟨rfl, hslot⟩, hx]
  · obtain ⟨i, hi⟩ := hq x p h
    refine ⟨i, ?_⟩
    rw [hplayer, if_neg, hi]
    rintro ⟨rfl, -⟩
    cases hfree.symm.trans hi

/-- Starters in slots of their own all stand in the lineup. -/
theorem lined_ofStarters {starters : List Starter} (hdistinct : (starters.map Starter.slot).Nodup)
    (hslots : ∀ s ∈ starters, s.slot < slotCount) : (ofStarters starters).Lined := by
  -- The induction also carries which slots are still free.
  suffices h : ∀ (rest : List Starter) (q : Squad), (rest.map Starter.slot).Nodup →
      (∀ s ∈ rest, s.slot < slotCount) → q.Lined → (∀ s ∈ rest, q.playerAt? s.slot = none) →
      (rest.foldl Squad.enterStarter q).Lined by
    refine h starters empty hdistinct hslots ?_ fun s _ => playerAt?_empty _
    intro x p hx
    cases (positionOf?_empty x).symm.trans hx
  intro rest
  induction rest with
  | nil => exact fun q _ _ hq _ => hq
  | cons s rest ih =>
    intro q hnodup hlt hq hfree
    obtain ⟨hs, hrest⟩ := List.nodup_cons.mp hnodup
    refine ih (q.enterStarter s) hrest (fun t ht => hlt t (List.mem_cons_of_mem s ht))
      (hq.enterStarter (hlt s List.mem_cons_self) (hfree s List.mem_cons_self)) fun t ht => ?_
    rw [Squad.enterStarter, playerAt?_seat, playerAt?_takeSlot, if_neg]
    · exact hfree t (List.mem_cons_of_mem s ht)
    · rintro ⟨hslot, -⟩
      exact hs (hslot ▸ List.mem_map_of_mem ht)

end Squad

/-! ### The squads of a game -/

namespace State

variable {gameId : String} {s : State} {side : Side} {P : Squad → Prop}

/-- Some substitutions change the squad of a side as those among them do that are made there. -/
theorem squad_foldl_substitute (s : State) (subs : List Substitution) (side : Side) :
    ((subs.foldl substitute s).side side).squad =
      (subs.filter (·.side = side)).foldl Squad.substitute (s.side side).squad := by
  induction subs generalizing s with
  | nil => rfl
  | cons sub subs ih =>
    rw [List.foldl_cons, ih, side_substitute]
    by_cases hside : sub.side = side
    · rw [if_pos hside.symm, List.filter_cons_of_pos (by simpa using hside)]
      rfl
    · rw [if_neg (Ne.symm hside), List.filter_cons_of_neg (by simpa using hside)]

/-- A play changes nobody's place, whether or not it can be applied. -/
theorem squad_applyPlay (s : State) (p : Play) (side : Side) :
    ((s.applyPlay gameId p).state.side side).squad = (s.side side).squad := by
  rcases (s.applyPlay gameId p).eq_ok_or_error with ⟨s', hs⟩ | ⟨e, he⟩
  · obtain ⟨-, -, -, rfl⟩ := applyPlay_eq_ok_iff.mp hs
    rw [hs]
    exact squad_afterPlay ..
  · rcases applyPlay_failed he with ⟨-, hs⟩ | ⟨-, hs⟩ | ⟨-, hs⟩ <;> rw [hs] <;> rfl

/-- An event changes the squad of a side by the substitutions that it makes there. -/
theorem squad_applyEvent_eq (s : State) (e : Event) (side : Side) :
    ((s.applyEvent gameId e).state.side side).squad =
      (e.substitutions.filter (·.side = side)).foldl Squad.substitute (s.side side).squad := by
  cases e with
  | play p => exact squad_applyPlay s p side
  | noPlay subs => exact squad_foldl_substitute s subs side

/-- What substitutions keep is true after any event. -/
theorem squad_applyEvent {e : Event} (h : P (s.side side).squad)
    (hsub : ∀ q, ∀ sub ∈ e.substitutions, P q → P (q.substitute sub)) :
    P ((s.applyEvent gameId e).state.side side).squad := by
  rw [squad_applyEvent_eq]
  exact List.foldlRecOn _ _ h fun q hq sub hmem => hsub q sub (List.mem_of_mem_filter hmem) hq

theorem squad_ofGame (g : Game) (side : Side) :
    ((ofGame g).side side).squad = .ofStarters (g.starters.get side) := by
  rw [side_ofGame]

end State

namespace Game

/-- **The games in which the lineups are entered as they should be**: the starters of a side take
slots of their own, and nobody is sent to a slot that lineups do not have. -/
structure ProperSlots (g : Game) : Prop where
  distinct : ∀ side, ((g.starters.get side).map Starter.slot).Nodup
  starters : ∀ side, ∀ s ∈ g.starters.get side, s.slot < slotCount
  substitutes : ∀ sub ∈ g.substitutions, sub.slot < slotCount

end Game

namespace Situation

/-- **What the answers about one side have in common.** -/
structure Coherent (s : Situation) (side : Side) : Prop where
  /-- Whoever fields a position holds it. -/
  position : ∀ p x, s.fielder? side p = some x → s.positionOf? side x = some p
  /-- Nobody fields two positions. -/
  inj : ∀ p r x, s.fielder? side p = some x → s.fielder? side r = some x → p = r
  /-- Pinch hitters and pinch runners are not in the field. -/
  pinch : ∀ p x, s.positionOf? side x = some .pinchHitter ∨
    s.positionOf? side x = some .pinchRunner → s.fielder? side p ≠ some x
  /-- Whoever holds a position stands in one of the slots. -/
  lineup : ∀ p x, s.positionOf? side x = some p → ∃ i < slotCount, s.playerAt? side i = some x
  /-- Whoever stands in none of them holds no position and is not in the field. -/
  displaced : ∀ x, (∀ i < slotCount, s.playerAt? side i ≠ some x) →
    s.positionOf? side x = none ∧ ∀ p, s.fielder? side p ≠ some x

end Situation

namespace State

variable {s : State} {side : Side}

/-- Two facts about a squad are all that the answers about a side have in common. -/
theorem coherent_of_squad (hposted : (s.side side).squad.Posted)
    (hlined : (s.side side).squad.Lined) : s.situation.Coherent side := by
  have hlineup (p : Position) (x : String) (h : (s.side side).squad.positionOf? x = some p) :
      ∃ i < slotCount, (s.side side).squad.playerAt? i = some x := by
    obtain ⟨i, hi⟩ := hlined x p h
    exact ⟨i, Squad.lt_slotCount_of_playerAt? hi, hi⟩
  have hout (x : String) (h : ∀ i < slotCount, (s.side side).squad.playerAt? i ≠ some x) :
      (s.side side).squad.positionOf? x = none := by
    refine Option.eq_none_iff_forall_ne_some.mpr fun p hp => ?_
    obtain ⟨i, hi, hx⟩ := hlineup p x hp
    exact h i hi hx
  constructor
  case position => exact fun _ _ => hposted.position
  case inj => exact fun _ _ _ => hposted.inj
  case pinch =>
    intro p x hpinch hfield
    have hheld := hposted.position hfield
    have hpost := hposted.post hfield
    rcases hpinch with h | h
    · obtain rfl : p = .pinchHitter := Option.some.inj (hheld.symm.trans h)
      cases hpost
    · obtain rfl : p = .pinchRunner := Option.some.inj (hheld.symm.trans h)
      cases hpost
  case lineup => exact hlineup
  case displaced =>
    intro x h
    refine ⟨hout x h, fun p hfield => ?_⟩
    cases (hout x h).symm.trans (hposted.position hfield)

end State

namespace Replay

variable {g : Game} {r : Replay} {side : Side}

/-- **What substitutions keep is true wherever a replay comes to**, if it is true of the
starters. -/
theorem Visited.squad {P : Squad → Prop} (hr : Visited g r)
    (hstart : P (.ofStarters (g.starters.get side)))
    (hsub : ∀ q, ∀ sub ∈ g.substitutions, P q → P (q.substitute sub)) :
    P (r.state.side side).squad := by
  induction hr with
  | start =>
    rw [ofGame, State.squad_ofGame]
    exact hstart
  | @step r before ih =>
    rcases hcur : r.current? with _ | event
    · rw [step_of_none hcur]
      exact ih
    · rw [step_of_some hcur]
      refine State.squad_applyEvent ih fun q sub hmem => hsub q sub ?_
      rw [current?, before.game] at hcur
      exact List.mem_flatMap.mpr ⟨event, List.mem_of_getElem? hcur, hmem⟩
  | reset before _ =>
    rw [Replay.reset, before.game, ofGame, State.squad_ofGame]
    exact hstart

/-- Wherever a replay comes to, whoever fields a position holds it. -/
theorem Visited.posted (hr : Visited g r) (side : Side) : (r.state.side side).squad.Posted :=
  hr.squad (Squad.posted_ofStarters _) fun _ sub _ hq => hq.substitute sub

/-- **Lineup, positions and fielders agree wherever a replay comes to.** -/
theorem Visited.coherent (hg : g.ProperSlots) (hr : Visited g r) (side : Side) :
    r.situation.Coherent side := by
  have hlined : (r.state.side side).squad.Lined :=
    hr.squad (P := Squad.Lined) (Squad.lined_ofStarters (hg.distinct side) (hg.starters side))
      fun _ sub hmem hq => hq.substitute (hg.substitutes sub hmem)
  exact State.coherent_of_squad (hr.posted side) hlined

/-- The pitcher and the catcher trade slots and positions, one after the other. -/
def tradedSlots : Game where
  id := "traded"
  date := default
  visitor := "visitors"
  home := "hosts"
  starters := ⟨[⟨"v1", 1, .pitcher⟩, ⟨"v2", 2, .catcher⟩],
    [⟨"h1", 1, .pitcher⟩, ⟨"h2", 2, .catcher⟩]⟩
  events := [.play (.ofKind .single),
    .noPlay [⟨"h2", .home, 1, .pitcher⟩, ⟨"h1", .home, 2, .catcher⟩]]

/-- The catcher, who stood in both slots for a moment, is displaced from his old one and left
without a position in the new one. -/
theorem coherent_tradedSlots : ∃ r, Visited tradedSlots r ∧ tradedSlots.ProperSlots ∧
    r.situation.Coherent .home ∧ r.situation.playerAt? .home 1 = some "h2" ∧
    r.situation.positionOf? .home "h2" = none ∧
    r.situation.fielder? .home .catcher = some "h1" := by
  have hvisited : Visited tradedSlots (ofGame tradedSlots).seekToEnd.state :=
    Visited.start.seekToEnd
  have hproper : tradedSlots.ProperSlots := by
    constructor
    case distinct => intro side; cases side <;> decide
    case starters => intro side; cases side <;> decide
    case substitutes => decide
  refine ⟨_, hvisited, hproper, hvisited.coherent hproper .home, ?_, ?_, ?_⟩ <;> decide +kernel

end Replay

end Baseball
