import Baseball.Proofs.Coherence
import Mathlib.Data.List.Induction

/-!
# Men who bat without a position

Whoever stands in the lineup was entered there at some position, and he holds the one that he was
entered at last. But whoever makes way for a substitute loses his position and his post, and it is
not asked whether he stands in another slot as well. He does if two players trade slots one after
the other, or if a pitcher has slot 0 and a place in the batting order at the same time. Then he is
dropped: he bats on, and has no position until he is entered again.

This is the only way in which it happens. So what a squad has for somebody in its lineup can be read
off the list of those who were entered.

## Main definitions

* `Squad.Drops`, `Squad.Dropped` — a man makes way in one slot and stays in another
* `Squad.entries`, `Squad.lastPosition?` — who was entered where, and at which position last
* `Replay.applied` — the substitutions that a replay has applied

## Main results

* `Squad.positionOf?_eq_none_iff` — who in a lineup is without a position
* `Replay.Visited.positionOf?_eq_none_iff_dropped` — wherever a replay comes to
-/

namespace Baseball

namespace Squad

variable {q start : Squad} {starters : List Starter} {sub : Substitution}
  {subs : List Substitution} {x : String} {p : Position} {i : Nat}

/-! ### Who was entered where -/

/-- Everybody who was entered, with his position. -/
def entries (starters : List Starter) (subs : List Substitution) : List (String × Position) :=
  (starters.map fun s => (s.player, s.position)) ++ subs.map fun sub => (sub.player, sub.position)

/-- The position at which a player was entered last. -/
def lastPosition? (entries : List (String × Position)) (x : String) : Option Position :=
  entries.reverse.lookup x

theorem lastPosition?_concat (es : List (String × Position)) (e : String × Position) (x : String) :
    lastPosition? (es ++ [e]) x = if x = e.1 then some e.2 else lastPosition? es x := by
  rw [lastPosition?, List.reverse_append, List.reverse_singleton, List.singleton_append,
    List.lookup_cons]
  by_cases hx : x = e.1
  · rw [if_pos hx, beq_iff_eq.mpr hx]
  · rw [if_neg hx, beq_eq_false_iff_ne.mpr hx, lastPosition?]

/-- Starters have the positions that they are entered at. -/
theorem positionOf?_ofStarters (starters : List Starter) (x : String) :
    (ofStarters starters).positionOf? x = lastPosition? (entries starters []) x := by
  induction starters using List.reverseRecOn with
  | nil => exact positionOf?_empty x
  | append_singleton starters s ih =>
    have hentries : entries (starters ++ [s]) [] =
        entries starters [] ++ [(s.player, s.position)] := by
      simp [entries]
    rw [hentries, lastPosition?_concat, ← ih, ofStarters, List.foldl_append]
    exact positionOf?_seat ..

/-- Whoever holds a position was entered at it last. -/
theorem lastPosition?_of_positionOf?
    (h : (subs.foldl substitute (ofStarters starters)).positionOf? x = some p) :
    lastPosition? (entries starters subs) x = some p := by
  induction subs using List.reverseRecOn generalizing p with
  | nil => exact (positionOf?_ofStarters starters x).symm.trans h
  | append_singleton subs sub ih =>
    have hentries : entries starters (subs ++ [sub]) =
        entries starters subs ++ [(sub.player, sub.position)] := by
      simp [entries]
    rw [hentries, lastPosition?_concat]
    rw [List.foldl_append, List.foldl_cons, List.foldl_nil, positionOf?_substitute] at h
    split at h
    · next hx => rw [if_pos hx, h]
    · next hx =>
      split at h
      · cases h
      · rw [if_neg hx, ih h]

/-! ### Who is dropped -/

/-- A substitution drops a man if he makes way for it and stands in another slot too. -/
def Drops (q : Squad) (sub : Substitution) (x : String) : Prop :=
  q.displaced? sub = some x ∧ ∃ i ≠ sub.slot, q.playerAt? i = some x

/-- **A man was dropped** on the way from a squad through some substitutions if one of them drops
him and he is not entered again afterwards. -/
def Dropped (start : Squad) (subs : List Substitution) (x : String) : Prop :=
  ∃ before sub after, subs = before ++ sub :: after ∧ (before.foldl substitute start).Drops sub x ∧
    ∀ later ∈ after, later.player ≠ x

theorem not_dropped_nil : ¬Dropped start [] x := by
  rintro ⟨before, sub, after, h, -⟩
  exact List.cons_ne_nil _ _ (List.append_eq_nil_iff.mp h.symm).2

/-- Whether a man was dropped, with one substitution more. -/
theorem dropped_concat : Dropped start (subs ++ [sub]) x ↔
    (subs.foldl substitute start).Drops sub x ∨ Dropped start subs x ∧ sub.player ≠ x := by
  constructor
  · rintro ⟨before, dropping, after, hsubs, hdrops, hafter⟩
    rcases List.eq_nil_or_concat after with rfl | ⟨after, last, rfl⟩
    · obtain ⟨rfl, hsub⟩ := List.append_inj' hsubs rfl
      obtain rfl := List.singleton_inj.mp hsub
      exact .inl hdrops
    · rw [List.concat_eq_append] at hsubs hafter
      rw [← List.cons_append, ← List.append_assoc] at hsubs
      obtain ⟨rfl, hsub⟩ := List.append_inj' hsubs rfl
      obtain rfl := List.singleton_inj.mp hsub
      exact .inr ⟨⟨before, dropping, after, rfl, hdrops,
        fun later hlater => hafter later (List.mem_append_left _ hlater)⟩,
        hafter sub (List.mem_append_right _ (List.mem_singleton_self sub))⟩
  · rintro (hdrops | ⟨⟨before, dropping, after, rfl, hdrops, hafter⟩, hsub⟩)
    · exact ⟨subs, sub, [], rfl, hdrops, List.forall_mem_nil _⟩
    · refine ⟨before, dropping, after ++ [sub], by simp, hdrops, ?_⟩
      exact List.forall_mem_append.mpr ⟨hafter, List.forall_mem_singleton.mpr hsub⟩

/-- Everybody in the lineup has a position. -/
def Stationed (q : Squad) : Prop := ∀ i x, q.playerAt? i = some x → q.positionOf? x ≠ none

theorem stationed_ofStarters (starters : List Starter) : Stationed (.ofStarters starters) := by
  rw [ofStarters]
  refine List.foldlRecOn starters enterStarter (fun i x hx => ?_) fun q hq s _ i x hx => ?_
  · cases (playerAt?_empty i).symm.trans hx
  · rw [enterStarter, playerAt?_seat, playerAt?_takeSlot] at hx
    rw [enterStarter, positionOf?_seat, positionOf?_takeSlot]
    by_cases hplayer : x = s.player
    · rw [if_pos hplayer]
      exact Option.some_ne_none _
    · rw [if_neg hplayer]
      split at hx
      · exact absurd (Option.some.inj hx).symm hplayer
      · exact hq i x hx

/-- **Who in a lineup is without a position**: the men who were dropped. -/
theorem positionOf?_eq_none_iff (hstart : start.Stationed)
    (hx : (subs.foldl substitute start).playerAt? i = some x) :
    (subs.foldl substitute start).positionOf? x = none ↔ Dropped start subs x := by
  induction subs using List.reverseRecOn generalizing i with
  | nil => exact iff_of_false (hstart i x hx) not_dropped_nil
  | append_singleton subs sub ih =>
    rw [dropped_concat, List.foldl_append, List.foldl_cons, List.foldl_nil, positionOf?_substitute]
    rw [List.foldl_append, List.foldl_cons, List.foldl_nil, playerAt?_substitute] at hx
    set q := subs.foldl substitute start
    by_cases hplayer : x = sub.player
    · have hkeeps : ¬q.Drops sub x := fun hdrops => (displaced?_eq_some_iff.mp hdrops.1).2 hplayer
      simp [hplayer ▸ hkeeps, hplayer]
    · -- He stood where he stands now, and not in the slot that was taken.
      have hslot : ¬(sub.slot = i ∧ i < slotCount) := fun hslot => by
        rw [if_pos hslot] at hx
        exact hplayer (Option.some.inj hx).symm
      rw [if_neg hslot] at hx
      have hne : i ≠ sub.slot := fun hi => hslot ⟨hi.symm, lt_slotCount_of_playerAt? hx⟩
      have hdrops : q.Drops sub x ↔ q.playerAt? sub.slot = some x := by
        rw [Drops, displaced?_eq_some_iff]
        exact ⟨fun h => h.1.1, fun h => ⟨⟨h, hplayer⟩, i, hne, hx⟩⟩
      rw [if_neg hplayer, hdrops, ← ih hx]
      split
      · next htaken => exact iff_of_true rfl (.inl htaken)
      · next htaken => simp [htaken, Ne.symm hplayer]

end Squad

/-! ### Wherever a replay comes to -/

namespace Replay

variable {g : Game} {r : Replay} {side : Side} {x : String} {i : Nat}

/-- The substitutions of a side that a replay has applied. -/
def applied (r : Replay) (side : Side) : List Substitution :=
  ((r.game.events.take r.cursor).flatMap Event.substitutions).filter (·.side = side)

/-- A step applies what there is in the event it stands at. An event that fails is not passed, but
then it is a play. -/
theorem applied_step_of_some {event : Event} (h : r.current? = some event) (side : Side) :
    r.step.state.applied side = r.applied side ++ event.substitutions.filter (·.side = side) := by
  rw [step_of_some h, applied, applied]
  dsimp only
  rcases hfailed : (r.state.applyEvent r.game.id event).error? with _ | e
  · have hpassed : r.game.events.take (r.cursor + 1) = r.game.events.take r.cursor ++ [event] := by
      rw [List.take_add_one, show r.game.events[r.cursor]? = some event from h, Option.toList_some]
    rw [Option.isNone_none, Bool.toNat_true, hpassed, List.flatMap_append, List.filter_append,
      List.flatMap_singleton]
  · cases event with
    | noPlay subs => cases hfailed
    | play p => exact (List.append_nil _).symm

/-- **The squad that a replay has come to** is that of the starters after the substitutions
applied. -/
theorem Visited.squad_eq (hr : Visited g r) (side : Side) :
    (r.state.side side).squad =
      (r.applied side).foldl Squad.substitute (.ofStarters (g.starters.get side)) := by
  induction hr with
  | start => exact State.squad_ofGame g side
  | @step r before ih =>
    rcases hcur : r.current? with _ | event
    · rw [step_of_none hcur]
      exact ih
    · rw [applied_step_of_some hcur, List.foldl_append, ← ih, step_of_some hcur]
      exact State.squad_applyEvent_eq r.state event side
  | reset before _ =>
    rw [Replay.reset, before.game]
    exact State.squad_ofGame g side

/-- **Who stands in the lineup without a position** wherever a replay comes to: the men who were
dropped, and nobody else. Whoever has a position has the one that he was entered at last. -/
theorem Visited.positionOf?_eq_none_iff_dropped (hr : Visited g r)
    (hx : r.situation.playerAt? side i = some x) :
    (r.situation.positionOf? side x = none ↔
      Squad.Dropped (.ofStarters (g.starters.get side)) (r.applied side) x) ∧
    ∀ p, r.situation.positionOf? side x = some p →
      Squad.lastPosition? (Squad.entries (g.starters.get side) (r.applied side)) x = some p := by
  have hsquad := hr.squad_eq side
  have hplayer : (r.state.side side).squad.playerAt? i = some x := hx
  change ((r.state.side side).squad.positionOf? x = none ↔ _) ∧
    ∀ p, (r.state.side side).squad.positionOf? x = some p → _
  rw [hsquad] at hplayer ⊢
  exact ⟨Squad.positionOf?_eq_none_iff (Squad.stationed_ofStarters _) hplayer,
    fun _ => Squad.lastPosition?_of_positionOf?⟩

/-- The pitcher of the hosts is their designated hitter too. He is relieved, and is to stay in the
game as the hitter. -/
def twoWay : Game where
  id := "two-way"
  date := default
  visitor := "visitors"
  home := "hosts"
  starters := ⟨[⟨"v1", 1, .pitcher⟩], [⟨"h1", 1, .designatedHitter⟩, ⟨"h1", 0, .pitcher⟩]⟩
  events := [.noPlay [⟨"h1", .home, 1, .designatedHitter⟩, ⟨"h2", .home, 0, .pitcher⟩]]

theorem dropped_twoWay : ∃ r, Visited twoWay r ∧ r.situation.playerAt? .home 1 = some "h1" ∧
    (r.situation.positionOf? .home "h1" = none ↔
      Squad.Dropped (.ofStarters (twoWay.starters.get .home)) (r.applied .home) "h1") ∧
    ∀ p, r.situation.positionOf? .home "h1" = some p →
      Squad.lastPosition? (Squad.entries (twoWay.starters.get .home) (r.applied .home)) "h1" =
        some p := by
  have hvisited : Visited twoWay (ofGame twoWay).step.state := .step .start
  have hbats : (ofGame twoWay).step.state.situation.playerAt? .home 1 = some "h1" := by
    decide +kernel
  exact ⟨_, hvisited, hbats, hvisited.positionOf?_eq_none_iff_dropped hbats⟩

/-- When his relief takes slot 0 he loses the position that he has just been given in slot 1. -/
theorem position_lost_twoWay : ∃ r, Visited twoWay r ∧ twoWay.ProperSlots ∧
    r.situation.playerAt? .home 1 = some "h1" ∧ r.situation.positionOf? .home "h1" = none ∧
    Squad.lastPosition? (Squad.entries (twoWay.starters.get .home) (r.applied .home)) "h1" =
      some .designatedHitter := by
  have hproper : twoWay.ProperSlots := by
    constructor
    case distinct => intro side; cases side <;> decide
    case starters => intro side; cases side <;> decide
    case substitutes => decide
  exact ⟨_, .step .start, hproper, by decide +kernel, by decide +kernel, by decide +kernel⟩

end Replay

end Baseball
