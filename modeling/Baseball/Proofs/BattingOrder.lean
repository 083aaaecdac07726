import Baseball.Proofs.AddingUp
import Baseball.Proofs.Coherence

/-!
# The batting order

The nine batting slots take turns, and the turn is not lost between innings or when somebody is
replaced: which slot is due up depends on nothing but the number of plate appearances that the side
has completed. So the slots that came up are `dueUp 0`, `dueUp 1`, and so on.

A box score knows nothing of turns. It credits the batter in the stint that he has, which is in the
slot he was first entered in. The two agree as long as nobody is entered in two slots; then the
plate appearances in the stints of a slot are the turns that the slot had.

## Main definitions

* `Game.OneSlot` — nobody of a side is entered in two slots
* `plateAppearances` — the plays by which a side's batters completed their plate appearances

## Main results

* `BoxScore.Kept.slots_plateAppearances` — the slots that came up
* `BoxScore.Kept.entered` — whoever stands in a slot was entered in it
* `countP_dueUp` — how often a slot comes up
* `BoxScore.battingOrder_ofGame` — the plate appearances of the slots in a finished box score
-/

namespace Baseball

/-- **The games in which nobody of a side is entered in two slots**, as a starter or a
substitute. -/
def Game.OneSlot (g : Game) (side : Side) : Prop :=
  ∀ e ∈ g.entrants side g.substitutions, ∀ e' ∈ g.entrants side g.substitutions,
    e.1 = e'.1 → e.2 = e'.2

instance (g : Game) (side : Side) : Decidable (g.OneSlot side) :=
  inferInstanceAs (Decidable (∀ _ ∈ _, ∀ _ ∈ _, _))

/-- The plays by which a side's batters completed their plate appearances. -/
def plateAppearances (side : Side) (qs : List (State × Play)) : List (State × Play) :=
  qs.filter fun q => side = q.1.half && q.2.batterEvent

/-- A player who is entered in one slot only was first entered in it. -/
theorem Game.OneSlot.firstSlot?_eq {g : Game} {side : Side} (h : g.OneSlot side) {x : String}
    {i : Nat} (hmem : (x, i) ∈ g.entrants side g.substitutions) :
    g.firstSlot? side x = some i := by
  rcases hfirst : g.firstSlot? side x with _ | j
  · have hno := List.lookup_eq_none_iff.mp hfirst (x, i) hmem
    simp at hno
  · obtain ⟨before, after, hentrants, -⟩ := List.lookup_eq_some_iff.mp hfirst
    have hj : (x, j) ∈ g.entrants side g.substitutions :=
      hentrants ▸ List.mem_append_right _ List.mem_cons_self
    exact congrArg some (h _ hj _ hmem rfl)

/-! ### How often a slot comes up -/

/-- How often a slot of the batting order comes up in the first `n` turns. -/
theorem countP_dueUp {slot : Nat} (hpos : 1 ≤ slot) (hle : slot ≤ 9) (n : Nat) :
    ((List.range n).countP fun k => k % 9 + 1 == slot) = (n + 9 - slot) / 9 := by
  induction n with
  | zero =>
    rw [List.range_zero, List.countP_nil]
    omega
  | succ n ih =>
    rw [List.range_succ, List.countP_append, ih, List.countP_singleton]
    simp only [beq_iff_eq]
    split <;> omega

/-- Slot 0 never comes up. -/
theorem countP_dueUp_zero (n : Nat) : ((List.range n).countP fun k => k % 9 + 1 == 0) = 0 :=
  List.countP_eq_zero.mpr fun _ _ => by simp

/-! ### Who stands in a slot -/

namespace Squad

variable {q : Squad} {entrants : List (String × Nat)}

/-- Whoever stands in a slot was entered in it. -/
def Entered (q : Squad) (entrants : List (String × Nat)) : Prop :=
  ∀ i x, q.playerAt? i = some x → (x, i) ∈ entrants

theorem Entered.substitute (hq : q.Entered entrants) {sub : Substitution}
    (hsub : (sub.player, sub.slot) ∈ entrants) : (q.substitute sub).Entered entrants := by
  intro i x hx
  rw [playerAt?_substitute] at hx
  split at hx
  · next hslot =>
    rw [← Option.some.inj hx, ← hslot.1]
    exact hsub
  · exact hq i x hx

theorem Entered.enterStarter (hq : q.Entered entrants) {s : Starter}
    (hs : (s.player, s.slot) ∈ entrants) : (q.enterStarter s).Entered entrants := by
  intro i x hx
  rw [Squad.enterStarter, playerAt?_seat, playerAt?_takeSlot] at hx
  split at hx
  · next hslot =>
    rw [← Option.some.inj hx, ← hslot.1]
    exact hs
  · exact hq i x hx

theorem entered_ofStarters {starters : List Starter}
    (h : ∀ s ∈ starters, (s.player, s.slot) ∈ entrants) :
    (ofStarters starters).Entered entrants := by
  have hempty : empty.Entered entrants := fun i x hx => by
    cases (playerAt?_empty i).symm.trans hx
  exact List.foldlRecOn (motive := (Entered · entrants)) starters _ hempty fun _ hq s hs =>
    hq.enterStarter (h s hs)

end Squad

/-! ### Along a game -/

namespace BoxScore

open Account

variable {g : Game} {es : List Event} {s : State} {b : BoxScore} {side : Side}

/-- **Whoever stands in a slot was entered in it**, wherever a game was kept. -/
theorem Kept.entered (h : Kept g es s b) (hes : es <+: g.events) (side : Side) :
    (s.side side).squad.Entered (g.entrants side g.substitutions) := by
  induction h with
  | opened =>
    rw [State.squad_ofGame]
    exact Squad.entered_ofStarters fun s hs => List.mem_append_left _ (List.mem_map_of_mem hs)
  | @event es s s' b b' e _ _ happened ih =>
    obtain rfl : (s.applyEvent g.id e).state = s' := (Attempt.eq_ok_iff.mp happened).2
    rw [State.squad_applyEvent_eq]
    have hbefore := ih ((List.prefix_append es [e]).trans hes)
    refine List.foldlRecOn (motive := (Squad.Entered · _)) _ _ hbefore fun q hq sub hsub => ?_
    obtain ⟨hmem, hside⟩ := List.mem_filter.mp hsub
    have he : e ∈ g.events := hes.subset (List.mem_append_right _ (List.mem_singleton_self e))
    have hentered : sub ∈ g.substitutions.filter (·.side == side) :=
      List.mem_filter.mpr ⟨List.mem_flatMap.mpr ⟨e, he, hmem⟩, by simpa using hside⟩
    exact hq.substitute (List.mem_append_right _ (List.mem_map_of_mem hentered))

/-- **The slots that came up.** The turns go on over innings and substitutions: the plate
appearances of a side were those of the slots that are due up one after the other. -/
theorem Kept.slots_plateAppearances (h : Kept g es s b) (side : Side) :
    (plateAppearances side ((State.ofGame g).plays g.id es)).map (·.1.situation.battingSlot) =
      (List.range (s.side side).batters).map dueUp := by
  refine h.plays_induction (P := fun qs s =>
    (plateAppearances side qs).map (·.1.situation.battingSlot) =
      (List.range (s.side side).batters).map dueUp) ?_ ?_ ?_
  · rw [State.side_ofGame]
    rfl
  · intro qs s p hqs hbatter
    rw [State.batters_afterPlay, hbatter, plateAppearances, List.filter_append, List.map_append]
    refine (congrArg (· ++ _) hqs).trans ?_
    by_cases hside : side = s.half
    · subst hside
      cases hp : p.batterEvent with
      | false => simp [hp]
      | true => simp [hp, List.range_succ, Situation.battingSlot, State.situation]
    · simp [hside]
  · intro qs s t hqs hsame
    rw [hsame.counts side]
    exact hqs

/-- The plate appearances in batting counts. -/
def paHom : BattingCounts →+ Nat := ⟨⟨BattingCounts.pa, rfl⟩, fun _ _ => rfl⟩

/-- What a play of the side gives to the men who were first entered in a slot: a plate appearance,
if the slot was due up and the play completed one. -/
theorem offense_paHom (hone : g.OneSlot side) {q : State × Play} (hq : q ∈ g.plays)
    (h : Kept g g.events s b) (hside : side = q.1.half) (slot : Nat) :
    ((battingBy fun x => if g.firstSlot? side x = some slot then paHom else 0).offense
      q.1.situation q.2) = (q.2.batterEvent && q.1.situation.battingSlot == slot).toNat := by
  obtain ⟨ds, c, c', s', hprefix, hkept, noted, -⟩ := h.exists_of_mem_plays q hq
  have hzero (c : BattingCounts) (hc : c.pa = 0) (x : String) :
      (if g.firstSlot? side x = some slot then paHom else 0) c = 0 := by
    split
    · exact hc
    · rfl
  rw [battingBy_offense (hzero _ rfl) (hzero _ rfl) (hzero _ rfl)]
  cases hp : q.2.batterEvent with
  | false =>
    have hcredit : q.2.battingCredit.pa = 0 := congrArg Bool.toNat hp
    rcases q.1.situation.batter? with _ | x
    · cases q.2.atBat <;> rfl
    · rw [Option.elim_some, hzero _ hcredit, ite_self]
      rfl
  | true =>
    have hbatter := (State.manned_of_postPlay noted).batter (by rw [hp, Bool.true_or])
    obtain ⟨x, hx⟩ := Option.isSome_iff_exists.mp hbatter
    have hbatter? : q.1.situation.batter? = some x := hx
    -- he stands in the slot that is due up, so it is the one he was entered in
    have hmem : (x, q.1.situation.battingSlot) ∈ g.entrants side g.substitutions :=
      hkept.entered ((List.prefix_append ds _).trans hprefix) side _ x (hside ▸ hx)
    rw [hbatter?, Bool.true_or, if_pos rfl, Option.elim_some, hone.firstSlot?_eq hmem,
      Bool.true_and]
    by_cases hslot : q.1.situation.battingSlot = slot
    · rw [if_pos (congrArg some hslot), beq_iff_eq.mpr hslot]
      exact congrArg Bool.toNat hp
    · rw [if_neg (mt Option.some.inj hslot), beq_eq_false_iff_ne.mpr hslot]
      rfl

/-- The plate appearances in the stints of a slot are the turns that the slot had. -/
theorem sum_slot_pa_ofGame (h : ofGame g = .ok b) (hone : g.OneSlot side) (slot : Nat) :
    (((b.team side).slot slot).map fun s => s.line.counts.pa).sum =
      (plateAppearances side g.plays).countP fun q => q.1.situation.battingSlot == slot := by
  obtain ⟨b₀, hkept, -⟩ := exists_kept_of_ofGame h
  refine (sum_slot_ofGame h side slot paHom).trans ?_
  rw [plateAppearances, List.countP_filter, atBatSum]
  refine sum_map_eq_countP fun q hq => ?_
  by_cases hside : side = q.1.half
  · rw [if_pos hside, offense_paHom hone hq hkept hside]
    simp [hside, Bool.and_comm]
  · simp [hside]

/-- **The batting order.** If nobody of a side is entered in two slots and it has completed `n` plate
appearances, they were those of the slots that are due up one after the other. In the box score each
slot has the turns that came to it, slot 0 none, and no two of the others differ by more than
one. -/
theorem battingOrder_ofGame (h : ofGame g = .ok b) (side : Side) (hone : g.OneSlot side) :
    let n := (plateAppearances side g.plays).length
    let pa := fun slot => (((b.team side).slot slot).map fun s => s.line.counts.pa).sum
    (plateAppearances side g.plays).map (·.1.situation.battingSlot) = (List.range n).map dueUp ∧
      (∀ slot, 1 ≤ slot → slot ≤ 9 →
        pa slot = (List.range n).countP fun k => k % 9 + 1 == slot) ∧
      pa 0 = 0 ∧
      ∀ i j, 1 ≤ i → i ≤ 9 → 1 ≤ j → j ≤ 9 → pa i ≤ pa j + 1 := by
  intro n pa
  obtain ⟨b₀, hkept, -⟩ := exists_kept_of_ofGame h
  have hslots : (plateAppearances side g.plays).map (·.1.situation.battingSlot) =
      (List.range (g.finalState.side side).batters).map dueUp := hkept.slots_plateAppearances side
  have hn : n = (g.finalState.side side).batters := by
    have hlength := congrArg List.length hslots
    rwa [List.length_map, List.length_map, List.length_range] at hlength
  rw [← hn] at hslots
  have hpa (slot : Nat) : pa slot = (List.range n).countP fun k => k % 9 + 1 == slot := by
    have hturns := congrArg (List.countP (· == slot)) hslots
    rw [List.countP_map, List.countP_map] at hturns
    exact (sum_slot_pa_ofGame h hone slot).trans hturns
  refine ⟨hslots, fun slot _ _ => hpa slot, (hpa 0).trans (countP_dueUp_zero n), ?_⟩
  intro i j hi hi' hj hj'
  rw [hpa, hpa, countP_dueUp hi hi', countP_dueUp hj hj']
  omega

/-- Nobody reaches base. When the visitors have been through six men, one of them gives way to a
pinch hitter. -/
def pinchHit : Game where
  id := "G1"
  date := default
  visitor := "VIS"
  home := "HOM"
  starters := ⟨nineWithHitter "v", nineWithHitter "h"⟩
  events :=
    .replicate 9 (.play (.ofKind .strikeout)) ++ [.noPlay [⟨"v11", .visitor, 3, .pinchHitter⟩]]
      ++ .replicate 12 (.play (.ofKind .strikeout))

/-- Twelve visitors have batted: the third slot, which two men shared, has had two turns, the fourth
one. -/
theorem battingOrder_pinchHit : ∃ b, ofGame pinchHit = .ok b ∧ pinchHit.OneSlot .visitor ∧
    ((b.team .visitor).slot 3).length = 2 ∧
    (((b.team .visitor).slot 3).map fun s => s.line.counts.pa).sum = 2 ∧
    (((b.team .visitor).slot 4).map fun s => s.line.counts.pa).sum = 1 ∧
    (((b.team .visitor).slot 0).map fun s => s.line.counts.pa).sum = 0 := by
  have hmade : ((ofGame pinchHit).toOption.map fun b => ((b.team .visitor).slot 3).length) =
      some 2 := by decide +kernel
  obtain ⟨b, hb, hshared⟩ := Option.map_eq_some_iff.mp hmade
  have hb := toOption_eq_some_iff.mp hb
  have hone : pinchHit.OneSlot .visitor := by decide +kernel
  obtain ⟨-, hpa, hzero, -⟩ := battingOrder_ofGame hb .visitor hone
  refine ⟨b, hb, hone, hshared, ?_, ?_, hzero⟩
  · exact (hpa 3 (by decide) (by decide)).trans (by decide +kernel)
  · exact (hpa 4 (by decide) (by decide)).trans (by decide +kernel)

end BoxScore

end Baseball
