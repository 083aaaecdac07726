import Baseball.Live.Squad
import Baseball.Proofs.BoxScore

/-!
# Squads and the boxes that know them

A squad says who is in the game now; a team box lists everybody who was in it. Both are told of the
same comings: the squad puts the newcomer into his slot and at his position and drops whoever has to
make way, and the box adds the lines that he lacks. So whoever a squad names has a line in the box.

## Main definitions

* `Squad.Gains` — a squad in which one player came in at a position, and nobody else
* `TeamBox.Knows` — everybody whom a squad names has a line in the box

## Main results

* `Squad.fielder?_seat`, `fielder?_unseat`, `playerAt?_takeSlot` — the squad after a change
* `TeamBox.Knows.enter` — a box that is told of a newcomer knows the squad with him
* `BoxScore.knows_openSide` — an opened box knows the squad that starts
-/

namespace Baseball

namespace Squad

variable {q : Squad} {player x : String} {p r : Position} {slot i : Nat}

/-! ### The squad after a change -/

@[simp] theorem playerAt?_empty (i : Nat) : empty.playerAt? i = none := by
  rw [playerAt?, empty, Vector.getElem?_replicate]
  split <;> rfl

@[simp] theorem fielder?_empty (r : Position) : empty.fielder? r = none := by
  rw [fielder?, empty, Fin.getElem_fin, Vector.getElem_replicate]

theorem playerAt?_takeSlot (q : Squad) (slot : Nat) (player : String) (i : Nat) :
    (q.takeSlot slot player).playerAt? i =
      if slot = i ∧ i < slotCount then some player else q.playerAt? i := by
  rw [playerAt?, takeSlot, Vector.getElem?_setIfInBounds, playerAt?]
  by_cases hi : slot = i
  · subst hi
    by_cases hs : slot < slotCount
    · simp [hs]
    · simp [hs]
  · simp [hi]

theorem fielder?_setPost (q : Squad) (p r : Position) (held : Option String) :
    ({ q with posts := q.posts.set p.index held p.index.isLt } : Squad).fielder? r =
      if r = p then held else q.fielder? r := by
  rw [fielder?, fielder?, Fin.getElem_fin, Fin.getElem_fin, Vector.getElem_set]
  have hindex : (p.index : Nat) = r.index ↔ r = p := by
    rw [Fin.val_inj, Position.index_inj, eq_comm]
  simp only [hindex]

theorem fielder?_leavePost (q : Squad) (player : String) (p r : Position) :
    (q.leavePost player p).fielder? r =
      if r = p ∧ q.fielder? r = some player then none else q.fielder? r := by
  rw [leavePost]
  split
  · next hheld =>
    rw [fielder?_setPost]
    by_cases hr : r = p
    · rw [if_pos hr, if_pos ⟨hr, hr ▸ hheld⟩]
    · rw [if_neg hr, if_neg fun hboth => hr hboth.1]
  · next hheld =>
    rw [if_neg]
    rintro ⟨rfl, hr⟩
    exact hheld hr

/-- The squad after a player has given up the position he held. -/
def leave (q : Squad) (player : String) : Squad :=
  match q.positionOf? player with
  | some old => q.leavePost player old
  | none => q

theorem fielder?_leave (q : Squad) (player : String) (r : Position) :
    (q.leave player).fielder? r =
      if q.positionOf? player = some r ∧ q.fielder? r = some player then none
      else q.fielder? r := by
  rw [leave]
  rcases q.positionOf? player with _ | old
  · rw [if_neg fun hboth => nomatch hboth.1]
  · simp only [fielder?_leavePost, Option.some.injEq, eq_comm (a := r)]

theorem lineup_leave (q : Squad) (player : String) : (q.leave player).lineup = q.lineup := by
  rw [leave]
  split
  · rw [leavePost]
    split <;> rfl
  · rfl

theorem seat_eq (q : Squad) (player : String) (p : Position) :
    q.seat player p = { q.leave player with
      positions := q.positions.insert player p
      posts := if hasPost p then (q.leave player).posts.set p.index (some player) p.index.isLt
        else (q.leave player).posts } := rfl

/-- Whoever takes a position stands at it, and no longer at the one he held. -/
theorem fielder?_seat (q : Squad) (player : String) (p r : Position) :
    (q.seat player p).fielder? r =
      if r = p ∧ hasPost p then some player
      else if q.positionOf? player = some r ∧ q.fielder? r = some player then none
      else q.fielder? r := by
  rw [← fielder?_leave, seat_eq]
  by_cases hp : hasPost p
  · simp only [hp, if_true, and_true]
    exact fielder?_setPost (q.leave player) p r (some player)
  · rw [if_neg hp, if_neg fun hboth => hp hboth.2]
    rfl

@[simp] theorem playerAt?_seat (q : Squad) (player : String) (p : Position) (i : Nat) :
    (q.seat player p).playerAt? i = q.playerAt? i := by
  rw [playerAt?, seat_eq, lineup_leave, playerAt?]

/-- Whoever leaves the game stands nowhere any more. -/
theorem fielder?_unseat (q : Squad) (player : String) (r : Position) :
    (q.unseat player).fielder? r = if q.fielder? r = some player then none else q.fielder? r := by
  rw [fielder?, unseat, Fin.getElem_fin, Vector.getElem_map]
  rfl

/-! ### Comings -/

/-- A squad in which one player has come in at a position: nobody else stands where he did not stand
before. -/
structure Gains (q q' : Squad) (player : String) (p : Position) : Prop where
  playerAt? : ∀ {i x}, q'.playerAt? i = some x → x = player ∨ q.playerAt? i = some x
  fielder? : ∀ {r x}, q'.fielder? r = some x → x = player ∧ r = p ∨ q.fielder? r = some x

theorem gains_takeSlot_seat (q : Squad) (slot : Nat) (player : String) (p : Position) :
    Gains q ((q.takeSlot slot player).seat player p) player p where
  playerAt? {i x} h := by
    rw [playerAt?_seat, playerAt?_takeSlot] at h
    split at h
    · exact .inl (Option.some.inj h).symm
    · exact .inr h
  fielder? {r x} h := by
    rw [fielder?_seat] at h
    split at h
    · next hr => exact .inl ⟨(Option.some.inj h).symm, hr.1⟩
    · split at h
      · cases h
      · exact .inr h

theorem Gains.of_unseat {q' : Squad} {old : String} (h : Gains (q.unseat old) q' player p) :
    Gains q q' player p where
  playerAt? hx := h.playerAt? hx
  fielder? {r x} hx := by
    refine (h.fielder? hx).imp_right fun hold => ?_
    rw [fielder?_unseat] at hold
    split at hold
    · cases hold
    · exact hold

/-- A starter comes in. -/
theorem gains_enterStarter (q : Squad) (s : Starter) :
    Gains q (q.enterStarter s) s.player s.position :=
  gains_takeSlot_seat ..

/-- A substitute comes in. -/
theorem gains_substitute (q : Squad) (sub : Substitution) :
    Gains q (q.substitute sub) sub.player sub.position := by
  rw [substitute]
  rcases q.displaced? sub with _ | old
  · exact gains_takeSlot_seat ..
  · exact (gains_takeSlot_seat (q.unseat old) sub.slot sub.player sub.position).of_unseat

end Squad

/-! ### Boxes that know a squad -/

namespace TeamBox

variable {gameId player : String} {slot : Nat} {p : Position} {t t' : TeamBox} {q q' : Squad}

/-- **Everybody whom a squad names has a line in the box**: a stint if he is in the lineup, a
fielding line at his position if it is in the field, and a pitching line if he pitches. -/
structure Knows (t : TeamBox) (q : Squad) : Prop where
  lineup : ∀ {i x}, q.playerAt? i = some x → x ∈ t.batters
  fielder : ∀ {r x}, r.isFielding → q.fielder? r = some x → (x, r) ∈ t.fieldingPosts
  pitcher : ∀ {x}, q.fielder? .pitcher = some x → x ∈ t.pitcherNames

theorem knows_empty (t : TeamBox) : t.Knows .empty := by
  constructor
  · intro i x h
    cases (Squad.playerAt?_empty i).symm.trans h
  · intro r x _ h
    cases (Squad.fielder?_empty r).symm.trans h
  · intro x h
    cases (Squad.fielder?_empty .pitcher).symm.trans h

/-- **A box that is told of a newcomer knows the squad with him.** -/
theorem Knows.enter (hk : t.Knows q) (hq : q.Gains q' player p)
    (h : t.enter gameId player slot p = .ok t') : t'.Knows q' where
  lineup {i x} hx := by
    rw [mem_batters_enter h]
    rcases hq.playerAt? hx with rfl | hold
    · exact .inr rfl
    · exact .inl (hk.lineup hold)
  fielder {r x} hr hx := by
    rw [mem_fieldingPosts_enter h]
    rcases hq.fielder? hx with ⟨rfl, rfl⟩ | hold
    · exact .inr ⟨rfl, hr⟩
    · exact .inl (hk.fielder hr hold)
  pitcher {x} hx := by
    rw [mem_pitcherNames_enter h]
    rcases hq.fielder? hx with ⟨rfl, hp⟩ | hold
    · exact .inr ⟨rfl, hp.symm⟩
    · exact .inl (hk.pitcher hold)

theorem Knows.of_sameNames (hk : t.Knows q) (h : SameNames t t') : t'.Knows q where
  lineup hx := by
    rw [h.batters]
    exact hk.lineup hx
  fielder hr hx := by
    rw [h.posts]
    exact hk.fielder hr hx
  pitcher hx := by
    rw [h.pitchers]
    exact hk.pitcher hx

end TeamBox

namespace BoxScore

open TeamBox

variable {g : Game} {side : Side} {t : TeamBox}

/-- An opened box knows the squad that starts. -/
theorem knows_openSide (h : openSide g side = .ok t) :
    t.Knows (.ofStarters (g.starters.get side)) := by
  refine openSide_induction (P := fun done t => t.Knows (.ofStarters done)) h (knows_empty _) ?_ ?_
  · intro done starter t u hk henter
    rw [Squad.ofStarters, List.foldl_append]
    exact hk.enter (Squad.gains_enterStarter _ starter) henter
  · intro done t u hk hsame
    exact hk.of_sameNames hsame.sameNames

/-- Whoever has a stint in an opened box started. -/
theorem batters_openSide (h : openSide g side = .ok t) :
    ∀ x ∈ t.batters, x ∈ (g.starters.get side).map Starter.player := by
  refine openSide_induction (P := fun done t => ∀ x ∈ t.batters, x ∈ done.map Starter.player) h
    (fun x hx => nomatch hx) ?_ ?_
  · intro done starter t u ht henter x hx
    rw [List.map_append, List.mem_append]
    exact ((mem_batters_enter henter).mp hx).imp (ht x) List.mem_singleton.mpr
  · intro done t u ht hsame x hx
    rw [hsame.sameNames.batters] at hx
    exact ht x hx

end BoxScore

end Baseball
