import Baseball.Proofs.Coherence

/-!
# Changes made at once

Several changes made between two plays are handed in as one list, and the squad takes them one by
one. What it goes through on the way depends on the order: if two fielders trade positions, the one
who moves first takes a post that is still occupied, and the other then leaves a post that is no
longer his. Where the list ends does not depend on it, as long as no change is about a man or a
place that another one is about.

## Main definitions

* `Squad.Independent` — two changes that are about different men and places
* `Squad.AtOnce` — a list of changes that can be made at once

## Main results

* `Squad.fielder?_substitute` — the fielders after a substitution
* `Squad.Independent.substitute_comm`, `State.substitute_comm` — two changes trade places
* `State.applyEvent_noPlay_perm` — changes made at once may be listed in any order
-/

namespace Baseball

theorem Position.exists_index_eq (i : Fin 12) : ∃ p : Position, p.index = i := by
  have hall : ∀ i : Fin 12, ∃ p ∈ Position.all, p.index = i := by decide
  obtain ⟨p, -, hp⟩ := hall i
  exact ⟨p, hp⟩

namespace Squad

variable {q q' : Squad} {a b c : Substitution} {subs : List Substitution} {x : String}
  {p : Position}

/-! ### The answers decide -/

/-- Squads that give the same answers are the same. -/
theorem eq_of_answers (hplayer : ∀ i, q.playerAt? i = q'.playerAt? i)
    (hposition : ∀ x, q.positionOf? x = q'.positionOf? x)
    (hfielder : ∀ p, q.fielder? p = q'.fielder? p) : q = q' := by
  ext1
  · refine Vector.ext fun i hi => ?_
    have hsame := hplayer i
    rw [playerAt?, playerAt?, Vector.getElem?_eq_getElem hi, Vector.getElem?_eq_getElem hi] at hsame
    exact hsame
  · exact Keyed.ext hposition
  · refine Vector.ext fun i hi => ?_
    obtain ⟨p, hp⟩ := Position.exists_index_eq ⟨i, hi⟩
    obtain rfl : (p.index : Nat) = i := congrArg Fin.val hp
    exact hfielder p

/-! ### Two changes -/

/-- Whether a man gives up a post for a change: he makes way for the substitute, or is the
substitute and held this position before. -/
def GivesUp (q : Squad) (sub : Substitution) (p : Position) (x : String) : Prop :=
  q.displaced? sub = some x ∨ x = sub.player ∧ q.positionOf? x = some p

instance (q : Squad) (sub : Substitution) (p : Position) (x : String) :
    Decidable (q.GivesUp sub p x) := inferInstanceAs (Decidable (_ ∨ _))

/-- **The fielders after a substitution.** The substitute takes the post of his position, and the
others stay at theirs unless they give them up. -/
theorem fielder?_substitute (q : Squad) (sub : Substitution) (p : Position) :
    (q.substitute sub).fielder? p =
      if p = sub.position ∧ hasPost sub.position then some sub.player
      else (q.fielder? p).filter fun x => ¬q.GivesUp sub p x := by
  rw [substitute, fielder?_seat]
  refine if_congr Iff.rfl rfl ?_
  have htaken : (q.takeSlot sub.slot sub.player).fielder? p = q.fielder? p := rfl
  rcases hd : q.displaced? sub with _ | old
  · dsimp only
    rw [positionOf?_takeSlot, htaken]
    rcases q.fielder? p with _ | x
    · simp
    · by_cases hx : x = sub.player <;> simp [GivesUp, hd, hx, Option.filter]
  · have hold : sub.player ≠ old := ((displaced?_eq_some_iff.mp hd).2).symm
    dsimp only
    rw [positionOf?_unseat, if_neg hold, positionOf?_takeSlot, fielder?_unseat, htaken]
    rcases q.fielder? p with _ | x
    · simp
    · by_cases hx : x = old
      · simp [GivesUp, hd, hx, Option.filter]
      · have hx' : old ≠ x := fun h => hx h.symm
        by_cases hsub : x = sub.player
        · subst hsub
          by_cases hheld : q.positionOf? sub.player = some p <;>
            simp [GivesUp, hd, hx, hx', hheld, Option.filter]
        · simp [GivesUp, hd, hx, hx', hsub, Option.filter]

/-- **Two changes that are about different men and places**: other substitutes, other slots and
other positions, and neither substitute stands in the slot of the other change. -/
structure Independent (q : Squad) (a b : Substitution) : Prop where
  player : a.player ≠ b.player
  slot : a.slot ≠ b.slot
  position : a.position ≠ b.position
  apart : q.playerAt? b.slot ≠ some a.player
  apart' : q.playerAt? a.slot ≠ some b.player

namespace Independent

theorem symm (h : q.Independent a b) : q.Independent b a :=
  ⟨h.player.symm, h.slot.symm, h.position.symm, h.apart', h.apart⟩

theorem playerAt?_slot (h : q.Independent a b) :
    (q.substitute a).playerAt? b.slot = q.playerAt? b.slot := by
  rw [playerAt?_substitute, if_neg fun hboth => h.slot hboth.1]

theorem displaced? (h : q.Independent a b) :
    (q.substitute a).displaced? b = q.displaced? b := by
  rw [Squad.displaced?, h.playerAt?_slot, Squad.displaced?]

/-- A substitute holds the same position after another change as before. -/
theorem positionOf?_player (h : q.Independent a b) :
    (q.substitute a).positionOf? b.player = q.positionOf? b.player := by
  rw [positionOf?_substitute, if_neg h.player.symm, if_neg h.apart']

/-- A change takes the same posts from the same men after another change as before. -/
theorem givesUp_iff (h : q.Independent a b) :
    (q.substitute a).GivesUp b p x ↔ q.GivesUp b p x := by
  rw [GivesUp, GivesUp, h.displaced?]
  refine or_congr_right (and_congr_right fun hx => ?_)
  rw [hx, h.positionOf?_player]

/-- A substitute does not give up for another change the post that he takes. -/
theorem not_givesUp (h : q.Independent a b) : ¬q.GivesUp b p a.player := by
  rintro (hd | ⟨hx, -⟩)
  · exact h.apart (displaced?_eq_some_iff.mp hd).1
  · exact h.player hx

/-- Two changes, seen from the first: its substitute has his position and post, and everybody else
has what both changes leave him. -/
theorem fielder?_substitute_substitute (h : q.Independent a b) (p : Position) :
    ((q.substitute a).substitute b).fielder? p =
      if p = b.position ∧ hasPost b.position then some b.player
      else if p = a.position ∧ hasPost a.position then some a.player
      else ((q.fielder? p).filter fun x => ¬q.GivesUp a p x).filter fun x => ¬q.GivesUp b p x := by
  rw [fielder?_substitute]
  refine if_congr Iff.rfl rfl ?_
  simp only [h.givesUp_iff, fielder?_substitute q a]
  split
  · simp [h.not_givesUp, Option.filter]
  · rfl

/-- **Two independent changes trade places.** -/
theorem substitute_comm (h : q.Independent a b) :
    (q.substitute a).substitute b = (q.substitute b).substitute a := by
  apply eq_of_answers
  case hplayer =>
    intro i
    simp only [playerAt?_substitute]
    by_cases ha : a.slot = i <;> by_cases hb : b.slot = i
    · exact absurd (ha.trans hb.symm) h.slot
    all_goals simp [ha, hb]
  case hposition =>
    intro x
    rw [positionOf?_substitute, positionOf?_substitute, h.playerAt?_slot, positionOf?_substitute,
      positionOf?_substitute, h.symm.playerAt?_slot]
    by_cases ha : x = a.player
    · subst ha
      rw [if_neg h.player, if_neg h.apart, if_pos rfl, if_pos rfl]
    · by_cases hb : x = b.player
      · subst hb
        rw [if_pos rfl, if_neg ha, if_neg h.apart', if_pos rfl]
      · rw [if_neg hb, if_neg ha, if_neg ha, if_neg hb]
        split <;> split <;> rfl
  case hfielder =>
    intro p
    rw [h.fielder?_substitute_substitute, h.symm.fielder?_substitute_substitute]
    by_cases ha : p = a.position ∧ hasPost a.position
    · have hb : ¬(p = b.position ∧ hasPost b.position) := fun hb =>
        h.position (ha.1.symm.trans hb.1)
      rw [if_neg hb, if_pos ha, if_pos ha]
    · rw [if_neg ha, if_neg ha, Option.filter_filter, Option.filter_filter]
      simp only [Bool.and_comm]

/-- Two changes that are independent stay so after a third that is independent of both. -/
theorem after (hbc : q.Independent b c) (hab : q.Independent a b) (hac : q.Independent a c) :
    (q.substitute a).Independent b c where
  player := hbc.player
  slot := hbc.slot
  position := hbc.position
  apart := hac.playerAt?_slot ▸ hbc.apart
  apart' := hab.playerAt?_slot ▸ hbc.apart'

end Independent

/-! ### Lists of changes -/

/-- **Changes that can be made at once**: no two are for the same player, slot or position, and no
player comes from the slot of another change. -/
structure AtOnce (q : Squad) (subs : List Substitution) : Prop where
  players : (subs.map Substitution.player).Nodup
  slots : (subs.map Substitution.slot).Nodup
  positions : (subs.map Substitution.position).Nodup
  apart : ∀ a ∈ subs, ∀ b ∈ subs, a ≠ b → q.playerAt? b.slot ≠ some a.player

/-- Changes that can be made at once are independent of one another. -/
theorem AtOnce.pairwise (h : q.AtOnce subs) : subs.Pairwise q.Independent := by
  have hplayers := List.pairwise_map.mp h.players
  have hslots := List.pairwise_map.mp h.slots
  have hpositions := List.pairwise_map.mp h.positions
  refine ((hplayers.and hslots).and hpositions).imp_of_mem fun {a b} ha hb hab => ?_
  obtain ⟨⟨hplayer, hslot⟩, hposition⟩ := hab
  have hne : a ≠ b := fun hsame => hplayer (congrArg _ hsame)
  exact ⟨hplayer, hslot, hposition, h.apart a ha b hb hne, h.apart b hb a ha hne.symm⟩

/-! ### What a change is made for -/

/-- **A substitute has come in**: he stands in his slot if there is one, he holds his position, and
he is at its post if it has one. -/
structure Settled (q : Squad) (sub : Substitution) : Prop where
  slot : sub.slot < slotCount → q.playerAt? sub.slot = some sub.player
  position : q.positionOf? sub.player = some sub.position
  post : hasPost sub.position → q.fielder? sub.position = some sub.player

theorem settled_substitute (q : Squad) (sub : Substitution) : (q.substitute sub).Settled sub where
  slot h := by rw [playerAt?_substitute, if_pos ⟨rfl, h⟩]
  position := by rw [positionOf?_substitute, if_pos rfl]
  post h := by rw [fielder?_substitute, if_pos ⟨rfl, h⟩]

end Squad

/-! ### The state of a game -/

namespace State

variable {gameId : String} {s t : State} {side : Side} {a b sub : Substitution}
  {subs subs' : List Substitution}

/-- Nobody but a pinch runner takes over from a runner. -/
theorem basesAfter_of_ne (h : sub.position ≠ .pinchRunner) : s.basesAfter sub = s.bases := by
  rw [basesAfter]
  split
  · rw [if_neg h]
  · rfl

/-- Who takes over from whom is told by who is displaced. -/
theorem basesAfter_congr (hbases : t.bases = s.bases)
    (h : (t.side sub.side).squad.displaced? sub = (s.side sub.side).squad.displaced? sub) :
    t.basesAfter sub = s.basesAfter sub := by
  rw [basesAfter, basesAfter, h, hbases]

theorem squad_substitute (s : State) (hside : sub.side = side) :
    ((s.substitute sub).side side).squad = (s.side side).squad.substitute sub := by
  rw [side_substitute, if_pos hside.symm]

/-- After a change that leaves the runners alone another one does to them what it would have
done. -/
theorem basesAfter_substitute (ha : a.side = side) (hb : b.side = side)
    (h : (s.side side).squad.Independent a b) (hrunner : a.position ≠ .pinchRunner) :
    (s.substitute a).basesAfter b = s.basesAfter b := by
  refine basesAfter_congr (basesAfter_of_ne hrunner) ?_
  rw [hb, squad_substitute s ha, h.displaced?]

/-- **Two independent changes of one side trade places.** -/
theorem substitute_comm (ha : a.side = side) (hb : b.side = side)
    (h : (s.side side).squad.Independent a b) :
    (s.substitute a).substitute b = (s.substitute b).substitute a := by
  have hbases : (s.substitute a).basesAfter b = (s.substitute b).basesAfter a := by
    -- At most one of them is for a pinch runner, and the other does not touch the bases.
    by_cases hrunner : a.position = .pinchRunner
    · have hother : b.position ≠ .pinchRunner := fun h' => h.position (hrunner.trans h'.symm)
      rw [basesAfter_of_ne hother, basesAfter_substitute hb ha h.symm hother]
      rfl
    · rw [basesAfter_of_ne hrunner, basesAfter_substitute ha hb h hrunner]
      rfl
  have hsides (r : Side) :
      ((s.substitute a).substitute b).side r = ((s.substitute b).substitute a).side r := by
    simp only [side_substitute, ha, hb]
    split
    · next hr =>
      subst hr
      simp [h.substitute_comm]
    · rfl
  exact State.ext rfl rfl rfl hbases (BySide.ext (hsides .visitor) (hsides .home))

/-- **Independent changes of one side may be made in any order.** -/
theorem foldl_substitute_perm (hside : ∀ sub ∈ subs, sub.side = side)
    (h : subs.Pairwise (s.side side).squad.Independent) (hperm : subs.Perm subs') :
    subs'.foldl substitute s = subs.foldl substitute s := by
  induction hperm generalizing s with
  | nil => rfl
  | cons a _ ih =>
    obtain ⟨ha, hrest⟩ := List.pairwise_cons.mp h
    obtain ⟨hsidea, hside⟩ := List.forall_mem_cons.mp hside
    refine ih hside ?_
    rw [squad_substitute s hsidea]
    exact hrest.imp_of_mem fun hb hc hbc => hbc.after (ha _ hb) (ha _ hc)
  | swap a b subs =>
    obtain ⟨hsideb, hsidea, -⟩ := by simpa only [List.forall_mem_cons] using hside
    have hba := (List.pairwise_cons.mp h).1 a List.mem_cons_self
    rw [List.foldl_cons, List.foldl_cons, List.foldl_cons, List.foldl_cons,
      substitute_comm hsideb hsidea hba]
  | trans hperm hperm' ih ih' =>
    have hside' := fun sub hsub => hside sub (hperm.mem_iff.mpr hsub)
    have h' := (hperm.pairwise_iff Squad.Independent.symm).mp h
    rw [ih' hside' h', ih hside h]

/-- After independent changes every substitute has come in: his change might as well have been the
last. -/
theorem settled_foldl_substitute (hside : ∀ sub ∈ subs, sub.side = side)
    (h : subs.Pairwise (s.side side).squad.Independent) (hsub : sub ∈ subs) :
    ((subs.foldl substitute s).side side).squad.Settled sub := by
  obtain ⟨before, after, rfl⟩ := List.append_of_mem hsub
  have hlast : (before ++ sub :: after).Perm (before ++ after ++ [sub]) := by
    rw [List.append_assoc]
    exact (List.perm_append_singleton sub after).symm.append_left before
  rw [← foldl_substitute_perm hside h hlast, List.foldl_append, List.foldl_cons, List.foldl_nil,
    squad_substitute _ (hside sub hsub)]
  exact Squad.settled_substitute ..

/-- **The order of changes made at once does not matter**: an event that makes them leads to the
same state, in whichever order it lists them, and every substitute has come in there. -/
theorem applyEvent_noPlay_perm (hside : ∀ sub ∈ subs, sub.side = side)
    (h : (s.side side).squad.AtOnce subs) (hperm : subs.Perm subs') :
    s.applyEvent gameId (.noPlay subs') = s.applyEvent gameId (.noPlay subs) ∧
    ∀ sub ∈ subs, ((s.applyEvent gameId (.noPlay subs)).state.side side).squad.Settled sub := by
  refine ⟨?_, fun sub hsub => settled_foldl_substitute hside h.pairwise hsub⟩
  rw [applyEvent, applyEvent, foldl_substitute_perm hside h.pairwise hperm]

/-- The hosts have a battery and a first baseman. -/
def battery : Game where
  id := "battery"
  date := default
  visitor := "visitors"
  home := "hosts"
  starters := ⟨[⟨"v1", 1, .pitcher⟩],
    [⟨"h1", 1, .pitcher⟩, ⟨"h2", 2, .catcher⟩, ⟨"h3", 3, .firstBase⟩]⟩

/-- Their catcher and their first baseman trade positions, and they get another pitcher. -/
def threeChanges : List Substitution :=
  [⟨"h2", .home, 2, .firstBase⟩, ⟨"h3", .home, 3, .catcher⟩, ⟨"h4", .home, 1, .pitcher⟩]

theorem applyEvent_noPlay_perm_threeChanges : (∀ sub ∈ threeChanges, sub.side = .home) ∧
    ((ofGame battery).side .home).squad.AtOnce threeChanges ∧
    (ofGame battery).applyEvent "battery" (.noPlay threeChanges.reverse) =
      (ofGame battery).applyEvent "battery" (.noPlay threeChanges) ∧
    ∀ sub ∈ threeChanges, (((ofGame battery).applyEvent "battery"
      (.noPlay threeChanges)).state.side .home).squad.Settled sub := by
  have hside : ∀ sub ∈ threeChanges, sub.side = .home := by decide
  have hatonce : ((ofGame battery).side .home).squad.AtOnce threeChanges := by
    constructor
    case players => decide
    case slots => decide
    case positions => decide
    case apart => decide +kernel
  exact ⟨hside, hatonce, applyEvent_noPlay_perm hside hatonce (List.reverse_perm _).symm⟩

end State

end Baseball
