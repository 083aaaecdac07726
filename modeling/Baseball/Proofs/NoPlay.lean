import Baseball.Proofs.Coherence
import Baseball.Proofs.Headings

/-!
# Between two plays

An event without a play hands in changes to the lineups, and nothing else happens: no count moves,
the same bases stay occupied, and the same pitchers answer for the runners. A runner gives way only
to a pinch runner who takes the slot he stands in; of several pinch runners for one man, each takes
over from the one before him. In the box score the changes put lines without counts at the ends of
the lists, as far as they can be entered; nothing that is there already is touched.

## Main definitions

* `State.runnerAfter` — who runs for a runner after some changes
* `GoesOn` — a list that goes on from another with new elements only
* `TeamBox.Enlarged`, `BoxScore.Enlarged` — a box to which nothing but new lines has been added

## Main results

* `State.get_foldl_substitute` — who stands on a base after some changes
* `TeamBox.Enlarged.of_enter` — coming in only adds new lines
* `noPlay_frame` — an event without a play leaves game and box score as they are
-/

namespace Baseball

/-! ### The runners -/

namespace State

/-- Who runs for a runner after one change: the substitute, if he is a pinch runner and takes the
runner's slot. -/
def relieved (s : State) (sub : Substitution) (runner : String) : String :=
  if sub.position = .pinchRunner ∧ (s.side sub.side).squad.playerAt? sub.slot = some runner
  then sub.player else runner

/-- Who runs for a runner after several changes, the first one first. -/
def runnerAfter (s : State) (runner : String) : List Substitution → String
  | [] => runner
  | sub :: subs => (s.substitute sub).runnerAfter (s.relieved sub runner) subs

/-- **The runners after a substitution.** -/
theorem get_substitute (s : State) (sub : Substitution) (b : Base) :
    (s.substitute sub).bases.get b =
      (s.bases.get b).map fun r => { r with player := s.relieved sub r.player } := by
  have hbases : (s.substitute sub).bases = s.basesAfter sub := rfl
  have hsame (h : ∀ x, s.relieved sub x = x) : s.bases.get b =
      (s.bases.get b).map fun r => { r with player := s.relieved sub r.player } := by
    simp only [h]
    exact Option.map_id'.symm
  rw [hbases, basesAfter]
  rcases hd : (s.side sub.side).squad.displaced? sub with _ | old
  · refine hsame fun x => ?_
    -- a man who stands in the slot and does not make way is the substitute himself
    by_cases hx : x = sub.player
    · rw [relieved, hx, ite_self]
    · rw [relieved, if_neg]
      rintro ⟨-, hslot⟩
      cases hd.symm.trans (Squad.displaced?_eq_some_iff.mpr ⟨hslot, hx⟩)
  · have hold := (Squad.displaced?_eq_some_iff.mp hd).1
    dsimp only
    split
    · next hp =>
      rw [Bases.get_rename]
      refine congrArg (Option.map · _) (funext fun r => ?_)
      simp only [relieved, hp, hold, true_and, Option.some.injEq, eq_comm]
      split <;> rfl
    · next hp => exact hsame fun x => if_neg fun h => hp h.1

/-- **The runners after several substitutions.** -/
theorem get_foldl_substitute (s : State) (subs : List Substitution) (b : Base) :
    (subs.foldl substitute s).bases.get b =
      (s.bases.get b).map fun r => { r with player := s.runnerAfter r.player subs } := by
  induction subs generalizing s with
  | nil => exact Option.map_id'.symm
  | cons sub subs ih =>
    rw [List.foldl_cons, ih, get_substitute, Option.map_map]
    rfl

end State

/-! ### Lists that go on -/

section GoesOn

variable {α : Type} {fresh : α → Prop} {k l m : List α} {x : α}

/-- A list goes on from another with new elements only. -/
def GoesOn (fresh : α → Prop) (l m : List α) : Prop :=
  ∃ added, m = l ++ added ∧ ∀ x ∈ added, fresh x

theorem GoesOn.refl (fresh : α → Prop) (l : List α) : GoesOn fresh l l :=
  ⟨[], (List.append_nil l).symm, fun _ hx => absurd hx List.not_mem_nil⟩

theorem GoesOn.concat (l : List α) (hx : fresh x) : GoesOn fresh l (l ++ [x]) :=
  ⟨[x], rfl, List.forall_mem_singleton.mpr hx⟩

theorem GoesOn.trans (hkl : GoesOn fresh k l) (hlm : GoesOn fresh l m) : GoesOn fresh k m := by
  obtain ⟨xs, rfl, hxs⟩ := hkl
  obtain ⟨ys, rfl, hys⟩ := hlm
  exact ⟨xs ++ ys, List.append_assoc .., List.forall_mem_append.mpr ⟨hxs, hys⟩⟩

end GoesOn

/-! ### The box score -/

namespace TeamBox

variable {gameId player : String} {slot : Nat} {p : Position} {t u v : TeamBox}

/-- A box to which nothing but new lines has been added: the lines that were there stand in their
order with their counts, the added ones have no counts and are for this game only, and no count of
the team has changed. -/
structure Enlarged (gameId : String) (t u : TeamBox) : Prop where
  rest : u = { t with
    stints := u.stints
    pitchers := u.pitchers
    fielders := u.fielders
    currentPitcher := u.currentPitcher }
  stints : GoesOn (fun x => x.2.counts = {} ∧ x.2.games = .singleton gameId)
    (t.stints.map fun s => (s.slot, s.line)) (u.stints.map fun s => (s.slot, s.line))
  pitchers : GoesOn (fun l => l.counts = {} ∧ l.games = .singleton gameId) t.pitchers u.pitchers
  fielders : GoesOn (fun l => l.counts = {} ∧ l.games = .singleton gameId) t.fielders u.fielders

theorem Enlarged.refl (gameId : String) (t : TeamBox) : Enlarged gameId t t :=
  ⟨rfl, .refl .., .refl .., .refl ..⟩

theorem Enlarged.trans (htu : Enlarged gameId t u) (huv : Enlarged gameId u v) :
    Enlarged gameId t v where
  rest := by rw [huv.rest, htu.rest]
  stints := htu.stints.trans huv.stints
  pitchers := htu.pitchers.trans huv.pitchers
  fielders := htu.fielders.trans huv.fielders

/-- **Coming in only adds new lines.** -/
theorem Enlarged.of_enter (h : t.enter gameId player slot p = .ok u) : Enlarged gameId t u := by
  obtain ⟨hs, rfl⟩ := enter_eq_ok_iff.mp h
  refine ⟨rfl, ?_, ?_, ?_⟩
  · rcases stints_enterStint_cases t gameId player ⟨slot, hs⟩ p with hold | ⟨-, happend⟩
    · have hkept := map_modifyFirst? hold (k := fun s => (s.slot, s.line)) fun s => by
        rw [addPosition_line, addPosition_slot]
      rw [hkept]
      exact .refl ..
    · rw [happend, List.map_append]
      exact .concat _ ⟨rfl, rfl⟩
  · dsimp only
    split
    · rcases pitchers_enterPitcher_cases t gameId player with hold | ⟨-, happend⟩
      · rw [hold]
        exact .refl ..
      · rw [happend]
        exact .concat _ ⟨rfl, rfl⟩
    · exact .refl ..
  · rcases fielders_enterFielder_cases t gameId player p with hold | ⟨-, happend⟩
    · rw [hold]
      exact .refl ..
    · rw [happend]
      exact .concat _ ⟨rfl, rfl⟩

end TeamBox

namespace BoxScore

variable {gameId : String} {b c d : BoxScore}

/-- A box score to both sides of which nothing but new lines has been added. -/
structure Enlarged (gameId : String) (b c : BoxScore) : Prop where
  heading : c = { b with teams := c.teams }
  team : ∀ side, TeamBox.Enlarged gameId (b.team side) (c.team side)

theorem Enlarged.refl (gameId : String) (b : BoxScore) : Enlarged gameId b b :=
  ⟨rfl, fun _ => .refl ..⟩

theorem Enlarged.trans (hbc : Enlarged gameId b c) (hcd : Enlarged gameId c d) :
    Enlarged gameId b d where
  heading := by rw [hcd.heading, hbc.heading]
  team side := (hbc.team side).trans (hcd.team side)

/-- A substitute who comes in or is refused only adds new lines. -/
theorem enlarged_enter (b : BoxScore) (gameId : String) (sub : Substitution) :
    Enlarged gameId b (b.enter gameId sub).state := by
  refine ⟨rfl, fun side => ?_⟩
  rcases team_enter_cases b gameId sub side with hkept | ⟨rfl, hin⟩
  · rw [hkept]
    exact .refl ..
  · exact .of_enter hin

/-- Substitutes who come in, up to the first who is refused, only add new lines. -/
theorem enlarged_forEach_enter (b : BoxScore) (gameId : String) (subs : List Substitution) :
    Enlarged gameId b (Attempt.forEach (enter gameId) b subs).state :=
  Attempt.state_forEach (.refl gameId b) fun c sub _ hc => hc.trans (enlarged_enter c gameId sub)

end BoxScore

/-- A scorer's box score is only enlarged by substitutes, entered or refused. -/
theorem Scorer.enlarged_substitute (k : Scorer) (g : Game) (subs : List Substitution) :
    (k.substitute g subs).state.finished = k.finished ∧
      Option.Rel (BoxScore.Enlarged g.id) k.current? (k.substitute g subs).state.current? := by
  rw [substitute, onCurrent]
  rcases hk : k.current? with _ | b
  · refine ⟨rfl, ?_⟩
    rw [Attempt.state_fail, hk]
    exact .none
  · exact ⟨rfl, .some (BoxScore.enlarged_forEach_enter b g.id subs)⟩

/-! ### An event without a play -/

/-- **An event without a play.** Whatever changes it hands in: in the game no count moves, the same
bases are occupied under the same pitchers, and a runner gives way only to pinch runners for him; in
the box score nothing but new lines is added. -/
theorem noPlay_frame (s : State) (k : Scorer) (g : Game) (subs : List Substitution) :
    (∃ s', s.applyEvent g.id (.noPlay subs) = .ok s' ∧ s.SameCount s' ∧
      ∀ b, s'.bases.get b =
        (s.bases.get b).map fun r => { r with player := s.runnerAfter r.player subs }) ∧
    (k.substitute g subs).state.finished = k.finished ∧
    Option.Rel (BoxScore.Enlarged g.id) k.current? (k.substitute g subs).state.current? := by
  refine ⟨⟨subs.foldl State.substitute s, rfl, ?_, ?_⟩, k.enlarged_substitute g subs⟩
  · exact .foldl_substitute s subs
  · exact State.get_foldl_substitute s subs

end Baseball
