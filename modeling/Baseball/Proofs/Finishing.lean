import Baseball.Proofs.Headings
import Baseball.Proofs.Mound

/-!
# Who is credited with finishing a game

When a game is closed the box score credits the pitcher on the mound, and nobody else: with a complete
game, and a shutout if the opponents have no run, if he is the first in the list of pitchers, and with
a game finished otherwise.

Being first in the list is not being alone in it. A starter may leave the mound for another position,
be relieved, and come back; he is then first in the list and on the mound at the end, and is credited
with a complete game although others have pitched. A side that lists two starting pitchers and never
changes comes to the same. So of a side with several pitchers the credit is right exactly if whoever
came in last as the pitcher is not the one who started.

## The argument

No play gives such a credit, and nobody comes in with one (`TeamBox.Unfinished`), so when a game is
closed all of it is still to be given. Who is on the mound is who came in last as the pitcher, and
the first in the list is the first who was listed as the starting pitcher (`Kept.pitched`). Names in
the list are distinct, so a place in it is a name.

## Main definitions

* `Game.finisher?` — who came in last as the pitcher of a side
* `PitchingCounts.finish` — what counts say of finishing games
* `TeamBox.CreditsFinish` — a complete game for a pitcher who was alone, a game finished for the last
  of several

## Main results

* `BoxScore.finish_eq_ofGame` — what each line of a box score says of finishing the game
* `BoxScore.creditsFinish_iff_ofGame` — when the credit is right
-/

namespace Baseball

/-- The pitcher of a side after some have come in: the last of them who came in at the position, or
the one who started. -/
def Game.pitcherOf (side : Side) (starter? : Option String) (subs : List Substitution) :
    Option String :=
  subs.foldl
    (fun pitcher? sub =>
      if sub.side = side ∧ sub.position = .pitcher then some sub.player else pitcher?)
    starter?

/-- The pitcher of a side at the end of the game. -/
def Game.finisher? (g : Game) (side : Side) : Option String :=
  pitcherOf side (g.startingPitcher? side) g.substitutions

namespace PitchingCounts

/-- The counts of games completed, shut out and finished. -/
def finish (c : PitchingCounts) : PitchingCounts := { cg := c.cg, sho := c.sho, gf := c.gf }

theorem finish_add (a b : PitchingCounts) : (a + b).finish = a.finish + b.finish := rfl

/-- What comes from plays says nothing of finishing games. -/
theorem finish_eq_zero {c : PitchingCounts} (h : c.inPlay = c) : c.finish = 0 := by
  rw [← h]
  rfl

end PitchingCounts

theorem PitchingLine.finish_credit {c : PitchingCounts} (hc : c.finish = 0) (l : PitchingLine) :
    (l.credit c).counts.finish = l.counts.finish := by
  change (l.counts + c).finish = _
  rw [PitchingCounts.finish_add, hc, add_zero]

namespace TeamBox

variable {gameId player : String} {slot : Nat} {p : Position} {t t' : TeamBox}

/-- **How finishing a game is to be credited**, with a number of runs allowed: a pitcher who was alone
has a complete game, and a shutout if no run was allowed; of several none has either, and one has
finished the game, who is the one that was on the mound at the end. -/
def CreditsFinish (t : TeamBox) (finisher? : Option String) (allowed : Nat) : Prop :=
  (∀ l, t.pitchers = [l] →
    l.counts.cg = 1 ∧ l.counts.gf = 0 ∧ (l.counts.sho = 1 ↔ allowed = 0)) ∧
  (2 ≤ t.pitchers.length →
    (∀ l ∈ t.pitchers, l.counts.cg = 0 ∧ l.counts.sho = 0) ∧
      ∃ l ∈ t.pitchers, some l.player = finisher? ∧ l.counts.gf = 1 ∧
        ∀ k ∈ t.pitchers, k.counts.gf = 1 → k = l)

/-! ### Nobody is credited before the end -/

/-- No line says that its pitcher has finished the game. -/
def Unfinished (t : TeamBox) : Prop := ∀ l ∈ t.pitchers, l.counts.finish = 0

theorem unfinished_of_map_eq
    (h : t'.pitchers.map (fun l => l.counts.finish) = t.pitchers.map fun l => l.counts.finish)
    (ht : t.Unfinished) : t'.Unfinished :=
  forall_of_map_eq (k := fun l : PitchingLine => l.counts.finish) (P := (· = 0)) h ht

theorem Unfinished.enterPitcher (h : t.Unfinished) (gameId player : String) :
    (t.enterPitcher gameId player).Unfinished := by
  rcases pitchers_enterPitcher_cases t gameId player with hold | ⟨-, happend⟩
  · rw [Unfinished, hold]
    exact h
  · rw [Unfinished, happend]
    exact List.forall_mem_append.mpr ⟨h, List.forall_mem_singleton.mpr rfl⟩

theorem Unfinished.enter (h : t.Unfinished) (hin : t.enter gameId player slot p = .ok t') :
    t'.Unfinished := by
  obtain ⟨hs, rfl⟩ := enter_eq_ok_iff.mp hin
  by_cases hp : p = .pitcher
  · simp only [Unfinished, if_pos hp]
    exact h.enterPitcher gameId player
  · simp only [Unfinished, if_neg hp]
    exact h

theorem Unfinished.post (h : t.Unfinished) (gameId : String) {e : Entry}
    (he : ∀ player c, e = .pitching player c → c.finish = 0) :
    (t.post gameId e).state.Unfinished := by
  refine unfinished_of_map_eq (map_pitchers_post t gameId fun player c heq => ?_) h
  exact PitchingLine.finish_credit (he player c heq)

/-! ### The first in the list -/

theorem head?_pitcherNames_enterPitcher (t : TeamBox) (gameId player : String) :
    (t.enterPitcher gameId player).pitcherNames.head? = t.pitcherNames.head?.or (some player) := by
  rcases pitchers_enterPitcher_cases t gameId player with hold | ⟨-, happend⟩
  · have hsame : (t.enterPitcher gameId player).pitcherNames = t.pitcherNames := by
      rw [pitcherNames, hold, pitcherNames]
    have hmem : player ∈ t.pitcherNames := by
      rw [← hsame]
      exact mem_pitcherNames_enterPitcher.mpr (.inr rfl)
    obtain ⟨first, rest, hcons⟩ := List.exists_cons_of_ne_nil (List.ne_nil_of_mem hmem)
    rw [hsame, hcons]
    rfl
  · rw [pitcherNames, happend, List.map_append, List.head?_append, pitcherNames]
    rfl

/-- Whoever comes in as the pitcher is first in the list if nobody was. -/
theorem head?_pitcherNames_enter (h : t.enter gameId player slot p = .ok t') :
    t'.pitcherNames.head? = t.pitcherNames.head?.or (if p = .pitcher then some player else none) := by
  obtain ⟨hs, rfl⟩ := enter_eq_ok_iff.mp h
  by_cases hp : p = .pitcher
  · simp only [if_pos hp]
    exact head?_pitcherNames_enterPitcher t gameId player
  · simp only [if_neg hp, Option.or_none]
    rfl

/-- What holds of the pitchers of a side while its game is kept: who is first in the list, who is on
the mound, and that none of them has finished the game. -/
structure Pitched (t : TeamBox) (first? last? : Option String) : Prop where
  first : t.pitcherNames.head? = first?
  last : t.onMound? = last?
  unfinished : t.Unfinished

/-- A credit to a pitcher that is not for finishing. -/
theorem Pitched.creditPitching? {first? last? : Option String} (h : t.Pitched first? last?)
    {c : PitchingCounts} (hc : c.finish = 0) (player : String) :
    ((t.creditPitching? player c).getD t).Pitched first? last? := by
  rcases ht : t.creditPitching? player c with _ | u
  · exact h
  · obtain ⟨pitchers, hm, rfl⟩ := Option.map_eq_some_iff.mp ht
    have hnames : pitchers.map PitchingLine.player = t.pitcherNames := map_modifyFirst? hm fun _ => rfl
    refine ⟨?_, ?_, unfinished_of_map_eq (map_modifyFirst? hm (PitchingLine.finish_credit hc))
      h.unfinished⟩
    · rw [← h.first]
      exact congrArg List.head? hnames
    · rw [← h.last, onMound?_eq, onMound?_eq]
      exact congrArg (·[t.currentPitcher]?) hnames

/-- What a line says of finishing the game at the end of it, from whether its pitcher was the last to
come in and the first to be listed. -/
def finishOf (first? last? : Option String) (allowed : Nat) (player : String) : PitchingCounts :=
  if some player = last? then
    if first? = last? then { cg := 1, sho := if allowed = 0 then 1 else 0 } else { gf := 1 }
  else 0

theorem finish_finishCredit (finisher allowed : Nat) :
    (BoxScore.finishCredit finisher allowed).finish =
      if finisher = 0 then { cg := 1, sho := if allowed = 0 then 1 else 0 } else { gf := 1 } := by
  rw [BoxScore.finishCredit]
  split
  · cases allowed <;> rfl
  · rfl

/-- **The credit for finishing** goes to the one on the mound, by whether he is first in the list. -/
theorem Pitched.finish_creditFinish {first? last? : Option String} (h : t.Pitched first? last?)
    (hnodup : t.pitcherNames.Nodup) (allowed : Nat) :
    ∀ l ∈ (BoxScore.creditFinish t allowed).pitchers,
      l.counts.finish = finishOf first? last? allowed l.player := by
  intro l hl
  change l ∈ t.pitchers.modify t.currentPitcher
    (·.credit (BoxScore.finishCredit t.currentPitcher allowed)) at hl
  obtain ⟨i, hi, rfl⟩ := List.getElem_of_mem hl
  rw [List.length_modify] at hi
  rw [List.getElem_modify]
  have hlength : i < t.pitcherNames.length := by rwa [pitcherNames, List.length_map]
  have hname : t.pitcherNames[i]? = some t.pitchers[i].player := by
    rw [pitcherNames, List.getElem?_map, List.getElem?_eq_getElem hi, Option.map_some]
  have hlast : t.pitcherNames[t.currentPitcher]? = last? := by rw [← onMound?_eq, h.last]
  have hfirst : t.pitcherNames[0]? = first? := by rw [← List.head?_eq_getElem?, h.first]
  have hnone : t.pitchers[i].counts.finish = 0 := h.unfinished _ (List.getElem_mem hi)
  -- names are distinct, so they tell the places of the line, of the last and of the first
  by_cases hme : t.currentPitcher = i
  · subst hme
    have hmound : some (t.pitchers[t.currentPitcher].credit
        (BoxScore.finishCredit t.currentPitcher allowed)).player = last? := hname.symm.trans hlast
    have hstarter : t.currentPitcher = 0 ↔ first? = last? := by
      rw [← List.getElem?_inj hlength hnodup, hlast, hfirst, eq_comm]
    have hcredit : (t.pitchers[t.currentPitcher].credit
        (BoxScore.finishCredit t.currentPitcher allowed)).counts.finish =
          (BoxScore.finishCredit t.currentPitcher allowed).finish := by
      change (t.pitchers[t.currentPitcher].counts + _).finish = _
      rw [PitchingCounts.finish_add, hnone, zero_add]
    rw [if_pos rfl, hcredit, finish_finishCredit, finishOf, if_pos hmound]
    simp only [hstarter]
  · have hother : some t.pitchers[i].player ≠ last? := by
      rw [← hname, ← hlast, Ne, List.getElem?_inj hlength hnodup]
      exact fun heq => hme heq.symm
    rw [if_neg hme, finishOf, if_neg hother]
    exact hnone

/-! ### When the credit is right -/

section CreditsFinish

variable {first? last? : Option String} {allowed : Nat}

/-- A pitcher who was alone started, and was the last to come in. -/
theorem creditsFinish_of_single (hfirst : t.pitcherNames.head? = first?)
    (hlast : ∃ k ∈ t.pitchers, some k.player = last?)
    (hfinish : ∀ l ∈ t.pitchers, l.counts.finish = finishOf first? last? allowed l.player)
    (hone : t.pitchers.length = 1) : t.CreditsFinish last? allowed := by
  obtain ⟨l, hl⟩ := List.length_eq_one_iff.mp hone
  rw [hl] at hlast hfinish
  obtain ⟨k, hk, hlast⟩ := hlast
  obtain rfl := List.mem_singleton.mp hk
  have hstarted : first? = last? := by
    rw [← hfirst, ← hlast, pitcherNames, hl]
    rfl
  have hcredit := hfinish k hk
  rw [finishOf, if_pos hlast, if_pos hstarted] at hcredit
  refine ⟨fun l' hl' => ?_, fun htwo => absurd htwo (by omega)⟩
  obtain rfl : k = l' := List.singleton_inj.mp (hl.symm.trans hl')
  have hsho : k.counts.sho = if allowed = 0 then 1 else 0 := congrArg PitchingCounts.sho hcredit
  refine ⟨congrArg PitchingCounts.cg hcredit, congrArg PitchingCounts.gf hcredit, ?_⟩
  rw [hsho]
  split <;> simp_all

/-- If whoever came in last did not start, he has finished the game, and nobody has completed it. -/
theorem creditsFinish_of_relieved (hnodup : t.pitcherNames.Nodup)
    (hlast : ∃ k ∈ t.pitchers, some k.player = last?)
    (hfinish : ∀ l ∈ t.pitchers, l.counts.finish = finishOf first? last? allowed l.player)
    (hne : t.pitchers.length ≠ 1) (hrelieved : first? ≠ last?) : t.CreditsFinish last? allowed := by
  have hcredit (l : PitchingLine) (hl : l ∈ t.pitchers) :
      l.counts.finish = if some l.player = last? then { gf := 1 } else 0 := by
    rw [hfinish l hl, finishOf, if_neg hrelieved]
  refine ⟨fun l hl => absurd (congrArg List.length hl) hne, fun _ => ⟨fun l hl => ?_, ?_⟩⟩
  · have hnone := hcredit l hl
    split at hnone
    · exact ⟨congrArg PitchingCounts.cg hnone, congrArg PitchingCounts.sho hnone⟩
    · exact ⟨congrArg PitchingCounts.cg hnone, congrArg PitchingCounts.sho hnone⟩
  · obtain ⟨k, hk, hlast⟩ := hlast
    have hfinished := hcredit k hk
    rw [if_pos hlast] at hfinished
    refine ⟨k, hk, hlast, congrArg PitchingCounts.gf hfinished, fun l hl hgf => ?_⟩
    have hl' := hcredit l hl
    split at hl'
    · next heq =>
      exact List.inj_on_of_nodup_map hnodup hl hk (Option.some.inj (heq.trans hlast.symm))
    · have hzero : l.counts.gf = 0 := congrArg PitchingCounts.gf hl'
      omega

theorem creditsFinish_iff (hnodup : t.pitcherNames.Nodup) (hfirst : t.pitcherNames.head? = first?)
    (hlast : ∃ k ∈ t.pitchers, some k.player = last?)
    (hfinish : ∀ l ∈ t.pitchers, l.counts.finish = finishOf first? last? allowed l.player) :
    t.CreditsFinish last? allowed ↔ t.pitchers.length = 1 ∨ first? ≠ last? := by
  constructor
  · intro hright
    by_contra hwrong
    obtain ⟨hne, hstarted⟩ := not_or.mp hwrong
    obtain ⟨k, hk, hlast⟩ := hlast
    have htwo : 2 ≤ t.pitchers.length := by
      have := List.length_pos_of_mem hk
      omega
    have hcredit := hfinish k hk
    rw [finishOf, if_pos hlast, if_pos (not_not.mp hstarted)] at hcredit
    have hcg : k.counts.cg = 1 := congrArg PitchingCounts.cg hcredit
    have hnone := ((hright.2 htwo).1 k hk).1
    omega
  · intro h
    by_cases hone : t.pitchers.length = 1
    · exact creditsFinish_of_single hfirst hlast hfinish hone
    · exact creditsFinish_of_relieved hnodup hlast hfinish hone (h.resolve_left hone)

end CreditsFinish

end TeamBox

namespace BoxScore

open TeamBox

variable {g : Game} {gameId : String} {side : Side} {t : TeamBox} {b b' : BoxScore} {s : State}
  {σ : Situation} {es : List Event} {sub : Substitution}

/-! ### What plays post -/

theorem inPlay_of_mem_runPostings {pitcher? : Option String} {man : String}
    {o : Origin} {d : Destination} {r : Side} {player : String} {c : PitchingCounts}
    (h : .credit r (.pitching player c) ∈ runPostings σ pitcher? man o d) : c.inPlay = c := by
  rcases List.mem_append.mp h with h | h
  · simp at h
  · split at h
    · simp at h
    · rcases List.mem_cons.mp h with h | h
      · cases h
        rfl
      · split at h <;> simp at h

/-- **What a play gives a pitcher is in play.** -/
theorem inPlay_of_mem_postings {p : Play} {r : Side} {player : String}
    {c : PitchingCounts} (h : .credit r (.pitching player c) ∈ b.postings σ p) : c.inPlay = c := by
  rw [postings, List.mem_append, List.mem_append, List.mem_append, List.mem_cons] at h
  rcases h with (((h | h) | h) | h) | h
  · cases h
  · rw [batterPostings] at h
    split at h
    · split at h
      · simp at h
      · split at h <;> simp at h
    · cases h
  · unfold pitcherPostings at h
    split at h
    · simp at h
    · obtain ⟨-, -, rfl⟩ : r = σ.half.opponent ∧ _ ∧ c = p.pitchingCredit := by simpa using h
      rfl
  · rcases mem_fieldingPostings h with ⟨_, h⟩ | ⟨_, h⟩ | ⟨_, _, _, h, -⟩ <;> cases h
  · obtain ⟨o, -, h⟩ := List.mem_flatMap.mp h
    rw [originPostings] at h
    split at h
    · cases h
    · next man _ =>
      rcases List.mem_append.mp h with h | h
      · split at h
        · exact inPlay_of_mem_runPostings h
        · cases h
      · cases o <;> simp [runningPostings] at h

/-! ### Opening -/

/-- **An opened box** has the listed starting pitcher first in its list, and on the mound. -/
theorem pitched_openSide (h : openSide g side = .ok t) :
    (g.startingPitcher? side).isSome ∧
      t.Pitched (g.startingPitcher? side) (g.startingPitcher? side) := by
  obtain ⟨u, hstarters, hpitcher⟩ := openSide_eq_ok h
  have hu : u.pitcherNames.head? = g.startingPitcher? side ∧ u.Unfinished := by
    refine foldlM_startFielder_induction
      (P := fun done t => t.pitcherNames.head? =
        (done.find? fun s => s.position == .pitcher).map Starter.player ∧ t.Unfinished)
      ?_ (fun ht _ => ht) [] ⟨rfl, fun _ h => absurd h List.not_mem_nil⟩ hstarters
    rintro done starter t u ⟨hfirst, hun⟩ henter
    refine ⟨?_, hun.enter henter⟩
    rw [head?_pitcherNames_enter henter, hfirst, List.find?_append]
    by_cases hp : starter.position = .pitcher <;> simp [hp]
  obtain ⟨first, rest, hp, rfl⟩ := startPitcher_eq_ok hpitcher
  have hfirst : some first.player = g.startingPitcher? side := by
    rw [← hu.1, pitcherNames, hp]
    rfl
  rw [← hfirst]
  refine ⟨rfl, rfl, rfl, ?_⟩
  have hun := hu.2
  rw [Unfinished, hp, List.forall_mem_cons] at hun
  exact List.forall_mem_cons.mpr ⟨(PitchingLine.finish_credit rfl first).trans hun.1, hun.2⟩

/-! ### Whole games -/

theorem pitcherOf_append (side : Side) (subs : List Substitution) (sub : Substitution)
    (starter? : Option String) :
    Game.pitcherOf side starter? (subs ++ [sub]) =
      if sub.side = side ∧ sub.position = .pitcher then some sub.player
      else Game.pitcherOf side starter? subs := by
  rw [Game.pitcherOf, List.foldl_append]
  rfl

/-- A side that had a pitcher has one still. -/
theorem isSome_pitcherOf {starter? : Option String} (h : starter?.isSome)
    (subs : List Substitution) : (Game.pitcherOf side starter? subs).isSome := by
  refine List.foldlRecOn (motive := fun pitcher? : Option String => pitcher?.isSome = true) _ _ h ?_
  intro pitcher? hp sub _
  split
  · rfl
  · exact hp

/-- **The pitchers of a kept game**: the one listed as the starter is first in the list, whoever came
in last is on the mound, and none has finished the game. -/
theorem Kept.pitched (h : Kept g es s b) (side : Side) :
    (g.startingPitcher? side).isSome ∧
      (b.team side).Pitched (g.startingPitcher? side)
        (Game.pitcherOf side (g.startingPitcher? side) (es.flatMap Event.substitutions)) := by
  refine h.team_induction (P := fun done t => (g.startingPitcher? side).isSome ∧
    t.Pitched (g.startingPitcher? side) (Game.pitcherOf side (g.startingPitcher? side) done))
    (fun hopen => pitched_openSide hopen) ?_ ?_ ?_
  · rintro done sub t t' ⟨hfirst, ht⟩ hside hin
    refine ⟨hfirst, ?_, ?_, ht.unfinished.enter hin⟩
    · obtain ⟨first, hsome⟩ := Option.isSome_iff_exists.mp hfirst
      rw [head?_pitcherNames_enter hin, ht.first, hsome]
      rfl
    · rw [onMound?_enter hin, ht.last, pitcherOf_append]
      simp [hside]
  · rintro done sub t ⟨hfirst, ht⟩ hside
    rw [pitcherOf_append, if_neg fun h => hside h.1]
    exact ⟨hfirst, ht⟩
  · rintro done t b σ p e hposted ⟨hfirst, ht⟩
    refine ⟨hfirst, ?_, ?_, ?_⟩
    · rw [(sameNames_post t g.id e).pitchers]
      exact ht.first
    · rw [onMound?_post]
      exact ht.last
    · refine ht.unfinished.post g.id fun player c he => ?_
      subst he
      exact PitchingCounts.finish_eq_zero (inPlay_of_mem_postings hposted)

/-! ### Closing -/

theorem pitched_creditDecision {first? last? pitcher? : Option String} {c : PitchingCounts}
    (hc : c.finish = 0) (h : b.creditDecision gameId pitcher? c = .ok b')
    (ht : (b.team side).Pitched first? last?) : (b'.team side).Pitched first? last? := by
  rcases pitcher? with _ | pitcher
  · cases h
    exact ht
  · rw [creditDecision] at h
    rcases hr : b.pitcherSide? pitcher with _ | r
    · simp [hr] at h
    · simp only [hr] at h
      cases h
      rw [team, BySide.get_modify]
      split
      · exact ht.creditPitching? hc pitcher
      · exact ht

theorem pitched_takeScores {first? last? : Option String}
    (ht : (b.team side).Pitched first? last?) :
    ((b.takeScores σ).team side).Pitched first? last? := by
  rw [team_takeScores]
  exact ⟨ht.first, ht.last, ht.unfinished⟩

/-- Before the credit for finishing, closing a game leaves the pitchers as they were. -/
theorem pitched_creditDecisions {first? last? : Option String} {d : Decisions}
    (h : b.creditDecisions gameId d = .ok b') (ht : (b.team side).Pitched first? last?) :
    (b'.team side).Pitched first? last? := by
  obtain ⟨b₁, b₂, hwin, hloss, hsave⟩ := creditDecisions_eq_ok h
  exact pitched_creditDecision rfl hsave
    (pitched_creditDecision rfl hloss (pitched_creditDecision rfl hwin ht))

/-- A side of a box score is what the game left of it, with the credit for finishing. -/
theorem exists_pitched_of_ofGame (h : ofGame g = .ok b) (side : Side) :
    (g.startingPitcher? side).isSome ∧
      ∃ t : TeamBox, t.Pitched (g.startingPitcher? side) (g.finisher? side) ∧
        b.team side = creditFinish t (b.team side.opponent).runs := by
  obtain ⟨b₀, hkept, hclose⟩ := exists_kept_of_ofGame h
  obtain ⟨b₁, hdecided, hteam⟩ := close_eq_ok hclose
  obtain ⟨hsome, hpitched⟩ := hkept.pitched side
  have hruns : (b.team side.opponent).runs = (b₁.team side.opponent).runs := by
    rw [hteam side.opponent]
    rfl
  exact ⟨hsome, b₁.team side, pitched_creditDecisions hdecided (pitched_takeScores hpitched),
    hruns ▸ hteam side⟩

/-- **What each line says of finishing the game**: the pitcher who came in last has a complete game,
and a shutout if the opponents have no run, if he is the listed starter, and has otherwise finished
the game; no other line says anything. -/
theorem finish_eq_ofGame (h : ofGame g = .ok b) (side : Side) :
    ∀ l ∈ (b.team side).pitchers, l.counts.finish =
      finishOf (g.startingPitcher? side) (g.finisher? side) (b.team side.opponent).runs l.player := by
  obtain ⟨-, t, ht, hteam⟩ := exists_pitched_of_ofGame h side
  have hnodup := (headed_ofGame h side).nodup_pitcherNames
  rw [hteam, (samePlay_creditFinish t _).sameNames.pitchers] at hnodup
  rw [hteam]
  exact ht.finish_creditFinish hnodup _

/-- The listed starter is first in the list of pitchers, and whoever came in last is on it. -/
theorem pitchers_ofGame (h : ofGame g = .ok b) (side : Side) :
    (b.team side).pitcherNames.head? = g.startingPitcher? side ∧
      ∃ l ∈ (b.team side).pitchers, some l.player = g.finisher? side := by
  obtain ⟨hsome, t, ht, hteam⟩ := exists_pitched_of_ofGame h side
  have hnames : (b.team side).pitcherNames = t.pitcherNames := by
    rw [hteam]
    exact (samePlay_creditFinish t _).sameNames.pitchers
  refine ⟨hnames ▸ ht.first, ?_⟩
  obtain ⟨finisher, hfinisher⟩ := Option.isSome_iff_exists.mp (isSome_pitcherOf hsome g.substitutions)
  have hmem : finisher ∈ (b.team side).pitcherNames := by
    rw [hnames]
    exact List.mem_of_getElem? ((onMound?_eq t).symm.trans (ht.last.trans hfinisher))
  obtain ⟨l, hl, rfl⟩ := List.mem_map.mp hmem
  exact ⟨l, hl, hfinisher.symm⟩

/-- **When the credit for finishing is right**: exactly if the side used one pitcher, or the one who
came in last is not the one who started. What each line says is told in either case. -/
theorem creditsFinish_iff_ofGame (h : ofGame g = .ok b) (side : Side) :
    (∀ l ∈ (b.team side).pitchers, l.counts.finish = finishOf (g.startingPitcher? side)
      (g.finisher? side) (b.team side.opponent).runs l.player) ∧
    ((b.team side).CreditsFinish (g.finisher? side) (b.team side.opponent).runs ↔
      (b.team side).pitchers.length = 1 ∨ g.startingPitcher? side ≠ g.finisher? side) :=
  have hfinish := finish_eq_ofGame h side
  have hpitchers := pitchers_ofGame h side
  ⟨hfinish, creditsFinish_iff (headed_ofGame h side).nodup_pitcherNames hpitchers.1 hpitchers.2 hfinish⟩

/-- A lineup of nine who bat in the order of their positions. -/
def nineOf (initial : String) : List Starter :=
  Position.field.map fun p => ⟨initial ++ p.code.repr, p.code, p⟩

/-- The home pitcher goes to left field for one batter and comes back for the next. -/
def returnedStarter : Game where
  id := "G1"
  date := { year := 2024, month := 5, day := 1, isDate := by decide }
  visitor := "VIS"
  home := "HOM"
  starters := ⟨nineOf "v", nineOf "h"⟩
  events := [.noPlay [⟨"h1", .home, 1, .leftField⟩, ⟨"h10", .home, 7, .pitcher⟩],
    .play (.ofKind .strikeout),
    .noPlay [⟨"h1", .home, 1, .pitcher⟩, ⟨"h10", .home, 7, .leftField⟩],
    .play (.ofKind .strikeout)]

/-- In that game the credit of the visitors is right, who used one pitcher, and that of the hosts is
not. -/
theorem creditsFinish_iff_returnedStarter : ∃ b, ofGame returnedStarter = .ok b ∧
    (b.team .visitor).CreditsFinish (returnedStarter.finisher? .visitor) (b.team .home).runs ∧
    ¬(b.team .home).CreditsFinish (returnedStarter.finisher? .home) (b.team .visitor).runs := by
  have hlengths : (ofGame returnedStarter).toOption.map (fun b =>
      ((b.team .visitor).pitchers.length, (b.team .home).pitchers.length)) = some (1, 2) := by
    decide +kernel
  obtain ⟨b, hb, hlength⟩ := Option.map_eq_some_iff.mp hlengths
  obtain ⟨hvisitors, hhosts⟩ := Prod.mk.inj hlength
  have hmade : ofGame returnedStarter = .ok b := toOption_eq_some_iff.mp hb
  refine ⟨b, hmade, (creditsFinish_iff_ofGame hmade .visitor).2.mpr (.inl hvisitors), fun h => ?_⟩
  have hwhen := (creditsFinish_iff_ofGame hmade .home).2.mp h
  rw [hhosts] at hwhen
  exact absurd hwhen (by decide +kernel)

/-- Two pitchers, and the one who started and came back has a complete game and a shutout. -/
theorem completeGame_returnedStarter : ∃ b l, ofGame returnedStarter = .ok b ∧
    (b.team .home).pitchers.length = 2 ∧ l ∈ (b.team .home).pitchers ∧ l.player = "h1" ∧
      l.counts.cg = 1 ∧ l.counts.sho = 1 ∧
    ¬(b.team .home).CreditsFinish (returnedStarter.finisher? .home) (b.team .visitor).runs := by
  have hlines : (ofGame returnedStarter).toOption.map (fun b => (b.team .home).pitchers.map fun l =>
      (l.player, l.counts.cg, l.counts.sho, l.counts.gf)) =
        some [("h1", 1, 1, 0), ("h10", 0, 0, 0)] := by decide +kernel
  obtain ⟨b, hb, hpitchers⟩ := Option.map_eq_some_iff.mp hlines
  obtain ⟨l, rest, hcons, hl, hrest⟩ := List.map_eq_cons_iff.mp hpitchers
  simp only [Prod.mk.injEq] at hl
  have htwo : (b.team .home).pitchers.length = 2 := by simpa using congrArg List.length hpitchers
  have hmem : l ∈ (b.team .home).pitchers := hcons ▸ List.mem_cons_self
  refine ⟨b, l, toOption_eq_some_iff.mp hb, htwo, hmem, hl.1, hl.2.1, hl.2.2.1, fun h => ?_⟩
  have hnone := ((h.2 htwo.ge).1 l hmem).1
  omega

end BoxScore

end Baseball
