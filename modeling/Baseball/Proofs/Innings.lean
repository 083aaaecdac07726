import Baseball.Live.Replay
import Baseball.Proofs.Runners

/-!
# What an event does to the state of a game

A play that is applied is one for which the men were found and the counts of innings and outs have
room; it is recorded for both sides, and then the half may be closed or the runners stranded.
Closing a half touches nothing of a side but the men it left on base. Substitutions between plays
change who is in the game, and none of the counts.

## Main definitions

* `State.newRunner?` — the batter as a runner
* `State.SameCount` — two states that differ at most in who is in the game

## Main results

* `State.applyPlay_cases` — the ways in which a play may go
* `State.applyPlay_eq_ok_iff` — when a play is applied, and the state after it
* `State.settle_cases` — the three ways in which a play may leave the half
* `State.score_afterPlay`, `State.hits_afterPlay`, `State.errors_afterPlay`,
  `State.batters_afterPlay`
* `State.SameCount.foldl_substitute` — substitutions change no count
* `State.fits_applyEvent`, `State.error?_applyPlay_eq_overflow_iff` — innings and outs stay within
  what can be counted, and when a play would carry them past it
-/

namespace Baseball

namespace State

variable {gameId : String} {s s' : State} {p : Play} {side : Side}

/-! ### One side -/

theorem side_modifySide (s : State) (r side : Side) (f : SideState → SideState) :
    (s.modifySide r f).side side = if side = r then f (s.side side) else s.side side :=
  BySide.get_modify ..

/-- Before the first event a side has its starters and no counts. -/
theorem side_ofGame (g : Game) (side : Side) :
    (ofGame g).side side = { squad := .ofStarters (g.starters.get side) } :=
  BySide.get_ofFn ..

theorem ne_half_iff : side ≠ s.half ↔ side = s.fielding := by
  rw [fielding]
  cases side <;> cases s.half <;> decide

theorem opponent_eq_half_iff : side.opponent = s.half ↔ side = s.fielding := by
  rw [fielding]
  cases side <;> cases s.half <;> decide

/-! ### Plays -/

/-- The batter as a runner, if a play ends his plate appearance. The pitcher in the field is charged
with him. -/
def newRunner? (s : State) (p : Play) : Option Runner :=
  if p.batterEvent then s.batter?.bind fun batter => s.pitcher?.map (⟨batter, ·⟩) else none

/-- A play whose men were found happens if the counts have room for it, and otherwise it stops the
program. -/
theorem complete_cases (gameId : String) (s : State) (p : Play) (r : Option Runner) :
    (s.HasRoom p r ∧ s.complete gameId p r = .ok (s.afterPlay p r)) ∨
      (¬ s.HasRoom p r ∧ s.complete gameId p r = .fail s (.overflow gameId)) := by
  by_cases hroom : s.HasRoom p r
  · exact .inl ⟨hroom, if_pos hroom⟩
  · exact .inr ⟨hroom, if_neg hroom⟩

/-- **The ways in which a play may go**: there is no pitcher, the batter is missing, or the men are
found and the play happens unless a count overflows. -/
theorem applyPlay_cases (gameId : String) (s : State) (p : Play) :
    (s.pitcher? = none ∧ s.applyPlay gameId p = .fail s (.missingOccupant gameId .pitcher)) ∨
      (s.pitcher?.isSome ∧ p.batterEvent ∧ s.batter? = none ∧
        s.applyPlay gameId p = .fail { s with bases := {} } (.missingOccupant gameId .batter)) ∨
      (s.pitcher?.isSome ∧ (s.newRunner? p).isSome = p.batterEvent ∧
        ((s.HasRoom p (s.newRunner? p) ∧
            s.applyPlay gameId p = .ok (s.afterPlay p (s.newRunner? p))) ∨
          (¬ s.HasRoom p (s.newRunner? p) ∧
            s.applyPlay gameId p = .fail s (.overflow gameId)))) := by
  rw [applyPlay, newRunner?]
  rcases s.pitcher? with _ | pitcher
  · exact .inl ⟨rfl, rfl⟩
  · cases p.batterEvent with
    | false => exact .inr (.inr ⟨rfl, rfl, complete_cases ..⟩)
    | true =>
      rcases s.batter? with _ | batter
      · exact .inr (.inl ⟨rfl, rfl, rfl, rfl⟩)
      · exact .inr (.inr ⟨rfl, rfl, complete_cases ..⟩)

/-- **When a play is applied**: there is a pitcher, and a batter if his plate appearance ends, and
no count overflows. -/
theorem applyPlay_eq_ok_iff :
    s.applyPlay gameId p = .ok s' ↔
      s.pitcher?.isSome ∧ (s.newRunner? p).isSome = p.batterEvent ∧
        s.HasRoom p (s.newRunner? p) ∧ s.afterPlay p (s.newRunner? p) = s' := by
  rcases applyPlay_cases gameId s p with ⟨hpitcher, h⟩ | ⟨hpitcher, hp, hbatter, h⟩ |
    ⟨hpitcher, hbatter, ⟨hroom, h⟩ | ⟨hroom, h⟩⟩ <;> rw [h]
  · simp [hpitcher, Attempt.fail, Attempt.ok]
  · simp [newRunner?, hp, hbatter, Attempt.fail, Attempt.ok]
  · rw [Attempt.ok_inj, and_iff_right hpitcher, and_iff_right hbatter, and_iff_right hroom]
  · simp [hroom, Attempt.fail, Attempt.ok]

/-- **What a play that fails leaves behind**: the state as it was if there is no pitcher, and
without its runners if there is no batter. If a count overflows, the state before the play stands in
place of one after it. -/
theorem applyPlay_failed {e : ScoringError} (h : (s.applyPlay gameId p).error? = some e) :
    (e = .missingOccupant gameId .pitcher ∧ s.applyPlay gameId p = .fail s e) ∨
      (e = .missingOccupant gameId .batter ∧
        s.applyPlay gameId p = .fail { s with bases := {} } e) ∨
      (e = .overflow gameId ∧ s.applyPlay gameId p = .fail s e) := by
  rcases applyPlay_cases gameId s p with ⟨-, hp⟩ | ⟨-, -, -, hp⟩ | ⟨-, -, ⟨-, hp⟩ | ⟨-, hp⟩⟩ <;>
    rw [hp] at h ⊢ <;> cases h
  · exact .inl ⟨rfl, rfl⟩
  · exact .inr (.inl ⟨rfl, rfl⟩)
  · exact .inr (.inr ⟨rfl, rfl⟩)

@[simp] theorem half_record (s : State) (p : Play) (r : Option Runner) :
    (s.record p r).half = s.half := rfl

@[simp] theorem outs_record (s : State) (p : Play) (r : Option Runner) :
    (s.record p r).outs = s.outs + p.outs := rfl

@[simp] theorem bases_record (s : State) (p : Play) (r : Option Runner) :
    (s.record p r).bases = s.bases.advance r p.advance := rfl

/-- A play is counted for the side at bat, and its errors for the side in the field. -/
theorem side_record (s : State) (p : Play) (r : Option Runner) (side : Side) :
    (s.record p r).side side =
      if side = s.half then (s.side side).bat p (s.bases.runs r p.advance) r.isSome
      else { s.side side with errors := (s.side side).errors + p.errors.length } := by
  have hrec : (s.record p r).side side =
      ((s.modifySide s.batting fun t =>
        t.bat p (s.bases.runs r p.advance) r.isSome).modifySide s.fielding
          fun t => { t with errors := t.errors + p.errors.length }).side side := rfl
  rw [hrec, side_modifySide, side_modifySide, batting]
  by_cases h : side = s.half
  · have hne : side ≠ s.fielding := fun hf => ne_half_iff.mpr hf h
    rw [if_neg hne, if_pos h, if_pos h]
  · rw [if_pos (ne_half_iff.mp h), if_neg h, if_neg h]

/-- **The ways in which a play may leave the half**: closed after three outs, with the runners
stranded where the game ends, or going on. -/
theorem settle_cases (before after : State) :
    (3 ≤ after.outs ∧ settle before after = after.strand.endHalf) ∨
      (after.outs < 3 ∧ before.isOver = false ∧ after.isOver = true ∧
        settle before after = after.strand) ∨
      (after.outs < 3 ∧ (before.isOver = true ∨ after.isOver = false) ∧
        settle before after = after) := by
  rw [settle]
  by_cases h3 : 3 ≤ after.outs
  · exact .inl ⟨h3, if_pos h3⟩
  · rw [if_neg h3]
    have hlt : after.outs < 3 := Nat.lt_of_not_le h3
    cases hb : before.isOver <;> cases ha : after.isOver <;> simp [hlt]

theorem side_strand (s : State) (side : Side) :
    s.strand.side side =
      if side = s.half then
        { s.side side with leftOnBase := (s.side side).leftOnBase + s.bases.count }
      else s.side side :=
  side_modifySide ..

theorem side_endHalf (s : State) (side : Side) : s.endHalf.side side = s.side side := rfl

/-- A new inning begins after the half of the home side. -/
theorem inning_endHalf (s : State) :
    s.endHalf.inning = if s.half = .home then s.inning + 1 else s.inning := by
  rw [endHalf]
  cases s.half <;> rfl

/-- Closing a half, or stranding the runners, changes nothing of a side but the men left on base. -/
theorem exists_side_settle (before after : State) (side : Side) :
    ∃ n, (settle before after).side side = { after.side side with leftOnBase := n } := by
  have hstrand : ∃ n, after.strand.side side = { after.side side with leftOnBase := n } := by
    rw [side_strand]
    split
    · exact ⟨_, rfl⟩
    · exact ⟨(after.side side).leftOnBase, rfl⟩
  rcases settle_cases before after with ⟨-, h⟩ | ⟨-, -, -, h⟩ | ⟨-, -, h⟩ <;> rw [h]
  · rwa [side_endHalf]
  · exact hstrand
  · exact ⟨(after.side side).leftOnBase, rfl⟩

theorem score_afterPlay (s : State) (p : Play) (r : Option Runner) (side : Side) :
    ((s.afterPlay p r).side side).score =
      (s.side side).score + if side = s.half then s.bases.runs r p.advance else 0 := by
  obtain ⟨n, hn⟩ := exists_side_settle s (s.record p r) side
  rw [afterPlay, hn, side_record]
  split <;> rfl

theorem hits_afterPlay (s : State) (p : Play) (r : Option Runner) (side : Side) :
    ((s.afterPlay p r).side side).hits =
      (s.side side).hits + if side = s.half then p.kind.isHit.toNat else 0 := by
  obtain ⟨n, hn⟩ := exists_side_settle s (s.record p r) side
  rw [afterPlay, hn, side_record]
  split <;> rfl

theorem batters_afterPlay (s : State) (p : Play) (r : Option Runner) (side : Side) :
    ((s.afterPlay p r).side side).batters =
      (s.side side).batters + if side = s.half then r.isSome.toNat else 0 := by
  obtain ⟨n, hn⟩ := exists_side_settle s (s.record p r) side
  rw [afterPlay, hn, side_record]
  split <;> rfl

/-- Errors are counted for the side in the field. -/
theorem errors_afterPlay (s : State) (p : Play) (r : Option Runner) (side : Side) :
    ((s.afterPlay p r).side side).errors =
      (s.side side).errors + if side.opponent = s.half then p.errors.length else 0 := by
  obtain ⟨n, hn⟩ := exists_side_settle s (s.record p r) side
  rw [afterPlay, hn, side_record]
  by_cases hside : side = s.half
  · have hbats : side.opponent ≠ s.half := fun hopponent =>
      ne_half_iff.mpr (opponent_eq_half_iff.mp hopponent) hside
    rw [if_pos hside, if_neg hbats]
    rfl
  · rw [if_neg hside, if_pos (opponent_eq_half_iff.mpr (ne_half_iff.mp hside))]

/-- A play changes nobody's place in the game. -/
theorem squad_afterPlay (s : State) (p : Play) (r : Option Runner) (side : Side) :
    ((s.afterPlay p r).side side).squad = (s.side side).squad := by
  obtain ⟨n, hn⟩ := exists_side_settle s (s.record p r) side
  rw [afterPlay, hn, side_record]
  split <;> rfl

/-- After three outs nobody is on base; before that the half goes on with the men where the play
left them. -/
theorem bases_afterPlay (s : State) (p : Play) (r : Option Runner) :
    if 3 ≤ s.outs + p.outs then (s.afterPlay p r).bases = {}
    else
      (s.afterPlay p r).bases = s.bases.advance r p.advance ∧ (s.afterPlay p r).half = s.half := by
  rw [afterPlay, ← outs_record s p r]
  rcases settle_cases s (s.record p r) with ⟨h3, h⟩ | ⟨hlt, -, -, h⟩ | ⟨hlt, -, h⟩
  · rw [if_pos h3, h]
    rfl
  · rw [if_neg (Nat.not_le_of_lt hlt), h]
    exact ⟨rfl, rfl⟩
  · rw [if_neg (Nat.not_le_of_lt hlt), h]
    exact ⟨rfl, rfl⟩

/-- After a play nobody is on base, or the half goes on with the men where the play left them. -/
theorem bases_afterPlay_cases (s : State) (p : Play) (r : Option Runner) :
    (s.afterPlay p r).bases = {} ∨
      (s.afterPlay p r).bases = s.bases.advance r p.advance ∧ (s.afterPlay p r).half = s.half := by
  have h := bases_afterPlay s p r
  split at h
  · exact .inl h
  · exact .inr h

/-! ### Substitutions -/

/-- Two states that differ at most in who is in the game: in the squads, and in the names of the
runners. -/
structure SameCount (s t : State) : Prop where
  inning : t.inning = s.inning
  half : t.half = s.half
  outs : t.outs = s.outs
  /-- Score, hits, errors, men left on base and plate appearances of a side. -/
  counts : ∀ side, t.side side = { s.side side with squad := (t.side side).squad }
  /-- The same bases are occupied, and the same pitchers charged with the runners. -/
  pitchers : ∀ b, (t.bases.get b).map Runner.pitcher = (s.bases.get b).map Runner.pitcher

theorem SameCount.refl (s : State) : SameCount s s :=
  ⟨rfl, rfl, rfl, fun _ => rfl, fun _ => rfl⟩

theorem SameCount.trans {t u : State} (hst : SameCount s t) (htu : SameCount t u) :
    SameCount s u where
  inning := htu.inning.trans hst.inning
  half := htu.half.trans hst.half
  outs := htu.outs.trans hst.outs
  counts side := by rw [htu.counts, hst.counts]
  pitchers b := (htu.pitchers b).trans (hst.pitchers b)

theorem side_substitute (s : State) (sub : Substitution) (side : Side) :
    (s.substitute sub).side side =
      if side = sub.side then { s.side side with squad := (s.side side).squad.substitute sub }
      else s.side side :=
  side_modifySide ..

theorem sameCount_substitute (s : State) (sub : Substitution) : SameCount s (s.substitute sub) where
  inning := rfl
  half := rfl
  outs := rfl
  counts side := by
    rw [side_substitute]
    split <;> rfl
  pitchers b := by
    have hbases : (s.substitute sub).bases = s.basesAfter sub := rfl
    rw [hbases, basesAfter]
    split
    · split
      · rw [Bases.get_rename, Option.map_map]
        refine congrArg (Option.map · _) (funext fun r => ?_)
        rw [Function.comp_apply]
        split <;> rfl
      · rfl
    · rfl

/-- **Substitutions change no count.** -/
theorem SameCount.foldl_substitute (s : State) (subs : List Substitution) :
    SameCount s (subs.foldl substitute s) := by
  induction subs generalizing s with
  | nil => exact .refl s
  | cons sub subs ih => exact (sameCount_substitute s sub).trans (ih _)

theorem SameCount.isSome_get {t : State} (h : SameCount s t) (b : Base) :
    (t.bases.get b).isSome = (s.bases.get b).isSome := by
  rw [← Option.isSome_map (f := Runner.pitcher), h.pitchers, Option.isSome_map]

theorem SameCount.count_bases {t : State} (h : SameCount s t) : t.bases.count = s.bases.count := by
  simp only [Bases.count_eq_countP, h.isSome_get]

theorem SameCount.fits {t : State} (h : SameCount s t) (hs : s.Fits) : t.Fits := by
  rwa [Fits, h.inning, h.outs]

theorem SameCount.isWalkOff {t : State} (h : SameCount s t) : t.isWalkOff = s.isWalkOff := by
  rw [State.isWalkOff, h.half, h.inning, h.counts .visitor, h.counts .home]
  rfl

/-! ### Counting innings and outs -/

theorem fits_ofGame (g : Game) : (ofGame g).Fits :=
  ⟨(by decide : 1 ≤ countMax), Nat.zero_le countMax⟩

/-- **An event leaves innings and outs that can be counted**, whether or not it can be applied. -/
theorem fits_applyEvent (hs : s.Fits) (e : Event) : (s.applyEvent gameId e).state.Fits := by
  cases e with
  | play p =>
    rw [applyEvent]
    rcases (s.applyPlay gameId p).eq_ok_or_error with ⟨s', h⟩ | ⟨e, h⟩
    · obtain ⟨-, -, ⟨-, hfit⟩, rfl⟩ := applyPlay_eq_ok_iff.mp h
      rwa [h]
    · rcases applyPlay_failed h with ⟨-, h⟩ | ⟨-, h⟩ | ⟨-, h⟩ <;> rw [h] <;> exact hs
  | noPlay subs => exact (SameCount.foldl_substitute s subs).fits hs

/-- **The counts have room for a play** if its outs can be added to those of the half, and it does
not end the last inning that has a number. -/
theorem hasRoom_iff (hs : s.Fits) {r : Option Runner} :
    s.HasRoom p r ↔
      s.outs + p.outs ≤ countMax ∧
        ¬ (s.half = .home ∧ 3 ≤ s.outs + p.outs ∧ s.inning = countMax) := by
  have hrecord : (s.record p r).Fits ↔ s.outs + p.outs ≤ countMax := and_iff_right hs.1
  rw [HasRoom, hrecord, afterPlay]
  refine and_congr_right fun houts => ?_
  rcases settle_cases s (s.record p r) with ⟨h3, h⟩ | ⟨hlt, -, -, h⟩ | ⟨hlt, -, h⟩ <;> rw [h]
  · have hclosed : (s.record p r).strand.endHalf.Fits ↔
        (if s.half = .home then s.inning + 1 else s.inning) ≤ countMax := by
      rw [Fits, inning_endHalf]
      exact and_iff_left (Nat.zero_le _)
    rw [hclosed]
    rw [outs_record] at h3
    split
    · next hhome =>
      rw [and_iff_right hhome, and_iff_right h3]
      exact Nat.lt_iff_le_and_ne.trans (and_iff_right hs.1)
    · next hvisitor => exact iff_of_true hs.1 fun hend => hvisitor hend.1
  · exact iff_of_true (hrecord.mpr houts) fun hend => Nat.not_le_of_lt hlt hend.2.1
  · exact iff_of_true (hrecord.mpr houts) fun hend => Nat.not_le_of_lt hlt hend.2.1

/-- **When a count overflows**: the men are found, and the outs of the half cannot be counted, or
the play ends the last inning that has a number. -/
theorem error?_applyPlay_eq_overflow_iff (hs : s.Fits) :
    (s.applyPlay gameId p).error? = some (.overflow gameId) ↔
      s.pitcher?.isSome ∧ (s.newRunner? p).isSome = p.batterEvent ∧
        (countMax < s.outs + p.outs ∨
          s.half = .home ∧ 3 ≤ s.outs + p.outs ∧ s.inning = countMax) := by
  have hfull : ¬ s.HasRoom p (s.newRunner? p) ↔
      countMax < s.outs + p.outs ∨ s.half = .home ∧ 3 ≤ s.outs + p.outs ∧ s.inning = countMax := by
    rw [hasRoom_iff hs, Decidable.not_and_iff_not_or_not, Nat.not_le, Decidable.not_not]
  rw [← hfull]
  rcases applyPlay_cases gameId s p with ⟨hpitcher, h⟩ | ⟨hpitcher, hp, hbatter, h⟩ |
    ⟨hpitcher, hbatter, ⟨hroom, h⟩ | ⟨hroom, h⟩⟩ <;> rw [h]
  · simp [hpitcher]
  · simp [newRunner?, hp, hbatter]
  · exact iff_of_false nofun fun hover => hover.2.2 hroom
  · exact iff_of_true rfl ⟨hpitcher, hbatter, hroom⟩

/-- There is no inning after the 255th. -/
example :
    (({ inning := 255, half := .home, outs := 2
        sides := ⟨{ squad := .ofStarters [⟨"v1", 1, .pitcher⟩] },
          { squad := .ofStarters [⟨"h1", 1, .pitcher⟩] }⟩ } : State).applyPlay "G1"
      (.ofKind .strikeout)).error? = some (.overflow "G1") := by
  decide +kernel

end State

end Baseball
