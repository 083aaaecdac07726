import Baseball.BoxScore.Posting
import Baseball.Proofs.BoxScore

/-!
# Accounts

A box score keeps the same play in many places: in the batting lines, the pitching lines, the
linescore, the counts of the team. Each of these is an account. It has a balance in every team box,
and every credit is worth something to it; the laws say that the balance is what the credits were
worth, whoever came in between, and that opening and closing the game leave it alone.

## The worth of a play

The postings of a play fall to the side at bat and to the side in the field. `Account.offense` and
`Account.defense` list what they are worth, in the order in which they are made. A gap among the
postings is worth nothing, so both hold for plays that cannot be posted as well.

## Main definitions

* `Account` — a balance, the worth of a credit, and the laws between them
* `Account.batting`, `pitching`, `team` — the batting lines, the pitching lines, and the rest
* `Account.offense`, `Account.defense` — what a play is worth to the two sides

## Main results

* `Account.balance_postPlay` — a play changes a balance by what it is worth
* `Account.balance_ofStarters`, `balance_forEach_enter`, `balance_close` — nothing else does
* `Account.offense_eq_zero`, `Account.defense_eq_zero`, `Account.defense_eq_fielding` — accounts
  that know one side only
-/

namespace Baseball

/-- **A quantity kept in a team box.** -/
structure Account (M : Type) [AddCommMonoid M] where
  /-- What a box shows of it. -/
  balance : TeamBox → M
  /-- What a credit is worth to it. -/
  worth : TeamBox.Entry → M
  balance_opened : ∀ team gameId, balance (.opened team gameId) = 0
  balance_enter : ∀ {gameId player slot p t t'},
    TeamBox.enter t gameId player slot p = .ok t' → balance t' = balance t
  balance_post : ∀ {gameId e t t'},
    TeamBox.post gameId t e = .ok t' → balance t' = balance t + worth e
  balance_samePlay : ∀ {t u}, TeamBox.SamePlay t u → balance u = balance t

namespace TeamBox

variable {gameId player : String} {slot : Nat} {p : Position} {t t' : TeamBox}

/-! ### Sums over lines -/

theorem sum_stints_enterStint {M : Type} [AddCommMonoid M] {w : String → BattingCounts → M}
    (hw : ∀ x, w x {} = 0) (t : TeamBox) (gameId player : String) (slot : Fin slotCount)
    (p : Position) :
    ((t.enterStint gameId player slot p).stints.map fun s => w s.line.player s.line.counts).sum
      = (t.stints.map fun s => w s.line.player s.line.counts).sum := by
  rcases stints_enterStint_cases t gameId player slot p with h | ⟨-, h⟩
  · rw [map_modifyFirst? h (k := fun s => w s.line.player s.line.counts)
      fun s => by rw [addPosition_line]]
  · rw [h, List.map_append, List.sum_append]
    simp [hw]

theorem sum_pitchers_enterPitcher {M : Type} [AddCommMonoid M] {w : String → PitchingCounts → M}
    (hw : ∀ x, w x {} = 0) (t : TeamBox) (gameId player : String) :
    ((t.enterPitcher gameId player).pitchers.map fun l => w l.player l.counts).sum
      = (t.pitchers.map fun l => w l.player l.counts).sum := by
  rw [enterPitcher]
  split
  · rfl
  · rw [List.map_append, List.sum_append]
    simp [hw]

end TeamBox

/-! ### The team beside its lines -/

/-- The runs of a linescore, and the counts that a team has of its own. -/
@[ext]
structure TeamCounts where
  runs : Nat := 0
  atBats : Nat := 0
  earnedRuns : Nat := 0
  fielding : TeamFieldingCounts := {}

namespace TeamCounts

instance : Zero TeamCounts := ⟨{}⟩

instance : Add TeamCounts where
  add c d := {
    runs := c.runs + d.runs
    atBats := c.atBats + d.atBats
    earnedRuns := c.earnedRuns + d.earnedRuns
    fielding := c.fielding + d.fielding }

instance : AddCommMonoid TeamCounts where
  add_assoc _ _ _ := TeamCounts.ext (add_assoc ..) (add_assoc ..) (add_assoc ..) (add_assoc ..)
  add_comm _ _ := TeamCounts.ext (add_comm ..) (add_comm ..) (add_comm ..) (add_comm ..)
  zero_add _ := TeamCounts.ext (zero_add _) (zero_add _) (zero_add _) (zero_add _)
  add_zero _ := rfl
  nsmul := nsmulRec

end TeamCounts

namespace TeamBox

theorem sum_extendTo (inning : Nat) (runs : List Nat) : (extendTo inning runs).sum = runs.sum := by
  simp [extendTo]

theorem sum_modify_extendTo (inning : Nat) (runs : List Nat) :
    ((extendTo inning runs).modify (max inning 1 - 1) (· + 1)).sum = runs.sum + 1 := by
  have hlt : max inning 1 - 1 < (extendTo inning runs).length := by
    rw [extendTo, List.length_append, List.length_replicate]
    omega
  rw [← sum_extendTo inning runs]
  generalize extendTo inning runs = l at hlt
  generalize max inning 1 - 1 = i at hlt
  induction l generalizing i with
  | nil => cases hlt
  | cons x l ih =>
    cases i with
    | zero => simp [Nat.add_right_comm]
    | succ i =>
      rw [List.modify_succ_cons, List.sum_cons, List.sum_cons, ih i (by simpa using hlt),
        Nat.add_assoc]

end TeamBox

namespace Account

open TeamBox

/-! ### The accounts -/

/-- The batting lines. -/
def batting : Account BattingCounts where
  balance t := (t.stints.map fun s => s.line.counts).sum
  worth
    | .batting _ c => c
    | _ => 0
  balance_opened _ _ := rfl
  balance_enter h := by
    obtain ⟨hs, rfl⟩ := enter_eq_ok_iff.mp h
    exact sum_stints_enterStint (w := fun _ c => c) (fun _ => rfl) ..
  balance_post {_ e _ _} h := by
    cases e with
    | batting player c =>
      obtain ⟨stints, hm, rfl⟩ := post_batting_eq_ok_iff.mp h
      exact sum_modifyFirst? hm fun _ _ => rfl
    | pitching player c =>
      obtain ⟨pitchers, -, rfl⟩ := post_pitching_eq_ok_iff.mp h
      exact (add_zero _).symm
    | fielding player p c =>
      obtain ⟨fielders, -, rfl⟩ := post_fielding_eq_ok_iff.mp h
      exact (add_zero _).symm
    | _ =>
      cases (Attempt.eq_ok_iff.mp h).2
      exact (add_zero _).symm
  balance_samePlay h := by rw [h.stints]

/-- The pitching lines, without what is entered when the game is opened and closed. -/
def pitching : Account PitchingCounts where
  balance t := (t.pitchers.map fun l => l.counts.inPlay).sum
  worth
    | .pitching _ c => c.inPlay
    | _ => 0
  balance_opened _ _ := rfl
  balance_enter h := by
    obtain ⟨hs, rfl⟩ := enter_eq_ok_iff.mp h
    split
    · exact sum_pitchers_enterPitcher (w := fun _ c => c.inPlay) (fun _ => rfl) ..
    · rfl
  balance_post {_ e _ _} h := by
    cases e with
    | batting player c =>
      obtain ⟨stints, -, rfl⟩ := post_batting_eq_ok_iff.mp h
      exact (add_zero _).symm
    | pitching player c =>
      obtain ⟨pitchers, hm, rfl⟩ := post_pitching_eq_ok_iff.mp h
      exact sum_modifyFirst? hm fun _ _ => PitchingCounts.inPlay_add ..
    | fielding player p c =>
      obtain ⟨fielders, -, rfl⟩ := post_fielding_eq_ok_iff.mp h
      exact (add_zero _).symm
    | _ =>
      cases (Attempt.eq_ok_iff.mp h).2
      exact (add_zero _).symm
  balance_samePlay {t u} h := by
    have hmap := congrArg (List.map PitchingLine.counts) h.pitchers
    simp only [List.map_map] at hmap
    exact congrArg List.sum hmap

/-- What the team has beside its lines. -/
def team : Account TeamCounts where
  balance t := {
    runs := t.linescore.sum
    atBats := t.atBats
    earnedRuns := t.earnedRuns
    fielding := t.fielding.counts }
  worth
    | .run _ => { runs := 1 }
    | .atBat => { atBats := 1 }
    | .earnedRun => { earnedRuns := 1 }
    | .teamFielding c => { fielding := c }
    | _ => 0
  balance_opened _ _ := rfl
  balance_enter h := by
    obtain ⟨hs, rfl⟩ := enter_eq_ok_iff.mp h
    rfl
  balance_post {_ e _ _} h := by
    cases e with
    | batting player c =>
      obtain ⟨stints, -, rfl⟩ := post_batting_eq_ok_iff.mp h
      exact (add_zero _).symm
    | pitching player c =>
      obtain ⟨pitchers, -, rfl⟩ := post_pitching_eq_ok_iff.mp h
      exact (add_zero _).symm
    | fielding player p c =>
      obtain ⟨fielders, -, rfl⟩ := post_fielding_eq_ok_iff.mp h
      exact (add_zero _).symm
    | bats inning =>
      cases (Attempt.eq_ok_iff.mp h).2
      exact TeamCounts.ext (sum_extendTo ..) rfl rfl rfl
    | run inning =>
      cases (Attempt.eq_ok_iff.mp h).2
      exact TeamCounts.ext (sum_modify_extendTo ..) rfl rfl rfl
    | _ =>
      cases (Attempt.eq_ok_iff.mp h).2
      rfl
  balance_samePlay h := by rw [h.linescore, h.atBats, h.earnedRuns, h.fielding]

/-! ### Box scores -/

variable {M : Type} [AddCommMonoid M] {A : Account M} {g : Game} {gameId : String} {b b' : BoxScore}
  {side : Side} {s : Situation} {p : Play}

/-- What a posting is worth to the account of one side. -/
def on (A : Account M) (side : Side) : Posting → M
  | .credit r e => if side = r then A.worth e else 0
  | .gap _ => 0

/-- What some postings are worth to the account of one side. -/
def total (A : Account M) (side : Side) (ps : List Posting) : M := (ps.map (A.on side)).sum

@[simp] theorem total_nil : A.total side [] = 0 := rfl

@[simp] theorem total_cons (x : Posting) (ps : List Posting) :
    A.total side (x :: ps) = A.on side x + A.total side ps := by
  rw [total, total, List.map_cons, List.sum_cons]

@[simp] theorem total_append (ps qs : List Posting) :
    A.total side (ps ++ qs) = A.total side ps + A.total side qs := by
  rw [total, total, total, List.map_append, List.sum_append]

theorem balance_postOne {x : Posting} (h : b.post gameId x = .ok b') :
    A.balance (b'.team side) = A.balance (b.team side) + A.on side x := by
  cases x with
  | credit r e =>
    have hside : b.onSide r (·.post gameId e) = .ok b' := h
    obtain ⟨hpost, hother⟩ := BoxScore.onSide_eq_ok hside
    by_cases hr : side = r
    · subst hr
      rw [A.balance_post hpost, on, if_pos rfl]
    · rw [hother side hr, on, if_neg hr, add_zero]
  | gap role => cases (Attempt.eq_ok_iff.mp h).1

theorem balance_postAll {ps : List Posting} (h : b.postAll gameId ps = .ok b') :
    A.balance (b'.team side) = A.balance (b.team side) + A.total side ps := by
  induction ps generalizing b with
  | nil =>
    obtain rfl : b = b' := (Attempt.eq_ok_iff.mp h).2
    rw [total_nil, add_zero]
  | cons x ps ih =>
    rw [BoxScore.postAll, Attempt.forEach_cons] at h
    obtain ⟨m, hm, hrest⟩ := Attempt.andThen_eq_ok.mp h
    rw [ih hrest, balance_postOne hm, total_cons, add_assoc]

/-- **A play changes a balance by what it is worth.** -/
theorem balance_postPlay (h : b.postPlay gameId s p = .ok b') :
    A.balance (b'.team side) = A.balance (b.team side) + A.total side (b.postings s p) :=
  balance_postAll h

/-- **Substitutions** change no balance. -/
theorem balance_forEach_enter {subs : List Substitution}
    (h : Attempt.forEach (BoxScore.enter gameId) b subs = .ok b') :
    A.balance (b'.team side) = A.balance (b.team side) :=
  BoxScore.forEach_enter_induction (P := fun _ t => A.balance t = A.balance (b.team side))
    (fun ht _ hin => (A.balance_enter hin).trans ht) (fun ht _ => ht) [] rfl h

/-- **Opening**: nothing has been played. -/
theorem balance_ofStarters (h : BoxScore.ofStarters g = .ok b) (side : Side) :
    A.balance (b.team side) = 0 := by
  refine BoxScore.openSide_induction (P := fun _ t => A.balance t = 0)
    (BoxScore.ofStarters_eq_ok h side) (A.balance_opened _ _) ?_ ?_
  · intro _ _ _ _ ht henter
    rw [A.balance_enter henter, ht]
  · intro _ _ _ ht hsame
    rw [A.balance_samePlay hsame, ht]

/-- **Closing** changes no balance. -/
theorem balance_close {final : Situation} (h : b.close g final = .ok b') (side : Side) :
    A.balance (b'.team side) = A.balance (b.team side) :=
  A.balance_samePlay (BoxScore.closed_close h side).samePlay

/-! ### The worth of a play -/

/-- What a play is worth to the side at bat. -/
def offense (A : Account M) (s : Situation) (p : Play) : M :=
  A.worth (.bats s.inning)
    + (if p.batterEvent || p.atBat then
        s.batter?.elim 0 fun batter =>
          (if p.atBat then A.worth .atBat else 0) + A.worth (.batting batter p.battingCredit)
      else 0)
    + (Origin.all.map fun o => (BoxScore.man? s p o).elim 0 fun man =>
        (if (p.advance.get o).isRun then
          A.worth (.run s.inning) + A.worth (.batting man { r := 1 }) else 0)
        + A.total s.half (BoxScore.runningPostings s p man o)).sum

/-- What a play is worth to the side in the field. -/
def defense (A : Account M) (s : Situation) (p : Play) (pitcher? : Option String) : M :=
  (pitcher?.elim 0 fun pitcher => A.worth (.pitching pitcher p.pitchingCredit))
    + A.total s.half.opponent (BoxScore.fieldingPostings s p)
    + (Origin.all.map fun o => (BoxScore.man? s p o).elim 0 fun _ =>
        if (p.advance.get o).isRun then
          (BoxScore.charged? s pitcher? o).elim 0 fun pitcher =>
            A.worth (.pitching pitcher (Play.runCharge (p.advance.get o)))
              + if (p.advance.get o).isEarnedToTeam then A.worth .earnedRun else 0
        else 0).sum

theorem on_half (e : Entry) : A.on s.half (.credit s.half e) = A.worth e := if_pos rfl

theorem on_opponent (e : Entry) :
    A.on s.half.opponent (.credit s.half.opponent e) = A.worth e := if_pos rfl

theorem on_half_opponent (e : Entry) : A.on s.half (.credit s.half.opponent e) = 0 :=
  if_neg (Side.opponent_ne s.half).symm

theorem on_opponent_half (e : Entry) : A.on s.half.opponent (.credit s.half e) = 0 :=
  if_neg (Side.opponent_ne s.half)

theorem on_gap (role : Role) : A.on side (.gap role) = 0 := rfl

/-- Postings that are worth nothing one by one are worth nothing. -/
theorem total_eq_zero {ps : List Posting} (h : ∀ x ∈ ps, A.on side x = 0) :
    A.total side ps = 0 := by
  refine List.sum_eq_zero fun w hw => ?_
  obtain ⟨x, hx, rfl⟩ := List.mem_map.mp hw
  exact h x hx

theorem total_flatMap {α : Type} (l : List α) (f : α → List Posting) :
    A.total side (l.flatMap f) = (l.map fun a => A.total side (f a)).sum := by
  induction l with
  | nil => rfl
  | cons a l ih => rw [List.flatMap_cons, total_append, ih, List.map_cons, List.sum_cons]

/-- The side at bat has no part in the postings for the side in the field. -/
theorem total_half_fieldingPostings : A.total s.half (BoxScore.fieldingPostings s p) = 0 := by
  refine total_eq_zero fun x hx => ?_
  rcases BoxScore.mem_fieldingPostings hx with ⟨c, rfl⟩ | ⟨role, rfl⟩ | ⟨player, q, c, rfl, -, -⟩
  · exact on_half_opponent _
  · exact on_gap role
  · exact on_half_opponent _

section Nameless

variable (hline : ∀ player q c, A.worth (.fielding player q c) = 0)
include hline

theorem total_opponent_outsPostings (outs : Nat) :
    A.total s.half.opponent (BoxScore.outsPostings s outs) = 0 := by
  refine total_eq_zero fun x hx => ?_
  obtain ⟨player, q, -, -, rfl⟩ := BoxScore.mem_outsPostings hx
  rw [on_opponent, hline]

theorem on_opponent_fielderPosting (q : Position) (c : FieldingCounts) :
    A.on s.half.opponent (BoxScore.fielderPosting s q c) = 0 := by
  rcases BoxScore.fielderPosting_cases s q c with h | ⟨player, -, h⟩
  · rw [h, on_gap]
  · rw [h, on_opponent, hline]

/-- Where a fielder's line is worth nothing, what is left is worth to the team in the field. -/
theorem total_opponent_fieldingPostings :
    A.total s.half.opponent (BoxScore.fieldingPostings s p) =
      A.worth (.teamFielding p.teamFieldingCredit)
        + A.worth (.teamFielding p.teamFieldingExtras) := by
  have hcredits : A.total s.half.opponent
      (p.fieldingCredits.map fun credit => BoxScore.fielderPosting s credit.1 credit.2) = 0 := by
    refine total_eq_zero fun x hx => ?_
    obtain ⟨credit, -, rfl⟩ := List.mem_map.mp hx
    exact on_opponent_fielderPosting hline credit.1 credit.2
  have hpostings : BoxScore.fieldingPostings s p =
      .credit s.half.opponent (.teamFielding p.teamFieldingCredit)
        :: (BoxScore.outsPostings s p.outs
          ++ p.fieldingCredits.map (fun credit => BoxScore.fielderPosting s credit.1 credit.2)
          ++ [.credit s.half.opponent (.teamFielding p.teamFieldingExtras)]) := rfl
  rw [hpostings, total_cons, total_append, total_append, total_opponent_outsPostings hline,
    hcredits, zero_add, zero_add, total_cons, total_nil, add_zero, on_opponent, on_opponent]

end Nameless

theorem runningPostings_on (man : String) (base : Base) :
    BoxScore.runningPostings s p man (.on base) =
      (if p.stolenBase.get (.on base) then [.credit s.half (.batting man { sb := 1 })] else [])
        ++ if p.caughtStealing.get (.on base) then
          [.credit s.half (.batting man { cs := 1 })] else [] := rfl

/-- What a runner did on the bases is worth the same whoever he is, in an account that does not ask
who bats. -/
theorem total_half_runningPostings {w : BattingCounts → M}
    (hw : ∀ player c, A.worth (.batting player c) = w c) (man : String) (o : Origin) :
    A.total s.half (BoxScore.runningPostings s p man o) =
      (if o != .plate && p.stolenBase.get o then w { sb := 1 } else 0)
        + if o != .plate && p.caughtStealing.get o then w { cs := 1 } else 0 := by
  cases o with
  | plate => exact (add_zero 0).symm
  | on base =>
    have hne : (Origin.on base != .plate) = true := rfl
    rw [runningPostings_on, hne, Bool.true_and, Bool.true_and, total_append]
    cases p.stolenBase.get (.on base) <;> cases p.caughtStealing.get (.on base) <;>
      simp [on_half, hw]

/-- The side in the field has no part in what a runner did on the bases. -/
theorem total_opponent_runningPostings (man : String) (o : Origin) :
    A.total s.half.opponent (BoxScore.runningPostings s p man o) = 0 := by
  cases o with
  | plate => rfl
  | on base =>
    rw [runningPostings_on]
    split <;> split <;> simp [on_opponent_half]

theorem total_half_originPostings (pitcher? : Option String) (o : Origin) :
    A.total s.half (BoxScore.originPostings s p pitcher? o) =
      (BoxScore.man? s p o).elim 0 fun man =>
        (if (p.advance.get o).isRun then
          A.worth (.run s.inning) + A.worth (.batting man { r := 1 }) else 0)
        + A.total s.half (BoxScore.runningPostings s p man o) := by
  rw [BoxScore.originPostings]
  rcases BoxScore.man? s p o with _ | man
  · rfl
  · rw [total_append, Option.elim_some]
    refine congrArg (· + _) ?_
    split
    · rw [BoxScore.runPostings]
      rcases BoxScore.charged? s pitcher? o with _ | pitcher
      · simp [on_half, on_gap]
      · cases (p.advance.get o).isEarnedToTeam <;> simp [on_half, on_half_opponent]
    · rfl

theorem total_opponent_originPostings (pitcher? : Option String) (o : Origin) :
    A.total s.half.opponent (BoxScore.originPostings s p pitcher? o) =
      (BoxScore.man? s p o).elim 0 fun _ =>
        if (p.advance.get o).isRun then
          (BoxScore.charged? s pitcher? o).elim 0 fun pitcher =>
            A.worth (.pitching pitcher (Play.runCharge (p.advance.get o)))
              + if (p.advance.get o).isEarnedToTeam then A.worth .earnedRun else 0
        else 0 := by
  rw [BoxScore.originPostings]
  rcases BoxScore.man? s p o with _ | man
  · rfl
  · rw [total_append, Option.elim_some, total_opponent_runningPostings, add_zero]
    split
    · rw [BoxScore.runPostings]
      rcases BoxScore.charged? s pitcher? o with _ | pitcher
      · simp [on_opponent_half, on_gap]
      · cases (p.advance.get o).isEarnedToTeam <;> simp [on_opponent, on_opponent_half]
    · rfl

/-- **The worth of a play** to the side at bat. -/
theorem total_postings_half (b : BoxScore) :
    A.total s.half (b.postings s p) = A.offense s p := by
  have hpitcher (pitcher? : Option String) :
      A.total s.half (BoxScore.pitcherPostings s p pitcher?) = 0 := by
    rcases pitcher? with _ | pitcher
    · simp [BoxScore.pitcherPostings, on_gap]
    · simp [BoxScore.pitcherPostings, on_half_opponent]
  rw [BoxScore.postings, List.cons_append, List.cons_append, List.cons_append, total_cons,
    total_append, total_append, total_append, total_flatMap, hpitcher, total_half_fieldingPostings,
    add_zero, add_zero, offense, on_half, add_assoc]
  simp only [total_half_originPostings]
  refine congrArg (_ + ·) (congrArg (· + _) ?_)
  rw [BoxScore.batterPostings]
  split
  · rcases s.batter? with _ | batter
    · simp [on_gap]
    · cases p.atBat <;> simp [on_half]
  · rfl

/-- **The worth of a play** to the side in the field. -/
theorem total_postings_opponent (b : BoxScore) :
    A.total s.half.opponent (b.postings s p) =
      A.defense s p ((b.team s.half.opponent).currentPitcher?.map PitchingLine.player) := by
  have hbatter : A.total s.half.opponent (BoxScore.batterPostings s p) = 0 := by
    rw [BoxScore.batterPostings]
    split
    · rcases s.batter? with _ | batter
      · simp [on_gap]
      · cases p.atBat <;> simp [on_opponent_half]
    · rfl
  rw [BoxScore.postings, List.cons_append, List.cons_append, List.cons_append, total_cons,
    total_append, total_append, total_append, total_flatMap, hbatter, on_opponent_half,
    zero_add, zero_add, defense]
  simp only [total_opponent_originPostings]
  refine congrArg (· + _) (congrArg (· + _) ?_)
  rcases (b.team s.half.opponent).currentPitcher?.map PitchingLine.player with _ | pitcher
  · simp [BoxScore.pitcherPostings, on_gap]
  · simp [BoxScore.pitcherPostings, on_opponent]

/-! ### Accounts that know one side only -/

/-- Where nothing that the side at bat is credited with is worth anything, no play is worth anything
to it. -/
theorem offense_eq_zero (hbats : ∀ inning, A.worth (.bats inning) = 0)
    (hrun : ∀ inning, A.worth (.run inning) = 0) (hatBat : A.worth .atBat = 0)
    (hbatting : ∀ player c, A.worth (.batting player c) = 0) : A.offense s p = 0 := by
  have hmen : (Origin.all.map fun o => (BoxScore.man? s p o).elim 0 fun man =>
      (if (p.advance.get o).isRun then
        A.worth (.run s.inning) + A.worth (.batting man { r := 1 }) else 0)
      + A.total s.half (BoxScore.runningPostings s p man o)).sum = 0 := by
    refine List.sum_eq_zero fun n hn => ?_
    obtain ⟨o, -, rfl⟩ := List.mem_map.mp hn
    rcases BoxScore.man? s p o with _ | man
    · rfl
    · rw [Option.elim_some, total_half_runningPostings (w := fun _ => 0) hbatting]
      simp [hrun, hbatting]
  rw [offense, hmen, hbats]
  cases p.atBat <;> cases p.batterEvent <;> cases s.batter? <;> simp [hatBat, hbatting]

/-- Where nothing that pitchers are credited with is worth anything, nor an earned run, what a play
is worth to the side in the field is what its fielding is worth. -/
theorem defense_eq_fielding {pitcher? : Option String}
    (hpitching : ∀ player c, A.worth (.pitching player c) = 0) (hearned : A.worth .earnedRun = 0) :
    A.defense s p pitcher? = A.total s.half.opponent (BoxScore.fieldingPostings s p) := by
  have hruns : (Origin.all.map fun o => (BoxScore.man? s p o).elim 0 fun _ =>
      if (p.advance.get o).isRun then
        (BoxScore.charged? s pitcher? o).elim 0 fun pitcher =>
          A.worth (.pitching pitcher (Play.runCharge (p.advance.get o)))
            + if (p.advance.get o).isEarnedToTeam then A.worth .earnedRun else 0
      else 0).sum = 0 := by
    refine List.sum_eq_zero fun n hn => ?_
    obtain ⟨o, -, rfl⟩ := List.mem_map.mp hn
    rcases BoxScore.man? s p o with _ | man
    · rfl
    · rcases BoxScore.charged? s pitcher? o with _ | pitcher <;> simp [hpitching, hearned]
  have hpitcher :
      (pitcher?.elim 0 fun pitcher => A.worth (.pitching pitcher p.pitchingCredit)) = 0 := by
    cases pitcher? with
    | none => rfl
    | some pitcher => exact hpitching pitcher _
  rw [defense, hruns, hpitcher, zero_add, add_zero]

/-- Where nothing that the side in the field is credited with is worth anything, no play is worth
anything to it. -/
theorem defense_eq_zero {pitcher? : Option String}
    (hpitching : ∀ player c, A.worth (.pitching player c) = 0) (hearned : A.worth .earnedRun = 0)
    (hline : ∀ player q c, A.worth (.fielding player q c) = 0)
    (hteam : ∀ c, A.worth (.teamFielding c) = 0) : A.defense s p pitcher? = 0 := by
  rw [defense_eq_fielding hpitching hearned, total_opponent_fieldingPostings hline, hteam, hteam,
    add_zero]

end Account

end Baseball
