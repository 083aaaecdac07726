import Baseball.Proofs.Coherence
import Baseball.Proofs.Fielding
import Baseball.Proofs.Gathering
import Baseball.Proofs.Personal

/-!
# The fielding ledger

A team has counts of its own beside the lines of its fielders. Chances are credited to one man each,
so that the lines come to the count of the team. Outs are credited to everybody who stands in the
field, and a double or triple play to everybody who had a part in it. These are not added up over
the team; they are read off by position, or by player.

At one position there is at most one man, who is missing from the lines for the outs made while
nobody stood there. A player who changed places has several lines, but no play finds him at two
positions, since whoever fields a position holds it. So no player comes to more outs, double plays
or triple plays than his team.

## Main definitions

* `TeamBox.fieldingTotals`, `fieldingAt`, `fieldingOf` — the counts of all lines, of those at a
  position, and of those of a player
* `FieldingCounts.shared` — the counts that several fielders have of one play
* `State.sharedWorth` — what a play is worth to such a count of some of them
* `BoxScore.FieldingLedger` — the lines of the fielders against the counts of their team

## Main results

* `Account.fieldingBy_defense_of_shared` — what a play is worth to the shared counts
* `BoxScore.fieldingOf_le` — no player has more of a shared count than his team
* `BoxScore.fieldingLedger_ofGame` — the ledger of a box score that was made
-/

namespace Baseball

/-! ### Shared counts -/

namespace FieldingCounts

/-- The counts that several fielders have of one play. -/
def shared (c : FieldingCounts) : FieldingCounts where
  outs := c.outs
  dp := c.dp
  tp := c.tp

end FieldingCounts

namespace Play

theorem outs_part (p : Play) : p.part.outs = 0 := by
  rw [part]
  cases p.triplePlay <;> cases p.doublePlay <;> rfl

/-- A triple play is not a double play as well, for its fielders nor for their team. -/
theorem dp_part (p : Play) : p.part.dp = p.teamFieldingExtras.dp := by
  rw [part, teamFieldingExtras]
  cases p.triplePlay <;> cases p.doublePlay <;> rfl

theorem tp_part (p : Play) : p.part.tp = p.teamFieldingExtras.tp := by
  rw [part, teamFieldingExtras]
  cases p.triplePlay <;> cases p.doublePlay <;> rfl

/-- Of the credits of a play only the part in a double or triple play is shared. -/
theorem sum_fieldingCredits_of_shared {M : Type} [AddCommMonoid M]
    {w : Position → FieldingCounts → M} (hzero : ∀ q, w q {} = 0)
    (hw : ∀ q c, w q c.shared = w q c) (p : Play) :
    (p.fieldingCredits.map fun credit => w credit.1 credit.2).sum =
      (p.involved.map (w · p.part)).sum := by
  have hcredit {c : FieldingCounts} (hc : c.shared = {}) (q : Position) : w q c = 0 := by
    rw [← hw, hc, hzero]
  have hnone {c : FieldingCounts} (hc : c.shared = {}) (qs : List Position) :
      (qs.map (w · c)).sum = 0 := by
    refine List.sum_eq_zero fun m hm => ?_
    obtain ⟨q, -, rfl⟩ := List.mem_map.mp hm
    exact hcredit hc q
  rw [sum_fieldingCredits hzero, hnone rfl, hnone rfl, hnone rfl, hnone rfl, hcredit rfl, ite_self,
    ite_self]
  simp only [zero_add]

end Play

namespace Account

variable {M : Type} [AddCommMonoid M] {s : Situation} {p : Play} {pitcher? : Option String}
  {w : String → Position → FieldingCounts →+ M} {hw : ∀ x q c, w x q c.inPlay = w x q c}

/-- **What a play is worth to the shared counts**: its outs to everybody who stands in the field,
and a double or triple play to those who had a part in it. -/
theorem fieldingBy_defense_of_shared (hshared : ∀ x q c, w x q c.shared = w x q c) :
    (fieldingBy w hw).defense s p pitcher? =
      (Position.field.map fun q =>
          (s.fielder? s.half.opponent q).elim 0 fun x => w x q { outs := p.outs }).sum
        + (p.involved.map fun q =>
            (s.fielder? s.half.opponent q).elim 0 fun x => w x q p.part).sum := by
  have hempty (q : Position) : ((s.fielder? s.half.opponent q).elim 0 fun x => w x q {}) = 0 := by
    cases s.fielder? s.half.opponent q
    · rfl
    · exact map_zero (w _ q)
  have hcredits := Play.sum_fieldingCredits_of_shared
    (w := fun q c => (s.fielder? s.half.opponent q).elim 0 fun x => w x q c) hempty
    (fun q c => by cases s.fielder? s.half.opponent q <;> simp [hshared]) p
  rw [fieldingBy_defense, hcredits]
  refine congrArg (· + _) ?_
  split
  · rfl
  · next hnone =>
    -- A play without outs gives nobody any, so that it need not be told apart.
    rw [Nat.eq_zero_of_not_pos hnone]
    refine (List.sum_eq_zero fun m hm => ?_).symm
    obtain ⟨q, -, rfl⟩ := List.mem_map.mp hm
    cases s.fielder? s.half.opponent q
    · rfl
    · exact map_zero (w _ q)

/-! ### Weighing some of the lines -/

variable {keep : String → Position → Bool} {f : FieldingCounts →+ ℕ}

/-- Weighs the lines that `keep` selects by their player and position, and no others. -/
def selected (keep : String → Position → Bool) (f : FieldingCounts →+ ℕ) (x : String)
    (q : Position) : FieldingCounts →+ ℕ :=
  if keep x q then f else 0

theorem selected_apply (x : String) (q : Position) (c : FieldingCounts) :
    selected keep f x q c = if keep x q then f c else 0 := by
  rw [selected]
  split <;> rfl

theorem selected_shared (hf : ∀ c, f c.shared = f c) (x : String) (q : Position)
    (c : FieldingCounts) : selected keep f x q c.shared = selected keep f x q c := by
  rw [selected_apply, selected_apply, hf]

/-- A start is not a shared count. -/
theorem selected_inPlay (hf : ∀ c, f c.shared = f c) (x : String) (q : Position)
    (c : FieldingCounts) : selected keep f x q c.inPlay = selected keep f x q c := by
  rw [← selected_shared hf, ← selected_shared hf x q c]
  rfl

theorem balance_selected (hf : ∀ c, f c.shared = f c) (t : TeamBox) :
    (fieldingBy (selected keep f) (selected_inPlay hf)).balance t =
      f ((t.fielders.filter fun l => keep l.player l.position).map FieldingLine.counts).sum := by
  have hsum := sum_map_filter (fun l : FieldingLine => keep l.player l.position)
    (fun l => f l.counts) t.fielders
  rw [map_list_sum, List.map_map]
  refine Eq.trans ?_ hsum.symm
  exact congrArg List.sum (List.map_congr_left fun l _ => selected_apply ..)

theorem elim_selected (player? : Option String) (q : Position) (c : FieldingCounts) :
    (player?.elim 0 fun x => selected keep f x q c) =
      if player?.any (keep · q) then f c else 0 := by
  rcases player? with _ | x
  · rfl
  · exact selected_apply ..

end Account

/-! ### Whoever is in the field -/

namespace Squad

/-- Of several positions a player fields at most one. -/
theorem Posted.sum_le {q : Squad} (hq : q.Posted) (x : String) (n : ℕ) {ps : List Position}
    (hps : ps.Nodup) : (ps.map fun p => if (q.fielder? p).any (· == x) then n else 0).sum ≤ n := by
  have hany (p : Position) : (q.fielder? p).any (· == x) ↔ q.fielder? p = some x := by
    cases q.fielder? p <;> simp
  simp only [hany]
  induction ps with
  | nil => exact Nat.zero_le n
  | cons p ps ih =>
    obtain ⟨hp, hrest⟩ := List.nodup_cons.mp hps
    rw [List.map_cons, List.sum_cons]
    split
    · next hheld =>
      have helsewhere : (ps.map fun r => if q.fielder? r = some x then n else 0).sum = 0 := by
        refine List.sum_eq_zero fun m hm => ?_
        obtain ⟨r, hr, rfl⟩ := List.mem_map.mp hm
        exact if_neg fun hheld' => hp (hq.inj hheld hheld' ▸ hr)
      rw [helsewhere, Nat.add_zero]
    · rw [Nat.zero_add]
      exact ih hrest

end Squad

namespace State

open Account

variable {s : State} {p : Play} {keep : String → Position → Bool} {f : FieldingCounts →+ ℕ}

/-- What a play is worth to a shared count of those in the field whom `keep` selects. -/
def sharedWorth (keep : String → Position → Bool) (f : FieldingCounts →+ ℕ) (s : State)
    (p : Play) : ℕ :=
  (Position.field.map fun q =>
      if ((s.side s.fielding).squad.fielder? q).any (keep · q) then f { outs := p.outs } else 0).sum
    + (p.involved.map fun q =>
        if ((s.side s.fielding).squad.fielder? q).any (keep · q) then f p.part else 0).sum

theorem selected_defense (hf : ∀ c, f c.shared = f c) (pitcher? : Option String) :
    (fieldingBy (selected keep f) (selected_inPlay hf)).defense s.situation p pitcher? =
      s.sharedWorth keep f p := by
  rw [fieldingBy_defense_of_shared (selected_shared hf)]
  simp only [elim_selected]
  rfl

/-- The outs of a fielder, as a count that adds up. -/
def outsCount : FieldingCounts →+ ℕ := ⟨⟨FieldingCounts.outs, rfl⟩, fun _ _ => rfl⟩

/-- At a position a play is worth its outs, if somebody stands there. -/
theorem sharedWorth_atPosition {q : Position} (hq : q ∈ Position.field) (s : State) (p : Play) :
    s.sharedWorth (fun _ r => r == q) outsCount p =
      if ((s.side s.fielding).squad.fielder? q).isSome then p.outs else 0 := by
  have helsewhere (r : Position) (hr : r ≠ q) (_ : r ∈ Position.field) :
      (if ((s.side s.fielding).squad.fielder? r).any fun _ => r == q then
        outsCount { outs := p.outs } else 0) = 0 := by
    rw [if_neg]
    cases (s.side s.fielding).squad.fielder? r <;> simp [hr]
  have hhere : (((s.side s.fielding).squad.fielder? q).any fun _ => q == q) =
      ((s.side s.fielding).squad.fielder? q).isSome := by
    cases (s.side s.fielding).squad.fielder? q <;> simp
  have hpart : outsCount p.part = 0 := p.outs_part
  rw [sharedWorth, List.sum_map_eq_nsmul_single q _ helsewhere,
    List.count_eq_one_of_mem (by decide) hq, one_nsmul, hhere, hpart]
  simp only [ite_self]
  rw [List.map_const', List.sum_replicate, nsmul_zero, add_zero]
  rfl

/-- The outs that a play gives a position are none, or its own. -/
theorem fielderOuts_le (s : State) (q : Position) (p : Play) :
    (if ((s.side s.fielding).squad.fielder? q).isSome then p.outs else 0) ≤ p.outs := by
  split
  · exact Nat.le_refl _
  · exact Nat.zero_le _

/-- To one player a play is worth no more than it gives each of those who have a part in it: he has
one post at most. -/
theorem sharedWorth_ofPlayer_le (hposted : (s.side s.fielding).squad.Posted) (x : String)
    (f : FieldingCounts →+ ℕ) (p : Play) :
    s.sharedWorth (fun y _ => y == x) f p ≤ f { outs := p.outs } + f p.part := by
  have hinvolved : p.involved.Nodup := List.Nodup.filter _ (by decide)
  exact Nat.add_le_add (hposted.sum_le x _ (by decide)) (hposted.sum_le x _ hinvolved)

end State

/-! ### Lines by position and by player -/

namespace TeamBox

/-- The counts of all fielding lines together. -/
def fieldingTotals (t : TeamBox) : FieldingCounts := (t.fielders.map FieldingLine.counts).sum

/-- The counts of the fielding lines at a position. -/
def fieldingAt (t : TeamBox) (q : Position) : FieldingCounts :=
  ((t.fielders.filter (·.position == q)).map FieldingLine.counts).sum

/-- The counts of the fielding lines of a player, at whatever positions. -/
def fieldingOf (t : TeamBox) (x : String) : FieldingCounts :=
  ((t.fielders.filter (·.player == x)).map FieldingLine.counts).sum

end TeamBox

namespace BoxScore

open Account

variable {g : Game} {es : List Event} {s : State} {b : BoxScore} {side : Side}

/-- Wherever a game was kept, whoever fields a position holds it. -/
theorem Kept.posted (h : Kept g es s b) (side : Side) : (s.side side).squad.Posted := by
  induction h with
  | opened =>
    rw [State.squad_ofGame]
    exact Squad.posted_ofStarters _
  | @event es s s' b b' e _ _ happened ih =>
    obtain rfl : (s.applyEvent g.id e).state = s' := (Attempt.eq_ok_iff.mp happened).2
    exact State.squad_applyEvent ih fun _ sub _ hq => hq.substitute sub

/-- What the fielding lines come to, however they are weighed, is what the plays of the opponent at
bat were worth to them. -/
theorem fieldingBy_ofGame {M : Type} [AddCommMonoid M]
    {w : String → Position → FieldingCounts →+ M} {hw : ∀ x q c, w x q c.inPlay = w x q c}
    (h : ofGame g = .ok b) (side : Side) :
    (fieldingBy w hw).balance (b.team side) =
      atBatSum side.opponent (fun s p => (fieldingBy w hw).defense s.situation p none) g.plays := by
  obtain ⟨b₀, hkept, hclose⟩ := exists_kept_of_ofGame h
  have hbalance : (fieldingBy w hw).balance (b₀.team side) =
      atBatSum side (fun _ _ => 0) g.plays + atBatSum side.opponent
        (fun s p => (fieldingBy w hw).defense s.situation p none) g.plays :=
    hkept.balance_eq_of_plays (fun _ _ _ =>
      ⟨fieldingBy_offense, fieldingBy_defense.trans fieldingBy_defense.symm⟩) side
  rw [balance_close hclose, hbalance, atBatSum_zero, zero_add]

/-- The counts of a team in the field are what the plays of the opponent at bat were worth to it. -/
theorem teamFielding_ofGame (c : TeamFieldingCounts →+ ℕ) (h : ofGame g = .ok b) (side : Side) :
    c (b.team side).fielding.counts =
      atBatSum side.opponent (fun _ p => c (p.teamFieldingCredit + p.teamFieldingExtras))
        g.plays := by
  have hcount := teamCount_ofGame (fun t => c t.fielding) (map_zero c)
    (fun s t => map_add c s.fielding t.fielding) h side
  rw [show (fun s p => c (State.teamAtBat s p).fielding) = fun _ _ => 0 from
    funext fun _ => funext fun _ => map_zero c, atBatSum_zero, zero_add] at hcount
  exact hcount

/-- **A shared count of some of the lines** is what the plays of the opponent at bat were worth to
them. -/
theorem selected_ofGame (keep : String → Position → Bool) {f : FieldingCounts →+ ℕ}
    (hf : ∀ c, f c.shared = f c) (h : ofGame g = .ok b) (side : Side) :
    f (((b.team side).fielders.filter fun l => keep l.player l.position).map
        FieldingLine.counts).sum =
      atBatSum side.opponent (State.sharedWorth keep f) g.plays := by
  rw [← balance_selected hf, fieldingBy_ofGame h]
  exact atBatSum_congr fun _ _ => State.selected_defense hf none

/-- **The outs at a position** are those of the plays at which somebody stood there. -/
theorem outsAt_ofGame {q : Position} (hq : q ∈ Position.field) (h : ofGame g = .ok b)
    (side : Side) :
    ((b.team side).fieldingAt q).outs =
      atBatSum side.opponent (fun s p =>
        if ((s.side s.fielding).squad.fielder? q).isSome then p.outs else 0) g.plays := by
  have houts := selected_ofGame (fun _ r => r == q) (f := State.outsCount) (fun _ => rfl) h side
  exact houts.trans (atBatSum_congr fun z _ => State.sharedWorth_atPosition hq z.1 z.2)

theorem outs_ofGame (h : ofGame g = .ok b) (side : Side) :
    (b.team side).fielding.counts.outs =
      atBatSum side.opponent (fun _ p => p.outs) g.plays :=
  teamFielding_ofGame ⟨⟨TeamFieldingCounts.outs, rfl⟩, fun _ _ => rfl⟩ h side

/-- At a position there are no more outs than the team has. -/
theorem outsAt_le_outs {q : Position} (hq : q ∈ Position.field) (h : ofGame g = .ok b)
    (side : Side) :
    ((b.team side).fieldingAt q).outs ≤ (b.team side).fielding.counts.outs := by
  rw [outsAt_ofGame hq h, outs_ofGame h]
  exact atBatSum_le fun z _ => z.1.fielderOuts_le q z.2

/-- At a position there are as many outs as the team has exactly if somebody stood there at every
play with outs. -/
theorem outsAt_eq_outs_iff {q : Position} (hq : q ∈ Position.field) (h : ofGame g = .ok b)
    (side : Side) :
    ((b.team side).fieldingAt q).outs = (b.team side).fielding.counts.outs ↔
      ∀ z ∈ g.plays, z.1.fielding = side → 0 < z.2.outs →
        (z.1.situation.fielder? side q).isSome := by
  rw [outsAt_ofGame hq h, outs_ofGame h, atBatSum_eq_iff fun z _ => z.1.fielderOuts_le q z.2]
  refine forall₂_congr fun z _ => ?_
  rw [State.opponent_eq_half_iff, eq_comm]
  refine forall_congr' fun hside => ?_
  subst hside
  rw [show z.1.situation.fielder? z.1.fielding q
    = (z.1.side z.1.fielding).squad.fielder? q from rfl]
  cases ((z.1.side z.1.fielding).squad.fielder? q).isSome
  · simp [eq_comm]
  · simp

/-- **No player has more of a shared count than his team**, if the team has of every play what the
play gives each of those who have a part in it. -/
theorem fieldingOf_le {f : FieldingCounts →+ ℕ} (hf : ∀ c, f c.shared = f c)
    {c : TeamFieldingCounts →+ ℕ}
    (hteam : ∀ p : Play,
      f { outs := p.outs } + f p.part ≤ c (p.teamFieldingCredit + p.teamFieldingExtras))
    (h : ofGame g = .ok b) (side : Side) (x : String) :
    f ((b.team side).fieldingOf x) ≤ c (b.team side).fielding.counts := by
  obtain ⟨b₀, hkept, -⟩ := exists_kept_of_ofGame h
  have hposted : ∀ q ∈ g.plays, (q.1.side q.1.fielding).squad.Posted :=
    hkept.forall_mem_plays (P := fun s => (s.side s.fielding).squad.Posted)
      fun hkept => hkept.posted _
  have hlines := selected_ofGame (fun y _ => y == x) hf h side
  rw [teamFielding_ofGame c h]
  refine hlines.trans_le (atBatSum_le fun q hq => ?_)
  exact (State.sharedWorth_ofPlayer_le (hposted q hq) x f q.2).trans (hteam q.2)

/-! ### The ledger -/

/-- The errors that the game counts are those of the plays in the field. -/
theorem errors_ofGame (h : ofGame g = .ok b) (side : Side) :
    (g.finalState.side side).errors = (b.team side).fielding.counts.e := by
  obtain ⟨b₀, hkept, -⟩ := exists_kept_of_ofGame h
  have hreplay : (g.finalState.side side).errors =
      atBatSum side.opponent (fun _ p => p.errors.length) g.plays :=
    hkept.count_eq (c := SideState.errors) rfl (fun _ _ => rfl)
      fun s p _ => State.errors_afterPlay ..
  rw [hreplay]
  exact (teamFielding_ofGame ⟨⟨TeamFieldingCounts.e, rfl⟩, fun _ _ => rfl⟩ h side).symm

/-- **The lines of the fielders against the counts of their team.** -/
structure FieldingLedger (g : Game) (b : BoxScore) (side : Side) : Prop where
  /-- Putouts, assists, errors and passed balls are those of all lines together. -/
  putouts : (b.team side).fielding.counts.po = (b.team side).fieldingTotals.po
  assists : (b.team side).fielding.counts.a = (b.team side).fieldingTotals.a
  errors : (b.team side).fielding.counts.e = (b.team side).fieldingTotals.e
  passedBalls : (b.team side).fielding.counts.pb = (b.team side).fieldingTotals.pb
  /-- The errors of the score are those of the replay, and those in the field. -/
  replayed : (b.team side).errors = (g.finalState.side side).errors
  charged : (b.team side).errors = (b.team side).fielding.counts.e
  /-- At each position there were at most so many outs as the team had, -/
  outsAt_le : ∀ q ∈ Position.field,
    ((b.team side).fieldingAt q).outs ≤ (b.team side).fielding.counts.outs
  /-- and so many only if it was occupied at every play with outs. -/
  outsAt_eq_iff : ∀ q ∈ Position.field,
    ((b.team side).fieldingAt q).outs = (b.team side).fielding.counts.outs ↔
      ∀ z ∈ g.plays, z.1.fielding = side → 0 < z.2.outs →
        (z.1.situation.fielder? side q).isSome
  /-- No player has more outs, double plays or triple plays than the team. -/
  outsOf_le : ∀ x, ((b.team side).fieldingOf x).outs ≤ (b.team side).fielding.counts.outs
  doublePlaysOf_le : ∀ x, ((b.team side).fieldingOf x).dp ≤ (b.team side).fielding.counts.dp
  triplePlaysOf_le : ∀ x, ((b.team side).fieldingOf x).tp ≤ (b.team side).fielding.counts.tp

/-- **The fielding ledger of a box score balances.** -/
theorem fieldingLedger_ofGame (h : ofGame g = .ok b) (side : Side) : FieldingLedger g b side := by
  obtain ⟨b₀, hkept, hclose⟩ := exists_kept_of_ofGame h
  have hchances : (b.team side).fielding.counts.chances = (b.team side).fieldingTotals.chances := by
    rw [← chances_ofGame h, TeamBox.fieldingTotals, map_list_sum, List.map_map]
    rfl
  have hreplayed : (b.team side).errors = (g.finalState.side side).errors :=
    (closed_close hclose side).errors
  constructor
  case putouts => exact congrArg TeamFieldingCounts.po hchances
  case assists => exact congrArg TeamFieldingCounts.a hchances
  case errors => exact congrArg TeamFieldingCounts.e hchances
  case passedBalls => exact congrArg TeamFieldingCounts.pb hchances
  case replayed => exact hreplayed
  case charged => rw [hreplayed, errors_ofGame h]
  case outsAt_le => exact fun q hq => outsAt_le_outs hq h side
  case outsAt_eq_iff => exact fun q hq => outsAt_eq_outs_iff hq h side
  case outsOf_le =>
    exact fieldingOf_le (f := State.outsCount)
      (c := ⟨⟨TeamFieldingCounts.outs, rfl⟩, fun _ _ => rfl⟩)
      (fun _ => rfl) (fun p => Nat.add_le_add_left p.outs_part.le _) h side
  case doublePlaysOf_le =>
    exact fieldingOf_le (f := ⟨⟨FieldingCounts.dp, rfl⟩, fun _ _ => rfl⟩)
      (c := ⟨⟨TeamFieldingCounts.dp, rfl⟩, fun _ _ => rfl⟩)
      (fun _ => rfl) (fun p => Nat.add_le_add_left p.dp_part.le _) h side
  case triplePlaysOf_le =>
    exact fieldingOf_le (f := ⟨⟨FieldingCounts.tp, rfl⟩, fun _ _ => rfl⟩)
      (c := ⟨⟨TeamFieldingCounts.tp, rfl⟩, fun _ _ => rfl⟩)
      (fun _ => rfl) (fun p => Nat.add_le_add_left p.tp_part.le _) h side

/-- The hosts turn a double play, their shortstop and their second baseman trade places, and they
get a third out, all without a catcher. -/
def doublePlayGame : Game where
  id := "double play"
  date := default
  visitor := "visitors"
  home := "hosts"
  starters := ⟨[⟨"v1", 1, .pitcher⟩, ⟨"v2", 2, .catcher⟩, ⟨"v3", 3, .firstBase⟩],
    [⟨"h1", 1, .pitcher⟩, ⟨"h3", 3, .firstBase⟩, ⟨"h4", 4, .secondBase⟩, ⟨"h6", 6, .shortstop⟩]⟩
  events := [.play (.ofKind .single),
    .play { Play.ofKind .genericOut with
      advance := ⟨.out, .out, .safe .second, .safe .third⟩
      outs := 2
      doublePlay := true
      putouts := [.secondBase, .firstBase]
      assists := [.shortstop, .secondBase]
      fieldedBy? := some .shortstop },
    .noPlay [⟨"h6", .home, 6, .secondBase⟩, ⟨"h4", .home, 4, .shortstop⟩],
    .play { Play.ofKind .genericOut with
      putouts := [.firstBase], assists := [.shortstop], fieldedBy? := some .shortstop }]

theorem fieldingLedger_doublePlayGame : ∃ b, ofGame doublePlayGame = .ok b ∧
    FieldingLedger doublePlayGame b .home ∧ (b.team .home).fielding.counts.outs = 3 ∧
    ((b.team .home).fieldingOf "h4").outs = 3 ∧ ((b.team .home).fieldingAt .catcher).outs = 0 := by
  have hmade : ((ofGame doublePlayGame).toOption.map fun b =>
      ((b.team .home).fielding.counts.outs, ((b.team .home).fieldingOf "h4").outs,
        ((b.team .home).fieldingAt .catcher).outs)) = some (3, 3, 0) := by decide +kernel
  rcases hb : ofGame doublePlayGame with e | b
  · rw [hb] at hmade
    cases hmade
  · rw [hb] at hmade
    obtain ⟨houts, hplayer, hcatcher⟩ := by simpa [Except.toOption] using hmade
    exact ⟨b, rfl, fieldingLedger_ofGame hb .home, houts, hplayer, hcatcher⟩

end BoxScore

end Baseball
