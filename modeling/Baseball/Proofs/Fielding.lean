import Baseball.Proofs.DoubleEntry
import Baseball.Proofs.Headings

/-!
# The lines of fielders

A play credits its fielders one by one, each at the position he holds, and their team at a stroke.
A fielder who was missing would be a gap, and a play with a gap is not posted. So the chances of a
team are those of its fielders together, however often they changed places.

## Main definitions

* `Account.fieldingBy` — the fielding lines, each weighed by its player and position

## Main results

* `Account.fieldingBy_defense` — what a play is worth to them
* `Play.sum_fieldingCredits` — the credits of a play one kind after the other
* `BoxScore.chances_ofGame` — the chances of the fielders are the chances of the team
-/

namespace Baseball

namespace Account

open TeamBox

variable {M : Type} [AddCommMonoid M] {s : Situation} {p : Play} {pitcher? : Option String}

/-! ### Weighing lines -/

theorem sum_fielders_enterFielder {w : String → Position → FieldingCounts → M}
    (hw : ∀ x q, w x q {} = 0) (t : TeamBox) (gameId player : String) (q : Position) :
    ((t.enterFielder gameId player q).fielders.map fun l => w l.player l.position l.counts).sum
      = (t.fielders.map fun l => w l.player l.position l.counts).sum := by
  rcases fielders_enterFielder_cases t gameId player q with h | ⟨-, h⟩
  · rw [h]
  · rw [h, List.map_append, List.sum_append]
    simp [hw]

/-- The fielding lines, each weighed by its player and position; the starts that are entered when
the game is opened must weigh nothing. -/
def fieldingBy (w : String → Position → FieldingCounts →+ M)
    (hw : ∀ x q c, w x q c.inPlay = w x q c) : Account M where
  balance t := (t.fielders.map fun l => w l.player l.position l.counts).sum
  worth
    | .fielding x q c => w x q c
    | _ => 0
  balance_opened _ _ := rfl
  balance_enter {gameId player slot q t _} h := by
    obtain ⟨hs, rfl⟩ := enter_eq_ok_iff.mp h
    exact sum_fielders_enterFielder (w := fun x q c => w x q c) (fun x q => map_zero (w x q)) ..
  balance_post {_ e _ _} h := by
    cases e with
    | batting player c =>
      obtain ⟨stints, -, rfl⟩ := post_batting_eq_ok_iff.mp h
      exact (add_zero _).symm
    | pitching player c =>
      obtain ⟨pitchers, -, rfl⟩ := post_pitching_eq_ok_iff.mp h
      exact (add_zero _).symm
    | fielding player q c =>
      obtain ⟨fielders, hm, rfl⟩ := post_fielding_eq_ok_iff.mp h
      refine sum_modifyFirst? hm fun l hl => ?_
      obtain ⟨rfl, rfl⟩ : l.player = player ∧ l.position = q := by simpa using hl
      exact map_add (w l.player l.position) _ _
    | _ =>
      cases (Attempt.eq_ok_iff.mp h).2
      exact (add_zero _).symm
  balance_samePlay {t u} h := by
    have hmap := congrArg (List.map fun l => w l.player l.position l.counts) h.fielders
    simpa only [List.map_map, Function.comp_def, FieldingLine.inPlay, hw] using
      congrArg List.sum hmap

/-! ### What a play is worth -/

variable {w : String → Position → FieldingCounts →+ M} {hw : ∀ x q c, w x q c.inPlay = w x q c}

/-- The side at bat has no fielding lines to credit. -/
theorem fieldingBy_offense : (fieldingBy w hw).offense s p = 0 :=
  offense_eq_zero (fun _ => rfl) (fun _ => rfl) rfl fun _ _ => rfl

theorem on_fielderPosting (q : Position) (c : FieldingCounts) :
    (fieldingBy w hw).on s.half.opponent (BoxScore.fielderPosting s q c) =
      (s.fielder? s.half.opponent q).elim 0 fun x => w x q c := by
  rw [BoxScore.fielderPosting]
  rcases s.fielder? s.half.opponent q with _ | x
  · rfl
  · exact on_opponent _

theorem total_outsPostings (outs : Nat) :
    (fieldingBy w hw).total s.half.opponent (BoxScore.outsPostings s outs) =
      if 0 < outs then
        (Position.field.map fun q =>
          (s.fielder? s.half.opponent q).elim 0 fun x => w x q { outs }).sum
      else 0 := by
  rw [BoxScore.outsPostings]
  split
  · induction Position.field with
    | nil => rfl
    | cons q qs ih =>
      rw [List.filterMap_cons, List.map_cons, List.sum_cons, ← ih]
      rcases s.fielder? s.half.opponent q with _ | x
      · exact (zero_add _).symm
      · exact (total_cons _ _).trans (congrArg (· + _) (on_opponent _))
  · rfl

/-- What a play is worth to the fielding lines: its outs to everybody who stands in the field, and
its credits to those who hold the positions. -/
theorem fieldingBy_defense :
    (fieldingBy w hw).defense s p pitcher? =
      (if 0 < p.outs then
        (Position.field.map fun q =>
          (s.fielder? s.half.opponent q).elim 0 fun x => w x q { outs := p.outs }).sum
      else 0)
        + (p.fieldingCredits.map fun credit =>
            (s.fielder? s.half.opponent credit.1).elim 0 fun x => w x credit.1 credit.2).sum := by
  have hcredits : (fieldingBy w hw).total s.half.opponent
      (p.fieldingCredits.map fun credit => BoxScore.fielderPosting s credit.1 credit.2) =
        (p.fieldingCredits.map fun credit =>
          (s.fielder? s.half.opponent credit.1).elim 0 fun x => w x credit.1 credit.2).sum := by
    rw [total, List.map_map]
    exact congrArg List.sum (List.map_congr_left fun credit _ => on_fielderPosting ..)
  have hpostings : BoxScore.fieldingPostings s p =
      .credit s.half.opponent (.teamFielding p.teamFieldingCredit)
        :: (BoxScore.outsPostings s p.outs
          ++ p.fieldingCredits.map (fun credit => BoxScore.fielderPosting s credit.1 credit.2)
          ++ [.credit s.half.opponent (.teamFielding p.teamFieldingExtras)]) := rfl
  have hteam (c : TeamFieldingCounts) :
      (fieldingBy w hw).on s.half.opponent (.credit s.half.opponent (.teamFielding c)) = 0 :=
    on_opponent _
  rw [defense_eq_fielding (fun _ _ => rfl) rfl, hpostings, total_cons, total_append, total_append,
    total_cons, total_nil, hteam, hteam, hcredits, total_outsPostings]
  simp only [zero_add, add_zero]

/-- The chances in the fielding lines, whoever had them. -/
def chances : Account TeamFieldingCounts :=
  fieldingBy (fun _ _ => FieldingCounts.chances) fun _ _ => FieldingCounts.chances_inPlay

theorem chances_offense : chances.offense s p = 0 := fieldingBy_offense

end Account

/-! ### Chances -/

namespace Play

/-- What a play gives everybody who had a part in a double or triple play. -/
def part (p : Play) : FieldingCounts :=
  if p.triplePlay then { tp := 1 } else if p.doublePlay then { dp := 1 } else {}

/-- **The credits of a play one kind after the other**, weighed by position. -/
theorem sum_fieldingCredits {M : Type} [AddCommMonoid M] {w : Position → FieldingCounts → M}
    (hzero : ∀ q, w q {} = 0) (p : Play) :
    (p.fieldingCredits.map fun credit => w credit.1 credit.2).sum =
      (p.putouts.map (w · { po := 1 })).sum + (p.assists.map (w · { a := 1 })).sum
        + (p.errors.map (w · { e := 1 })).sum
        + (if p.passedBall then w .catcher { pb := 1 } else 0)
        + (if 0 < p.outs then (p.fieldedBy?.toList.map (w · { fieldedOuts := 1 })).sum else 0)
        + (p.involved.map (w · p.part)).sum := by
  have hcredit (c : FieldingCounts) (qs : List Position) :
      ((qs.map (·, c)).map fun credit => w credit.1 credit.2).sum = (qs.map (w · c)).sum := by
    rw [List.map_map]
    rfl
  have hpassed : ((if p.passedBall then [(Position.catcher, ({ pb := 1 } : FieldingCounts))]
      else []).map fun credit => w credit.1 credit.2).sum =
        if p.passedBall then w .catcher { pb := 1 } else 0 := by
    split
    · exact List.sum_singleton
    · rfl
  have hfielded : ((if 0 < p.outs then
      p.fieldedBy?.toList.map (·, ({ fieldedOuts := 1 } : FieldingCounts)) else []).map
        fun credit => w credit.1 credit.2).sum =
          if 0 < p.outs then (p.fieldedBy?.toList.map (w · { fieldedOuts := 1 })).sum else 0 := by
    split
    · exact hcredit ..
    · rfl
  have hpart : ((if p.triplePlay then p.involved.map (·, ({ tp := 1 } : FieldingCounts))
      else if p.doublePlay then p.involved.map (·, { dp := 1 }) else []).map
        fun credit => w credit.1 credit.2).sum = (p.involved.map (w · p.part)).sum := by
    rw [part]
    split
    · exact hcredit ..
    · split
      · exact hcredit ..
      · simp [hzero]
  rw [fieldingCredits, List.map_append, List.map_append, List.map_append, List.map_append,
    List.map_append, List.sum_append, List.sum_append, List.sum_append, List.sum_append,
    List.sum_append, hcredit, hcredit, hcredit, hpassed, hfielded, hpart]

/-- A credit to each of some positions makes so many chances for the team. -/
theorem sum_credits_chances {c : FieldingCounts} (f : Nat →+ TeamFieldingCounts)
    (hc : c.chances = f 1) (qs : List Position) :
    (qs.map fun _ => c.chances).sum = f qs.length := by
  rw [List.map_const', List.sum_replicate, hc, ← map_nsmul, nsmul_one]
  rfl

/-- **The credits of a play** to its fielders are its chances for the team. -/
theorem sum_fieldingCredits_chances (p : Play) :
    (p.fieldingCredits.map fun credit => credit.2.chances).sum =
      (p.teamFieldingCredit + p.teamFieldingExtras).chances := by
  let putout : Nat →+ TeamFieldingCounts := ⟨⟨fun n => { po := n }, rfl⟩, fun _ _ => rfl⟩
  let assist : Nat →+ TeamFieldingCounts := ⟨⟨fun n => { a := n }, rfl⟩, fun _ _ => rfl⟩
  let error : Nat →+ TeamFieldingCounts := ⟨⟨fun n => { e := n }, rfl⟩, fun _ _ => rfl⟩
  have hpassed : (if p.passedBall then FieldingCounts.chances { pb := 1 } else 0) =
      { pb := p.passedBall.toNat } := by
    cases p.passedBall <;> rfl
  have hfielded : (if 0 < p.outs then (p.fieldedBy?.toList.map fun _ =>
      FieldingCounts.chances { fieldedOuts := 1 }).sum else 0) = 0 := by
    split
    · exact sum_credits_chances 0 rfl p.fieldedBy?.toList
    · rfl
  have hpart : (p.involved.map fun _ => p.part.chances).sum = 0 := by
    refine sum_credits_chances 0 ?_ p.involved
    rw [part]
    split
    · rfl
    · split <;> rfl
  rw [sum_fieldingCredits (w := fun _ c => c.chances) fun _ => rfl, sum_credits_chances putout rfl,
    sum_credits_chances assist rfl, sum_credits_chances error rfl, hpassed, hfielded, hpart]
  exact TeamFieldingCounts.ext rfl rfl (Nat.zero_add _) (Nat.zero_add _) rfl rfl rfl

end Play

namespace BoxScore

variable {g : Game} {b b' : BoxScore}

/-- Whoever a posted play credits at a position stands there. -/
theorem exists_fielder_of_postPlay {gameId : String} {s : Situation} {p : Play}
    (h : b.postPlay gameId s p = .ok b') {credit : Position × FieldingCounts}
    (hcredit : credit ∈ p.fieldingCredits) :
    ∃ player, s.fielder? s.half.opponent credit.1 = some player := by
  rcases fielderPosting_cases s credit.1 credit.2 with hgap | ⟨player, hplayer, -⟩
  · refine absurd ?_ (State.gap_notMem_of_postAll h (.fielder credit.1))
    have hmem : Posting.gap (.fielder credit.1) ∈ fieldingPostings s p := by
      rw [← hgap, fieldingPostings]
      simp only [List.mem_append, List.mem_map]
      exact .inl (.inr ⟨credit, hcredit, rfl⟩)
    simp [postings, hmem]
  · exact ⟨player, hplayer⟩

/-- What a posted play is worth to the chances of the fielders is what it is worth to their team. -/
theorem chances_defense {gameId : String} {s : State} {p : Play}
    (h : b.postPlay gameId s.situation p = .ok b') (pitcher? : Option String) :
    Account.chances.defense s.situation p pitcher? = (s.teamInField p).fielding.chances := by
  have houts : (Position.field.map fun q =>
      (s.situation.fielder? s.situation.half.opponent q).elim 0 fun _ =>
        FieldingCounts.chances { outs := p.outs }).sum = 0 := by
    refine List.sum_eq_zero fun n hn => ?_
    obtain ⟨q, -, rfl⟩ := List.mem_map.mp hn
    cases s.situation.fielder? s.situation.half.opponent q <;> rfl
  have hcredits : (p.fieldingCredits.map fun credit =>
      (s.situation.fielder? s.situation.half.opponent credit.1).elim 0 fun _ =>
        credit.2.chances) = p.fieldingCredits.map fun credit => credit.2.chances := by
    refine List.map_congr_left fun credit hcredit => ?_
    obtain ⟨player, hplayer⟩ := exists_fielder_of_postPlay h hcredit
    rw [hplayer, Option.elim_some]
  rw [Account.chances, Account.fieldingBy_defense, houts, ite_self, zero_add, hcredits,
    p.sum_fieldingCredits_chances, State.teamInField]

/-- **The chances of the fielders are the chances of the team.** -/
theorem chances_ofGame (h : ofGame g = .ok b) (side : Side) :
    ((b.team side).fielders.map fun l => l.counts.chances).sum =
      (b.team side).fielding.counts.chances := by
  obtain ⟨b₀, hkept, hclose⟩ := exists_kept_of_ofGame h
  have hfielders : Account.chances.balance (b.team side) =
      atBatSum side.opponent (fun s p => (s.teamInField p).fielding.chances) g.plays := by
    rw [Account.balance_close hclose, hkept.balance_eq_of_plays (fun _ hpost _ =>
      ⟨Account.chances_offense, chances_defense hpost _⟩), atBatSum_zero, zero_add]
    rfl
  have hteam := teamCount_ofGame (fun c => c.fielding.chances) rfl (fun _ _ => rfl) h side
  rw [show (fun s p => (State.teamAtBat s p).fielding.chances) = fun _ _ => 0 from rfl,
    atBatSum_zero, zero_add] at hteam
  exact hfielders.trans hteam.symm

end BoxScore

end Baseball
