import Baseball.Proofs.Finishing
import Baseball.Proofs.HalfInnings
import Baseball.Proofs.Ledger
import Baseball.Report.Standings
import Mathlib.Algebra.Group.Pi.Basic

/-!
# Inning by inning

A linescore gets an entry when a play is made for which it is too short, and a run is added to the
entry of its inning. It is an account like others once it is clear how linescores are added: the
longer one decides about the length, and the runs are added inning by inning. Its balance then says
how long a linescore is, from the innings in which the side batted, and what stands in it.

The innings in which a side batted are the first ones of the game, as no half-inning is left out. So
there is an entry for each of them and for no other, and both sides together tell how long the game
was. A game too long for its innings to be counted stops the program before there is a box score.

## Main definitions

* `LineTotal` — a linescore as something that adds up, and `Account.linescore`
* `Game.runsIn` — the runs that a side scored in its half of an inning
* `Game.Reaches` — whether a play was made in an inning or later

## Main results

* `State.linescore_offense` — what a play is worth to a linescore
* `BoxScore.length_linescore_ofGame`, `BoxScore.linescore_eq_map_runsIn` — a linescore, entry by
  entry
* `BoxScore.innings_ofGame`, `BoxScore.innings_le_ofGame` — the innings of a game
* `BoxScore.inningByInning_ofGame` — linescores, innings, and games with extra innings
-/

namespace Baseball

/-! ### Linescores as something that adds up -/

/-- How long a linescore is, and the runs in it by inning, the first inning being 0. -/
@[ext]
structure LineTotal where
  length : Nat
  runs : Nat → Nat

namespace LineTotal

instance : Zero LineTotal := ⟨⟨0, 0⟩⟩

instance : Add LineTotal := ⟨fun a b => ⟨max a.length b.length, a.runs + b.runs⟩⟩

instance : AddCommMonoid LineTotal where
  add_assoc _ _ _ := LineTotal.ext (Nat.max_assoc ..) (add_assoc ..)
  add_comm _ _ := LineTotal.ext (Nat.max_comm ..) (add_comm ..)
  zero_add _ := LineTotal.ext (Nat.zero_max _) (zero_add _)
  add_zero _ := LineTotal.ext (Nat.max_zero _) (add_zero _)
  nsmul := nsmulRec

theorem length_zero : (0 : LineTotal).length = 0 := rfl

theorem length_add (a b : LineTotal) : (a + b).length = max a.length b.length := rfl

theorem runs_add (a b : LineTotal) (i : Nat) : (a + b).runs i = a.runs i + b.runs i := rfl

/-- The longest of several linescores reaches as far as one of them does. -/
theorem lt_length_sum {as : List LineTotal} {i : Nat} :
    i < as.sum.length ↔ ∃ a ∈ as, i < a.length := by
  induction as with
  | nil => simp [length_zero]
  | cons a as ih => simp [length_add, ih]

/-- What a list of runs says. -/
def ofList (l : List Nat) : LineTotal := ⟨l.length, fun i => l.getD i 0⟩

/-- An inning that was played, with some runs in it. -/
def played (inning runs : Nat) : LineTotal :=
  ⟨max inning 1, fun i => if i = max inning 1 - 1 then runs else 0⟩

theorem played_add (inning a b : Nat) :
    played inning a + played inning b = played inning (a + b) := by
  ext i
  · exact Nat.max_self _
  · rw [runs_add]
    simp only [played]
    split <;> rfl

/-- Making a list long enough for an inning is entering the inning without runs. -/
theorem ofList_extendTo (inning : Nat) (l : List Nat) :
    ofList (TeamBox.extendTo inning l) = ofList l + played inning 0 := by
  ext i
  · simp only [ofList, TeamBox.extendTo, played, length_add, List.length_append,
      List.length_replicate]
    omega
  · simp only [ofList, TeamBox.extendTo, played, runs_add, ite_self, add_zero,
      List.getD_eq_getElem?_getD, List.getElem?_append, List.getElem?_replicate]
    split
    · rfl
    · next hlong =>
      rw [List.getElem?_eq_none (Nat.le_of_not_lt hlong)]
      split <;> rfl

/-- Adding one to the entry of an inning is entering the inning with a run. -/
theorem ofList_modify_extendTo (inning : Nat) (l : List Nat) :
    ofList ((TeamBox.extendTo inning l).modify (max inning 1 - 1) (· + 1)) =
      ofList l + played inning 1 := by
  have hlength : (TeamBox.extendTo inning l).length = max l.length (max inning 1) := by
    rw [TeamBox.extendTo, List.length_append, List.length_replicate]
    omega
  have hsplit : played inning 1 = played inning 0 + played inning 1 := by rw [played_add]
  rw [hsplit, ← add_assoc, ← ofList_extendTo]
  generalize TeamBox.extendTo inning l = k at hlength
  ext i
  · simp only [ofList, played, length_add, List.length_modify]
    omega
  · simp only [ofList, played, runs_add, List.getD_eq_getElem?_getD, List.getElem?_modify]
    by_cases hi : i = max inning 1 - 1
    · have hlt : i < k.length := by omega
      simp [← hi, hlt]
    · simp [hi, Ne.symm hi]

end LineTotal

/-! ### The account -/

/-- The linescores. -/
def Account.linescore : Account LineTotal where
  balance t := .ofList t.linescore
  worth
    | .bats inning => .played inning 0
    | .run inning => .played inning 1
    | _ => 0
  balance_opened _ _ := rfl
  balance_enter h := by
    obtain ⟨hs, rfl⟩ := TeamBox.enter_eq_ok_iff.mp h
    rfl
  balance_post {_ e _ _} h := by
    cases e with
    | batting player c =>
      obtain ⟨stints, -, rfl⟩ := TeamBox.post_batting_eq_ok_iff.mp h
      exact (add_zero _).symm
    | pitching player c =>
      obtain ⟨pitchers, -, rfl⟩ := TeamBox.post_pitching_eq_ok_iff.mp h
      exact (add_zero _).symm
    | fielding player p c =>
      obtain ⟨fielders, -, rfl⟩ := TeamBox.post_fielding_eq_ok_iff.mp h
      exact (add_zero _).symm
    | bats inning =>
      cases (Attempt.eq_ok_iff.mp h).2
      exact LineTotal.ofList_extendTo ..
    | run inning =>
      cases (Attempt.eq_ok_iff.mp h).2
      exact LineTotal.ofList_modify_extendTo ..
    | _ =>
      cases (Attempt.eq_ok_iff.mp h).2
      exact (add_zero _).symm
  balance_samePlay h := by rw [h.linescore]

namespace State

variable {s : State} {p : Play} {pitcher? : Option String}

/-- **What a play is worth to a linescore**: the inning was played, and the runs are in it. -/
theorem linescore_offense (h : s.Manned p pitcher?) :
    Account.linescore.offense s.situation p = .played s.inning (s.runs p) := by
  have hbatter : (if p.batterEvent || p.atBat then
      (if p.atBat then Account.linescore.worth .atBat else (0 : LineTotal)) + 0 else 0) = 0 := by
    cases p.atBat <;> cases p.batterEvent <;> exact add_zero 0
  have hrun : Account.linescore.worth (.run s.inning) = .played s.inning 1 := rfl
  rw [h.offense_eq (w := fun _ => 0) fun _ _ => rfl, hbatter, add_zero, State.runs]
  simp only [ite_self, add_zero, hrun]
  induction s.bases.movers p.batterEvent with
  | nil => exact add_zero _
  | cons o os ih =>
    rw [List.map_cons, List.sum_cons, add_left_comm, ih, List.countP_cons]
    split
    · rw [LineTotal.played_add, Nat.add_comm]
    · exact zero_add _

theorem linescore_defense : Account.linescore.defense s.situation p pitcher? = 0 :=
  Account.defense_eq_zero (fun _ _ => rfl) rfl (fun _ _ _ => rfl) fun _ => rfl

end State

/-! ### Linescores -/

/-- The runs that a side scored in its half of an inning. -/
def Game.runsIn (g : Game) (side : Side) (inning : Nat) : Nat :=
  atBatSum side (fun s p => if s.inning = inning then s.runs p else 0) g.plays

/-- Whether a play was made in an inning or later. -/
def Game.Reaches (g : Game) (inning : Nat) : Prop := ∃ q ∈ g.plays, inning ≤ q.1.inning

instance (g : Game) (inning : Nat) : Decidable (g.Reaches inning) :=
  inferInstanceAs (Decidable (∃ q ∈ g.plays, inning ≤ q.1.inning))

namespace BoxScore

variable {g : Game} {b : BoxScore} {side : Side}

/-- A linescore is what the plays of the side were worth to it. -/
theorem ofList_linescore_ofGame (h : ofGame g = .ok b) (side : Side) :
    LineTotal.ofList (b.team side).linescore =
      atBatSum side (fun s p => .played s.inning (s.runs p)) g.plays := by
  obtain ⟨b₀, hkept, hclose⟩ := exists_kept_of_ofGame h
  have hbalance := hkept.balance_eq (A := Account.linescore) State.linescore_offense
    (fun _ => State.linescore_defense) side
  rw [atBatSum_zero, add_zero] at hbalance
  exact (Account.balance_close hclose side).trans hbalance

/-- The half-innings of a game are consecutive. -/
theorem consecutive_ofGame (h : ofGame g = .ok b) : Consecutive g.plays g.finalState := by
  obtain ⟨b₀, hkept, -⟩ := exists_kept_of_ofGame h
  exact hkept.consecutive

/-- Linescores that are added up reach as far as the innings in which the side batted. -/
theorem lt_length_atBatSum {qs : List (State × Play)} {i : Nat} :
    i < (atBatSum side (fun s p => LineTotal.played s.inning (s.runs p)) qs).length ↔
      ∃ n ∈ inningsAtBat side qs, i < max n 1 := by
  rw [atBatSum, LineTotal.lt_length_sum]
  simp only [inningsAtBat, List.mem_toFinset, List.mem_map, List.mem_filter, decide_eq_true_eq]
  constructor
  · rintro ⟨_, ⟨q, hq, rfl⟩, hi⟩
    split at hi
    · next hside => exact ⟨_, ⟨q, ⟨hq, hside⟩, rfl⟩, hi⟩
    · cases hi
  · rintro ⟨_, ⟨q, ⟨hq, hside⟩, rfl⟩, hi⟩
    exact ⟨_, ⟨q, hq, rfl⟩, by rwa [if_pos hside]⟩

/-- **The length of a linescore** is the number of innings in which the side batted. -/
theorem length_linescore_ofGame (h : ofGame g = .ok b) (side : Side) :
    (b.team side).linescore.length = (lastHalf g.plays - side.turn) / 2 := by
  have hlength : (b.team side).linescore.length = _ :=
    congrArg LineTotal.length (ofList_linescore_ofGame h side)
  refine eq_of_forall_lt_iff fun i => ?_
  rw [hlength, lt_length_atBatSum, (consecutive_ofGame h).inningsAtBat_eq side]
  simp only [Finset.mem_Icc]
  constructor
  · rintro ⟨n, ⟨hpos, hle⟩, hi⟩
    omega
  · intro hi
    exact ⟨_, ⟨by omega, le_rfl⟩, by omega⟩

theorem card_inningsAtBat_ofGame (h : ofGame g = .ok b) (side : Side) :
    (inningsAtBat side g.plays).card = (b.team side).linescore.length := by
  rw [(consecutive_ofGame h).inningsAtBat_eq side, Nat.card_Icc, length_linescore_ofGame h,
    Nat.add_sub_cancel]

/-- **An entry of a linescore** is the runs that the side scored in its half of the inning. -/
theorem getD_linescore_ofGame (h : ofGame g = .ok b) (side : Side) (i : Nat) :
    (b.team side).linescore.getD i 0 = g.runsIn side (i + 1) := by
  have hruns : (b.team side).linescore.getD i 0 = _ :=
    congrFun (congrArg LineTotal.runs (ofList_linescore_ofGame h side)) i
  have hsum := map_atBatSum (fun x : LineTotal => x.runs i) rfl (fun _ _ => rfl) side
    (fun s p => LineTotal.played s.inning (s.runs p)) g.plays
  refine hruns.trans (hsum.trans (atBatSum_congr fun q hq => ?_))
  have hpos : 1 ≤ q.1.inning := by
    have htwo := ((consecutive_ofGame h).mem_iff _).mp ⟨q, hq, rfl⟩
    have hturn := q.1.half.turn_le
    rw [State.halfNumber] at htwo
    omega
  exact if_congr (by omega) rfl rfl

/-- **A linescore, entry by entry.** -/
theorem linescore_eq_map_runsIn (h : ofGame g = .ok b) (side : Side) :
    (b.team side).linescore =
      (List.range (inningsAtBat side g.plays).card).map fun i => g.runsIn side (i + 1) := by
  rw [card_inningsAtBat_ofGame h]
  refine List.ext_getElem (by simp) fun i hi _ => ?_
  rw [List.getElem_map, List.getElem_range, ← getD_linescore_ofGame h,
    List.getD_eq_getElem?_getD, List.getElem?_eq_getElem hi, Option.getD_some]

/-! ### The innings of a game -/

/-- **The innings of a game** are counted by its last play. -/
theorem innings_ofGame (h : ofGame g = .ok b) :
    b.innings = (g.plays.getLast?.map (·.1.inning)).getD 0 := by
  rw [innings, length_linescore_ofGame h, length_linescore_ofGame h, lastHalf]
  rcases g.plays.getLast? with _ | q
  · rfl
  · have hturn := q.1.half.turn_le
    simp only [Option.map_some, Option.getD_some, State.halfNumber, Side.turn_visitor,
      Side.turn_home]
    omega

/-- A game with a box score has no more innings than can be counted. -/
theorem innings_le_ofGame (h : ofGame g = .ok b) : b.innings ≤ countMax := by
  obtain ⟨b₀, hkept, -⟩ := exists_kept_of_ofGame h
  rw [innings_ofGame h]
  rcases hlast : g.plays.getLast? with _ | q
  · exact Nat.zero_le countMax
  · obtain ⟨ds, c, -, -, -, hat, -⟩ := hkept.exists_of_mem_plays q (List.mem_of_getLast? hlast)
    exact hat.fits.1

/-- A game has as many innings as somebody batted in. -/
theorem le_innings_iff_ofGame (h : ofGame g = .ok b) {n : Nat} (hn : 1 ≤ n) :
    n ≤ b.innings ↔ g.Reaches n := by
  have hmem (k : Nat) := (consecutive_ofGame h).mem_iff k
  rw [innings, length_linescore_ofGame h, length_linescore_ofGame h]
  simp only [Side.turn_visitor, Side.turn_home]
  constructor
  · intro hle
    obtain ⟨q, hq, hnumber⟩ := (hmem (2 * n)).mpr (by omega)
    have hturn := q.1.half.turn_le
    rw [State.halfNumber] at hnumber
    exact ⟨q, hq, by omega⟩
  · rintro ⟨q, hq, hle⟩
    have hlast := ((hmem _).mp ⟨q, hq, rfl⟩).2
    rw [State.halfNumber] at hlast
    omega

end BoxScore

/-! ### Extra innings -/

namespace RecordCounts

variable (side : Side) (runsFor runsAgainst innings : Nat)

/-- A game counts as won in extra innings if it was won and took more than the regulation ones, -/
theorem xw_ofGame : (ofGame side runsFor runsAgainst innings).xw =
    if Outcome.of runsFor runsAgainst = .win ∧ regulationInnings < innings then 1 else 0 := by
  rcases hout : Outcome.of runsFor runsAgainst with _ | _ | _ <;> cases side <;>
    simp [ofGame, hout, Bool.toNat, Bool.cond_decide]

/-- and as lost in extra innings if it was lost and took more. -/
theorem xl_ofGame : (ofGame side runsFor runsAgainst innings).xl =
    if Outcome.of runsFor runsAgainst = .loss ∧ regulationInnings < innings then 1 else 0 := by
  rcases hout : Outcome.of runsFor runsAgainst with _ | _ | _ <;> cases side <;>
    simp [ofGame, hout, Bool.toNat, Bool.cond_decide]

end RecordCounts

/-- The counts of a team in some standings, nothing if it is not listed. -/
def Standings.countsOf (st : Standings) (team : String) : RecordCounts :=
  ((st.record? team).map TeamRecord.counts).getD {}

theorem Standings.countsOf_addSide (st : Standings) (b : BoxScore) (side : Side) :
    (st.addSide b side).countsOf (b.team side).team = st.countsOf (b.team side).team +
      .ofGame side (b.team side).runs (b.team side.opponent).runs b.innings := by
  rw [countsOf, countsOf, record?, record?, addSide, Keyed.get?_upsert, if_pos rfl]
  cases st.records.get? (b.team side).team <;> rfl

namespace BoxScore

variable {g : Game} {b : BoxScore}

/-- **Inning by inning.** A linescore has an entry for every inning in which the side batted, with
the runs of that half-inning. The visitors batted in as many innings as the hosts or in one more,
and the innings of the game are counted by its last play; so a game that was won or lost is entered
in the standings as one with extra innings exactly if a play was made in the tenth or later. Where
there is a box score no count of outs or innings has overflowed. -/
theorem inningByInning_ofGame (h : ofGame g = .ok b) :
    (∀ side, (b.team side).linescore =
      (List.range (inningsAtBat side g.plays).card).map fun i => g.runsIn side (i + 1)) ∧
    ((b.team .visitor).linescore.length = (b.team .home).linescore.length ∨
      (b.team .visitor).linescore.length = (b.team .home).linescore.length + 1) ∧
    b.innings = (g.plays.getLast?.map (·.1.inning)).getD 0 ∧
    ∀ (st : Standings) (side : Side),
      let outcome := Outcome.of (b.team side).runs (b.team side.opponent).runs
      let before := st.countsOf (b.team side).team
      let after := (st.addSide b side).countsOf (b.team side).team
      after.xw = before.xw + (if outcome = .win ∧ g.Reaches 10 then 1 else 0) ∧
        after.xl = before.xl + (if outcome = .loss ∧ g.Reaches 10 then 1 else 0) := by
  refine ⟨linescore_eq_map_runsIn h, ?_, innings_ofGame h, fun st side => ?_⟩
  · rw [length_linescore_ofGame h, length_linescore_ofGame h]
    simp only [Side.turn_visitor, Side.turn_home]
    omega
  · have hextra : RecordCounts.regulationInnings < b.innings ↔ g.Reaches 10 :=
      le_innings_iff_ofGame h (n := 10) (by decide)
    dsimp only
    rw [Standings.countsOf_addSide]
    constructor
    · refine congrArg (_ + ·) ((RecordCounts.xw_ofGame ..).trans ?_)
      exact if_congr (and_congr_right fun _ => hextra) rfl rfl
    · refine congrArg (_ + ·) ((RecordCounts.xl_ofGame ..).trans ?_)
      exact if_congr (and_congr_right fun _ => hextra) rfl rfl

/-- Nobody reaches base for nine innings, and the visitors win by a home run in the tenth. -/
def tenInnings : Game where
  id := "G1"
  date := default
  visitor := "VIS"
  home := "HOM"
  starters := ⟨nineOf "v", nineOf "h"⟩
  events := .replicate 54 (.play (.ofKind .strikeout)) ++ [.play (.ofKind .homeRun)]
    ++ .replicate 6 (.play (.ofKind .strikeout))

/-- The run is the last of ten entries, and both teams have a game with extra innings. -/
theorem inningByInning_tenInnings : ∃ b, ofGame tenInnings = .ok b ∧
    (b.team .visitor).linescore = [0, 0, 0, 0, 0, 0, 0, 0, 0, 1] ∧
    (b.team .home).linescore = [0, 0, 0, 0, 0, 0, 0, 0, 0, 0] ∧ b.innings = 10 ∧
    ((({} : Standings).addSide b .visitor).countsOf (b.team .visitor).team).xw = 1 ∧
    ((({} : Standings).addSide b .home).countsOf (b.team .home).team).xl = 1 := by
  have hmade : (ofGame tenInnings).toOption.map (fun b =>
      ((b.team .visitor).runs, (b.team .home).runs)) = some (1, 0) := by decide +kernel
  obtain ⟨b, hb, hruns⟩ := Option.map_eq_some_iff.mp hmade
  have hb := toOption_eq_some_iff.mp hb
  obtain ⟨hvisitor, hhome⟩ := Prod.mk.inj hruns
  have hwon : Outcome.of (b.team .visitor).runs (b.team .home).runs = .win := by
    rw [hvisitor, hhome]
    rfl
  have hlost : Outcome.of (b.team .home).runs (b.team .visitor).runs = .loss := by
    rw [hvisitor, hhome]
    rfl
  have hextra : tenInnings.Reaches 10 := by decide +kernel
  obtain ⟨hlines, -, hinnings, hrecords⟩ := inningByInning_ofGame hb
  refine ⟨b, hb, ?_, ?_, ?_, ?_, ?_⟩
  · exact (hlines .visitor).trans (by decide +kernel)
  · exact (hlines .home).trans (by decide +kernel)
  · exact hinnings.trans (by decide +kernel)
  · exact (hrecords {} .visitor).1.trans (congrArg (0 + ·) (if_pos ⟨hwon, hextra⟩))
  · exact (hrecords {} .home).2.trans (congrArg (0 + ·) (if_pos ⟨hlost, hextra⟩))

end BoxScore

end Baseball
