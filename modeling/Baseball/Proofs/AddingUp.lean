import Baseball.BoxScore.Text
import Baseball.Proofs.DoubleEntry
import Baseball.Proofs.Gathering
import Baseball.Proofs.Personal

/-!
# Whether a batting section adds up

The batting section of a box score prints the stints of the slots 1 to 9, and below them totals that
are taken over all stints. Slot 0 is for pitchers who do not bat. But a stint stays in the slot in
which its player first came in, and the batter is whoever the lineup has; so a pitcher who began in
slot 0 and was later given a place in the batting order bats without ever being printed. What he did
is in the totals and in no row.

So the rows add up to the totals exactly if no play of the side gives a number to such a man.

## The argument

What is missing from the rows is what stands in the stints of slot 0. Whose these are can be read off
the game: a stint is in the slot that its player was first entered in (`TeamBox.Placed`). Weighed
like this the batting lines are an account, and its balance is what the plays were worth to it.

## Main definitions

* `Game.firstSlot?`, `Game.unlisted` — the slot a player was first entered in, and whether it is 0
* `State.columnsOf` — what a play gives some of the men at bat, in the columns of the section
* `BoxScore.playerRows` — the rows of the section
* `BoxScore.AddsUp` — they add up to the totals

## Main results

* `BoxScore.battingSection_eq` — a section is made of these rows and the row of totals
* `BoxScore.sum_rows_add_ofGame` — what the rows lack
* `BoxScore.addsUp_of_forall_slot_ne_zero` — nothing, if nobody is entered in slot 0
* `BoxScore.addsUp_iff_ofGame` — when they lack nothing
-/

namespace Baseball

/-! ### Six numbers -/

namespace BoxScore

attribute [ext] BattingColumns

namespace BattingColumns

instance : Zero BattingColumns := ⟨⟨0, 0, 0, 0, 0, 0⟩⟩

instance : Add BattingColumns where
  add c d := ⟨c.ab + d.ab, c.r + d.r, c.h + d.h, c.rbi + d.rbi, c.bb + d.bb, c.so + d.so⟩

instance : AddCommMonoid BattingColumns where
  add_assoc _ _ _ := BattingColumns.ext (add_assoc ..) (add_assoc ..) (add_assoc ..)
    (add_assoc ..) (add_assoc ..) (add_assoc ..)
  add_comm _ _ := BattingColumns.ext (add_comm ..) (add_comm ..) (add_comm ..) (add_comm ..)
    (add_comm ..) (add_comm ..)
  zero_add _ := BattingColumns.ext (zero_add _) (zero_add _) (zero_add _) (zero_add _) (zero_add _)
    (zero_add _)
  add_zero _ := rfl
  nsmul := nsmulRec

/-- The columns of added counts are the added columns. -/
def ofCountsHom : BattingCounts →+ BattingColumns := ⟨⟨ofCounts, rfl⟩, fun _ _ => rfl⟩

/-- Columns are added one by one, -/
theorem add_eq (c d : BattingColumns) :
    c + d = ⟨c.ab + d.ab, c.r + d.r, c.h + d.h, c.rbi + d.rbi, c.bb + d.bb, c.so + d.so⟩ := rfl

/-- and nothing is nothing in each of them. -/
theorem zero_eq : (0 : BattingColumns) = ⟨0, 0, 0, 0, 0, 0⟩ := rfl

theorem add_eq_zero_iff {c d : BattingColumns} : c + d = 0 ↔ c = 0 ∧ d = 0 := by
  simp only [add_eq, zero_eq, BattingColumns.ext_iff]
  omega

theorem eq_add_iff {c d : BattingColumns} : c = c + d ↔ d = 0 := by
  simp only [add_eq, zero_eq, BattingColumns.ext_iff]
  omega

/-- Columns add up to nothing only if each of them is nothing. -/
theorem sum_eq_zero_iff {cs : List BattingColumns} : cs.sum = 0 ↔ ∀ c ∈ cs, c = 0 := by
  induction cs with
  | nil => simp
  | cons c cs ih => rw [List.sum_cons, add_eq_zero_iff, ih, List.forall_mem_cons]

end BattingColumns

end BoxScore

open BoxScore (BattingColumns)

/-! ### Where players come in -/

namespace Game

/-- Who is entered on a side, and in which slot: its starters, and its men among some substitutes. -/
def entrants (g : Game) (side : Side) (subs : List Substitution) : List (String × Nat) :=
  (g.starters.get side).map (fun s => (s.player, s.slot))
    ++ (subs.filter (·.side == side)).map fun s => (s.player, s.slot)

/-- The slot that a player of a side was first entered in. -/
def firstSlot? (g : Game) (side : Side) (player : String) : Option Nat :=
  (g.entrants side g.substitutions).lookup player

/-- Whether a player was first entered as a pitcher who does not bat. -/
def unlisted (g : Game) (side : Side) (player : String) : Bool := g.firstSlot? side player == some 0

theorem entrants_append (g : Game) (side : Side) (subs : List Substitution) (sub : Substitution) :
    g.entrants side (subs ++ [sub]) =
      g.entrants side subs ++ if sub.side = side then [(sub.player, sub.slot)] else [] := by
  rw [entrants, entrants, List.append_assoc, List.filter_append, List.map_append]
  by_cases h : sub.side = side <;> simp [h]

end Game

namespace TeamBox

variable {gameId player : String} {slot : Nat} {p : Position} {t t' : TeamBox}
  {entrants : List (String × Nat)}

/-- **Stints in their places**: each is in the slot its player was first entered in, and everybody who
was entered has one. -/
structure Placed (t : TeamBox) (entrants : List (String × Nat)) : Prop where
  slots : ∀ s ∈ t.stints, entrants.lookup s.line.player = some s.slot.val
  entered : ∀ e ∈ entrants, e.1 ∈ t.batters

theorem Placed.of_map_eq (h : t.Placed entrants)
    (hsame : t'.stints.map (fun s => (s.line.player, s.slot)) =
      t.stints.map fun s => (s.line.player, s.slot)) : t'.Placed entrants := by
  refine ⟨forall_of_map_eq (P := fun k => entrants.lookup k.1 = some k.2.val) hsame h.slots,
    fun e he => ?_⟩
  have hnames := congrArg (List.map Prod.fst) hsame
  rw [List.map_map, List.map_map] at hnames
  exact (show t'.batters = t.batters from hnames) ▸ h.entered e he

/-- Whoever comes in stays in his slot if he has one, and takes the one he is entered in if not. -/
theorem Placed.enter (h : t.Placed entrants) (hin : t.enter gameId player slot p = .ok t') :
    t'.Placed (entrants ++ [(player, slot)]) := by
  have hentered : ∀ e ∈ entrants ++ [(player, slot)], e.1 ∈ t'.batters := by
    intro e he
    rcases List.mem_append.mp he with he | he
    · exact (mem_batters_enter hin).mpr (.inl (h.entered e he))
    · exact (mem_batters_enter hin).mpr (.inr (congrArg Prod.fst (List.mem_singleton.mp he)))
  have hold (s : Stint) (hs : entrants.lookup s.line.player = some s.slot.val) :
      (entrants ++ [(player, slot)]).lookup s.line.player = some s.slot.val := by
    rw [List.lookup_append, hs, Option.some_or]
  obtain ⟨hs, rfl⟩ := enter_eq_ok_iff.mp hin
  refine ⟨?_, hentered⟩
  rcases stints_enterStint_cases t gameId player ⟨slot, hs⟩ p with hadded | ⟨hnew, happend⟩
  · have hsame := map_modifyFirst? hadded (k := fun s => (s.line.player, s.slot)) fun s => by
      rw [addPosition_line, addPosition_slot]
    exact forall_of_map_eq
      (P := fun k => (entrants ++ [(player, slot)]).lookup k.1 = some k.2.val) hsame
      fun s hs => hold s (h.slots s hs)
  · intro s hs
    rw [happend] at hs
    rcases List.mem_append.mp hs with hs | hs
    · exact hold s (h.slots s hs)
    · obtain rfl := List.mem_singleton.mp hs
      have hnone : entrants.lookup player = none := by
        rw [List.lookup_eq_none_iff]
        rintro e he
        simpa using fun heq : player = e.1 => hnew (heq ▸ h.entered e he)
      rw [List.lookup_append, hnone]
      simp

theorem Placed.post (h : t.Placed entrants) (gameId : String) (e : Entry) :
    (t.post gameId e).state.Placed entrants :=
  h.of_map_eq (map_stints_post t gameId e fun _ _ => rfl)

theorem Placed.of_stints_eq {u : TeamBox} (h : t.Placed entrants) (hsame : u.stints = t.stints) :
    u.Placed entrants :=
  h.of_map_eq (by rw [hsame])

end TeamBox

namespace BoxScore

open TeamBox

variable {g : Game} {es : List Event} {s : State} {b : BoxScore} {side : Side} {t : TeamBox}

theorem placed_openSide (h : openSide g side = .ok t) : t.Placed (g.entrants side []) := by
  have hplaced := openSide_induction
    (P := fun done t => t.Placed (done.map fun s : Starter => (s.player, s.slot))) h
    ⟨fun _ h => absurd h List.not_mem_nil, fun _ h => absurd h List.not_mem_nil⟩
    (fun ht hin => by
      rw [List.map_append]
      exact ht.enter hin)
    fun ht hsame => ht.of_stints_eq hsame.stints
  rwa [Game.entrants, List.filter_nil, List.map_nil, List.append_nil]

/-- **Every stint of a box score is in the slot its player was first entered in.** -/
theorem firstSlot?_ofGame (h : ofGame g = .ok b) (side : Side) :
    ∀ s ∈ (b.team side).stints, g.firstSlot? side s.line.player = some s.slot.val := by
  obtain ⟨b₀, hkept, hclose⟩ := exists_kept_of_ofGame h
  have hplaced : (b₀.team side).Placed (g.entrants side g.substitutions) := by
    refine hkept.team_induction (P := fun done t => t.Placed (g.entrants side done))
      placed_openSide ?_ ?_ fun _ ht => ht.post g.id _
    · intro done sub t t' ht hside hin
      rw [Game.entrants_append, if_pos hside]
      exact ht.enter hin
    · intro done sub t ht hside
      rwa [Game.entrants_append, if_neg hside, List.append_nil]
  exact (hplaced.of_stints_eq (closed_close hclose side).samePlay.stints).slots

end BoxScore

/-! ### What a play gives some men -/

/-- What a play gives those men of the side at bat who satisfy a condition: the batter his credit, and
everybody who scores a run. -/
def State.columnsOf (c : String → Bool) (s : State) (p : Play) : BattingColumns :=
  (if (p.batterEvent || p.atBat) && s.batter?.any c then .ofCounts p.battingCredit else 0) + {
    ab := 0
    r := Origin.all.countP fun o =>
      (BoxScore.man? s.situation p o).any c && (p.advance.get o).isRun
    h := 0
    rbi := 0
    bb := 0
    so := 0 }

namespace Account

open BoxScore

variable {c : String → Bool} {s : State} {p : Play}

/-- Weighs the lines of those who satisfy a condition by their columns. -/
def columnsWhere (c : String → Bool) (x : String) : BattingCounts →+ BattingColumns :=
  if c x then BattingColumns.ofCountsHom else 0

theorem columnsWhere_apply (c : String → Bool) (x : String) (n : BattingCounts) :
    columnsWhere c x n = if c x then .ofCounts n else 0 := by
  rw [columnsWhere]
  split <;> rfl

/-- The account of the columns of some men knows what a play gives them. -/
theorem offense_columnsWhere :
    (battingBy (columnsWhere c)).offense s.situation p = s.columnsOf c p := by
  have hzero {n : BattingCounts} (hn : BattingColumns.ofCounts n = 0) (x : String) :
      columnsWhere c x n = 0 := by
    rw [columnsWhere_apply, hn, ite_self]
  have hbatter : (s.situation.batter?.elim 0 fun x => columnsWhere c x p.battingCredit) =
      if s.batter?.any c then .ofCounts p.battingCredit else 0 := by
    rw [show s.situation.batter? = s.batter? from rfl]
    cases s.batter? with
    | none => rfl
    | some x => exact columnsWhere_apply c x _
  have hruns (os : List Origin) : (os.map fun o => (man? s.situation p o).elim 0 fun x =>
      if (p.advance.get o).isRun then columnsWhere c x { r := 1 } else 0).sum =
        ⟨0, os.countP fun o => (man? s.situation p o).any c && (p.advance.get o).isRun,
          0, 0, 0, 0⟩ := by
    induction os with
    | nil => rfl
    | cons o os ih =>
      rw [List.map_cons, List.sum_cons, ih, List.countP_cons, add_comm]
      rcases man? s.situation p o with _ | x
      · rfl
      · rw [Option.elim_some, Option.any_some, columnsWhere_apply]
        cases c x <;> cases (p.advance.get o).isRun <;> rfl
  rw [battingBy_offense_of_steals (hzero rfl) (hzero rfl), hbatter, hruns, State.columnsOf]
  cases p.batterEvent <;> cases p.atBat <;> simp

end Account

/-! ### The rows -/

namespace BoxScore

open TeamBox

variable {g : Game} {b : BoxScore} {t : TeamBox}

/-- The rows of the batters: the label of each, and the numbers. -/
def playerRows (book : Scorebook) (t : TeamBox) : List (String × BattingColumns) :=
  (printedStints t).map fun (turn, s) => (batterLabel book turn s, .ofCounts s.line.counts)

/-- **The batting section of a team adds up**: the numbers in the rows of the batters come to the
totals. -/
def AddsUp (book : Scorebook) (t : TeamBox) : Prop :=
  ((playerRows book t).map Prod.snd).sum = totalColumns t

/-- A batting section is a heading, the rows of the batters, the row of totals and the notes. -/
theorem battingSection_eq (book : Scorebook) (t : TeamBox) :
    battingSection book t =
      namedRow (book.teamName t.team) (cells 4 ["AB", "R", "H", "RBI", "BB", "SO"])
        :: (playerRows book t).map (fun (label, numbers) => battingRow label numbers)
        ++ [battingRow "Totals" (totalColumns t)]
        ++ if (captions book t).isEmpty then [] else "" :: captions book t := by
  rw [battingSection, playerRows, List.map_map]
  rfl

theorem sum_playerRows (book : Scorebook) (t : TeamBox) :
    ((playerRows book t).map Prod.snd).sum + ((t.slot 0).map fun s => .ofCounts s.line.counts).sum =
      (t.stints.map fun s => BattingColumns.ofCounts s.line.counts).sum := by
  have hrows : (playerRows book t).map Prod.snd =
      (((List.range slotCount).drop 1).flatMap t.slot).map
        fun s => .ofCounts s.line.counts := by
    have hslot (n : Nat) : ((t.slot n).zipIdx.map fun x : Stint × Nat => (x.2, x.1)).map Prod.snd =
        t.slot n := by
      rw [List.map_map]
      exact List.zipIdx_map_fst 0 (t.slot n)
    have hprinted : (printedStints t).map Prod.snd =
        ((List.range slotCount).drop 1).flatMap t.slot := by
      rw [printedStints, List.map_flatMap]
      exact congrArg (List.flatMap · _) (funext hslot)
    rw [← hprinted, playerRows, List.map_map, List.map_map]
    rfl
  have hall : t.stintsInOrder = t.slot 0 ++ ((List.range slotCount).drop 1).flatMap t.slot := rfl
  have hperm := t.stintsInOrder_perm.map fun s => BattingColumns.ofCounts s.line.counts
  rw [← hperm.sum_eq, hall, List.map_append, List.sum_append, hrows, add_comm]

/-- The totals of a finished box score are those of all its stints: its own count of at-bats is the
one of the lines. -/
theorem totalColumns_ofGame (h : ofGame g = .ok b) (side : Side) :
    totalColumns (b.team side) =
      ((b.team side).stints.map fun s => BattingColumns.ofCounts s.line.counts).sum := by
  have htotal : battingTotal (b.team side) = (b.team side).battingTotals := by
    rw [battingTotal, battingTotals, List.sum_eq_foldl, List.foldl_map]
    rfl
  have hatBats : (b.team side).atBats = (b.team side).battingTotals.ab := by
    rw [atBats_ofGame h, battingTotals_ofGame BattingCounts.ab rfl (fun _ _ => rfl) h]
    exact (atBatSum_congr fun _ _ => State.ab_battingWorth).symm
  have hsum : ((b.team side).stints.map fun s => BattingColumns.ofCounts s.line.counts).sum =
      .ofCounts (b.team side).battingTotals := by
    rw [battingTotals_eq_balance]
    have hmap := map_list_sum BattingColumns.ofCountsHom
      ((b.team side).stints.map fun s => s.line.counts)
    rw [List.map_map] at hmap
    exact hmap.symm
  rw [hsum, totalColumns, htotal, hatBats]
  rfl

/-- **One slot of the lineup**: what its stints come to is what plays gave to the men who were first
entered in it. -/
theorem sum_slot_ofGame {M : Type} [AddCommMonoid M] (h : ofGame g = .ok b) (side : Side)
    (slot : Nat) (f : BattingCounts →+ M) :
    (((b.team side).slot slot).map fun s => f s.line.counts).sum =
      atBatSum side (fun s p => (Account.battingBy fun x =>
        if g.firstSlot? side x = some slot then f else 0).offense s.situation p) g.plays := by
  have hslots := firstSlot?_ofGame h side
  have hbalance : (Account.battingBy fun x =>
      if g.firstSlot? side x = some slot then f else 0).balance (b.team side) =
        (((b.team side).slot slot).map fun s => f s.line.counts).sum := by
    rw [TeamBox.slot, sum_map_filter]
    refine congrArg List.sum (List.map_congr_left fun s hs => ?_)
    dsimp only
    rw [hslots s hs]
    by_cases hslot : s.slot.val = slot <;> simp [hslot]
  obtain ⟨b₀, hkept, hclose⟩ := exists_kept_of_ofGame h
  rw [← hbalance, Account.balance_close hclose,
    hkept.balance_eq (fun _ => rfl) fun _ => Account.battingBy_defense, atBatSum_zero, add_zero]
  rfl

/-- **What is not printed** comes from the plays that gave something to men who were first entered in
slot 0. -/
theorem sum_slot_zero_ofGame (h : ofGame g = .ok b) (side : Side) :
    (((b.team side).slot 0).map fun s => BattingColumns.ofCounts s.line.counts).sum =
      atBatSum side (State.columnsOf (g.unlisted side)) g.plays := by
  have hweights : (fun x => if g.firstSlot? side x = some 0 then BattingColumns.ofCountsHom else 0) =
      Account.columnsWhere (g.unlisted side) := by
    funext x
    exact if_congr beq_iff_eq.symm rfl rfl
  have hsum := sum_slot_ofGame h side 0 BattingColumns.ofCountsHom
  rw [hweights] at hsum
  exact hsum.trans (atBatSum_congr fun _ _ => Account.offense_columnsWhere)

/-- **What the rows lack** is what plays gave to men who were first entered in slot 0. -/
theorem sum_rows_add_ofGame (h : ofGame g = .ok b) (book : Scorebook) (side : Side) :
    ((playerRows book (b.team side)).map Prod.snd).sum
      + atBatSum side (State.columnsOf (g.unlisted side)) g.plays = totalColumns (b.team side) := by
  rw [← sum_slot_zero_ofGame h, sum_playerRows, totalColumns_ofGame h]

theorem atBatSum_columnsOf_eq_zero_iff {c : String → Bool} {side : Side}
    {qs : List (State × Play)} :
    atBatSum side (State.columnsOf c) qs = 0 ↔
      ∀ q ∈ qs, side = q.1.half → q.1.columnsOf c q.2 = 0 := by
  rw [atBatSum, BattingColumns.sum_eq_zero_iff, List.forall_mem_map]
  refine forall₂_congr fun q _ => ?_
  by_cases hside : side = q.1.half <;> simp [hside]

/-- A section adds up exactly if the stints of slot 0, which it does not print, add up to nothing. -/
theorem addsUp_iff_sum (h : ofGame g = .ok b) (book : Scorebook) (side : Side) :
    AddsUp book (b.team side) ↔
      (((b.team side).slot 0).map fun s => BattingColumns.ofCounts s.line.counts).sum = 0 := by
  rw [AddsUp, totalColumns_ofGame h, ← sum_playerRows book, BattingColumns.eq_add_iff]

/-- **Without a pitcher who does not bat** the section adds up: if nobody of a side is ever entered in
slot 0. -/
theorem addsUp_of_forall_slot_ne_zero (h : ofGame g = .ok b) (book : Scorebook) {side : Side}
    (hbat : ∀ e ∈ g.entrants side g.substitutions, e.2 ≠ 0) : AddsUp book (b.team side) := by
  have hempty : (b.team side).slot 0 = [] := by
    refine List.filter_eq_nil_iff.mpr fun s hs hzero => ?_
    obtain ⟨l₁, l₂, hentrants, -⟩ := List.lookup_eq_some_iff.mp (firstSlot?_ofGame h side s hs)
    have hmem : (s.line.player, s.slot.val) ∈ g.entrants side g.substitutions :=
      hentrants ▸ List.mem_append_right _ List.mem_cons_self
    exact hbat _ hmem (beq_iff_eq.mp hzero)
  rw [addsUp_iff_sum h, hempty]
  rfl

/-- **When a batting section adds up**: exactly if nobody who is not printed has a number in it, which
is to say that no play of the side gives one to a man who was first entered in slot 0. -/
theorem addsUp_iff_ofGame (h : ofGame g = .ok b) (book : Scorebook) (side : Side) :
    battingSection book (b.team side) =
      namedRow (book.teamName (b.team side).team) (cells 4 ["AB", "R", "H", "RBI", "BB", "SO"])
        :: (playerRows book (b.team side)).map (fun (label, numbers) => battingRow label numbers)
        ++ [battingRow "Totals" (totalColumns (b.team side))]
        ++ (if (captions book (b.team side)).isEmpty then []
            else "" :: captions book (b.team side)) ∧
    (AddsUp book (b.team side) ↔
      ∀ s ∈ (b.team side).slot 0, BattingColumns.ofCounts s.line.counts = 0) ∧
    (AddsUp book (b.team side) ↔
      ∀ q ∈ g.plays, side = q.1.half → q.1.columnsOf (g.unlisted side) q.2 = 0) := by
  have hadds := addsUp_iff_sum h book side
  refine ⟨battingSection_eq book _, ?_, ?_⟩
  · rw [hadds, BattingColumns.sum_eq_zero_iff, List.forall_mem_map]
  · rw [hadds, sum_slot_zero_ofGame h, atBatSum_columnsOf_eq_zero_iff]

/-- A lineup of nine with a designated hitter, who bats first, and a pitcher who does not bat. -/
def nineWithHitter (initial : String) : List Starter :=
  (Position.field.map fun p => ⟨initial ++ p.code.repr, if p = .pitcher then 0 else p.code, p⟩)
    ++ [⟨initial ++ "10", 1, .designatedHitter⟩]

/-- The visitors give up their designated hitter: the pitcher takes his place in the order, and
singles. -/
def pitcherBats : Game where
  id := "G1"
  date := default
  visitor := "VIS"
  home := "HOM"
  starters := ⟨nineWithHitter "v", nineWithHitter "h"⟩
  events := [.noPlay [⟨"v1", .visitor, 1, .pitcher⟩], .play (.ofKind .single)]

/-- The section of the hosts adds up, and that of the visitors does not. -/
theorem addsUp_iff_pitcherBats : ∃ b, ofGame pitcherBats = .ok b ∧
    ∀ book, AddsUp book (b.team .home) ∧ ¬AddsUp book (b.team .visitor) := by
  have hmade : (ofGame pitcherBats).toOption.isSome := by decide +kernel
  obtain ⟨b, hb⟩ := Option.isSome_iff_exists.mp hmade
  have hb := toOption_eq_some_iff.mp hb
  refine ⟨b, hb, fun book => ⟨?_, fun hadds => ?_⟩⟩
  · exact (addsUp_iff_ofGame hb book .home).2.2.mpr (by decide +kernel)
  · exact absurd ((addsUp_iff_ofGame hb book .visitor).2.2.mp hadds) (by decide +kernel)

/-- The row of totals has an at-bat and a hit, and the rows of the players have nothing. -/
theorem totals_pitcherBats : ∃ b s, ofGame pitcherBats = .ok b ∧
    s ∈ (b.team .visitor).slot 0 ∧ BattingColumns.ofCounts s.line.counts = ⟨1, 0, 1, 0, 0, 0⟩ ∧
    ∀ book, totalColumns (b.team .visitor) = ⟨1, 0, 1, 0, 0, 0⟩ ∧
      ((playerRows book (b.team .visitor)).map Prod.snd).sum = 0 ∧
        ¬AddsUp book (b.team .visitor) := by
  have hnumbers : (ofGame pitcherBats).toOption.map (fun b =>
      (((b.team .visitor).slot 0).map fun s => BattingColumns.ofCounts s.line.counts,
        totalColumns (b.team .visitor),
        ((printedStints (b.team .visitor)).map fun x =>
          BattingColumns.ofCounts x.2.line.counts).sum)) =
      some ([⟨1, 0, 1, 0, 0, 0⟩], ⟨1, 0, 1, 0, 0, 0⟩, 0) := by decide +kernel
  obtain ⟨b, hb, hnumbers⟩ := Option.map_eq_some_iff.mp hnumbers
  obtain ⟨hslot, htotal, hrows⟩ := by simpa only [Prod.mk.injEq] using hnumbers
  obtain ⟨s, rest, hcons, hs, -⟩ := List.map_eq_cons_iff.mp hslot
  refine ⟨b, s, toOption_eq_some_iff.mp hb, hcons ▸ List.mem_cons_self, hs, fun book => ?_⟩
  have hbook : ((playerRows book (b.team .visitor)).map Prod.snd).sum = 0 := by
    rw [playerRows, List.map_map]
    exact hrows
  refine ⟨htotal, hbook, fun hadds => ?_⟩
  rw [AddsUp, hbook, htotal] at hadds
  exact absurd hadds (by decide)

end BoxScore

end Baseball
