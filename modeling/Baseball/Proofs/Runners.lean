import Baseball.Live.Bases
import Mathlib.Data.List.Nodup
import Mathlib.Data.List.Perm.Basic

/-!
# Where the men of a play end up

A play moves the runners and, if his plate appearance ends, the batter. Each of them is out, stands
on a base or has scored. If no two are sent to the same base, none of them gets lost:
`Bases.advance` lets a man who moves later take the place of one who moved before, and this is the
only way in which a man can disappear.

## Main definitions

* `Bases.movers` — where the men stand whom a play moves
* `Bases.destinations` — the bases they are sent to

## Main results

* `Bases.get_advance`, `Bases.isSome_get_advance` — who stands on a base after a play, and that a
  base is occupied exactly if somebody was sent there
* `Bases.count_add_batter` — runs, outs and the men left on base add up to the men who were moved
* `Bases.get_rename` — a pinch runner stands where the man he replaces stood
-/

namespace Baseball

namespace Bases

variable {bs : Bases} {batter? : Option Runner} {completed : Bool} {moves : ByOrigin Destination}

/-- Where the men stand whom a play moves: on the occupied bases, and at the plate if the batter's
plate appearance ends. -/
def movers (bs : Bases) (completed : Bool) : List Origin :=
  Origin.all.filter fun
    | .plate => completed
    | .on b => (bs.get b).isSome

/-- The bases to which these men are sent. -/
def destinations (bs : Bases) (completed : Bool) (moves : ByOrigin Destination) : List Base :=
  (bs.movers completed).filterMap fun o => (moves.get o).base?

/-! ### Counting -/

theorem mem_movers {o : Origin} (h : batter?.isSome = completed) :
    o ∈ bs.movers completed ↔ (bs.man? batter? o).isSome := by
  subst h
  cases o <;> simp [movers, man?]

theorem runs_eq_countP (h : batter?.isSome = completed) :
    bs.runs batter? moves = (bs.movers completed).countP fun o => (moves.get o).isRun := by
  subst h
  rw [runs, movers, List.countP_filter]
  refine List.countP_congr fun o _ => ?_
  cases o <;> simp [man?, and_comm]

theorem count_eq_countP (bs : Bases) : bs.count = Base.all.countP fun b => (bs.get b).isSome := by
  rw [count, toList, List.length_filterMap_eq_countP]

theorem length_movers (bs : Bases) (completed : Bool) :
    (bs.movers completed).length = bs.count + completed.toNat := by
  rw [count_eq_countP, movers, ← List.countP_eq_length_filter]
  cases completed <;> simp [Origin.all, Base.all, List.countP_cons]

/-- Every destination is out, a base or a run. -/
theorem length_eq_outs_add_runs_add_bases (os : List Origin) (moves : ByOrigin Destination) :
    os.length = (os.countP fun o => moves.get o == .out) + (os.countP fun o => (moves.get o).isRun)
      + (os.filterMap fun o => (moves.get o).base?).length := by
  rw [List.length_filterMap_eq_countP]
  induction os with
  | nil => rfl
  | cons o os ih =>
    simp only [List.length_cons, List.countP_cons, ih]
    cases moves.get o <;> simp [Destination.isRun, Destination.base?] <;> omega

/-! ### The bases after a play -/

theorem get_settle (bs : Bases) (man : Option Runner) (d : Destination) (b : Base) :
    (bs.settle man d).get b = if man.isSome ∧ d.base? = some b then man else bs.get b := by
  rcases man with _ | r
  · simp [settle]
  · rcases hd : d.base? with _ | c
    · simp [settle, hd]
    · simp [settle, hd, get_place, eq_comm]

theorem get_settle_eq_or (bs : Bases) (man : Option Runner) (d : Destination) (b : Base) :
    (bs.settle man d).get b = (if d.base? = some b then man else none).or (bs.get b) := by
  rw [get_settle]
  cases man <;> by_cases hd : d.base? = some b <;> simp [hd]

/-- **Who stands on a base after a play**: of the men sent there, the one who moved last. -/
theorem get_advance (bs : Bases) (batter? : Option Runner) (moves : ByOrigin Destination)
    (b : Base) :
    (bs.advance batter? moves).get b = Origin.all.findSome? fun o =>
      if (moves.get o).base? = some b then bs.man? batter? o else none := by
  have hcons (f : Origin → Option Runner) (o : Origin) (os : List Origin) :
      (o :: os).findSome? f = (f o).or (os.findSome? f) := by
    rw [List.findSome?_cons]
    cases f o <;> rfl
  simp only [advance, get_settle_eq_or, get_empty, Origin.all, hcons, List.findSome?_nil]
  rfl

theorem isSome_get_settle (bs : Bases) (man : Option Runner) (d : Destination) (b : Base) :
    ((bs.settle man d).get b).isSome ↔ (bs.get b).isSome ∨ man.isSome ∧ d.base? = some b := by
  rw [get_settle]
  split
  · next h => simp [h]
  · next h => simp [h]

/-- **A base is occupied after a play exactly if somebody was sent there.** -/
theorem isSome_get_advance (h : batter?.isSome = completed) (b : Base) :
    ((bs.advance batter? moves).get b).isSome ↔ b ∈ bs.destinations completed moves := by
  subst h
  simp only [advance, isSome_get_settle, get_empty, Option.isSome_none, destinations,
    List.mem_filterMap, mem_movers rfl]
  constructor
  · rintro ((((hno | h) | h) | h) | h)
    · cases hno
    · exact ⟨.on .third, h⟩
    · exact ⟨.on .second, h⟩
    · exact ⟨.on .first, h⟩
    · exact ⟨.plate, h⟩
  · rintro ⟨_ | (_ | _ | _), h⟩
    · exact .inr h
    · exact .inl (.inr h)
    · exact .inl (.inl (.inr h))
    · exact .inl (.inl (.inl (.inr h)))

/-- Whoever stands on a base after a play batted or was on base before it. -/
theorem man_of_get_advance {b : Base} {r : Runner} (h : (bs.advance batter? moves).get b = some r) :
    batter? = some r ∨ ∃ c, bs.get c = some r := by
  simp only [advance, get_settle, get_empty] at h
  split at h
  · exact .inl h
  · split at h
    · exact .inr ⟨.first, h⟩
    · split at h
      · exact .inr ⟨.second, h⟩
      · split at h
        · exact .inr ⟨.third, h⟩
        · cases h

theorem count_advance (h : batter?.isSome = completed)
    (apart : (bs.destinations completed moves).Nodup) :
    (bs.advance batter? moves).count = (bs.destinations completed moves).length := by
  have hperm : (bs.destinations completed moves).Perm
      (Base.all.filter fun b => ((bs.advance batter? moves).get b).isSome) := by
    refine (List.perm_ext_iff_of_nodup apart (List.Nodup.filter _ (by decide))).mpr fun b => ?_
    rw [List.mem_filter, isSome_get_advance h]
    simp
  rw [count_eq_countP, List.countP_eq_length_filter, hperm.length_eq]

/-- **Nobody gets lost.** If no two men are sent to one base, the men of a play are those who are
out, those who score and those who are on base afterwards. -/
theorem count_add_batter (h : batter?.isSome = completed)
    (apart : (bs.destinations completed moves).Nodup) :
    bs.count + completed.toNat = ((bs.movers completed).countP fun o => moves.get o == .out)
      + bs.runs batter? moves + (bs.advance batter? moves).count := by
  rw [← length_movers, length_eq_outs_add_runs_add_bases _ moves, ← runs_eq_countP h,
    count_advance h apart]
  rfl

theorem count_empty : ({} : Bases).count = 0 := rfl

theorem count_eq_zero_of_isEmpty (h : bs.isEmpty) : bs.count = 0 := by
  rw [isEmpty_iff.mp h, count_empty]

/-! ### Pinch runners -/

/-- **A pinch runner stands where the man he replaces stood**, and answers for the same pitcher. -/
theorem get_rename (bs : Bases) (old new : String) (b : Base) :
    (bs.rename old new).get b
      = (bs.get b).map fun r => if r.player = old then { r with player := new } else r := by
  cases b <;> rfl

end Bases

end Baseball
