import Baseball.Play.Amendment
import Mathlib.Logic.Basic

/-!
# The order of amendments

Outs and runs batted in are derived from where a play sends the men. A change that moves a man
counts them anew, a double play on the ground clears the runs batted in, and the others leave them
alone. Unless a scorer states the two numbers outright, they are at every moment the ones that
follow from the play as it stands, so nothing depends on when they were last counted: two changes
can trade places unless they write the same entry, or add to the same list.

## Main definitions

* `Play.Amendment.statesCount` — whether a change states outs or runs batted in
* `Play.Amendment.clashes` — whether two changes write the same entry or add to the same list
* `Play.Counted` — whether outs and runs batted in are those that follow from the advance

## Main results

* `Play.Counted.amend`, `Play.counted_amendAll` — what the changes preserve
* `Play.amend_comm_iff` — which changes trade places
* `Play.ofKind_amendAll` — the counts of an amended play, whatever the order of the amendments
-/

namespace Baseball

/-- An entry is not changed by setting two of them to one value in another order. -/
theorem ByOrigin.set_comm_of_eq {α : Type} (t : ByOrigin α) (o r : Origin) (x : α) :
    (t.set o x).set r x = (t.set r x).set o x := by
  rcases eq_or_ne o r with rfl | h
  · rfl
  · exact t.set_comm h x x

namespace Play

namespace Amendment

/-- Whether a change states the number of outs or of runs batted in. -/
def statesCount : Amendment → Bool
  | .outs _ | .rbi _ => true
  | _ => false

/-- Whether two changes write the same entry of a play, or add to the same list: then the later one
overrides the earlier one, or comes behind it. -/
def clashes : Amendment → Amendment → Bool
  | .advance o _, .advance r _ => o == r
  | .text _, .text _ | .fieldedBy _, .fieldedBy _ => true
  | .error _, .error _ | .putout _, .putout _ | .assist _, .assist _ => true
  | _, _ => false

end Amendment

variable {p : Play} {a b : Amendment} {as : List Amendment}

/-! ### The counts -/

/-- The outs of the batter and of the runners, one by one. -/
theorem outsInAdvance_eq (p : Play) :
    p.outsInAdvance = (if p.batterEvent ∧ p.advance.plate = .out then 1 else 0) +
      Base.all.countP fun b => p.advance.get (.on b) == .out := by
  have hrunners : [Origin.on .first, .on .second, .on .third] = Base.all.map Origin.on := rfl
  rw [outsInAdvance, Origin.all, List.countP_cons, hrunners, List.countP_map, Nat.add_comm]
  congr 1
  exact if_congr (by simp [concerns, ByOrigin.get]) rfl rfl

/-- Whether outs and runs batted in are the ones that follow from the advance. -/
structure Counted (p : Play) : Prop where
  outs_eq : p.outs = p.outsInAdvance
  rbi_eq : p.rbi = p.rbiInAdvance

theorem counted_recount (p : Play) : p.recount.Counted := ⟨rfl, rfl⟩

theorem counted_ofKind (kind : PlayKind) : (ofKind kind).Counted := counted_recount _

/-- A change that does not state the counts leaves them right: it either counts anew, or does not
touch what they are derived from. -/
theorem Counted.amend (hp : p.Counted) (ha : ¬a.statesCount) : (p.amend a).Counted := by
  cases a with
  | advance o d => exact counted_recount _
  | outs n => exact absurd rfl ha
  | rbi n => exact absurd rfl ha
  | groundedIntoDoublePlay =>
    -- the one change that reaches the condition under which runs are batted in
    refine ⟨hp.outs_eq, ?_⟩
    simp [Play.amend, rbiInAdvance]
  | _ => exact ⟨hp.outs_eq, hp.rbi_eq⟩

theorem counted_amendAll (hp : p.Counted) (has : ∀ a ∈ as, ¬a.statesCount) :
    (p.amendAll as).Counted := by
  induction as generalizing p with
  | nil => exact hp
  | cons a as ih =>
    rw [amendAll_cons]
    exact ih (hp.amend (has a List.mem_cons_self)) fun b hb => has b (List.mem_cons_of_mem a hb)

/-! ### Trading places -/

/-- It makes no difference whether the counts are made before or after a double play on the ground:
nothing is batted in either way. -/
theorem recount_groundedIntoDoublePlay (p : Play) :
    (p.amend .groundedIntoDoublePlay).recount = p.recount.amend .groundedIntoDoublePlay := by
  have hrbi : (p.amend .groundedIntoDoublePlay).rbiInAdvance = 0 := by
    simp [rbiInAdvance, amend]
  rw [recount, hrbi]
  rfl

/-- Two changes that do not clash can be made in either order. -/
theorem amend_comm (p : Play) (ha : ¬a.statesCount) (hb : ¬b.statesCount) (h : ¬a.clashes b) :
    (p.amend a).amend b = (p.amend b).amend a := by
  cases a with
  | outs n => exact absurd rfl ha
  | rbi n => exact absurd rfl ha
  | advance o d =>
    cases b with
    | outs n => exact absurd rfl hb
    | rbi n => exact absurd rfl hb
    | advance r e =>
      have hne : o ≠ r := by simpa [Amendment.clashes] using h
      show recount { p with advance := (p.advance.set o d).set r e } =
        recount { p with advance := (p.advance.set r e).set o d }
      rw [ByOrigin.set_comm _ hne]
    | groundedIntoDoublePlay =>
      exact (recount_groundedIntoDoublePlay { p with advance := p.advance.set o d }).symm
    | _ => rfl
  | groundedIntoDoublePlay =>
    cases b with
    | rbi n => exact absurd rfl hb
    | advance r e => exact recount_groundedIntoDoublePlay { p with advance := p.advance.set r e }
    | _ => rfl
  | stolenBase o =>
    cases b with
    | stolenBase r => simp only [amend, ByOrigin.set_comm_of_eq _ o r]
    | _ => rfl
  | caughtStealing o =>
    cases b with
    | caughtStealing r => simp only [amend, ByOrigin.set_comm_of_eq _ o r]
    | _ => rfl
  | text | fieldedBy | error | putout | assist =>
    cases b <;> first | rfl | exact absurd rfl h
  | _ => cases b <;> rfl

/-- Two changes that clash trade places only if they are the same change. -/
theorem eq_of_amend_comm (h : (p.amend a).amend b = (p.amend b).amend a) (hab : a.clashes b) :
    a = b := by
  cases a with
  | advance o d =>
    cases b with
    | advance r e =>
      obtain rfl : o = r := by simpa [Amendment.clashes] using hab
      have hsame : e = d := by
        simpa [amend, recount, ByOrigin.get_set] using congrArg (fun q => q.advance.get o) h
      rw [hsame]
    | _ => cases hab
  | text | fieldedBy | error | putout | assist =>
    cases b <;> cases hab
    simpa [amend, eq_comm] using h
  | _ => cases b <;> cases hab

/-- **Which changes trade places.** Two changes that leave the counts to the advance can be made in
either order exactly if they do not clash or are the same. -/
theorem amend_comm_iff (p : Play) (ha : ¬a.statesCount) (hb : ¬b.statesCount) :
    (p.amend a).amend b = (p.amend b).amend a ↔ (a.clashes b → a = b) := by
  constructor
  · exact eq_of_amend_comm
  · intro h
    by_cases hab : a.clashes b
    · rw [h hab]
    · exact amend_comm p ha hb hab

/-! ### The amended play -/

/-- **The counts of an amended play.** If no amendment states them, its outs are those of the
batter and the runners whom the play retires and its runs batted in are its runs, or none; and two
adjacent amendments that do not clash can be exchanged. -/
theorem ofKind_amendAll (kind : PlayKind) (as : List Amendment) (has : ∀ a ∈ as, ¬a.statesCount) :
    let p := (ofKind kind).amendAll as
    p.outs = (if p.batterEvent ∧ p.advance.plate = .out then 1 else 0) +
        (Base.all.countP fun b => p.advance.get (.on b) == .out) ∧
      p.rbi = (if p.batterEvent ∧ p.kind ≠ .error ∧ ¬p.groundedIntoDoublePlay then p.runs else 0) ∧
      ∀ before a b after, as = before ++ a :: b :: after → ¬a.clashes b →
        (ofKind kind).amendAll (before ++ b :: a :: after) = p := by
  have hcounted := counted_amendAll (counted_ofKind kind) has
  refine ⟨hcounted.outs_eq.trans (outsInAdvance_eq _), hcounted.rbi_eq.trans ?_, ?_⟩
  · rw [rbiInAdvance]
    exact if_congr (by simp [and_assoc]) rfl rfl
  · rintro before a b after rfl hab
    have ha : ¬a.statesCount := has a (by simp)
    have hb : ¬b.statesCount := has b (by simp)
    rw [amendAll_append, amendAll_append, amendAll_cons, amendAll_cons, amendAll_cons,
      amendAll_cons, amend_comm _ ha hb hab]

/-- A double play on the ground, shortstop to second to first, on which the runner from third
scores: two outs, nothing batted in, and the runner may be retired before the double play is
noted. -/
theorem ofKind_amendAll_doublePlay :
    let credits : List Amendment :=
      [.assist .shortstop, .putout .secondBase, .assist .secondBase, .putout .firstBase]
    let as : List Amendment :=
      .advance (.on .third) .scored :: .groundedIntoDoublePlay :: .advance (.on .first) .out ::
        credits
    let p := (ofKind .genericOut).amendAll as
    (∀ a ∈ as, ¬a.statesCount) ∧ p.outs = 2 ∧ p.rbi = 0 ∧
      (ofKind .genericOut).amendAll (.advance (.on .third) .scored ::
        .advance (.on .first) .out :: .groundedIntoDoublePlay :: credits) = p := by
  intro credits as p
  have has : ∀ a ∈ as, ¬a.statesCount := by decide
  obtain ⟨houts, hrbi, hswap⟩ := ofKind_amendAll .genericOut as has
  refine ⟨has, houts.trans (by decide), hrbi.trans (by decide), ?_⟩
  exact hswap [.advance (.on .third) .scored] .groundedIntoDoublePlay (.advance (.on .first) .out)
    credits rfl (by decide)

end Play

end Baseball
