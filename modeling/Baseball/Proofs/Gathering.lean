import Baseball.Report.Register
import Mathlib.Algebra.BigOperators.Group.List.Basic
import Mathlib.Algebra.Order.Ring.Nat
import Mathlib.Data.List.Perm.Basic

/-!
# Gathering values under keys

Registers, totals and standings come about in one way: values are brought into a table one after the
other, each under its key, and where the key is bound already the two values are joined. What a key
is bound to in the end is then the join of the values that came under it, in the order in which they
came. If joining is associative, the values may be gathered in groups and the tables merged. If the
values that come under one key may change places, so may all of them.

## Main definitions

* `Keyed.contribute` — brings a value in under a key
* `Keyed.gather` — the table of some values
* `Keyed.joinAll` — some values joined into one

## Main results

* `Keyed.sum_entries_foldl` — what the entries of a table come to
* `Keyed.get?_merge`, `Keyed.get?_gather` — a merged table and a gathered one, key by key
* `Keyed.gather_append` — values gathered in groups
* `Keyed.gather_perm` — values gathered in another order
* `Keyed.sum_foldl_contribute` — a count that joining adds up
* `Register.ofList_append`, `Register.ofList_perm` — the same for the lines of registers
* `Register.sum_toList_ofList` — what the lines of a register come to
-/

namespace Baseball

/-- A sum over what is selected is a sum in which the rest counts for nothing. -/
theorem sum_map_filter {α M : Type} [AddCommMonoid M] (keep : α → Bool) (f : α → M) (l : List α) :
    ((l.filter keep).map f).sum = (l.map fun a => if keep a then f a else 0).sum := by
  rw [List.sum_map_ite, List.map_const', List.sum_replicate, nsmul_zero, add_zero]
  simp

theorem sum_map_flatMap {α β M : Type} [AddCommMonoid M] (f : α → List β) (c : β → M)
    (l : List α) : ((l.flatMap f).map c).sum = (l.map fun a => ((f a).map c).sum).sum := by
  induction l with
  | nil => rfl
  | cons a l ih =>
    rw [List.flatMap_cons, List.map_append, List.sum_append, ih, List.map_cons, List.sum_cons]

/-- Pairs of which something holds are counted from either side. -/
theorem sum_countP_comm {α β : Type} (p : α → β → Bool) (as : List α) (bs : List β) :
    (as.map fun a => bs.countP (p a)).sum = (bs.map fun b => as.countP (p · b)).sum := by
  induction as with
  | nil => simp
  | cons a as ih =>
    have hone : bs.countP (p a) = (bs.map fun b => if p a b then 1 else 0).sum := by
      rw [← sum_map_filter, List.countP_eq_length_filter]
      simp
    simp only [List.map_cons, List.sum_cons, List.countP_cons, ih, hone, List.sum_map_add]
    exact Nat.add_comm ..

/-- Joining adds up what is joined, if it does so for two. -/
theorem map_foldl_join {ν M : Type} [AddCommMonoid M] {f : ν → ν → ν} {c : ν → M}
    (hc : ∀ a b, c (f a b) = c a + c b) (v : ν) (vs : List ν) :
    c (vs.foldl f v) = c v + (vs.map c).sum := by
  induction vs generalizing v with
  | nil => exact (add_zero _).symm
  | cons u vs ih => rw [List.foldl_cons, ih, hc, List.map_cons, List.sum_cons, add_assoc]

namespace Keyed

section Entries

variable {κ ν : Type} [Ord κ] [Std.LawfulEqOrd κ]

/-- Changing a key changes the one entry that it has, or brings one in. -/
theorem upsertIn_perm (k : κ) (f : Option ν → ν) (l : List (κ × ν)) :
    (∃ v rest, l.Perm ((k, v) :: rest) ∧ (upsertIn k f l).Perm ((k, f (some v)) :: rest)) ∨
      (upsertIn k f l).Perm ((k, f none) :: l) := by
  induction l with
  | nil => exact .inr (.refl _)
  | cons e l ih =>
    rw [upsertIn]
    split
    next => exact .inr (.refl _)
    next hsame =>
      obtain rfl : k = e.1 := Std.LawfulEqCmp.compare_eq_iff_eq.mp hsame
      exact .inl ⟨e.2, l, .refl _, .refl _⟩
    next =>
      rcases ih with ⟨v, rest, hold, hnew⟩ | hnew
      · exact .inl ⟨v, e :: rest, (hold.cons e).trans (.swap ..), (hnew.cons e).trans (.swap ..)⟩
      · exact .inr ((hnew.cons e).trans (.swap ..))

variable [DecidableEq κ] {t : Keyed κ ν}

theorem lookup_cons (k : κ) (e : κ × ν) (l : List (κ × ν)) :
    lookup k (e :: l) = if k = e.1 then some e.2 else lookup k l := by
  simp only [lookup, Std.LawfulEqCmp.compare_eq_iff_eq]

/-- What an entry binds its key to. -/
theorem get?_of_mem_entries {e : κ × ν} (h : e ∈ t.entries) : t.get? e.1 = some e.2 := by
  rcases t with ⟨l, hl⟩
  change lookup e.1 l = some e.2
  induction l with
  | nil => cases h
  | cons d l ih =>
    obtain ⟨head, tail⟩ := List.pairwise_cons.mp hl
    rw [lookup_cons]
    rcases List.mem_cons.mp h with rfl | hmem
    · exact if_pos rfl
    · have hne : e.1 ≠ d.1 := by
        intro hsame
        have hbefore : compare d.1 e.1 = .lt := head e.1 (List.mem_map_of_mem hmem)
        cases hbefore.symm.trans (Std.LawfulEqCmp.compare_eq_iff_eq.mpr hsame.symm)
      rw [if_neg hne]
      exact ih tail hmem

/-- The entries say what keys are bound to, and nothing else. -/
theorem mem_entries_iff {e : κ × ν} : e ∈ t.entries ↔ t.get? e.1 = some e.2 := by
  refine ⟨get?_of_mem_entries, fun h => ?_⟩
  rcases t with ⟨l, hl⟩
  change lookup e.1 l = some e.2 at h
  induction l with
  | nil => cases h
  | cons d l ih =>
    rw [lookup_cons] at h
    split at h
    · next hsame => exact List.mem_cons.mpr (.inl (Prod.ext hsame (Option.some.inj h).symm))
    · exact List.mem_cons_of_mem d (ih (List.pairwise_cons.mp hl).2 h)

end Entries

section Gather

variable {κ ν : Type} [Ord κ] [Std.TransOrd κ] {f : ν → ν → ν} {t : Keyed κ ν}
  {es es' : List (κ × ν)}

/-- Brings a value in under a key, joining with `f` if the key is bound already. -/
def contribute (f : ν → ν → ν) (t : Keyed κ ν) (e : κ × ν) : Keyed κ ν :=
  t.upsert e.1 fun old => (old.map (f · e.2)).getD e.2

/-- The table of some values under their keys. -/
def gather (f : ν → ν → ν) (es : List (κ × ν)) : Keyed κ ν := es.foldl (contribute f) ∅

/-- Some values joined into one, the first with the second and so on; nothing if there is none. -/
def joinAll (f : ν → ν → ν) : List ν → Option ν
  | [] => none
  | v :: vs => some (vs.foldl f v)

theorem isSome_joinAll {vs : List ν} : (joinAll f vs).isSome ↔ vs ≠ [] := by
  cases vs <;> simp [joinAll]

/-- Lists are joined one after the other. -/
theorem joinAll_singletons {α : Type} (as : List α) :
    joinAll (· ++ ·) (as.map fun a => [a]) = if as = [] then none else some as := by
  cases as with
  | nil => rfl
  | cons a as =>
    rw [if_neg (List.cons_ne_nil _ _), List.map_cons, joinAll, List.foldl_map,
      List.foldl_append_eq_append, ← List.flatMap_def, List.flatMap_singleton']
    rfl

theorem apply_of_joinAll {M : Type} [AddCommMonoid M] {c : ν → M}
    (hc : ∀ a b, c (f a b) = c a + c b) {vs : List ν} {v : ν} (h : joinAll f vs = some v) :
    c v = (vs.map c).sum := by
  cases vs with
  | nil => cases h
  | cons u vs =>
    obtain rfl := Option.some.inj h
    rw [map_foldl_join hc, List.map_cons, List.sum_cons]

variable [Std.LawfulEqOrd κ]

/-! ### Entry by entry -/

/-- A value that is brought in adds what it weighs to what the entries weigh. -/
theorem sum_entries_contribute {M : Type} [AddCommMonoid M] {w : κ → ν → M}
    (hw : ∀ k a b, w k (f a b) = w k a + w k b) (t : Keyed κ ν) (e : κ × ν) :
    ((t.contribute f e).entries.map fun d => w d.1 d.2).sum =
      (t.entries.map fun d => w d.1 d.2).sum + w e.1 e.2 := by
  rcases upsertIn_perm e.1 (fun old => (old.map (f · e.2)).getD e.2) t.entries with
    ⟨v, rest, hold, hnew⟩ | hnew
  · rw [(hold.map _).sum_eq, contribute, upsert, (hnew.map _).sum_eq, List.map_cons, List.sum_cons,
      List.map_cons, List.sum_cons, add_right_comm]
    exact congrArg (· + _) (hw e.1 v e.2)
  · rw [contribute, upsert, (hnew.map _).sum_eq, List.map_cons, List.sum_cons, add_comm]
    rfl

/-- **What the entries of a table weigh** is what the values weigh that were brought in. -/
theorem sum_entries_foldl {M : Type} [AddCommMonoid M] {w : κ → ν → M}
    (hw : ∀ k a b, w k (f a b) = w k a + w k b) (t : Keyed κ ν) (es : List (κ × ν)) :
    ((es.foldl (contribute f) t).entries.map fun d => w d.1 d.2).sum =
      (t.entries.map fun d => w d.1 d.2).sum + (es.map fun d => w d.1 d.2).sum := by
  induction es generalizing t with
  | nil => exact (add_zero _).symm
  | cons e es ih =>
    rw [List.foldl_cons, ih, sum_entries_contribute hw, List.map_cons, List.sum_cons, add_assoc]

variable [DecidableEq κ]

/-! ### Key by key -/

theorem get?_contribute (f : ν → ν → ν) (t : Keyed κ ν) (e : κ × ν) (k : κ) :
    (t.contribute f e).get? k = (t.get? k).merge f (if k = e.1 then some e.2 else none) := by
  rw [contribute, get?_upsert]
  by_cases h : k = e.1
  · rw [if_pos h, if_pos h, h]
    cases t.get? e.1 <;> rfl
  · rw [if_neg h, if_neg h, Option.merge_none_right]

/-- **A merged table**, key by key. -/
theorem get?_merge (f : ν → ν → ν) (t s : Keyed κ ν) (k : κ) :
    (t.merge f s).get? k = (t.get? k).merge f (s.get? k) := by
  rcases s with ⟨l, hl⟩
  change (l.foldl (contribute f) t).get? k = (t.get? k).merge f (lookup k l)
  induction l generalizing t with
  | nil => exact Option.merge_none_right.symm
  | cons e l ih =>
    obtain ⟨head, tail⟩ := List.pairwise_cons.mp hl
    rw [List.foldl_cons, ih _ tail, get?_contribute, lookup_cons]
    by_cases h : k = e.1
    · rw [if_pos h, if_pos h, h, lookup_eq_none_of_before head, Option.merge_none_right]
    · rw [if_neg h, if_neg h, Option.merge_none_right]

theorem foldl_merge_some (f : ν → ν → ν) (v : ν) (vs : List ν) :
    vs.foldl (fun o v => o.merge f (some v)) (some v) = some (vs.foldl f v) :=
  List.foldl_hom some fun _ _ => rfl

/-- **What a key is bound to** is the join of the values that came under it, in order. -/
theorem get?_gather (f : ν → ν → ν) (es : List (κ × ν)) (k : κ) :
    (gather f es).get? k = joinAll f ((es.filter (·.1 = k)).map Prod.snd) := by
  have hfold (t : Keyed κ ν) : (es.foldl (contribute f) t).get? k =
      ((es.filter (·.1 = k)).map Prod.snd).foldl (fun o v => o.merge f (some v)) (t.get? k) := by
    induction es generalizing t with
    | nil => rfl
    | cons e es ih =>
      rw [List.foldl_cons, ih, get?_contribute]
      by_cases h : e.1 = k
      · rw [List.filter_cons_of_pos (by simpa using h), if_pos h.symm]
        rfl
      · rw [List.filter_cons_of_neg (by simpa using h), if_neg (Ne.symm h),
          Option.merge_none_right]
  rw [gather, hfold, get?_empty]
  cases (es.filter (·.1 = k)).map Prod.snd with
  | nil => rfl
  | cons v vs => exact foldl_merge_some f v vs

/-- A key under which something came is bound. -/
theorem exists_get?_gather {f : ν → ν → ν} {k : κ} (h : k ∈ es.map Prod.fst) :
    ∃ v, (gather f es).get? k = some v := by
  obtain ⟨e, he, rfl⟩ := List.mem_map.mp h
  rw [get?_gather]
  cases hjoin : (es.filter (·.1 = e.1)).map Prod.snd with
  | nil =>
    have hmem : e ∈ es.filter (·.1 = e.1) := List.mem_filter.mpr ⟨he, decide_eq_true rfl⟩
    rw [List.map_eq_nil_iff.mp hjoin] at hmem
    cases hmem
  | cons v vs => exact ⟨_, rfl⟩

/-- What is bound to a key came under this key, joined with others or not. -/
theorem property_of_get?_foldl {P : κ → ν → Prop} (hjoin : ∀ k a b, P k a → P k (f a b))
    (ht : ∀ k v, t.get? k = some v → P k v) (hes : ∀ e ∈ es, P e.1 e.2) :
    ∀ k v, (es.foldl (contribute f) t).get? k = some v → P k v := by
  induction es generalizing t with
  | nil => exact ht
  | cons e es ih =>
    obtain ⟨he, hrest⟩ := List.forall_mem_cons.mp hes
    refine ih (fun k v hv => ?_) hrest
    rw [contribute, get?_upsert] at hv
    split at hv
    · next hk =>
      subst hk
      rw [← Option.some.inj hv]
      cases hold : t.get? e.1 with
      | none => exact he
      | some old => exact hjoin e.1 old e.2 (ht e.1 old hold)
    · exact ht k v hv

/-! ### In groups -/

section Associative

variable [Std.Associative f]

/-- To bring values into a table is to gather them first, and then to merge. -/
theorem foldl_contribute (t : Keyed κ ν) (es : List (κ × ν)) :
    es.foldl (contribute f) t = t.merge f (gather f es) := by
  refine Keyed.ext fun k => ?_
  rw [get?_merge]
  induction es generalizing t with
  | nil => exact Option.merge_none_right.symm
  | cons e es ih =>
    have hempty : ((∅ : Keyed κ ν).contribute f e).get? k = if k = e.1 then some e.2 else none := by
      rw [get?_contribute, get?_empty, Option.merge_none_left]
    have hcons : gather f (e :: es) = es.foldl (contribute f) (contribute f ∅ e) := rfl
    rw [List.foldl_cons, ih, hcons, ih, hempty, get?_contribute]
    exact Std.Associative.assoc ..

/-- **Values gathered in groups.** -/
theorem gather_append (as bs : List (κ × ν)) :
    gather f (as ++ bs) = (gather f as).merge f (gather f bs) := by
  rw [gather, List.foldl_append, foldl_contribute]
  rfl

/-! ### In another order -/

/-- Two values may change places if they can be joined either way, should they come under one
key. -/
theorem contribute_right_comm {a b : κ × ν} (h : a.1 = b.1 → f a.2 b.2 = f b.2 a.2)
    (t : Keyed κ ν) : (t.contribute f a).contribute f b = (t.contribute f b).contribute f a := by
  refine Keyed.ext fun k => ?_
  have hassoc : Std.Associative (Option.merge f) := inferInstance
  simp only [get?_contribute, hassoc.assoc]
  refine congrArg _ ?_
  by_cases ha : k = a.1
  · by_cases hb : k = b.1
    · simp only [if_pos ha, if_pos hb, Option.merge_some_some, h (ha.symm.trans hb)]
    · rw [if_neg hb, Option.merge_none_left, Option.merge_none_right]
  · rw [if_neg ha, Option.merge_none_left, Option.merge_none_right]

/-- **Values gathered in another order**, if those that come under one key can be joined either
way. -/
theorem gather_perm (hcomm : ∀ a ∈ es, ∀ b ∈ es, a.1 = b.1 → f a.2 b.2 = f b.2 a.2)
    (h : es.Perm es') : gather f es = gather f es' :=
  h.foldl_eq' (fun a ha b hb t => contribute_right_comm (hcomm a ha b hb) t) ∅

end Associative

/-! ### Counts that add up -/

/-- **A count that joining adds up** is a sum over the values that came under the key. -/
theorem sum_foldl_contribute {M : Type} [AddCommMonoid M] {c : ν → M}
    (hc : ∀ a b, c (f a b) = c a + c b) (t : Keyed κ ν) (es : List (κ × ν)) (k : κ) :
    ((es.foldl (contribute f) t).get? k).elim 0 c =
      (t.get? k).elim 0 c + (es.map fun e => if e.1 = k then c e.2 else 0).sum := by
  induction es generalizing t with
  | nil => exact (add_zero _).symm
  | cons e es ih =>
    rw [List.foldl_cons, ih, List.map_cons, List.sum_cons, ← add_assoc, get?_contribute]
    refine congrArg (· + _) ?_
    by_cases h : e.1 = k
    · rw [if_pos h, if_pos h.symm]
      cases t.get? k with
      | none => exact (zero_add _).symm
      | some v => exact hc v e.2
    · rw [if_neg h, if_neg fun hk => h hk.symm, Option.merge_none_right, add_zero]

end Gather

end Keyed

/-! ### Sets of identifiers -/

namespace IdSet

theorem union_comm (s t : IdSet) : s.union t = t.union s := by
  have hcomm : Std.Commutative fun (_ _ : Unit) => () := ⟨fun _ _ => rfl⟩
  refine Keyed.ext fun k => ?_
  rw [union, union, Keyed.get?_merge, Keyed.get?_merge]
  exact Std.Commutative.comm ..

theorem union_assoc (s t u : IdSet) : (s.union t).union u = s.union (t.union u) := by
  have hassoc : Std.Associative fun (_ _ : Unit) => () := ⟨fun _ _ _ => rfl⟩
  refine Keyed.ext fun k => ?_
  simp only [union, Keyed.get?_merge]
  exact Std.Associative.assoc ..

instance : Zero IdSet := ⟨∅⟩

instance : Add IdSet := ⟨union⟩

/-- Sets add up by union, as counts do number by number. -/
instance : AddCommMonoid IdSet where
  add_assoc := union_assoc
  add_comm := union_comm
  zero_add s := union_comm ∅ s
  add_zero _ := rfl
  nsmul := nsmulRec

/-- The union of some sets is their sum. -/
theorem sum_eq_foldl (ss : List IdSet) : ss.sum = ss.foldl union ∅ := List.sum_eq_foldl

/-! #### How many there are -/

/-- One that is not there yet makes a set larger by one. -/
theorem size_singleton_add {id : String} {s : IdSet} (h : s.get? id = none) :
    (singleton id + s).size = s.size + 1 := by
  rw [add_comm]
  rcases Keyed.upsertIn_perm id (fun old => (old.map fun _ => ()).getD ()) s.entries with
    ⟨v, rest, hold, -⟩ | hnew
  · have hmem : (id, v) ∈ s.entries := hold.mem_iff.mpr List.mem_cons_self
    cases h.symm.trans (Keyed.get?_of_mem_entries hmem)
  · exact hnew.length_eq

theorem get?_sum_singletons {id : String} {ids : List String} (h : id ∉ ids) :
    (ids.map singleton).sum.get? id = none := by
  induction ids with
  | nil => rfl
  | cons a ids ih =>
    obtain ⟨hne, hids⟩ := not_or.mp (mt List.mem_cons.mpr h)
    have hsingle : (singleton a).get? id = none :=
      (Keyed.get?_insert ..).trans (if_neg hne)
    have hmerge := Keyed.get?_merge (fun _ _ => ()) (singleton a) (ids.map singleton).sum id
    rwa [hsingle, ih hids] at hmerge

/-- **The set of distinct identifiers** has as many members as there are identifiers. -/
theorem size_sum_singletons {ids : List String} (h : ids.Nodup) :
    (ids.map singleton).sum.size = ids.length := by
  induction ids with
  | nil => rfl
  | cons id ids ih =>
    obtain ⟨hnew, hids⟩ := List.nodup_cons.mp h
    rw [List.map_cons, List.sum_cons, size_singleton_add (get?_sum_singletons hnew), ih hids,
      List.length_cons]

end IdSet

/-! ### Lines -/

/-- Lines that are joined key by key: a joined line keeps the key of the first, and lines of one key
can be joined in any order. -/
class LawfulStatLine (L : Type) [StatLine L] : Prop where
  key_merge : ∀ a b : L, StatLine.key (StatLine.merge a b) = StatLine.key a
  merge_assoc : ∀ a b c : L,
    StatLine.merge (StatLine.merge a b) c = StatLine.merge a (StatLine.merge b c)
  merge_comm : ∀ {a b : L}, StatLine.key a = StatLine.key b →
    StatLine.merge a b = StatLine.merge b a

instance : LawfulStatLine BattingLine where
  key_merge _ _ := rfl
  merge_assoc _ _ _ :=
    BattingLine.ext rfl rfl (IdSet.union_assoc ..) (BattingCounts.add_assoc ..)
  merge_comm h :=
    BattingLine.ext (congrArg LineKey.player h) (congrArg LineKey.team h) (IdSet.union_comm ..)
      (BattingCounts.add_comm ..)

instance : LawfulStatLine PitchingLine where
  key_merge _ _ := rfl
  merge_assoc _ _ _ :=
    PitchingLine.ext rfl rfl (IdSet.union_assoc ..) (PitchingCounts.add_assoc ..)
  merge_comm h :=
    PitchingLine.ext (congrArg LineKey.player h) (congrArg LineKey.team h) (IdSet.union_comm ..)
      (PitchingCounts.add_comm ..)

instance : LawfulStatLine FieldingLine where
  key_merge _ _ := rfl
  merge_assoc _ _ _ :=
    FieldingLine.ext rfl rfl rfl (IdSet.union_assoc ..) (FieldingCounts.add_assoc ..)
  merge_comm h :=
    FieldingLine.ext (congrArg LineKey.player h) (congrArg LineKey.team h)
      (Option.some.inj (congrArg LineKey.position? h)) (IdSet.union_comm ..)
      (FieldingCounts.add_comm ..)

namespace Register

open Keyed

variable {L : Type} [StatLine L] {ls ls' : List L}

/-- The entry that a line makes. -/
def entry (l : L) : LineKey × L := (StatLine.key l, l)

theorem addAll_eq (r : Register L) (ls : List L) :
    r.addAll ls = ⟨(ls.map entry).foldl (contribute StatLine.merge) r.lines⟩ := by
  induction ls generalizing r with
  | nil => rfl
  | cons l ls ih => exact ih (r.add l)

theorem ofList_eq (ls : List L) : ofList ls = ⟨gather StatLine.merge (ls.map entry)⟩ :=
  addAll_eq {} ls

/-- **A line of a register** is the join of the lines with its key, in order. -/
theorem get?_ofList (ls : List L) (k : LineKey) :
    (ofList ls).get? k = joinAll StatLine.merge (ls.filter (StatLine.key · = k)) := by
  have hentries : ((ls.map entry).filter (·.1 = k)).map Prod.snd =
      ls.filter (StatLine.key · = k) := by
    rw [List.filter_map, List.map_map]
    exact List.map_id _
  rw [get?, ofList_eq, get?_gather, hentries]

/-- A count that joining adds up is a sum over the lines with the key. -/
theorem sum_get?_ofList {M : Type} [AddCommMonoid M] {c : L → M}
    (hc : ∀ a b, c (StatLine.merge a b) = c a + c b) (ls : List L) (k : LineKey) :
    ((ofList ls).get? k).elim 0 c =
      (ls.map fun l => if StatLine.key l = k then c l else 0).sum := by
  have hsum := sum_foldl_contribute hc (∅ : Keyed LineKey L) (ls.map entry) k
  rw [get?_empty, Option.elim_none, zero_add, List.map_map] at hsum
  rw [get?, ofList_eq]
  exact hsum

section Lawful

variable [LawfulStatLine L]

instance : Std.Associative (StatLine.merge (L := L)) := ⟨LawfulStatLine.merge_assoc⟩

/-- Every line of a register stands under its own key. -/
theorem key_of_get?_ofList {k : LineKey} {l : L} (h : (ofList ls).get? k = some l) :
    StatLine.key l = k := by
  rw [get?, ofList_eq] at h
  refine property_of_get?_foldl (P := fun k l => StatLine.key l = k)
    (fun k a b hk => (LawfulStatLine.key_merge a b).trans hk)
    (fun k v hv => absurd hv (by simp)) ?_ k l h
  rw [List.forall_mem_map]
  exact fun _ _ => rfl

/-- The lines of a register make its entries. -/
theorem map_entry_toList (ls : List L) :
    (ofList ls).toList.map entry = (ofList ls).lines.entries := by
  rw [toList, values, List.map_map]
  conv_rhs => rw [← List.map_id (ofList ls).lines.entries]
  refine List.map_congr_left fun e he => ?_
  exact Prod.ext (key_of_get?_ofList (get?_of_mem_entries he)) rfl

/-- **What the lines of a register weigh**, those under some keys, is what the lines weigh that it
was made of. -/
theorem sum_toList_ofList {M : Type} [AddCommMonoid M] {w : L → M}
    (hw : ∀ a b, w (StatLine.merge a b) = w a + w b) (keep : LineKey → Bool) (ls : List L) :
    (((ofList ls).toList.filter fun l => keep (StatLine.key l)).map w).sum =
      ((ls.filter fun l => keep (StatLine.key l)).map w).sum := by
  let weigh (k : LineKey) (l : L) : M := if keep k then w l else 0
  have hweigh (k : LineKey) (a b : L) :
      weigh k (StatLine.merge a b) = weigh k a + weigh k b := by
    cases hk : keep k
    · simp [weigh, hk]
    · simp [weigh, hk, hw]
  have hlines (ms : List L) : ((ms.filter fun l => keep (StatLine.key l)).map w).sum =
      ((ms.map entry).map fun d => weigh d.1 d.2).sum := by
    rw [sum_map_filter, List.map_map]
    rfl
  rw [hlines, hlines, map_entry_toList, ofList_eq]
  exact (sum_entries_foldl hweigh ∅ (ls.map entry)).trans (zero_add _)

/-- **Adding the lines of a register** is adding those that it was made of. -/
theorem addAll_toList (r : Register L) (ls : List L) :
    r.addAll (ofList ls).toList = r.addAll ls := by
  rw [addAll_eq, addAll_eq, map_entry_toList, ofList_eq, foldl_contribute r.lines (ls.map entry)]
  rfl

/-- **The register of lines in groups.** -/
theorem ofList_append (as bs : List L) :
    ofList (as ++ bs) = (ofList as).addAll (ofList bs).toList := by
  rw [addAll_toList]
  exact List.foldl_append

/-- **The register of lines in another order.** -/
theorem ofList_perm (h : ls.Perm ls') : ofList ls = ofList ls' := by
  rw [ofList_eq, ofList_eq, gather_perm ?_ (h.map entry)]
  simp only [List.forall_mem_map]
  exact fun a _ b _ hk => LawfulStatLine.merge_comm hk

end Lawful

end Register

end Baseball
