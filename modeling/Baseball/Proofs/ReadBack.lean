import Baseball.Json.Game
import Baseball.Proofs.WrittenDates
import Mathlib.Data.List.Forall2
import Mathlib.Data.List.Nodup

/-!
# Reading back a written game

A game that is written as a JSON value and read again is the same game. Every kind of value has its
own law, and the law of a record rests on those of its fields: the names of the fields are
different, so each is found under its name, wherever it stands.

Some fields are left out when they are written: an empty text, a fielder who is not named, decisions
that were not made. These are just the fields that may be missing when a record is read, and what is
taken in their place is what they were left out for.

Numbers are read up to 255, the greatest that slots, outs and the like can have.

## Main definitions

* `Json.names` — the names of the fields of an object
* `Game.FitsBytes` — the numbers of a game are no greater than they can be

## Main results

* `Json.field_eq_ok` — a field is found under its name
* `Play.ofJson_toJson`, `Event.ofJson_toJson` — plays and events are read back
* `Game.ofJson_toJson` — and so are games
* `Game.reads_back` — with what was left out of them
-/

namespace Baseball

namespace Json

variable {α β : Type} {name : String} {j : Json} {fs : List (String × Json)} {x : α}
  {encode : α → Json} {decode : Json → Decoded α}

/-! ### Values -/

/-- Reading goes on with what was read. -/
theorem bind_of_eq_ok {a : Decoded α} {f : α → Decoded β} {d : Decoded β} (ha : a = .ok x)
    (hf : f x = d) : (a >>= f) = d := by
  rw [ha]
  exact hf

theorem toSmall_ofNat {n : Nat} (h : n ≤ smallMax) : toSmall (.ofNat n) = .ok n := if_pos h

/-- Values are read one by one. -/
theorem mapM_eq_ok {f : α → Decoded β} {xs : List α} {ys : List β}
    (h : List.Forall₂ (fun x y => f x = .ok y) xs ys) : xs.mapM f = .ok ys := by
  induction h with
  | nil => rfl
  | cons hx _ ih =>
    rw [List.mapM_cons, hx, ih]
    rfl

/-- A list is read back if each of its members is. -/
theorem toList_ofList {xs : List α} (h : ∀ x ∈ xs, decode (encode x) = .ok x) :
    toList decode (ofList encode xs) = .ok xs :=
  mapM_eq_ok (List.forall₂_map_left_iff.mpr (List.forall₂_same.mpr h))

/-! ### Fields -/

/-- The fields of an object, in their order. -/
def members : Json → List (String × Json)
  | object fs => fs
  | _ => []

@[simp] theorem members_object (fs : List (String × Json)) : (object fs).members = fs := rfl

/-- The names of the fields of an object. -/
def names (j : Json) : List String := j.members.map Prod.fst

/-- Among fields of different names each is found. -/
theorem get?_of_mem (hnames : (fs.map Prod.fst).Nodup) (h : (name, j) ∈ fs) :
    get? fs name = some j := by
  induction fs with
  | nil => cases h
  | cons f fs ih =>
    obtain ⟨hfirst, hrest⟩ := List.nodup_cons.mp hnames
    rw [get?, List.find?_cons]
    rcases List.mem_cons.mp h with rfl | hmem
    · simp
    · have hne : (f.1 == name) = false :=
        beq_eq_false_iff_ne.mpr fun heq => hfirst (heq ▸ List.mem_map_of_mem hmem)
      rw [hne]
      exact ih hrest hmem

theorem get?_of_notMem (h : name ∉ fs.map Prod.fst) : get? fs name = none := by
  rw [get?, List.find?_eq_none.mpr, Option.map_none]
  intro f hf heq
  exact h (beq_iff_eq.mp heq ▸ List.mem_map_of_mem hf)

/-- **A field is found under its name**, and read as what is written there. -/
theorem field_eq_ok (hnames : (fs.map Prod.fst).Nodup) (j : Json) (hread : decode j = .ok x)
    (h : (name, j) ∈ fs) : field fs name decode = .ok x := by
  rw [field, get?_of_mem hnames h]
  exact hread

theorem fieldD_eq_ok {default : α} (hnames : (fs.map Prod.fst).Nodup) (j : Json)
    (hread : decode j = .ok x) (h : (name, j) ∈ fs) : fieldD fs name decode default = .ok x := by
  rw [fieldD, get?_of_mem hnames h]
  exact hread

/-- A field that is missing has its default. -/
theorem fieldD_of_notMem (h : name ∉ fs.map Prod.fst) : fieldD fs name decode x = .ok x := by
  rw [fieldD, get?_of_notMem h]

end Json

open Json

/-! ### Codes and names -/

theorem Position.ofJson_toJson (p : Position) : Position.ofJson p.toJson = .ok p := by
  cases p <;> rfl

theorem Destination.ofJson_toJson (d : Destination) : Destination.ofJson d.toJson = .ok d := by
  cases d with
  | safe b => cases b <;> rfl
  | _ => rfl

theorem PlayKind.ofJson_toJson (k : PlayKind) : PlayKind.ofJson k.toJson = .ok k := by
  have hname : PlayKind.ofJson k.toJson = .ofOption (PlayKind.ofName? k.name) := rfl
  rw [hname, PlayKind.ofName?_name]
  rfl

theorem Side.ofJson_toJson (s : Side) : Side.ofJson s.toJson = .ok s := by
  cases s <;> rfl

theorem Date.ofJson_toJson (d : Date) : Date.ofJson d.toJson = .ok d := by
  have htext : Date.ofJson d.toJson = .ofOption (Date.read? d.text) := rfl
  rw [htext, Date.read?_text]
  rfl

section Several

variable {α : Type} {encode : α → Json} {decode : Json → Decoded α}

theorem ByOrigin.ofJson_toJson (h : ∀ x, decode (encode x) = .ok x) (t : ByOrigin α) :
    ByOrigin.ofJson decode (t.toJson encode) = .ok t := by
  rw [ByOrigin.ofJson, ByOrigin.toJson, toList_ofList fun x _ => h x]
  rfl

theorem BySide.ofJson_toJson {t : BySide α} (h : ∀ x ∈ t.toList, decode (encode x) = .ok x) :
    BySide.ofJson decode (t.toJson encode) = .ok t := by
  rw [BySide.ofJson, BySide.toJson, toList_ofList h]
  rfl

end Several

/-! ### Plays -/

namespace Play

variable {p : Play}

/-- Whether a field of a play is written: a text that is not empty, a fielder who is named, and
everything else. -/
def writes (p : Play) (name : String) : Bool :=
  if name = "text" then !p.text.isEmpty
  else if name = "fielded_by" then p.fieldedBy?.isSome
  else true

/-- **The fields of a play** are all but those that are not written. -/
theorem names_toJson (p : Play) : p.toJson.names = fieldNames.filter p.writes := by
  rw [toJson, names, members_object]
  cases htext : p.text.isEmpty <;> cases hfielded : p.fieldedBy? <;>
    simp [fieldNames, writes, optionalField, htext, hfielded]

theorem nodup_names_toJson (p : Play) : p.toJson.names.Nodup := by
  rw [names_toJson]
  exact List.Nodup.filter _ (by decide)

/-- The text is found, or it is empty. -/
theorem fieldD_text (p : Play) : fieldD p.toJson.members "text" toText "" = .ok p.text := by
  cases htext : p.text.isEmpty with
  | true =>
    have hnone : "text" ∉ p.toJson.names := by simp [names_toJson, writes, htext]
    rw [fieldD_of_notMem hnone, String.isEmpty_iff.mp htext]
  | false =>
    have hmem : ("text", Json.string p.text) ∈ p.toJson.members := by simp [toJson, htext]
    exact fieldD_eq_ok p.nodup_names_toJson (.string p.text) rfl hmem

/-- The positions that a play names, under the names of their fields. -/
theorem creditsOfFields_members (p : Play) :
    creditsOfFields p.toJson.members =
      .ok ([("errors", p.errors), ("putouts", p.putouts), ("assists", p.assists)]
        ++ p.fieldedBy?.toList.map fun q => ("fielded_by", [q])) := by
  have hpositions (qs : List Position) :
      toList Position.ofJson (ofList Position.toJson qs) = .ok qs :=
    toList_ofList fun q _ => q.ofJson_toJson
  have hcredits : p.toJson.members.filter (fun f => creditNames.contains f.1) =
      [("errors", .ofList Position.toJson p.errors), ("putouts", .ofList Position.toJson p.putouts),
        ("assists", .ofList Position.toJson p.assists)]
        ++ optionalField "fielded_by" Position.toJson p.fieldedBy? := by
    rw [toJson, members_object]
    cases p.text.isEmpty <;> cases p.fieldedBy? <;> simp [creditNames, optionalField]
  rw [creditsOfFields, hcredits]
  refine mapM_eq_ok (List.rel_append (.cons ?_ (.cons ?_ (.cons ?_ .nil))) ?_)
  · exact bind_of_eq_ok (hpositions p.errors) rfl
  · exact bind_of_eq_ok (hpositions p.putouts) rfl
  · exact bind_of_eq_ok (hpositions p.assists) rfl
  · cases p.fieldedBy? with
    | none => exact .nil
    | some q =>
      have hfielded : toOption Position.ofJson q.toJson = some <$> Position.ofJson q.toJson := rfl
      rw [q.ofJson_toJson] at hfielded
      exact .cons (bind_of_eq_ok hfielded rfl) .nil

/-- **A play is read back.** Its fields are read one after the other, each found under its name. -/
theorem ofJson_toJson (houts : p.outs ≤ smallMax) (hrbi : p.rbi ≤ smallMax) :
    ofJson p.toJson = .ok p := by
  have hnames := p.nodup_names_toJson
  have hdestinations := ByOrigin.ofJson_toJson Destination.ofJson_toJson p.advance
  have hflags (t : ByOrigin Bool) : ByOrigin.ofJson Json.toBool (t.toJson .bool) = .ok t :=
    ByOrigin.ofJson_toJson (fun _ : Bool => rfl) t
  have hflag {name : String} {b : Bool} (h : (name, Json.bool b) ∈ p.toJson.members) :
      fieldD p.toJson.members name Json.toBool false = .ok b := fieldD_eq_ok hnames _ rfl h
  rw [ofJson]
  -- The reader asks for the fields in the order of their names, for the positions all at once.
  refine bind_of_eq_ok (x := p.toJson.members) rfl ?_
  refine bind_of_eq_ok (field_eq_ok hnames _ hdestinations (by simp [toJson])) ?_
  refine bind_of_eq_ok p.creditsOfFields_members ?_
  refine bind_of_eq_ok (field_eq_ok hnames (.bool p.atBat) rfl (by simp [toJson])) ?_
  refine bind_of_eq_ok (field_eq_ok hnames (.bool p.batterEvent) rfl (by simp [toJson])) ?_
  refine bind_of_eq_ok (fieldD_eq_ok hnames _ (hflags p.caughtStealing) (by simp [toJson])) ?_
  refine bind_of_eq_ok (hflag (b := p.doublePlay) (by simp [toJson])) ?_
  refine bind_of_eq_ok (hflag (b := p.groundedIntoDoublePlay) (by simp [toJson])) ?_
  refine bind_of_eq_ok (field_eq_ok hnames _ p.kind.ofJson_toJson (by simp [toJson])) ?_
  refine bind_of_eq_ok (field_eq_ok hnames _ (toSmall_ofNat houts) (by simp [toJson])) ?_
  refine bind_of_eq_ok (hflag (b := p.passedBall) (by simp [toJson])) ?_
  refine bind_of_eq_ok (field_eq_ok hnames _ (toSmall_ofNat hrbi) (by simp [toJson])) ?_
  refine bind_of_eq_ok (hflag (b := p.sacrificeFly) (by simp [toJson])) ?_
  refine bind_of_eq_ok (hflag (b := p.sacrificeHit) (by simp [toJson])) ?_
  refine bind_of_eq_ok (fieldD_eq_ok hnames _ (hflags p.stolenBase) (by simp [toJson])) ?_
  refine bind_of_eq_ok p.fieldD_text ?_
  refine bind_of_eq_ok (hflag (b := p.triplePlay) (by simp [toJson])) ?_
  refine bind_of_eq_ok (hflag (b := p.wildPitch) (by simp [toJson])) ?_
  cases hfielded : p.fieldedBy? <;>
    simp [pure, Except.pure, Play.ext_iff, List.lookup_cons, hfielded]

end Play

/-! ### Substitutions and events -/

theorem Substitution.ofJson_toJson {sub : Substitution} (hslot : sub.slot ≤ smallMax) :
    Substitution.ofJson sub.toJson = .ok sub := by
  have hnames : sub.toJson.names.Nodup :=
    show ["player", "side", "slot", "position"].Nodup by decide
  rw [Substitution.ofJson]
  refine bind_of_eq_ok (x := sub.toJson.members) rfl ?_
  refine bind_of_eq_ok (field_eq_ok hnames (.string sub.player) rfl (by simp [toJson])) ?_
  refine bind_of_eq_ok (field_eq_ok hnames _ sub.position.ofJson_toJson (by simp [toJson])) ?_
  refine bind_of_eq_ok (field_eq_ok hnames _ sub.side.ofJson_toJson (by simp [toJson])) ?_
  exact bind_of_eq_ok (field_eq_ok hnames _ (toSmall_ofNat hslot) (by simp [toJson])) rfl

/-- The numbers of an event are no greater than they can be. -/
def Event.FitsBytes : Event → Prop
  | .play p => p.outs ≤ smallMax ∧ p.rbi ≤ smallMax
  | .noPlay subs => ∀ sub ∈ subs, sub.slot ≤ smallMax

instance : DecidablePred Event.FitsBytes
  | .play _ => inferInstanceAs (Decidable (_ ∧ _))
  | .noPlay subs => inferInstanceAs (Decidable (∀ sub ∈ subs, sub.slot ≤ smallMax))

/-- **An event is read back**, and as what it is. -/
theorem Event.ofJson_toJson {e : Event} (he : e.FitsBytes) : Event.ofJson e.toJson = .ok e := by
  cases e with
  | play p =>
    have hplay : Event.ofJson (Event.play p).toJson = .play <$> Play.ofJson p.toJson := rfl
    rw [hplay, Play.ofJson_toJson he.1 he.2]
    rfl
  | noPlay subs =>
    have hsubs : Event.ofJson (Event.noPlay subs).toJson =
      .noPlay <$> toList Substitution.ofJson (ofList Substitution.toJson subs) := rfl
    rw [hsubs, toList_ofList fun sub hmem => Substitution.ofJson_toJson (he sub hmem)]
    rfl

/-! ### Games -/

theorem Starter.ofJson_toJson {s : Starter} (hslot : s.slot ≤ smallMax) :
    Starter.ofJson s.toJson = .ok s := by
  have hnames : s.toJson.names.Nodup := show ["player", "slot", "position"].Nodup by decide
  rw [Starter.ofJson]
  refine bind_of_eq_ok (x := s.toJson.members) rfl ?_
  refine bind_of_eq_ok (field_eq_ok hnames (.string s.player) rfl (by simp [toJson])) ?_
  refine bind_of_eq_ok (field_eq_ok hnames _ s.position.ofJson_toJson (by simp [toJson])) ?_
  exact bind_of_eq_ok (field_eq_ok hnames _ (toSmall_ofNat hslot) (by simp [toJson])) rfl

namespace Decisions

/-- The names of the decisions. -/
def fieldNames : List String := ["winner", "loser", "save"]

/-- Whether a decision is written: it was made. -/
def writes (d : Decisions) (name : String) : Bool :=
  (name == "winner" && d.winner?.isSome) || (name == "loser" && d.loser?.isSome)
    || (name == "save" && d.save?.isSome)

/-- **The fields of decisions** are those that were made. -/
theorem names_toJson (d : Decisions) : d.toJson.names = fieldNames.filter d.writes := by
  rcases d with ⟨_ | winner, _ | loser, _ | save⟩ <;> rfl

/-- **Decisions are read back**, those that were not made as such. -/
theorem ofJson_toJson (d : Decisions) : ofJson d.toJson = .ok d := by
  rcases d with ⟨_ | winner, _ | loser, _ | save⟩ <;> rfl

end Decisions

namespace Game

variable {g : Game}

/-- **The numbers of a game are no greater than they can be.** -/
structure FitsBytes (g : Game) : Prop where
  number : g.number ≤ smallMax
  starters : ∀ starters ∈ g.starters.toList, ∀ s ∈ starters, s.slot ≤ smallMax
  events : ∀ e ∈ g.events, e.FitsBytes

/-- What comes before the events is read back. -/
theorem openingOfFields_members (hg : g.FitsBytes) :
    openingOfFields g.toJson.members = .ok { g with events := [] } := by
  have hnames : g.toJson.names.Nodup := show fieldNames.Nodup by decide
  have hstarters := BySide.ofJson_toJson (t := g.starters) fun starters hmem =>
    toList_ofList fun s hs => Starter.ofJson_toJson (hg.starters starters hmem s hs)
  rw [openingOfFields]
  refine bind_of_eq_ok (field_eq_ok hnames _ g.date.ofJson_toJson (by simp [toJson])) ?_
  refine bind_of_eq_ok (fieldD_eq_ok hnames _ g.decisions.ofJson_toJson (by simp [toJson])) ?_
  refine bind_of_eq_ok (field_eq_ok hnames (.string g.home) rfl (by simp [toJson])) ?_
  refine bind_of_eq_ok (field_eq_ok hnames (.string g.id) rfl (by simp [toJson])) ?_
  refine bind_of_eq_ok (fieldD_eq_ok hnames _ (toSmall_ofNat hg.number) (by simp [toJson])) ?_
  refine bind_of_eq_ok (field_eq_ok hnames _ hstarters (by simp [toJson])) ?_
  exact bind_of_eq_ok (field_eq_ok hnames (.string g.visitor) rfl (by simp [toJson])) rfl

/-- **A game is read back.** -/
theorem ofJson_toJson (hg : g.FitsBytes) : ofJson g.toJson = .ok g := by
  have hnames : g.toJson.names.Nodup := show fieldNames.Nodup by decide
  have hevents := toList_ofList fun e hmem => Event.ofJson_toJson (hg.events e hmem)
  rw [ofJson]
  refine bind_of_eq_ok (x := g.toJson.members) rfl ?_
  refine bind_of_eq_ok (field_eq_ok hnames _ hevents (by simp [toJson])) ?_
  exact bind_of_eq_ok (openingOfFields_members hg) rfl

/-- **A game is read back, although not all of it is written.** A play has all its fields but an
empty text and a fielder who is not named, and the decisions have those that were made. -/
theorem reads_back (hg : g.FitsBytes) :
    ofJson g.toJson = .ok g ∧
      (∀ p, .play p ∈ g.events → p.toJson.names = Play.fieldNames.filter p.writes) ∧
      g.decisions.toJson.names = Decisions.fieldNames.filter g.decisions.writes :=
  ⟨ofJson_toJson hg, fun p _ => p.names_toJson, g.decisions.names_toJson⟩

/-- A game on a day before year 0, with a play that has a text and a fielder and one that has
neither, a substitution, and a winner only. -/
def idesOfMarch : Game where
  id := "ides"
  date := ⟨-43, 3, 15, by decide⟩
  number := 2
  visitor := "visitors"
  home := "hosts"
  starters := ⟨[⟨"v1", 0, .pitcher⟩, ⟨"v2", 1, .designatedHitter⟩], [⟨"h1", 9, .pitcher⟩]⟩
  events := [.play { Play.ofKind .genericOut with
      text := "63", putouts := [.firstBase], assists := [.shortstop],
      fieldedBy? := some .shortstop },
    .noPlay [⟨"v3", .visitor, 1, .pinchHitter⟩],
    .play (.ofKind .homeRun)]
  decisions := { winner? := some "v1" }

theorem reads_back_idesOfMarch : idesOfMarch.FitsBytes ∧
    ofJson idesOfMarch.toJson = .ok idesOfMarch ∧ idesOfMarch.date.text = "-0043-03-15" ∧
    idesOfMarch.decisions.toJson.names = ["winner"] := by
  have hfits : idesOfMarch.FitsBytes := ⟨by decide, by decide, by decide⟩
  obtain ⟨hread, -, hdecisions⟩ := reads_back hfits
  exact ⟨hfits, hread, by decide +kernel, hdecisions.trans (by decide)⟩

end Game

end Baseball
