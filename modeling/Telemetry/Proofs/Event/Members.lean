import Mathlib.Tactic.SplitIfs
import Telemetry.Event

namespace Telemetry.Event

/-!
# The members of an event

Which tag, time and record an event has, as an object or a map and as the array of the three.  In an
object or a map, tag and record stand exactly once and a time at most once, in any order; what
stands under other keys is skipped, but each key must be one.  A time that is null is no time.

* `Member.name`, `Member.number` — the keys of a member; `ofName?_eq_some_iff`,
  `memberOfKey?_eq_some_iff` — no other keys are its keys.
* `Fills`, `Reading.FillsAll` — what becomes of one part of a draft, and of all three.
* `Reading` — how what a member holds is read; `Reading.Gives` — the event that members come to.
* `Reading.Folds` — a reader of members one after the other; `Reading.Folds.eq_some_iff` — what it
  makes of a draft.
* `ofTree?_eq_some_iff`, `ofItem?_eq_some_iff` — the event of a JSON tree and of a MessagePack item.
-/

open Json (Document Tree)
open MessagePack (Item)

/-! ### Keys -/

/-- The name of a member. -/
def Member.name : Member → String
  | .tag => "tag"
  | .time => "time"
  | .record => "record"

/-- The number of a member. -/
def Member.number : Member → UInt64
  | .tag => 0
  | .time => 1
  | .record => 2

/-- A member has one name. -/
theorem ofName?_eq_some_iff {name : String} {m : Member} :
    Member.ofName? name = some m ↔ name = m.name := by
  unfold Member.ofName?
  -- The first name that is equal decides; the three names are different.
  split_ifs with htag htime hrecord <;> cases m <;> simp_all [Member.name]

/-- In a map, a member goes by its name, as text or as bytes, or by its number. -/
theorem memberOfKey?_eq_some_iff {k : Item} {m : Member} :
    memberOfKey? k = some (some m) ↔
      k = .unsigned m.number ∨ ∃ bytes, (k = .text bytes ∨ k = .binary bytes) ∧
        Utf8.decode? bytes = some m.name := by
  have hbytes : ∀ bytes, (Utf8.decode? bytes).bind Member.ofName? = some m ↔
      Utf8.decode? bytes = some m.name := by
    intro bytes
    simp only [Option.bind_eq_some_iff, ofName?_eq_some_iff, exists_eq_right]
  cases k with
  | text bytes => simp [memberOfKey?, hbytes]
  | binary bytes => simp [memberOfKey?, hbytes]
  | unsigned n =>
    simp only [memberOfKey?, Option.some.injEq, Item.unsigned.injEq, reduceCtorEq, or_self,
      false_and, exists_false, or_false]
    split_ifs with htag htime hrecord <;> cases m <;> simp_all [Member.number]
  | nil | bool | signed | float | array | map | extension => simp [memberOfKey?]

/-! ### Parts -/

variable {α κ : Type}

/-- What becomes of a part: nothing is held for it and it stays, or one thing is held for it, and
    it was not set yet. -/
def Fills {β : Type} (read : α → Option β) (old new : Option β) (held : List α) : Prop :=
  held = [] ∧ new = old ∨ ∃ x b, held = [x] ∧ old = none ∧ read x = some b ∧ new = some b

/-- A part for which nothing is held stays as it is. -/
theorem fills_nil {β : Type} {read : α → Option β} {old new : Option β} :
    Fills read old new [] ↔ new = old := by
  simp [Fills]

/-- A part that was not set is set by one thing. -/
theorem fills_some_iff {β : Type} {read : α → Option β} {b : β} {held : List α} :
    Fills read none (some b) held ↔ ∃ x, held = [x] ∧ read x = some b := by
  simp [Fills]

/-- A part is set by the first thing held for it, and then stays. -/
theorem fills_cons {β : Type} {read : α → Option β} {old new : Option β} {x : α}
    {held : List α} : Fills read old new (x :: held) ↔
      old = none ∧ ∃ b, read x = some b ∧ Fills read (some b) new held := by
  simp only [Fills, List.cons_ne_nil, false_and, false_or, List.cons.injEq, reduceCtorEq,
    and_false, exists_false, or_false]
  constructor
  · rintro ⟨y, b, ⟨rfl, rfl⟩, hold, hread, hnew⟩
    exact ⟨hold, b, hread, rfl, hnew⟩
  · rintro ⟨hold, b, hread, rfl, hnew⟩
    exact ⟨x, b, ⟨rfl, rfl⟩, hold, hread, hnew⟩

/-! ### Members one after the other -/

namespace Draft

variable {p q : Draft}

/-- A part is set if it was not set yet and there is something to set. -/
theorem map_setOnce_eq_some_iff {β : Type} {old new : Option β} {set : Option β → Draft} :
    (setOnce old new).map set = some q ↔ old = none ∧ ∃ b, new = some b ∧ q = set (some b) := by
  cases old <;> cases new <;> simp [setOnce, eq_comm]

/-- A tag is set once. -/
theorem setTag_eq_some_iff {tag : Option String} :
    p.setTag tag = some q ↔ p.tag = none ∧ ∃ s, tag = some s ∧ q = { p with tag := some s } :=
  map_setOnce_eq_some_iff

/-- A time is set once, even if it is null. -/
theorem setTime_eq_some_iff {time : Option Document} :
    p.setTime time = some q ↔
      p.time = none ∧ ∃ w, time.map writtenTime = some w ∧ q = { p with time := some w } :=
  map_setOnce_eq_some_iff

/-- A record is set once. -/
theorem setRecord_eq_some_iff {record : Option Record} :
    p.setRecord record = some q ↔
      p.record = none ∧ ∃ r, record = some r ∧ q = { p with record := some r } :=
  map_setOnce_eq_some_iff

/-- A draft with tag and record is an event; its time may be missing. -/
theorem event?_eq_some_iff {e : Event} :
    p.event? = some e ↔ p.tag = some e.tag ∧ p.time.getD none = e.time ∧
      p.record = some e.record := by
  obtain ⟨tag, time, record⟩ := e
  rw [event?]
  cases p.tag <;> cases p.record <;> simp

end Draft

/-- What stands under the keys of a member. -/
def under (key : κ → Option (Option Member)) (ms : List (κ × α)) (m : Member) : List α :=
  (ms.filter fun a => key a.1 = some (some m)).map Prod.snd

/-- What is held when the three stand in an array. -/
def threeHeld (tag time record : α) : Member → List α
  | .tag => [tag]
  | .time => [time]
  | .record => [record]

/-- How what a member holds is read. -/
structure Reading (α : Type) where
  tag : α → Option String
  time : α → Option Document
  record : α → Option Record

namespace Reading

variable {R : Reading α} {p q : Draft} {held held' : Member → List α}

/-- Takes in one member. -/
def add (R : Reading α) (p : Draft) (m : Member) (x : α) : Option Draft :=
  match m with
  | .tag => p.setTag (R.tag x)
  | .time => p.setTime (R.time x)
  | .record => p.setRecord (R.record x)

/-- What becomes of a draft when this is held for its members. -/
structure FillsAll (R : Reading α) (p q : Draft) (held : Member → List α) : Prop where
  tag : Fills R.tag p.tag q.tag (held .tag)
  time : Fills (fun x => (R.time x).map writtenTime) p.time q.time (held .time)
  record : Fills R.record p.record q.record (held .record)

/-- The three parts do not depend on each other. -/
theorem fillsAll_iff : R.FillsAll p q held ↔ Fills R.tag p.tag q.tag (held .tag) ∧
    Fills (fun x => (R.time x).map writtenTime) p.time q.time (held .time) ∧
    Fills R.record p.record q.record (held .record) :=
  ⟨fun h => ⟨h.tag, h.time, h.record⟩, fun h => ⟨h.1, h.2.1, h.2.2⟩⟩

/-- A draft stays as it is when nothing is held. -/
theorem fillsAll_nil : R.FillsAll p q (fun _ => []) ↔ q = p := by
  constructor
  · rintro ⟨htag, htime, hrecord⟩
    obtain ⟨tag, time, record⟩ := q
    obtain rfl : tag = p.tag := fills_nil.1 htag
    obtain rfl : time = p.time := fills_nil.1 htime
    obtain rfl : record = p.record := fills_nil.1 hrecord
    rfl
  · rintro rfl
    exact ⟨fills_nil.2 rfl, fills_nil.2 rfl, fills_nil.2 rfl⟩

/-- **One more member** is taken in before the others. -/
theorem fillsAll_cons {m : Member} {x : α} (hm : held' m = x :: held m)
    (hother : ∀ n, n ≠ m → held' n = held n) :
    R.FillsAll p q held' ↔ ∃ p', R.add p m x = some p' ∧ R.FillsAll p' q held := by
  rw [fillsAll_iff]
  cases m with
  | tag =>
    rw [hm, hother .time (by decide), hother .record (by decide), fills_cons]
    simp only [add, Draft.setTag_eq_some_iff, fillsAll_iff]
    grind
  | time =>
    rw [hm, hother .tag (by decide), hother .record (by decide), fills_cons]
    simp only [add, Draft.setTime_eq_some_iff, fillsAll_iff]
    grind
  | record =>
    rw [hm, hother .tag (by decide), hother .time (by decide), fills_cons]
    simp only [add, Draft.setRecord_eq_some_iff, fillsAll_iff]
    grind

/-- A reader of members one after the other: it stops at what is no key, skips what stands under
    other keys, and takes in the rest. -/
structure Folds (R : Reading α) (key : κ → Option (Option Member))
    (fold : Draft → List (κ × α) → Option Draft) : Prop where
  nil (p : Draft) : fold p [] = some p
  stop (p : Draft) {k : κ} (h : key k = none) (x : α) (ms : List (κ × α)) :
    fold p ((k, x) :: ms) = none
  skip (p : Draft) {k : κ} (h : key k = some none) (x : α) (ms : List (κ × α)) :
    fold p ((k, x) :: ms) = fold p ms
  take (p : Draft) {k : κ} {m : Member} (h : key k = some (some m)) (x : α) (ms : List (κ × α)) :
    fold p ((k, x) :: ms) = (R.add p m x).bind fun p => fold p ms

/-- **Members one after the other** fill a draft with what stands under their keys. -/
theorem Folds.eq_some_iff {key : κ → Option (Option Member)}
    {fold : Draft → List (κ × α) → Option Draft} (h : R.Folds key fold) {ms : List (κ × α)} :
    fold p ms = some q ↔ (∀ a ∈ ms, (key a.1).isSome) ∧ R.FillsAll p q (under key ms) := by
  induction ms generalizing p with
  | nil =>
    rw [h.nil, Option.some.injEq, eq_comm, ← fillsAll_nil (R := R)]
    exact (and_iff_right nofun).symm
  | cons a ms ih =>
    obtain ⟨k, x⟩ := a
    rw [List.forall_mem_cons]
    cases hkey : key k with
    | none => simp [h.stop p hkey]
    | some m =>
      cases m with
      | none =>
        -- A member to skip is under no key.
        have hskip : under key ((k, x) :: ms) = under key ms := by
          funext n
          simp [under, hkey]
        rw [h.skip p hkey, hskip, ih]
        simp
      | some m =>
        have hm : under key ((k, x) :: ms) m = x :: under key ms m := by simp [under, hkey]
        have hother : ∀ n, n ≠ m → under key ((k, x) :: ms) n = under key ms n := by
          intro n hn
          simp [under, hkey, hn.symm]
        rw [h.take p hkey, fillsAll_cons hm hother, Option.bind_eq_some_iff]
        simp only [ih, Option.isSome_some, true_and]
        grind

/-- **The three, one after the other,** fill a draft. -/
theorem three_eq_some_iff {x y z : α} :
    ((R.add p .tag x).bind fun p => (R.add p .time y).bind fun p => R.add p .record z) = some q ↔
      R.FillsAll p q (threeHeld x y z) := by
  simp only [Option.bind_eq_some_iff, add, Draft.setTag_eq_some_iff, Draft.setTime_eq_some_iff,
    Draft.setRecord_eq_some_iff, fillsAll_iff, threeHeld, fills_cons, fills_nil]
  constructor
  · rintro ⟨_, ⟨htag, s, hs, rfl⟩, _, ⟨htime, w, hw, rfl⟩, hrecord, r, hr, rfl⟩
    exact ⟨⟨htag, s, hs, rfl⟩, ⟨htime, w, hw, rfl⟩, hrecord, r, hr, rfl⟩
  · rintro ⟨⟨htag, s, hs, hq⟩, ⟨htime, w, hw, hq'⟩, hrecord, r, hr, hq''⟩
    refine ⟨_, ⟨htag, s, hs, rfl⟩, _, ⟨htime, w, hw, rfl⟩, hrecord, r, hr, ?_⟩
    rw [← hq, ← hq', ← hq'']

/-- The event when this is held for its members: a tag and a record, and a time at most. -/
structure Gives (R : Reading α) (held : Member → List α) (e : Event) : Prop where
  tag : ∃ x, held .tag = [x] ∧ R.tag x = some e.tag
  time : held .time = [] ∧ e.time = none ∨
    ∃ x d, held .time = [x] ∧ R.time x = some d ∧ e.time = writtenTime d
  record : ∃ x, held .record = [x] ∧ R.record x = some e.record

/-- **The event of a draft** that began empty. -/
theorem fillsAll_event?_iff {e : Event} :
    (∃ p, R.FillsAll {} p held ∧ p.event? = some e) ↔ R.Gives held e := by
  simp only [Draft.event?_eq_some_iff]
  constructor
  · rintro ⟨⟨tag, time, record⟩, ⟨htag, htime, hrecord⟩, rfl, hetime, rfl⟩
    refine ⟨fills_some_iff.1 htag, ?_, fills_some_iff.1 hrecord⟩
    rw [← hetime]
    rcases htime with ⟨hheld, rfl⟩ | ⟨x, w, hheld, -, hread, rfl⟩
    · exact .inl ⟨hheld, rfl⟩
    · obtain ⟨d, hd, rfl⟩ := Option.map_eq_some_iff.1 hread
      exact .inr ⟨x, d, hheld, hd, rfl⟩
  · rintro ⟨htag, htime, hrecord⟩
    rcases htime with ⟨hheld, hnone⟩ | ⟨x, d, hheld, hread, hwritten⟩
    · exact ⟨⟨some e.tag, none, some e.record⟩, ⟨fills_some_iff.2 htag, .inl ⟨hheld, rfl⟩,
        fills_some_iff.2 hrecord⟩, rfl, hnone.symm, rfl⟩
    · refine ⟨⟨some e.tag, some e.time, some e.record⟩, ⟨fills_some_iff.2 htag, ?_,
        fills_some_iff.2 hrecord⟩, rfl, rfl, rfl⟩
      refine .inr ⟨x, e.time, hheld, rfl, ?_, rfl⟩
      rw [hwritten]
      exact congrArg (Option.map writtenTime) hread

/-- **The event of members one after the other.** -/
theorem Folds.event?_eq_some_iff {key : κ → Option (Option Member)}
    {fold : Draft → List (κ × α) → Option Draft} (h : R.Folds key fold) {ms : List (κ × α)}
    {e : Event} : (fold {} ms).bind Draft.event? = some e ↔
      (∀ a ∈ ms, (key a.1).isSome) ∧ R.Gives (under key ms) e := by
  rw [Option.bind_eq_some_iff, ← fillsAll_event?_iff]
  simp only [h.eq_some_iff, and_assoc, exists_and_left]

/-- **The event of the three, one after the other.** -/
theorem three_event?_eq_some_iff {x y z : α} {e : Event} :
    ((R.add {} .tag x).bind fun p => (R.add p .time y).bind fun p => R.add p .record z).bind
      Draft.event? = some e ↔ R.Gives (threeHeld x y z) e := by
  rw [Option.bind_eq_some_iff, ← fillsAll_event?_iff]
  simp only [three_eq_some_iff]

end Reading

/-! ### Events -/

/-- How members in JSON are read, whose values may nest so deep. -/
def treeReading (depth : Nat) : Reading Tree where
  tag
    | .text s => s
    | _ => none
  time := Document.ofTree? depth
  record := Record.ofTree? depth

/-- How members in MessagePack are read. -/
def itemReading : Reading Item where
  tag := Item.text?
  time := Item.toDocument?
  record := Item.toRecord?

/-- A tag is a text or nothing; time and record are read as they stand alone. -/
theorem addTree_eq (depth : Nat) (p : Draft) (m : Member) (t : Tree) :
    addTree depth p m t = (treeReading depth).add p m t := by
  cases m with
  | tag =>
    cases t with
    | text s => rfl
    | null | bool | number | array | object =>
      exact (Option.eq_none_iff_forall_ne_some.2 fun q hq => by
        obtain ⟨-, s, hs, -⟩ := Draft.setTag_eq_some_iff.1 hq
        cases hs).symm
  | time => rfl
  | record => rfl

/-- All three are read as they stand alone. -/
theorem addItem_eq (p : Draft) (m : Member) (i : Item) :
    addItem p m i = itemReading.add p m i := by
  cases m <;> rfl

/-- The members of an object are read one after the other. -/
theorem folds_addTrees (depth : Nat) :
    (treeReading depth).Folds (Option.map Member.ofName?) (addTrees depth) where
  nil p := by rw [addTrees]
  stop p name h t ts := by
    rw [Option.map_eq_none_iff.1 h]
    rfl
  skip p name h t ts := by
    obtain ⟨name, rfl, hname⟩ := Option.map_eq_some_iff.1 h
    simp only [addTrees, hname]
  take p name m h t ts := by
    obtain ⟨name, rfl, hname⟩ := Option.map_eq_some_iff.1 h
    simp only [addTrees, hname, addTree_eq]
    cases (treeReading depth).add p m t <;> rfl

/-- The entries of a map are read one after the other. -/
theorem folds_addItems : itemReading.Folds memberOfKey? addItems where
  nil p := by rw [addItems]
  stop p k h i es := by simp only [addItems, h]
  skip p k h i es := by simp only [addItems, h]
  take p k m h i es := by
    simp only [addItems, h, addItem_eq]
    cases itemReading.add p m i <;> rfl

/-- **The event of a JSON tree** is that of an object's members, whose names are all readable, or
    of the array of the three. -/
theorem ofTree?_eq_some_iff {t : Tree} {e : Event} :
    let R := treeReading (Json.nestingLimit - 1)
    ofTree? t = some e ↔
      (∃ members, t = .object members ∧ (∀ m ∈ members, m.1.isSome) ∧
        R.Gives (under (Option.map Member.ofName?) members) e) ∨
      ∃ tag time record, t = .array [tag, time, record] ∧
        R.Gives (threeHeld tag time record) e := by
  intro R
  cases t with
  | object members =>
    have hobject : ofTree? (.object members) = some e ↔ _ :=
      (folds_addTrees (Json.nestingLimit - 1)).event?_eq_some_iff
    rw [hobject]
    simp [R]
  | array items =>
    match items with
    | [tag, time, record] =>
      rw [ofTree?]
      simp only [addTree_eq, Reading.three_event?_eq_some_iff]
      constructor
      · intro h
        exact .inr ⟨tag, time, record, rfl, h⟩
      · rintro (⟨_, h, -⟩ | ⟨_, _, _, h, hgives⟩)
        · cases h
        · cases h
          exact hgives
    | [] | [_] | [_, _] | _ :: _ :: _ :: _ :: _ => simp [ofTree?]
  | null | bool | number | text => simp [ofTree?]

/-- **The event of a MessagePack item** is that of a map's entries, whose keys are all keys, or of
    the array of the three. -/
theorem ofItem?_eq_some_iff {i : Item} {e : Event} :
    ofItem? i = some e ↔
      (∃ entries, i = .map entries ∧ (∀ a ∈ entries, (memberOfKey? a.1).isSome) ∧
        itemReading.Gives (under memberOfKey? entries) e) ∨
      ∃ tag time record, i = .array [tag, time, record] ∧
        itemReading.Gives (threeHeld tag time record) e := by
  cases i with
  | map entries =>
    have hmap : ofItem? (.map entries) = some e ↔ _ := folds_addItems.event?_eq_some_iff
    rw [hmap]
    simp
  | array items =>
    match items with
    | [tag, time, record] =>
      rw [ofItem?]
      simp only [addItem_eq, Reading.three_event?_eq_some_iff]
      constructor
      · intro h
        exact .inr ⟨tag, time, record, rfl, h⟩
      · rintro (⟨_, h, -⟩ | ⟨_, _, _, h, hgives⟩)
        · cases h
        · cases h
          exact hgives
    | [] | [_] | [_, _] | _ :: _ :: _ :: _ :: _ => simp [ofItem?]
  | nil | bool | unsigned | signed | float | text | binary | extension => simp [ofItem?]

end Telemetry.Event
