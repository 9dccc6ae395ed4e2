import Mathlib.Tactic.Tauto
import Telemetry.Encoder.Cell
import Telemetry.Proofs.Schema.Shape

namespace Telemetry

/-!
# Equality of values

Doubles compare as IEEE-754 numbers: a NaN differs from itself, and the two zeros are equal
although they are written differently.  Nothing else keeps equality of values, at any depth, from
being sameness.

* `Value.doubles` — the doubles in a value, at every depth, those in keys included.
* `Value.plusZeros` — the value with the positive zero in place of the negative one.
* `Value.same_iff` — values are equal exactly if there is no NaN in the first and they agree up
  to the signs of zeros.
* `Value.eq_of_same` — equal values without a zero are the same.
* `Value.same_laws` — so equality is symmetric and transitive, it is reflexive where there is no
  NaN, and it carries over to the kind and, without a zero, to everything that is written.
-/

namespace Double

/-- The double itself, but the positive zero for either zero. -/
def plusZero (x : Double) : Double := if x.isZero then ⟨0⟩ else x

/-- Both zeros become the one without a sign. -/
theorem plusZero_of_isZero {x : Double} (h : x.isZero = true) : x.plusZero = ⟨0⟩ := if_pos h

theorem plusZero_of_not_isZero {x : Double} (h : x.isZero = false) : x.plusZero = x :=
  if_neg (Bool.not_eq_true _ ▸ h)

theorem isZero_plusZero (x : Double) : x.plusZero.isZero = x.isZero := by
  cases h : x.isZero with
  | true => rw [plusZero_of_isZero h]; rfl
  | false => rw [plusZero_of_not_isZero h, h]

theorem isNaN_plusZero (x : Double) : x.plusZero.isNaN = x.isNaN := by
  cases h : x.isZero with
  | true => rw [plusZero_of_isZero h, isZero_not_isNaN h]; rfl
  | false => rw [plusZero_of_not_isZero h]

/-- But for a NaN, the change of a sign cannot be seen by equality. -/
theorem same_plusZero {x : Double} (h : x.isNaN = false) : x.same x.plusZero = true := by
  cases hzero : x.isZero with
  | true =>
    have hplus : x.plusZero.isZero = true := (isZero_plusZero x).trans hzero
    simp [same, hzero, hplus, isZero_not_isNaN hzero, isZero_not_isNaN hplus]
  | false => rw [plusZero_of_not_isZero hzero, same_self, h, Bool.not_false]

/-- **Doubles are equal** exactly if the first is no NaN and they agree up to the sign of a
    zero. -/
theorem same_iff {x y : Double} :
    x.same y = true ↔ x.isNaN = false ∧ x.plusZero = y.plusZero := by
  constructor
  · intro h
    simp only [same, Bool.and_eq_true, Bool.not_eq_true', Bool.or_eq_true, beq_iff_eq] at h
    obtain ⟨⟨hx, -⟩, hbits | ⟨hxzero, hyzero⟩⟩ := h
    · exact ⟨hx, congrArg (fun bits => plusZero ⟨bits⟩) hbits⟩
    · exact ⟨hx, (plusZero_of_isZero hxzero).trans (plusZero_of_isZero hyzero).symm⟩
  · rintro ⟨hx, heq⟩
    -- No NaN is made or lost when zeros lose their signs.
    have hy : y.isNaN = false := by rw [← isNaN_plusZero, ← heq, isNaN_plusZero, hx]
    exact same_trans (same_plusZero hx) (heq ▸ same_comm y y.plusZero ▸ same_plusZero hy)

end Double

namespace Value

/-! ### The doubles in a value -/

mutual

/-- The doubles in a value, at every depth. -/
def doubles : Value → List Double
  | float x => [x]
  | array items => itemDoubles items
  | map entries => entryDoubles entries
  | _ => []

/-- The doubles in items. -/
def itemDoubles : List Value → List Double
  | [] => []
  | v :: vs => doubles v ++ itemDoubles vs

/-- The doubles in entries, keys included. -/
def entryDoubles : List (Value × Value) → List Double
  | [] => []
  | (k, v) :: es => doubles k ++ (doubles v ++ entryDoubles es)

end

mutual

/-- The value with the positive zero for either zero, at every depth. -/
def plusZeros : Value → Value
  | float x => float x.plusZero
  | array items => array (plusZerosItems items)
  | map entries => map (plusZerosEntries entries)
  | v => v

/-- Each item by itself. -/
def plusZerosItems : List Value → List Value
  | [] => []
  | v :: vs => plusZeros v :: plusZerosItems vs

/-- Each key and each value by itself. -/
def plusZerosEntries : List (Value × Value) → List (Value × Value)
  | [] => []
  | (k, v) :: es => (plusZeros k, plusZeros v) :: plusZerosEntries es

end

/-- No kind changes with the signs of zeros. -/
theorem kindName_plusZeros (v : Value) : v.plusZeros.kindName = v.kindName := by
  cases v <;> rfl

/-- No wire type changes with the signs of zeros. -/
theorem type_plusZeros (v : Value) : WireType.of v.plusZeros = WireType.of v := by
  cases v <;> rfl

mutual

/-- The doubles inside are changed one by one. -/
theorem doubles_plusZeros (v : Value) : v.plusZeros.doubles = v.doubles.map Double.plusZero := by
  cases v with
  | null | bool | int | uint | float | time | text | bytes => rfl
  | array items => exact doubles_plusZerosItems items
  | map entries => exact doubles_plusZerosEntries entries

theorem doubles_plusZerosItems (vs : List Value) :
    itemDoubles (plusZerosItems vs) = (itemDoubles vs).map Double.plusZero := by
  cases vs with
  | nil => rfl
  | cons v vs =>
    simp only [plusZerosItems, itemDoubles, doubles_plusZeros v, doubles_plusZerosItems vs,
      List.map_append]

theorem doubles_plusZerosEntries (es : List (Value × Value)) :
    entryDoubles (plusZerosEntries es) = (entryDoubles es).map Double.plusZero := by
  cases es with
  | nil => rfl
  | cons e es =>
    simp only [plusZerosEntries, entryDoubles, doubles_plusZeros e.1, doubles_plusZeros e.2,
      doubles_plusZerosEntries es, List.map_append]

end

mutual

/-- Without a zero there is nothing to change. -/
theorem plusZeros_eq_self (v : Value) (h : ∀ x ∈ v.doubles, x.isZero = false) :
    v.plusZeros = v := by
  cases v with
  | null | bool | int | uint | time | text | bytes => rfl
  | float x =>
    exact congrArg float (Double.plusZero_of_not_isZero (h x (List.mem_singleton_self x)))
  | array items => exact congrArg array (plusZerosItems_eq_self items h)
  | map entries => exact congrArg map (plusZerosEntries_eq_self entries h)

/-- Items without zeros stay as they are. -/
theorem plusZerosItems_eq_self (vs : List Value) (h : ∀ x ∈ itemDoubles vs, x.isZero = false) :
    plusZerosItems vs = vs := by
  cases vs with
  | nil => rfl
  | cons v vs =>
    obtain ⟨hv, hvs⟩ := List.forall_mem_append.1 h
    rw [plusZerosItems, plusZeros_eq_self v hv, plusZerosItems_eq_self vs hvs]

theorem plusZerosEntries_eq_self (es : List (Value × Value))
    (h : ∀ x ∈ entryDoubles es, x.isZero = false) : plusZerosEntries es = es := by
  cases es with
  | nil => rfl
  | cons e es =>
    obtain ⟨hkey, hrest⟩ := List.forall_mem_append.1 h
    obtain ⟨hvalue, hes⟩ := List.forall_mem_append.1 hrest
    rw [plusZerosEntries, plusZeros_eq_self e.1 hkey, plusZeros_eq_self e.2 hvalue,
      plusZerosEntries_eq_self es hes]

end

/-! ### Equality up to the signs of zeros -/

mutual

/-- **Values are equal** exactly if there is no NaN in the first and they agree up to the signs
    of zeros. -/
theorem same_iff (v w : Value) :
    v.same w = true ↔ (∀ x ∈ v.doubles, x.isNaN = false) ∧ v.plusZeros = w.plusZeros := by
  cases v with
  | null | bool | int | uint | time | text | bytes =>
    cases w <;> simp [same, doubles, plusZeros]
  | float x =>
    cases w with
    | float y => simp [same, doubles, plusZeros, Double.same_iff]
    | _ => simp [same, plusZeros]
  | array items =>
    cases w with
    | array items' => simp [same, doubles, plusZeros, sameItems_iff items items']
    | _ => simp [same, plusZeros]
  | map entries =>
    cases w with
    | map entries' => simp [same, doubles, plusZeros, sameEntries_iff entries entries']
    | _ => simp [same, plusZeros]

/-- Items are equal if none has a NaN inside, up to the signs of zeros. -/
theorem sameItems_iff (vs ws : List Value) :
    sameItems vs ws = true ↔
      (∀ x ∈ itemDoubles vs, x.isNaN = false) ∧ plusZerosItems vs = plusZerosItems ws := by
  cases vs with
  | nil => cases ws <;> simp [sameItems, itemDoubles, plusZerosItems]
  | cons v vs =>
    cases ws with
    | nil => simp [sameItems, plusZerosItems]
    | cons w ws =>
      simp only [sameItems, itemDoubles, plusZerosItems, Bool.and_eq_true, same_iff v w,
        sameItems_iff vs ws, List.forall_mem_append, List.cons.injEq]
      tauto

theorem sameEntries_iff (es fs : List (Value × Value)) :
    sameEntries es fs = true ↔
      (∀ x ∈ entryDoubles es, x.isNaN = false) ∧ plusZerosEntries es = plusZerosEntries fs := by
  cases es with
  | nil => cases fs <;> simp [sameEntries, entryDoubles, plusZerosEntries]
  | cons e es =>
    cases fs with
    | nil => simp [sameEntries, plusZerosEntries]
    | cons f fs =>
      simp only [sameEntries, entryDoubles, plusZerosEntries, Bool.and_eq_true, same_iff e.1 f.1,
        same_iff e.2 f.2, sameEntries_iff es fs, List.forall_mem_append, List.cons.injEq,
        Prod.mk.injEq]
      tauto

end

/-- What a sign of zero does not touch, and holds of the doubles in one value, holds of those in a
    value that agrees up to the signs of zeros. -/
theorem forall_doubles_of_plusZeros_eq {p : Double → Bool} (hp : ∀ x, p x.plusZero = p x)
    {v w : Value} (h : v.plusZeros = w.plusZeros) (hv : ∀ x ∈ v.doubles, p x = false) :
    ∀ x ∈ w.doubles, p x = false := by
  intro x hx
  -- The double without its sign of zero is one of the first value.
  have hmem : x.plusZero ∈ v.doubles.map Double.plusZero := by
    rw [← doubles_plusZeros, h, doubles_plusZeros]
    exact List.mem_map_of_mem hx
  obtain ⟨y, hy, heq⟩ := List.mem_map.1 hmem
  rw [← hp x, ← heq, hp y, hv y hy]

/-- Equality goes both ways, as a NaN inside either value is one inside the other. -/
theorem same_symm {v w : Value} (h : v.same w = true) : w.same v = true := by
  obtain ⟨hnan, heq⟩ := (same_iff v w).1 h
  exact (same_iff w v).2 ⟨forall_doubles_of_plusZeros_eq Double.isNaN_plusZero heq hnan, heq.symm⟩

/-- Equality goes on from one value to the next. -/
theorem same_trans {u v w : Value} (huv : u.same v = true) (hvw : v.same w = true) :
    u.same w = true := by
  obtain ⟨hnan, heq⟩ := (same_iff u v).1 huv
  exact (same_iff u w).2 ⟨hnan, heq.trans ((same_iff v w).1 hvw).2⟩

/-- A value equals itself exactly if there is no NaN in it. -/
theorem same_self_iff (v : Value) : v.same v = true ↔ ∀ x ∈ v.doubles, x.isNaN = false := by
  rw [same_iff]
  exact and_iff_left rfl

/-- **Equal values without a zero are the same.** -/
theorem eq_of_same {v w : Value} (h : v.same w = true) (hzero : ∀ x ∈ v.doubles, x.isZero = false) :
    v = w := by
  have heq := ((same_iff v w).1 h).2
  rw [← plusZeros_eq_self v hzero, heq,
    plusZeros_eq_self w (forall_doubles_of_plusZeros_eq Double.isZero_plusZero heq hzero)]

/-- Equal values are of one kind. -/
theorem kindName_eq_of_same {v w : Value} (h : v.same w = true) : v.kindName = w.kindName := by
  rw [← kindName_plusZeros, ((same_iff v w).1 h).2, kindName_plusZeros]

/-- Equal values have one wire type. -/
theorem type_eq_of_same {v w : Value} (h : v.same w = true) : WireType.of v = WireType.of w := by
  rw [← type_plusZeros, ((same_iff v w).1 h).2, type_plusZeros]

/-- The doubles inside items, item by item. -/
theorem itemDoubles_eq (vs : List Value) : itemDoubles vs = vs.flatMap doubles := by
  induction vs with
  | nil => rfl
  | cons v vs ih => rw [itemDoubles, ih, List.flatMap_cons]

theorem plusZerosItems_eq (vs : List Value) : plusZerosItems vs = vs.map plusZeros := by
  induction vs with
  | nil => rfl
  | cons v vs ih => rw [plusZerosItems, ih, List.map_cons]

/-- Equal items have the same wire types in order. -/
theorem types_eq_of_sameItems {vs ws : List Value} (h : sameItems vs ws = true) :
    vs.map WireType.of = ws.map WireType.of := by
  -- Signs of zeros do not show in the types.
  have htypes : ∀ us : List Value, us.map WireType.of = (plusZerosItems us).map WireType.of := by
    intro us
    rw [plusZerosItems_eq, List.map_map]
    exact List.map_congr_left fun u _ => (type_plusZeros u).symm
  rw [htypes vs, ((sameItems_iff vs ws).1 h).2, ← htypes ws]

/-- Equal items without zeros are the same items. -/
theorem eq_of_sameItems {vs ws : List Value} (h : sameItems vs ws = true)
    (hzero : ∀ v ∈ vs, ∀ x ∈ v.doubles, x.isZero = false) : vs = ws := by
  -- The items are equal as arrays.
  have harray : (array vs).same (array ws) = true := by rwa [same]
  refine array.inj (eq_of_same harray fun x hx => ?_)
  rw [doubles, itemDoubles_eq, List.mem_flatMap] at hx
  obtain ⟨v, hv, hx⟩ := hx
  exact hzero v hv x hx

end Value

/-! ### Equal records -/

namespace Record

variable {r s : Record}

/-- Records are equal if their names are the same and their values are equal, in order. -/
theorem same_iff : r.same s = true ↔
    r.names = s.names ∧ Value.sameItems r.values s.values = true := by
  rw [same, Bool.and_eq_true, beq_iff_eq]

/-- Equal records have one shape. -/
theorem shape_eq_of_same (h : r.same s = true) : r.shape = s.shape := by
  obtain ⟨hnames, hvalues⟩ := same_iff.1 h
  exact shape_eq_iff.2 ⟨hnames, Value.types_eq_of_sameItems hvalues⟩

end Record

/-! ### What equality carries over to -/

/-- **The laws of equality.** It is symmetric and transitive, and a value equals itself exactly if
    none of the doubles in it, at any depth, is a NaN.  Equal values are of one kind and travel
    under one type; if there is no zero among the doubles in the first, at any depth, they are also
    written alike, stringified as well as in a line.  So equal records have one signature, and
    without a zero the cells of one are the cells of the other. -/
theorem Value.same_laws (u v w : Value) (r s : Record) :
    v.same w = w.same v ∧
    (u.same v = true → v.same w = true → u.same w = true) ∧
    (v.same v = true ↔ ∀ x ∈ v.doubles, x.isNaN = false) ∧
    (v.same w = true → v.kindName = w.kindName ∧ WireType.of v = WireType.of w ∧
      ((∀ x ∈ v.doubles, x.isZero = false) →
        v.display = w.display ∧ ∀ mapsAsJson, v.cell mapsAsJson = w.cell mapsAsJson)) ∧
    (r.same s = true → (∀ i, Signature.of r i = Signature.of s i) ∧
      ((∀ v ∈ r.values, ∀ x ∈ v.doubles, x.isZero = false) →
        ∀ mapsAsJson, r.values.map (cell mapsAsJson) = s.values.map (cell mapsAsJson))) := by
  refine ⟨Bool.eq_iff_iff.2 ⟨same_symm, same_symm⟩, same_trans, same_self_iff v, ?_, ?_⟩
  · intro h
    refine ⟨kindName_eq_of_same h, type_eq_of_same h, fun hzero => ?_⟩
    rw [eq_of_same h hzero]
    exact ⟨rfl, fun _ => rfl⟩
  · intro h
    refine ⟨fun i => Signature.of_eq_iff.2 ⟨rfl, Record.shape_eq_of_same h⟩, ?_⟩
    intro hzero mapsAsJson
    rw [eq_of_sameItems (Record.same_iff.1 h).2 hzero]

/-- Maps whose keys hold the two zeros are equal and written differently.  A record with a value in
    its place and one in which the value took the place of another one are written alike. -/
theorem Value.same_laws_zeros :
    let plus := map [(array [float ⟨0⟩], text "k")]
    let minus := map [(array [float ⟨0x8000000000000000⟩], text "k")]
    let v := map [(float ⟨0x3ff8000000000000⟩, array [bytes [0], uint 0xffffffffffffffff])]
    let w := map [(float ⟨0x3ff8000000000000⟩, array [bytes [0], ofUInt64 0xffffffffffffffff])]
    let r : Record := ⟨[("a,\"", v)], by simp⟩
    let s : Record := (Record.empty.insert "a,\"" null).insert "a,\"" w
    plus.same minus = true ∧ minus.same plus = true ∧ plus.same plus = true ∧
      plus.kindName = minus.kindName ∧ plus.display ≠ minus.display ∧
      v.same w = true ∧ (∀ x ∈ v.doubles, x.isZero = false) ∧ (∀ j, v.cell j = w.cell j) ∧
      r.same s = true ∧ (∀ v ∈ r.values, ∀ x ∈ v.doubles, x.isZero = false) ∧
      (∀ i, Signature.of r i = Signature.of s i) ∧
      ∀ j, r.values.map (cell j) = s.values.map (cell j) := by
  intro plus minus v w r s
  have hplus : plus.same minus = true := rfl
  have hminus : minus.same plus = true := rfl
  have hsame : v.same w = true := rfl
  have hzero : ∀ x ∈ v.doubles, x.isZero = false := by decide
  have hrecord : r.same s = true := by decide +kernel
  have hvalues : ∀ v ∈ r.values, ∀ x ∈ v.doubles, x.isZero = false := by
    intro u hu
    rw [List.mem_singleton.1 hu]
    exact hzero
  obtain ⟨-, htrans, -, hkind, -⟩ := same_laws plus minus plus r s
  obtain ⟨-, -, -, hwritten, hcells⟩ := same_laws v v w r s
  exact ⟨hplus, hminus, htrans hplus hminus, (hkind hminus).1.symm, by decide +kernel, hsame, hzero,
    ((hwritten hsame).2.2 hzero).2, hrecord, hvalues, (hcells hrecord).1,
    (hcells hrecord).2 hvalues⟩

end Telemetry
