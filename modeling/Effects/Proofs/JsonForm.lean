import Effects.Proofs.Double
import Effects.Value

/-!
# The JSON form of values

A value is written as JSON and read back. Nothing is lost but the numbers that are not finite, for
which there is `null`, and the sign of zero, which equality of values does not see. Values that
differ are written differently: a whole number of up to 53 bits has one form, as a whole number, and
every other number has one form, as the double itself.

About a number all that matters is the number that it stands for. The rest is structure: each of the
results is one induction on a value, with its lists and its fields.
-/

namespace Effects.Value

open Decimal

mutual

/-- Whether all numbers, at any depth, are finite. -/
def isFinite : Value → Bool
  | .num x => x.isFinite
  | .list items => itemsFinite items
  | .obj fields => fieldsFinite fields
  | .null | .bool _ | .str _ => true

def itemsFinite : List Value → Bool
  | [] => true
  | v :: rest => v.isFinite && itemsFinite rest

def fieldsFinite : List (String × Value) → Bool
  | [] => true
  | (_, v) :: rest => v.isFinite && fieldsFinite rest

end

mutual

/-- The value with `null` in the place of each number that is not finite. -/
def finitised : Value → Value
  | .num x => if x.isFinite then .num x else .null
  | .list items => .list (itemsFinitised items)
  | .obj fields => .obj (fieldsFinitised fields)
  | .null => .null
  | .bool b => .bool b
  | .str s => .str s

def itemsFinitised : List Value → List Value
  | [] => []
  | v :: rest => v.finitised :: itemsFinitised rest

def fieldsFinitised : List (String × Value) → List (String × Value)
  | [] => []
  | (name, v) :: rest => (name, v.finitised) :: fieldsFinitised rest

end

/-! ## Numbers -/

section

variable {x y : Float}

theorem numToJson_of_not_isFinite (hx : x.isFinite = false) : numToJson x = .null := by
  simp only [numToJson, exactInt?, hx, Bool.false_eq_true, if_false]

/-- A whole number, if it is exact, has the form of a whole number. -/
theorem numToJson_eq_integer_iff (hx : x.isFinite = true) (n : Int) :
    numToJson x = .integer n ↔ exact x = n ∧ n.natAbs ≤ maxExact := by
  rw [← exactInt?_eq_some_iff hx, numToJson]
  cases exactInt? x with
  | some m => simp
  | none => simp [hx]

/-- All other numbers have the form of a double. -/
theorem numToJson_eq_float_iff (hx : x.isFinite = true) (y : Float) :
    numToJson x = .float y ↔ y = x ∧ ∀ n : Int, exact x = n → maxExact < n.natAbs := by
  have hread := exactInt?_eq_some_iff hx
  rw [numToJson]
  cases hwhole : exactInt? x with
  | some m =>
    obtain ⟨hexact, hle⟩ := (hread m).mp hwhole
    exact ⟨nofun, fun ⟨_, hlarge⟩ => absurd (hlarge m hexact) (by omega)⟩
  | none =>
    -- were it whole and small, it would have been read as a whole number
    simp only [hx, if_true, Json.float.injEq, eq_comm (a := x), iff_self_and]
    rintro - n hexact
    by_contra hle
    cases hwhole.symm.trans ((hread n).mpr ⟨hexact, by omega⟩)

theorem numToJson_cases (hx : x.isFinite = true) :
    (∃ n, numToJson x = .integer n) ∨ numToJson x = .float x := by
  rw [numToJson]
  cases exactInt? x with
  | some n => exact .inl ⟨n, rfl⟩
  | none => exact .inr (if_pos hx)

/-- A number is written as what it stands for. -/
theorem numToJson_eq_iff (hx : x.isFinite = true) (hy : y.isFinite = true) :
    numToJson x = numToJson y ↔ exact x = exact y := by
  constructor
  · intro h
    rcases numToJson_cases hy with ⟨n, hform⟩ | hform
    · rw [((numToJson_eq_integer_iff hx n).mp (h.trans hform)).1,
        ((numToJson_eq_integer_iff hy n).mp hform).1]
    · rw [((numToJson_eq_float_iff hx y).mp (h.trans hform)).1]
  · intro h
    by_cases hsmall : ∃ n : Int, exact x = n ∧ n.natAbs ≤ maxExact
    · obtain ⟨n, hn, hle⟩ := hsmall
      rw [(numToJson_eq_integer_iff hx n).mpr ⟨hn, hle⟩,
        (numToJson_eq_integer_iff hy n).mpr ⟨h.symm.trans hn, hle⟩]
    · -- zero is small, so the doubles are the same
      have hne : exact x ≠ 0 := fun hzero => hsmall ⟨0, by simpa using hzero, by decide⟩
      rw [eq_of_exact_eq h hne]

/-- What is read back stands for the same number. -/
theorem ofJson_numToJson (hx : x.isFinite = true) :
    ∃ y, ofJson (numToJson x) = .num y ∧ y.isFinite = true ∧ exact y = exact x := by
  rcases numToJson_cases hx with ⟨n, hform⟩ | hform
  · obtain ⟨hexact, hle⟩ := (numToJson_eq_integer_iff hx n).mp hform
    obtain ⟨hfinite, hread⟩ := ofInt_isFinite_exact hle
    exact ⟨ofInt n, by rw [hform, ofJson], hfinite, hread.trans hexact.symm⟩
  · exact ⟨x, by rw [hform, ofJson], hx, rfl⟩

end

/-! ## Values -/

mutual

theorem finitised_of_isFinite : ∀ v : Value, v.isFinite = true → v.finitised = v
  | .null, _ | .bool _, _ | .str _, _ => rfl
  | .num _, h => if_pos h
  | .list items, h => congrArg Value.list (itemsFinitised_of_itemsFinite items h)
  | .obj fields, h => congrArg Value.obj (fieldsFinitised_of_fieldsFinite fields h)

theorem itemsFinitised_of_itemsFinite :
    ∀ items, itemsFinite items = true → itemsFinitised items = items
  | [], _ => rfl
  | v :: rest, h => by
    rw [itemsFinite, Bool.and_eq_true] at h
    rw [itemsFinitised, finitised_of_isFinite v h.1, itemsFinitised_of_itemsFinite rest h.2]

theorem fieldsFinitised_of_fieldsFinite :
    ∀ fields, fieldsFinite fields = true → fieldsFinitised fields = fields
  | [], _ => rfl
  | (name, v) :: rest, h => by
    rw [fieldsFinite, Bool.and_eq_true] at h
    rw [fieldsFinitised, finitised_of_isFinite v h.1, fieldsFinitised_of_fieldsFinite rest h.2]

end

mutual

/-- What is read back is equal to the value, but for the numbers that are not finite. -/
theorem equal_ofJson_toJson : ∀ v : Value, (ofJson v.toJson).equal v.finitised = true
  | .null => rfl
  | .bool b => by simp [toJson, ofJson, finitised, equal]
  | .str s => by simp [toJson, ofJson, finitised, equal]
  | .num x => by
    rw [toJson, finitised]
    cases hx : x.isFinite with
    | true =>
      obtain ⟨y, hread, hy, hexact⟩ := ofJson_numToJson hx
      rw [if_pos rfl, hread, equal]
      exact (beq_iff hy hx).mpr hexact
    | false =>
      rw [numToJson_of_not_isFinite hx]
      rfl
  | .list items => equalItems_ofJson_toJson items
  | .obj fields => equalFields_ofJson_toJson fields

theorem equalItems_ofJson_toJson :
    ∀ items, equalItems (itemsOfJson (itemsToJson items)) (itemsFinitised items) = true
  | [] => rfl
  | v :: rest => by
    rw [itemsToJson, itemsOfJson, itemsFinitised, equalItems, equal_ofJson_toJson v,
      equalItems_ofJson_toJson rest, Bool.and_self]

theorem equalFields_ofJson_toJson :
    ∀ fields, equalFields (fieldsOfJson (fieldsToJson fields)) (fieldsFinitised fields) = true
  | [] => rfl
  | (name, v) :: rest => by
    rw [fieldsToJson, fieldsOfJson, fieldsFinitised, equalFields, equal_ofJson_toJson v,
      equalFields_ofJson_toJson rest, beq_self_eq_true, Bool.and_self, Bool.and_self]

end

mutual

/-- What is read back is written in the same way. -/
theorem toJson_ofJson_toJson : ∀ v : Value, (ofJson v.toJson).toJson = v.toJson
  | .null | .bool _ | .str _ => rfl
  | .num x => by
    rw [toJson]
    cases hx : x.isFinite with
    | true =>
      obtain ⟨y, hread, hy, hexact⟩ := ofJson_numToJson hx
      rw [hread, toJson]
      exact (numToJson_eq_iff hy hx).mpr hexact
    | false =>
      rw [numToJson_of_not_isFinite hx]
      rfl
  | .list items => congrArg Json.array (itemsToJson_ofJson_toJson items)
  | .obj fields => congrArg Json.object (fieldsToJson_ofJson_toJson fields)

theorem itemsToJson_ofJson_toJson :
    ∀ items, itemsToJson (itemsOfJson (itemsToJson items)) = itemsToJson items
  | [] => rfl
  | v :: rest => by
    rw [itemsToJson, itemsOfJson, itemsToJson, toJson_ofJson_toJson v,
      itemsToJson_ofJson_toJson rest]

theorem fieldsToJson_ofJson_toJson :
    ∀ fields, fieldsToJson (fieldsOfJson (fieldsToJson fields)) = fieldsToJson fields
  | [] => rfl
  | (name, v) :: rest => by
    rw [fieldsToJson, fieldsOfJson, fieldsToJson, toJson_ofJson_toJson v,
      fieldsToJson_ofJson_toJson rest]

end

/-- Nothing but a number is written like a number. -/
theorem numToJson_ne_toJson {x : Float} (hx : x.isFinite = true) (w : Value)
    (hw : ∀ y, w ≠ .num y) : numToJson x ≠ w.toJson := by
  intro h
  rcases numToJson_cases hx with ⟨n, hform⟩ | hform <;> rw [hform] at h <;> cases w with
  | num y => exact hw y rfl
  | _ => cases h

mutual

/-- Values are equal if they are written in the same way. -/
theorem equal_iff_toJson_eq : ∀ v w : Value, v.isFinite = true → w.isFinite = true →
    (v.equal w = true ↔ v.toJson = w.toJson)
  | .null, w, _, hw => by
    cases w with
    | null => exact iff_of_true rfl rfl
    | num y => exact iff_of_false nofun (numToJson_ne_toJson hw .null nofun).symm
    | _ => exact iff_of_false nofun nofun
  | .bool b, w, _, hw => by
    cases w with
    | bool c => simp [equal, toJson]
    | num y => exact iff_of_false nofun (numToJson_ne_toJson hw (.bool b) nofun).symm
    | _ => exact iff_of_false nofun nofun
  | .str s, w, _, hw => by
    cases w with
    | str t => simp [equal, toJson]
    | num y => exact iff_of_false nofun (numToJson_ne_toJson hw (.str s) nofun).symm
    | _ => exact iff_of_false nofun nofun
  | .num x, w, hx, hw => by
    cases w with
    | num y => exact (beq_iff hx hw).trans (numToJson_eq_iff hx hw).symm
    | _ => exact iff_of_false nofun (numToJson_ne_toJson hx _ nofun)
  | .list items, w, hv, hw => by
    cases w with
    | list items' =>
      rw [equal, toJson, toJson, Json.array.injEq]
      exact equalItems_iff_itemsToJson_eq items items' hv hw
    | num y => exact iff_of_false nofun (numToJson_ne_toJson hw (.list items) nofun).symm
    | _ => exact iff_of_false nofun nofun
  | .obj fields, w, hv, hw => by
    cases w with
    | obj fields' =>
      rw [equal, toJson, toJson, Json.object.injEq]
      exact equalFields_iff_fieldsToJson_eq fields fields' hv hw
    | num y => exact iff_of_false nofun (numToJson_ne_toJson hw (.obj fields) nofun).symm
    | _ => exact iff_of_false nofun nofun

theorem equalItems_iff_itemsToJson_eq : ∀ items items', itemsFinite items = true →
    itemsFinite items' = true →
    (equalItems items items' = true ↔ itemsToJson items = itemsToJson items')
  | [], [], _, _ => iff_of_true rfl rfl
  | [], _ :: _, _, _ => iff_of_false nofun nofun
  | _ :: _, [], _, _ => iff_of_false nofun nofun
  | v :: rest, w :: rest', hv, hw => by
    rw [itemsFinite, Bool.and_eq_true] at hv hw
    rw [equalItems, Bool.and_eq_true, itemsToJson, itemsToJson, List.cons.injEq,
      equal_iff_toJson_eq v w hv.1 hw.1, equalItems_iff_itemsToJson_eq rest rest' hv.2 hw.2]

theorem equalFields_iff_fieldsToJson_eq : ∀ fields fields', fieldsFinite fields = true →
    fieldsFinite fields' = true →
    (equalFields fields fields' = true ↔ fieldsToJson fields = fieldsToJson fields')
  | [], [], _, _ => iff_of_true rfl rfl
  | [], _ :: _, _, _ => iff_of_false nofun nofun
  | _ :: _, [], _, _ => iff_of_false nofun nofun
  | (name, v) :: rest, (name', w) :: rest', hv, hw => by
    rw [fieldsFinite, Bool.and_eq_true] at hv hw
    rw [equalFields, Bool.and_eq_true, Bool.and_eq_true, beq_iff_eq, fieldsToJson, fieldsToJson,
      List.cons.injEq, Prod.mk.injEq, equal_iff_toJson_eq v w hv.1 hw.1,
      equalFields_iff_fieldsToJson_eq rest rest' hv.2 hw.2]

end

/-- **The JSON form is faithful and canonical.** A value without numbers that are not finite is
equal to what is read back, and two such values are equal if and only if they are written in the
same way. In any value the numbers that are not finite come back as `null`. What is written in a
normal form, by reading a JSON value and writing it again, is in this form already.

Of the numbers, those that are whole and of at most `2^53 - 1` in magnitude are written as whole
numbers, which come back as the doubles that stand for them, and all others as doubles. Doubles are
equal if they stand for the same number. -/
theorem json_form_faithful_and_canonical :
    (∀ v : Value, v.isFinite = true → (ofJson v.toJson == v) = true) ∧
    (∀ v w : Value, v.isFinite = true → w.isFinite = true →
      ((v == w) = true ↔ v.toJson = w.toJson)) ∧
    (∀ v : Value, (ofJson v.toJson == v.finitised) = true) ∧
    (∀ j : Json, (ofJson (ofJson j).toJson).toJson = (ofJson j).toJson) ∧
    (∀ x : Float, x.isFinite = false → (Value.num x).toJson = .null) ∧
    (∀ x : Float, x.isFinite = true →
      (∀ n : Int, (Value.num x).toJson = .integer n ↔ exact x = n ∧ n.natAbs ≤ 2 ^ 53 - 1) ∧
      (∀ y, (Value.num x).toJson = .float y ↔
        y = x ∧ ∀ n : Int, exact x = n → 2 ^ 53 - 1 < n.natAbs) ∧
      ∀ y : Float, y.isFinite = true → ((x == y) = true ↔ exact x = exact y)) ∧
    ∀ n : Int, n.natAbs ≤ 2 ^ 53 - 1 →
      ∃ x, ofJson (.integer n) = .num x ∧ x.isFinite = true ∧ exact x = n := by
  refine ⟨fun v hv => ?_, equal_iff_toJson_eq, equal_ofJson_toJson,
    fun j => toJson_ofJson_toJson (ofJson j), fun x => numToJson_of_not_isFinite,
    fun x hx => ⟨numToJson_eq_integer_iff hx, numToJson_eq_float_iff hx, fun y => beq_iff hx⟩,
    fun n hn => ⟨ofInt n, by rw [ofJson], ofInt_isFinite_exact hn⟩⟩
  have hread := equal_ofJson_toJson v
  rw [finitised_of_isFinite v hv] at hread
  exact hread

/-- The two zeros are written in the same way, and numbers on both sides of the boundary are not. -/
theorem json_form_of_zeros_and_boundary :
    let v : Value := .list [.num (-0), .obj [("a", .num 0.5)]]
    let w : Value := .list [.num 0, .obj [("a", .num 0.5)]]
    (ofJson v.toJson == v) = true ∧ v.toJson = w.toJson ∧
      (Value.num 9007199254740991).toJson ≠ (Value.num 9007199254740992).toJson := by
  intro v w
  obtain ⟨hread, hequal, -⟩ := json_form_faithful_and_canonical
  refine ⟨hread v (by decide +kernel), ?_, ?_⟩
  · exact (hequal v w (by decide +kernel) (by decide +kernel)).mp (by decide +kernel)
  · exact mt (hequal (.num 9007199254740991) (.num 9007199254740992) (by decide +kernel)
      (by decide +kernel)).mpr (by decide +kernel)

end Effects.Value
