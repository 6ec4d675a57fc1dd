import Songbook.Proofs.Json.Reading
import Songbook.Value.Json

/-!
# Values through JSON

What comes back of a value that is written as JSON and read again. Main statement: of the kinds that
a request's text can be read as, all but finite doubles come back as they were, except that small
integers come back in 32 bits and doubles that are not finite as null.
-/

namespace Songbook

namespace Numeral

variable {negative : Bool} {n d : Nat} {exponent : Int}

theorem lt_ten_of_mem_ofDecimal (h : d ∈ (ofDecimal negative n exponent).fraction) : d < 10 := by
  have hdigits : ∀ {e}, e ∈ Number.digitsOf n → e < 10 := Number.lt_ten_of_mem_digitsOf
  unfold ofDecimal at h
  simp only at h
  split at h
  · obtain rfl := List.mem_singleton.1 h
    decide
  · split at h
    · exact hdigits (List.mem_of_mem_drop h)
    · split at h
      · rcases List.mem_append.1 h with hzero | hdigit
        · obtain rfl := List.eq_of_mem_replicate hzero
          decide
        · exact hdigits hdigit
      · exact hdigits (List.mem_of_mem_tail h)

theorem proper_ofDouble? {double : Double} {numeral : Numeral} (h : ofDouble? double = some numeral) :
    (Json.number numeral).Proper := by
  constructor
  intro d hd
  unfold ofDouble? at h
  split at h
  · cases h
  · split at h
    · cases h
    · split at h
      all_goals
        obtain rfl := Option.some.inj h
        exact lt_ten_of_mem_ofDecimal hd

theorem proper_ofInt (i : Int) : (Json.number (ofInt i)).Proper :=
  .number (by rintro d ⟨⟩)

theorem toInt?_ofInt (i : Int) : (ofInt i).toInt? = some i :=
  congrArg some (Number.signed_natAbs i)

theorem ofDouble?_of_not_finite {d : Double} (h : d.isFinite = false) : ofDouble? d = none := by
  cases d with
  | nan => rfl
  | signed negative rank hrank =>
    rw [Double.isFinite, decide_eq_false_iff_not, Nat.not_lt] at h
    have hinfinite : rank = Double.infinityRank := Nat.le_antisymm hrank h
    rw [ofDouble?, if_pos hinfinite]

end Numeral

namespace Value

section Writing

theorem proper_marked (mark : String) {json : Json} (h : json.Proper) :
    (marked mark json).Proper :=
  .object (by simpa using h)

mutual

/-- Every value has a form that its text determines. -/
theorem proper_toJson (value : Value) : value.toJson.Proper := by
  match value with
  | null => exact .null
  | bool b => exact .bool b
  | int32 n | int64 n => exact Numeral.proper_ofInt _
  | double d =>
    rw [toJson]
    split
    · next hnumeral => exact Numeral.proper_ofDouble? hnumeral
    · exact .null
  | string s => exact .string s
  | date millis => exact proper_marked _ (proper_marked _ (.string _))
  | timestamp time increment =>
    apply proper_marked
    apply Json.Proper.object
    simp [Numeral.proper_ofInt]
  | symbol s | code s => exact proper_marked _ (.string _)
  | objectId bytes => exact proper_marked _ (.string _)
  | decimal128 bytes => exact proper_marked _ (.string _)
  | binary bytes =>
    apply Json.Proper.array
    simp [Numeral.proper_ofInt]
  | undefined => exact proper_marked _ (.bool true)
  | minKey | maxKey => exact proper_marked _ (Numeral.proper_ofInt 1)
  | array items => exact .array (proper_itemsToJson items)
  | document fields => exact .object (proper_fieldsToJson fields)

theorem proper_itemsToJson (items : List Value) : ∀ json ∈ itemsToJson items, json.Proper := by
  match items with
  | [] => rintro json ⟨⟩
  | item :: rest =>
    rw [itemsToJson]
    exact List.forall_mem_cons.2 ⟨proper_toJson item, proper_itemsToJson rest⟩

theorem proper_fieldsToJson (fields : List (String × Value)) :
    ∀ member ∈ fieldsToJson fields, member.2.Proper := by
  match fields with
  | [] => rintro json ⟨⟩
  | (key, item) :: rest =>
    rw [fieldsToJson]
    exact List.forall_mem_cons.2 ⟨proper_toJson item, proper_fieldsToJson rest⟩

end

end Writing

/-- The value of an integer in 32 bits if these hold it and it has no sign, null for a double that
is not finite. -/
def narrowed : Value → Value
  | int64 n => if 0 ≤ n.toInt ∧ n.toInt ≤ 2147483647 then int32 (Int32.ofInt n.toInt) else int64 n
  | double d => if d.isFinite then double d else null
  | value => value

/-- The kinds that a request's text can be read as, without finite doubles. -/
inductive Plain : Value → Prop
  | bool (b : Bool) : Plain (bool b)
  | int64 (n : Int64) : Plain (int64 n)
  | string (s : String) : Plain (string s)
  | date (millis : Int64) : Plain (date millis)
  | double {d : Double} (hfinite : d.isFinite = false) : Plain (double d)

/-- Narrowing an integer keeps what it counts. -/
theorem integer?_narrowed_int64 (n : Int64) : (int64 n).narrowed.integer? = some n.toInt := by
  rw [narrowed]
  split
  · next hsmall =>
    rw [integer?, Int32.toInt_ofInt_of_le (by omega) (by omega)]
  · rfl

theorem toJson_of_integer? {value : Value} {i : Int} (h : value.integer? = some i) :
    value.toJson = .number (.ofInt i) := by
  cases value with
  | int32 n => rw [toJson, Option.some.inj h]
  | int64 n => rw [toJson, Option.some.inj h]
  | _ => cases h

theorem toJson_narrowed (value : Value) : value.narrowed.toJson = value.toJson := by
  cases value with
  | int64 n => rw [toJson_of_integer? (integer?_narrowed_int64 n), toJson]
  | double d =>
    rw [narrowed]
    split
    · rfl
    · next hfinite =>
      rw [toJson, toJson, Numeral.ofDouble?_of_not_finite (Bool.eq_false_iff.2 hfinite)]
  | _ => rfl

theorem ofNumeral?_ofInt (n : Int64) :
    ofNumeral? (.ofInt n.toInt) = some (int64 n).narrowed := by
  have hsign : (Numeral.ofInt n.toInt).negative = decide (n.toInt < 0) := rfl
  rw [ofNumeral?, Numeral.toInt?_ofInt, hsign, narrowed]
  simp only [Number.int64?_toInt]
  by_cases hneg : n.toInt < 0
  · have hlarge : ¬ (0 ≤ n.toInt ∧ n.toInt ≤ 2147483647) := by omega
    have hzero : n.toInt ≠ 0 := by omega
    rw [decide_eq_true hneg, if_pos rfl, if_neg hzero, if_neg hlarge]
  · rw [decide_eq_false hneg, if_neg Bool.false_ne_true, Number.int32?]
    have hbounds : Int32.minValue.toInt ≤ n.toInt ∧ n.toInt ≤ Int32.maxValue.toInt ↔
        0 ≤ n.toInt ∧ n.toInt ≤ 2147483647 := by
      have hmin : Int32.minValue.toInt = -2147483648 := rfl
      have hmax : Int32.maxValue.toInt = 2147483647 := rfl
      omega
    by_cases hsmall : 0 ≤ n.toInt ∧ n.toInt ≤ 2147483647
    · rw [if_pos (hbounds.2 hsmall), if_pos hsmall]
    · rw [if_neg (mt hbounds.1 hsmall), if_neg hsmall]

/-- A plain value comes back narrowed where two levels are left. -/
theorem ofJson?_toJson {value : Value} (h : value.Plain) (levels : Nat) :
    ofJson? (levels + 2) value.toJson = some value.narrowed := by
  cases h with
  | bool b => rfl
  | int64 n => exact ofNumeral?_ofInt n
  | string s => rfl
  | date millis =>
    have hmark : ofJson? (levels + 2) (date millis).toJson = ofMark? (levels + 1) "$date"
        (marked "$numberLong" (.string (String.ofList (Number.writeInt millis.toInt)))) := rfl
    rw [hmark, marked, ofMark?, if_neg (Nat.succ_ne_zero _), String.toList_ofList,
      Number.readInt?_writeInt, Option.bind_some, Number.int64?_toInt]
    rfl
  | double hfinite =>
    rw [toJson, Numeral.ofDouble?_of_not_finite hfinite, narrowed, hfinite]
    rfl

end Value

end Songbook
