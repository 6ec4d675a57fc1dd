import Songbook.Proofs.Request.Wire
import Songbook.Proofs.Text.Cutting
import Songbook.Proofs.Text.Lowering
import Songbook.Web.Form

/-!
# Written clauses

A clause is written as a field, an operator and a value, the value in any letter case and with any
blanks around it. Main statement: sent as one parameter, it makes a filter of that field alone, with
the operator that was written and the value in small letters, trimmed and read as the field has it;
or a list of such values where equality or its negation has commas.
-/

namespace Songbook

namespace Relation

def write (field value : String) (r : Relation) : String :=
  field ++ r.token ++ value

def asks (types : FieldTypes) (field value : String) (r : Relation) : Predicate :=
  let read := fun text => FieldType.read (types.get? field) (Text.trim text)
  let small := Text.lower value
  if ',' ∈ value.toList then
    match r with
    | eq => .oneOf ((Text.pieces ',' small).map read)
    | ne => .noneOf ((Text.pieces ',' small).map read)
    | r => .compare (.relation r) (read small)
  else .compare (.relation r) (read small)

/-- What is kept of a value. At the end of a key it loses the blanks at its own end. -/
def kept (value : String) : Relation → String
  | gt | lt => String.ofList (Text.trimEnd (Text.lower value).toList)
  | _ => Text.lower value

variable {value : String}

/-- A value in small letters that does not end with a blank is kept as it is. -/
theorem kept_eq_self (hsmall : ∀ c ∈ value.toList, Text.IsSmall c)
    (hlast : ∀ c, value.toList.getLast? = some c → Text.isBlank c = false) (r : Relation) :
    r.kept value = value := by
  have hlower : Text.lower value = value := Text.lower_eq_self_iff.2 hsmall
  have hend : Text.trimEnd value.toList = value.toList := by
    have happend := Text.trimEnd_append hlast []
    simpa [Text.trimEnd] using happend
  cases r with
  | gt | lt => rw [kept, hlower, hend, String.ofList_toList]
  | _ => exact hlower

theorem trim_kept (value : String) (r : Relation) :
    Text.trim (r.kept value) = Text.trim (Text.lower value) := by
  cases r with
  | gt | lt => rw [kept, Text.trim, String.toList_ofList, Text.trimChars_trimEnd, Text.trim]
  | _ => rfl

theorem kept_ne_empty (hvalue : Text.trim value ≠ "") (r : Relation) : r.kept value ≠ "" := by
  intro hempty
  apply hvalue
  rw [← Text.lower_eq_empty_iff, Text.lower_trim, ← trim_kept value r, hempty]
  rfl

theorem mem_of_mem_kept {c : Char} (hsign : c.toNat ≤ '@'.toNat) {r : Relation}
    (h : c ∈ (r.kept value).toList) : c ∈ value.toList := by
  apply (Text.mem_lower_iff hsign).1
  cases r with
  | gt | lt =>
    rw [kept, String.toList_ofList] at h
    exact Text.mem_of_mem_trimEnd h
  | _ => exact h

end Relation

namespace Web

theorem splitPiece_of_mem {key : List Char} (h : '=' ∉ key) (value : List Char) :
    splitPiece (key ++ '=' :: value) = (key, value) := by
  obtain ⟨hkey, hrest⟩ := Text.span_separator h value
  rw [splitPiece, hkey, hrest]
  rfl

theorem splitPiece_of_not_mem {cs : List Char} (h : '=' ∉ cs) : splitPiece cs = (cs, []) := by
  have hpass : ∀ c ∈ cs, (c != '=') = true := by
    intro c hc
    exact bne_iff_ne.2 fun heq => h (heq ▸ hc)
  rw [splitPiece, List.takeWhile_eq_self_iff.2 hpass, List.dropWhile_eq_nil_iff.2 hpass]
  rfl

def keyValue (text : String) : String × String :=
  let (key, value) := splitPiece text.toList
  (String.ofList key, String.ofList value)

end Web

theorem Clause.parts_of_isOperatorChar {c : Char} (h : isOperatorChar c = true) :
    Text.Parts c := by
  have hsmall := (folded_of_isOperatorChar h).1
  have hsigns : c = '>' ∨ c = '<' ∨ c = '!' ∨ c = '=' := by
    simpa [isOperatorChar, or_assoc] using h
  rcases hsigns with rfl | rfl | rfl | rfl <;>
    exact ⟨by decide +kernel, by decide +kernel, hsmall⟩

namespace IsFieldName

variable {field value : String}

/-- The first equals sign of a clause is in its operator, if it has one. -/
theorem keyValue_write (hf : IsFieldName field) (r : Relation) (heq : '=' ∉ value.toList) :
    Web.keyValue (r.write field value) = r.wire field value := by
  have hfield : '=' ∉ field.toList := fun h => absurd (hf.bare '=' h) (by decide)
  have hcut : ∀ sign : String, '=' ∉ sign.toList →
      Web.keyValue (field ++ (sign ++ "=") ++ value) = (field ++ sign, value) := by
    intro sign hsign
    have hkey : '=' ∉ (field ++ sign).toList := by simp [hfield, hsign]
    have hlist : (field ++ (sign ++ "=") ++ value).toList =
        (field ++ sign).toList ++ '=' :: value.toList := by simp
    rw [Web.keyValue, hlist, Web.splitPiece_of_mem hkey]
    simp only [String.ofList_toList]
  have hwhole : ∀ sign : String, '=' ∉ sign.toList →
      Web.keyValue (field ++ sign ++ value) = (field ++ (sign ++ value), "") := by
    intro sign hsign
    have hnone : '=' ∉ (field ++ sign ++ value).toList := by simp [hfield, hsign, heq]
    rw [Web.keyValue, Web.splitPiece_of_not_mem hnone]
    simp only [String.ofList_toList, String.append_assoc, String.ofList_nil]
  cases r with
  | eq => exact hcut "" (by decide)
  | ne => exact hcut "!" (by decide)
  | ge => exact hcut ">" (by decide)
  | le => exact hcut "<" (by decide)
  | gt => exact hwhole ">" (by decide)
  | lt => exact hwhole "<" (by decide)

/-- An operator sign parts the field from a value in the key, so only the end of the value is
trimmed. -/
theorem foldKey_append_cons (hf : IsFieldName field) {c : Char} (hc : Text.Parts c)
    (hblank : Text.isBlank c = false) {sign : String} (hsign : sign.toList = [c])
    (value : String) :
    Params.foldKey (field ++ (sign ++ value)) =
      field ++ (sign ++ String.ofList (Text.trimEnd (Text.lower value).toList)) := by
  have hsmall : Text.lowerChars field.toList = field.toList :=
    Text.lowerChars_eq_self_iff.2 (Text.lower_eq_self_iff.1 hf.small)
  have hlower : (Text.lower (field ++ (sign ++ value))).toList =
      (field.toList ++ [c]) ++ (Text.lower value).toList := by
    simp [Text.lower, hsign, Text.lowerChars_parted hc, hsmall]
  have hstart : Text.trimStart ((field.toList ++ [c]) ++ (Text.lower value).toList) =
      (field.toList ++ [c]) ++ (Text.lower value).toList := by
    apply Text.trimStart_eq_self
    intro d hd
    apply Text.head_not_blank (Text.trim_eq_self_iff.1 hf.trimmed) d
    obtain ⟨first, rest, hfirst⟩ := List.exists_cons_of_ne_nil hf.toList_ne_nil
    simpa [hfirst] using hd
  have hend : Text.trimEnd ((field.toList ++ [c]) ++ (Text.lower value).toList) =
      (field.toList ++ [c]) ++ Text.trimEnd (Text.lower value).toList := by
    apply Text.trimEnd_append
    intro d hd
    obtain rfl : c = d := by simpa using hd
    exact hblank
  apply String.toList_inj.1
  rw [Params.foldKey, Text.lower_trim, Text.trim, String.toList_ofList, hlower, Text.trimChars,
    hstart, hend]
  simp [hsign]

theorem foldKey_wire (hf : IsFieldName field) (r : Relation) (value : String) :
    Params.foldKey (r.wire field value).1 = (r.wire field (r.kept value)).1 := by
  have hsigns : ∀ tail : String, tail.toList.all Clause.isOperatorChar = true →
      Params.foldKey (field ++ tail) = field ++ tail := by
    intro tail htail
    rw [List.all_eq_true] at htail
    apply hf.foldKey_append
    · intro c hc
      exact (Clause.folded_of_isOperatorChar (htail c hc)).1
    · intro c hc
      exact (Clause.folded_of_isOperatorChar (htail c (List.mem_of_getLast? hc))).2
  cases r with
  | eq => exact hsigns "" (by decide)
  | ne => exact hsigns "!" (by decide)
  | ge => exact hsigns ">" (by decide)
  | le => exact hsigns "<" (by decide)
  | gt =>
    exact hf.foldKey_append_cons (Clause.parts_of_isOperatorChar (c := '>') (by decide))
      (by decide) (by decide) value
  | lt =>
    exact hf.foldKey_append_cons (Clause.parts_of_isOperatorChar (c := '<') (by decide))
      (by decide) (by decide) value

/-- A clause is kept as if its value had been in small letters. -/
theorem ofPairs_wire_kept (hf : IsFieldName field) (r : Relation) (value : String) :
    Params.ofPairs [r.wire field value] =
      ⟨[((r.wire field (r.kept value)).1, [(r.wire field (r.kept value)).2])]⟩ := by
  have hvalue : Text.lower (r.wire field value).2 = (r.wire field (r.kept value)).2 := by
    cases r <;> rfl
  simp [Params.ofPairs, Params.insert, Entries.alter, hf.foldKey_wire, hvalue]

end IsFieldName

/-- The predicate of a clause comes from the text of its value as it is kept. -/
theorem Clause.predicate_kept (types : FieldTypes) (field value : String) (r : Relation) :
    Clause.predicate types field ⟨field, .relation r, r.kept value⟩ = r.asks types field value := by
  have hcomma : ',' ∈ (Text.lower value).toList ↔ ',' ∈ value.toList :=
    Text.mem_lower_iff (by decide)
  have htrim := r.trim_kept value
  cases r with
  | eq | ne =>
    by_cases hmem : ',' ∈ value.toList
    · obtain ⟨first, second, rest, hpieces⟩ := Text.pieces_of_mem (hcomma.2 hmem)
      simp only [predicate, Relation.asks, Relation.kept, if_pos hmem, hpieces]
    · have hpieces := Text.pieces_of_not_mem (mt hcomma.1 hmem)
      simp only [predicate, Relation.asks, Relation.kept, if_neg hmem, hpieces]
  | _ => simp only [predicate, Relation.asks, htrim, ite_self]

namespace Descriptor

/-- A written clause makes a filter of what it asks of its field, and nothing else. -/
theorem ofParams_clause (types : FieldTypes) {field value : String} (hf : IsFieldName field)
    (r : Relation) (hvalue : Text.trim value ≠ "") (heq : '=' ∉ value.toList)
    (hline : '\n' ∉ value.toList)
    (hkey : Params.foldKey (Web.keyValue (r.write field value)).1 ∉ keywords) :
    ∃ filter, ofParams types (Params.ofPairs [Web.keyValue (r.write field value)]) =
        .ok { filter := some filter } ∧
      filter.entries = [(field, r.asks types field value)] := by
  have hhead : (r.kept value).toList.head? ≠ some '=' := by
    intro h
    exact heq (r.mem_of_mem_kept (by decide) (List.mem_of_head? h))
  have hkept : '\n' ∉ (r.kept value).toList := fun h => hline (r.mem_of_mem_kept (by decide) h)
  rw [hf.keyValue_write r heq, hf.foldKey_wire] at hkey
  refine ⟨Filter.empty.insert field (r.asks types field value), ?_, rfl⟩
  rw [hf.keyValue_write r heq, hf.ofPairs_wire_kept, ofParams_single types hkey,
    Filter.addParam_wire hf r (r.kept_ne_empty hvalue) hhead hkept, Clause.predicate_kept]
  rfl

theorem ofParams_clause_albums :
    Relation.ne.write "album" " Red,FEARLESS " = "album!= Red,FEARLESS " ∧
      ∃ filter, ofParams [] (Params.ofPairs [Web.keyValue "album!= Red,FEARLESS "]) =
          .ok { filter := some filter } ∧
        filter.entries = [("album", .noneOf [.string "red", .string "fearless"])] := by
  have hf : IsFieldName "album" :=
    ⟨by decide, by decide, by decide, Clause.bare_of_all (by decide)⟩
  have hwritten : Relation.ne.write "album" " Red,FEARLESS " = "album!= Red,FEARLESS " := by decide
  have hvalue : Text.trim " Red,FEARLESS " ≠ "" := by decide
  obtain ⟨filter, hok, hentries⟩ :=
    ofParams_clause [] hf .ne hvalue (by decide) (by decide) (by decide)
  exact ⟨hwritten, filter, hwritten ▸ hok, hentries⟩

end Descriptor

end Songbook
