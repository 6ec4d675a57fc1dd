import Songbook.Proofs.Text.Cutting
import Songbook.Proofs.Text.Folding
import Songbook.Request.Descriptor

/-!
# Clauses on the wire

A query string is cut at the first equals sign of each clause, so the operator of a clause is torn
apart or stays in the key. Main statement: whatever the operator, the one filter of the descriptor
is the clause that was written.
-/

namespace Songbook

structure IsFieldName (field : String) : Prop where
  ne_empty : field ≠ ""
  trimmed : Text.trim field = field
  small : Text.lower field = field
  bare : ∀ c ∈ field.toList, Clause.isOperatorChar c = false

/-- What of a clause's value stands in the key: an operator without an equals sign keeps it all. -/
def Relation.keyPart (value : String) : Relation → String
  | eq => ""
  | ne => "!"
  | ge => ">"
  | le => "<"
  | gt => ">" ++ value
  | lt => "<" ++ value

def Relation.wire (field value : String) (r : Relation) : String × String :=
  (field ++ r.keyPart value, match r with
    | gt | lt => ""
    | _ => value)

theorem Relation.fst_wire (field value : String) (r : Relation) :
    (r.wire field value).1 = field ++ r.keyPart value := rfl

namespace IsFieldName

variable {field : String}

theorem toList_ne_nil (hf : IsFieldName field) : field.toList ≠ [] := by
  intro h
  exact hf.ne_empty (String.toList_eq_nil_iff.1 h)

theorem foldKey_append (hf : IsFieldName field) {tail : String}
    (hsmall : ∀ c ∈ tail.toList, Text.IsSmall c)
    (hlast : ∀ c, tail.toList.getLast? = some c → Text.isBlank c = false) :
    Params.foldKey (field ++ tail) = field ++ tail := by
  have htrim := Text.trim_eq_self_iff.1 hf.trimmed
  have hkeep : Text.trim (field ++ tail) = field ++ tail := by
    refine Text.trim_eq_self_iff.2 (Text.trimChars_eq_self ?_ ?_)
    · intro c hc
      obtain ⟨d, rest, hd⟩ := List.exists_cons_of_ne_nil hf.toList_ne_nil
      refine Text.head_not_blank htrim c ?_
      simpa [hd] using hc
    · intro c hc
      rw [String.toList_append, List.getLast?_append] at hc
      cases ht : tail.toList.getLast? with
      | none => exact Text.last_not_blank htrim c (by simpa [ht] using hc)
      | some d => exact hlast c (by simpa [ht] using hc)
  rw [Params.foldKey, hkeep, Text.lower_eq_self_iff]
  intro c hc
  rcases List.mem_append.1 (String.toList_append ▸ hc) with hc | hc
  · exact Text.lower_eq_self_iff.1 hf.small c hc
  · exact hsmall c hc

theorem span_operator (hf : IsFieldName field) {c : Char} (hc : Clause.isOperatorChar c = true)
    (rest : List Char) :
    (field.toList ++ c :: rest).takeWhile (!Clause.isOperatorChar ·) = field.toList ∧
      (field.toList ++ c :: rest).dropWhile (!Clause.isOperatorChar ·) = c :: rest := by
  have hbare : ∀ d ∈ field.toList, (!Clause.isOperatorChar d) = true := by
    intro d hd
    rw [hf.bare d hd]
    rfl
  exact Text.span_append_cons (p := (!Clause.isOperatorChar ·)) hbare (by simp [hc]) rest

end IsFieldName

namespace Clause

theorem bare_of_all {s : String} (h : s.toList.all (!isOperatorChar ·) = true) :
    ∀ c ∈ s.toList, isOperatorChar c = false := by
  intro c hc
  exact (Bool.not_eq_true' _).mp (List.all_eq_true.1 h c hc)

theorem folded_of_isOperatorChar {c : Char} (h : isOperatorChar c = true) :
    Text.IsSmall c ∧ Text.isBlank c = false := by
  have hsigns : c = '>' ∨ c = '<' ∨ c = '!' ∨ c = '=' := by
    simpa [isOperatorChar, or_assoc] using h
  rcases hsigns with rfl | rfl | rfl | rfl <;>
    exact ⟨Text.isSmall_of_lt_capitals (by decide), by decide⟩

/-- The longest operator is the one that was written unless the value lengthens it. -/
theorem takeOperator_token (r : Relation) {value : List Char} (hv : value.head? ≠ some '=') :
    takeOperator (r.token.toList ++ value) = (r.token.toList, value) := by
  cases value with
  | nil => cases r <;> rfl
  | cons c rest =>
    have hc : c ≠ '=' := fun h => hv (by rw [h, List.head?_cons])
    cases r with
    | eq => rfl
    | ne => rfl
    | ge => rfl
    | le => rfl
    | gt =>
      change takeOperator ('>' :: c :: rest) = (['>'], c :: rest)
      unfold takeOperator
      split <;> simp_all
    | lt =>
      change takeOperator ('<' :: c :: rest) = (['<'], c :: rest)
      unfold takeOperator
      split <;> simp_all

theorem token_eq_cons (r : Relation) :
    ∃ c rest, r.token.toList = c :: rest ∧ isOperatorChar c = true := by
  cases r <;> exact ⟨_, _, rfl, by decide⟩

theorem ofToken_token (r : Relation) : Operator.ofToken r.token = .relation r := by
  cases r <;> rfl

/-- A clause is read as it was written if its operator is. -/
theorem read?_of_takeOperator {field : String} (hf : IsFieldName field) (r : Relation)
    {value : String}
    (htake : takeOperator (r.token.toList ++ value.toList) = (r.token.toList, value.toList))
    (hline : '\n' ∉ value.toList) :
    read? (field ++ r.token ++ value) = some ⟨field, .relation r, value⟩ := by
  obtain ⟨c, rest, htoken, hc⟩ := token_eq_cons r
  have hspan := hf.span_operator hc (rest ++ value.toList)
  rw [← List.cons_append, ← htoken] at hspan
  have hlist : (field ++ r.token ++ value).toList =
      field.toList ++ (r.token.toList ++ value.toList) := by
    rw [String.toList_append, String.toList_append, List.append_assoc]
  rw [read?, hlist, ofChars?, hspan.1, hspan.2, htake]
  have hkeep : (field.toList.isEmpty || value.toList.contains '\n') = false := by
    simp [hf.toList_ne_nil, hline]
  simp only [hkeep, Bool.false_eq_true, if_false, String.ofList_toList, ofToken_token]

theorem read?_written {field : String} (hf : IsFieldName field) (r : Relation) {value : String}
    (hv : value.toList.head? ≠ some '=') (hline : '\n' ∉ value.toList) :
    read? (field ++ r.token ++ value) = some ⟨field, .relation r, value⟩ :=
  read?_of_takeOperator hf r (takeOperator_token r hv) hline

section Predicates

variable (types : FieldTypes) (field : String)

/-- A value without a comma is one value, whatever the relation. -/
theorem predicate_of_bare {text : String} (h : ',' ∉ text.toList) (r : Relation) :
    predicate types field ⟨field, .relation r, text⟩ =
      .compare (.relation r) (FieldType.read (types.get? field) (Text.trim text)) := by
  rw [predicate, Text.pieces_of_not_mem h]
  cases r <;> rfl

/-- The parts of a list are read one by one. -/
theorem predicate_of_parts {parts : List String} (htwo : 2 ≤ parts.length)
    (h : ∀ part ∈ parts, ',' ∉ part.toList) :
    let values := parts.map fun part => FieldType.read (types.get? field) (Text.trim part)
    predicate types field ⟨field, .relation .eq, ",".intercalate parts⟩ = .oneOf values ∧
      predicate types field ⟨field, .relation .ne, ",".intercalate parts⟩ = .noneOf values := by
  match parts with
  | first :: second :: rest =>
    have hpieces : Text.pieces ',' (",".intercalate (first :: second :: rest)) =
        first :: second :: rest := Text.pieces_intercalate (by decide) (List.cons_ne_nil _ _) h
    rw [predicate, predicate, hpieces]
    exact ⟨rfl, rfl⟩

end Predicates

end Clause

namespace Params

/-- Texts under `sort` are kept together, in small letters. -/
theorem ofPairs_sort (texts : List String) (hne : texts ≠ []) :
    ofPairs (texts.map fun text => ("sort", text)) =
      ⟨[("sort", texts.map Text.lower)]⟩ := by
  have hfold : ∀ (more : List String) (values : List String),
      (more.map fun text => ("sort", text)).foldl
          (fun (params : Params) pair => params.insert pair.1 pair.2) ⟨[("sort", values)]⟩ =
        ⟨[("sort", values ++ more.map Text.lower)]⟩ := by
    intro more
    induction more with
    | nil => simp
    | cons text more ih =>
      intro values
      have hkey : foldKey "sort" = "sort" := by decide
      have hinsert : insert "sort" text ⟨[("sort", values)]⟩ =
          ⟨[("sort", values ++ [Text.lower text])]⟩ := by
        simp [insert, hkey, Entries.alter]
      rw [List.map_cons, List.foldl_cons, hinsert, ih]
      simp
  cases texts with
  | nil => exact absurd rfl hne
  | cons text texts =>
    have hfirst : insert "sort" text {} = ⟨[("sort", [Text.lower text])]⟩ := by
      have hkey : foldKey "sort" = "sort" := by decide
      simp [insert, hkey, Entries.alter]
    rw [ofPairs, List.map_cons, List.foldl_cons, hfirst, hfold]
    rfl

end Params

namespace Filter

variable {types : FieldTypes} {field : String}

theorem clauseText_wire (field : String) (r : Relation) {value : String} (hne : value ≠ "") :
    clauseText (r.wire field value).1 (r.wire field value).2 = field ++ r.token ++ value := by
  cases r <;>
    simp [clauseText, Relation.wire, Relation.keyPart, Relation.token, hne, String.append_assoc]

/-- The first parameter of a filter that spells a clause puts its predicate on the field. -/
theorem addParam_wire (hf : IsFieldName field) (r : Relation) {value : String} (hne : value ≠ "")
    (hv : value.toList.head? ≠ some '=') (hline : '\n' ∉ value.toList) :
    addParam types empty ((r.wire field value).1, [(r.wire field value).2]) =
      .ok (empty.insert field (Clause.predicate types field ⟨field, .relation r, value⟩)) := by
  simp only [addParam, clauseText_wire field r hne, Clause.read?_written hf r hv hline, hf.trimmed]
  rfl

/-- A field may equal any text of one line, even one that begins with an operator sign. -/
theorem addParam_equation (hf : IsFieldName field) {value : String} (hne : value ≠ "")
    (hline : '\n' ∉ value.toList) :
    addParam types empty (field, [value]) =
      .ok (empty.insert field (Clause.predicate types field ⟨field, .relation .eq, value⟩)) := by
  have htext : clauseText field value = field ++ Relation.eq.token ++ value := by
    simp [clauseText, hne, Relation.token]
  have htake : Clause.takeOperator (Relation.eq.token.toList ++ value.toList) =
      (Relation.eq.token.toList, value.toList) := rfl
  have hread := Clause.read?_of_takeOperator hf .eq htake hline
  simp only [addParam, htext, hread, hf.trimmed]
  rfl

end Filter

namespace Descriptor

/-- A single parameter that is no keyword makes a descriptor of a filter alone. -/
theorem ofParams_single (types : FieldTypes) {key value : String} (hkey : key ∉ keywords) :
    ofParams types ⟨[(key, [value])]⟩ =
      (Filter.addParam types .empty (key, [value])).map fun filter =>
        { filter := some filter } := by
  have hget : ∀ keyword ∈ keywords, Params.get? keyword ⟨[(key, [value])]⟩ = none := by
    intro keyword hk
    have hne : key ≠ keyword := fun h => hkey (h ▸ hk)
    simp [Params.get?, Entries.get?, hne]
  have hcount : ∀ keyword ∈ keywords, countOf ⟨[(key, [value])]⟩ keyword = .ok none := by
    intro keyword hk
    rw [countOf, single, hget keyword hk]
    rfl
  have hquestion : questionOf ⟨[(key, [value])]⟩ = .ok none := by
    rw [questionOf, single, hget "question" (by simp [keywords])]
    rfl
  have hsort : sortOf ⟨[(key, [value])]⟩ = none := by
    rw [sortOf, hget "sort" (by simp [keywords])]
    rfl
  have hfilter : filterOf types ⟨[(key, [value])]⟩ =
      (Filter.addParam types .empty (key, [value])).map some := by
    have hkeep : [(key, [value])].filter (fun entry => !keywords.contains entry.1) =
        [(key, [value])] := by
      simp [hkey]
    rw [filterOf, hkeep]
    simp only [Filter.ofParams, List.foldlM_cons, List.foldlM_nil]
    cases Filter.addParam types .empty (key, [value]) <;> rfl
  rw [ofParams, hcount "limit" (by simp [keywords]), hcount "skip" (by simp [keywords]), hfilter,
    hquestion, hsort]
  cases Filter.addParam types .empty (key, [value]) <;> rfl

/-- Values under `sort` make a descriptor of an order alone. -/
theorem ofParams_sort (types : FieldTypes) (values : List String) :
    ofParams types ⟨[("sort", values)]⟩ =
      .ok { sort := match SortKey.ofValues values with
        | [] => none
        | keys => some keys } := rfl

theorem wire_notMem_keywords {field : String} (hfield : field ∉ keywords) (value : String)
    (r : Relation) : (r.wire field value).1 ∉ keywords := by
  have hall : keywords.all (fun keyword =>
      keyword.toList.all fun c => !Clause.isOperatorChar c) = true := by decide
  have hbare : ∀ keyword ∈ keywords, ∀ c ∈ keyword.toList, Clause.isOperatorChar c = false := by
    intro keyword hk
    exact Clause.bare_of_all (List.all_eq_true.1 hall keyword hk)
  have hsign : ∀ c, c ∈ (r.keyPart value).toList → Clause.isOperatorChar c = true →
      (r.wire field value).1 ∉ keywords := by
    intro c hc hop hkey
    have hmem : c ∈ (r.wire field value).1.toList := by
      rw [Relation.fst_wire, String.toList_append]
      exact List.mem_append_right _ hc
    rw [hbare _ hkey c hmem] at hop
    cases hop
  cases r with
  | eq => simpa [Relation.wire, Relation.keyPart] using hfield
  | ne => exact hsign '!' (by simp [Relation.keyPart]) (by decide)
  | gt => exact hsign '>' (by simp [Relation.keyPart]) (by decide)
  | ge => exact hsign '>' (by simp [Relation.keyPart]) (by decide)
  | lt => exact hsign '<' (by simp [Relation.keyPart]) (by decide)
  | le => exact hsign '<' (by simp [Relation.keyPart]) (by decide)

end Descriptor

end Songbook
