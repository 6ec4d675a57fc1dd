import Mathlib.Data.List.TakeWhile
import Mathlib.Tactic.Conv
import Songbook.Request.Clause

/-!
# The grammar of clauses

A text can be cut in several ways into a field without operator signs, an operator or none, and a
rest of the line. One of them has the longest field and after it the longest operator. Main
statement: that one is read whenever there is a cut at all.
-/

namespace Songbook

namespace Clause

def fieldChars (s : String) : List Char :=
  s.toList.takeWhile (!isOperatorChar ·)

def tailChars (s : String) : List Char :=
  s.toList.dropWhile (!isOperatorChar ·)

theorem takeOperator_append (cs : List Char) : (takeOperator cs).1 ++ (takeOperator cs).2 = cs := by
  unfold takeOperator
  split <;> rfl

theorem lineFeed_notMem_token (cs : List Char) : '\n' ∉ (takeOperator cs).1 := by
  unfold takeOperator
  split <;> simp

theorem lineFeed_mem_value_iff {cs : List Char} : '\n' ∈ (takeOperator cs).2 ↔ '\n' ∈ cs := by
  conv_rhs => rw [← takeOperator_append cs, List.mem_append]
  exact ⟨.inr, fun h => h.resolve_left (lineFeed_notMem_token cs)⟩

/-- A text without a field is no clause, nor is one with a line feed after it. -/
theorem read?_eq_ite (s : String) : read? s =
    if fieldChars s = [] ∨ '\n' ∈ tailChars s then none
    else some ⟨String.ofList (fieldChars s),
      .ofToken (String.ofList (takeOperator (tailChars s)).1),
      String.ofList (takeOperator (tailChars s)).2⟩ := by
  have htest : ((fieldChars s).isEmpty || (takeOperator (tailChars s)).2.contains '\n') = true ↔
      fieldChars s = [] ∨ '\n' ∈ tailChars s := by
    rw [Bool.or_eq_true, List.isEmpty_iff, List.contains_iff_mem, lineFeed_mem_value_iff]
  rw [← ite_cond_congr (propext htest)]
  rfl

def tokens : List (List Char) :=
  [['>', '='], ['<', '='], ['!', '='], ['>'], ['<'], ['='], []]

@[ext]
structure Cut where
  field : List Char
  token : List Char
  value : List Char

def IsBare (cs : List Char) : Prop :=
  ∀ c ∈ cs, isOperatorChar c = false

/-- A way to match the pattern of a clause: some field, a token or nothing, the rest of the line. -/
structure Cut.Matches (cut : Cut) (cs : List Char) : Prop where
  whole : cut.field ++ (cut.token ++ cut.value) = cs
  bare : IsBare cut.field
  nonempty : cut.field ≠ []
  token_mem : cut.token ∈ tokens
  line : '\n' ∉ cut.value

/-- The field is the longest beginning without operator signs, and the token the longest one
there, whatever the value is. -/
structure Cut.Longest (cut : Cut) (cs : List Char) : Prop where
  whole : cut.field ++ (cut.token ++ cut.value) = cs
  bare : IsBare cut.field
  field_le : ∀ other, other <+: cs → IsBare other → other.length ≤ cut.field.length
  token_mem : cut.token ∈ tokens
  token_le : ∀ other ∈ tokens, other <+: cut.token ++ cut.value →
    other.length ≤ cut.token.length

/-- Both the field and the token are tried from the longest one on, the field first. -/
def Cut.TriedBefore (cut other : Cut) : Prop :=
  other.field.length < cut.field.length ∨
    other.field = cut.field ∧ other.token.length < cut.token.length

structure ConsistsOf (clause : Clause) (cut : Cut) : Prop where
  field : clause.field = String.ofList cut.field
  operator : (∃ r, clause.operator = .relation r ∧ r.token = String.ofList cut.token) ∨
    clause.operator = .other "" ∧ cut.token = []
  value : clause.value = String.ofList cut.value

theorem takeOperator_mem_tokens (cs : List Char) : (takeOperator cs).1 ∈ tokens := by
  unfold takeOperator
  split <;> simp [tokens]

theorem length_le_takeOperator {token cs : List Char} (hmem : token ∈ tokens) (h : token <+: cs) :
    token.length ≤ (takeOperator cs).1.length := by
  obtain ⟨rest, rfl⟩ := h
  simp only [tokens, List.mem_cons, List.not_mem_nil, or_false] at hmem
  obtain rfl | rfl | rfl | rfl | rfl | rfl | rfl := hmem
  · rfl
  · rfl
  · rfl
  -- one sign is the whole token, or it begins one of two signs
  · unfold takeOperator
    split <;> simp_all
  · unfold takeOperator
    split <;> simp_all
  · rfl
  · exact Nat.zero_le _

theorem lineFeed_notMem_of_mem_tokens : ∀ token ∈ tokens, '\n' ∉ token := by
  decide

theorem ofToken_of_mem_tokens {token : List Char} (h : token ∈ tokens) :
    (∃ r, Operator.ofToken (String.ofList token) = .relation r ∧
      r.token = String.ofList token) ∨
    Operator.ofToken (String.ofList token) = .other "" ∧ token = [] := by
  simp only [tokens, List.mem_cons, List.not_mem_nil, or_false] at h
  obtain rfl | rfl | rfl | rfl | rfl | rfl | rfl := h
  · exact .inl ⟨.ge, rfl, rfl⟩
  · exact .inl ⟨.le, rfl, rfl⟩
  · exact .inl ⟨.ne, rfl, rfl⟩
  · exact .inl ⟨.gt, rfl, rfl⟩
  · exact .inl ⟨.lt, rfl, rfl⟩
  · exact .inl ⟨.eq, rfl, rfl⟩
  · exact .inr ⟨rfl, rfl⟩

theorem isBare_fieldChars (s : String) : IsBare (fieldChars s) := by
  intro c hc
  simpa using List.mem_takeWhile_imp hc

theorem length_le_fieldChars {s : String} {cs : List Char} (h : cs <+: s.toList)
    (hbare : IsBare cs) : cs.length ≤ (fieldChars s).length := by
  obtain ⟨rest, hrest⟩ := h
  have htake : ∀ c ∈ cs, (!isOperatorChar c) = true := by simpa [IsBare] using hbare
  rw [fieldChars, ← hrest, List.takeWhile_append_of_pos htake, List.length_append]
  exact Nat.le_add_right _ _

def longestCut (s : String) : Cut :=
  ⟨fieldChars s, (takeOperator (tailChars s)).1, (takeOperator (tailChars s)).2⟩

theorem longestCut_longest (s : String) : (longestCut s).Longest s.toList where
  whole := by
    rw [longestCut, takeOperator_append]
    exact List.takeWhile_append_dropWhile
  bare := isBare_fieldChars s
  field_le _ := length_le_fieldChars
  token_mem := takeOperator_mem_tokens _
  token_le other hmem h := by
    rw [longestCut, takeOperator_append] at h
    exact length_le_takeOperator hmem h

theorem fieldChars_ne_nil_iff {s : String} : fieldChars s ≠ [] ↔
    ∃ c, s.toList.head? = some c ∧ isOperatorChar c = false := by
  rw [fieldChars]
  cases s.toList with
  | nil => simp
  | cons c cs => cases hc : isOperatorChar c <;> simp [hc]

/-- Reading needs a field and a value on one line. -/
theorem exists_read?_iff {s : String} : (∃ clause, read? s = some clause) ↔
    (∃ c, s.toList.head? = some c ∧ isOperatorChar c = false) ∧
      '\n' ∉ (longestCut s).value := by
  rw [← fieldChars_ne_nil_iff, longestCut, lineFeed_mem_value_iff, ← not_or, read?_eq_ite]
  split <;> simp_all

theorem consistsOf_of_read? {s : String} {clause : Clause} (h : read? s = some clause) :
    clause.ConsistsOf (longestCut s) := by
  rw [read?_eq_ite] at h
  split at h
  · cases h
  · obtain rfl := Option.some.inj h
    exact ⟨rfl, ofToken_of_mem_tokens (takeOperator_mem_tokens _), rfl⟩

theorem ConsistsOf.token {clause : Clause} {cut : Cut} (h : clause.ConsistsOf cut) :
    clause.operator.token = String.ofList cut.token := by
  obtain ⟨r, hr, htoken⟩ | ⟨hother, htoken⟩ := h.operator
  · rw [hr]
    exact htoken
  · rw [hother, htoken]
    rfl

theorem ConsistsOf.token_eq_nil {clause : Clause} {cut : Cut} {token : String}
    (h : clause.ConsistsOf cut) (hother : clause.operator = .other token) : cut.token = [] := by
  obtain ⟨r, hr, -⟩ | ⟨-, htoken⟩ := h.operator
  · rw [hother] at hr
    cases hr
  · exact htoken

namespace Cut

variable {cut other : Cut} {cs : List Char}

theorem TriedBefore.asymm (h : cut.TriedBefore other) : ¬ other.TriedBefore cut := by
  obtain hfield | ⟨hfield, htoken⟩ := h
  · rintro (hless | ⟨heq, -⟩)
    · exact Nat.lt_asymm hfield hless
    · rw [heq] at hfield
      exact Nat.lt_irrefl _ hfield
  · rintro (hless | ⟨-, hless⟩)
    · rw [hfield] at hless
      exact Nat.lt_irrefl _ hless
    · exact Nat.lt_asymm htoken hless

theorem Matches.lineFeed_notMem (h : cut.Matches cs) : '\n' ∉ cut.token ++ cut.value := by
  rw [List.mem_append, not_or]
  exact ⟨lineFeed_notMem_of_mem_tokens _ h.token_mem, h.line⟩

namespace Longest

/-- No other field and token come before the longest ones. -/
theorem eq_or_triedBefore (h : cut.Longest cs)
    (hwhole : other.field ++ (other.token ++ other.value) = cs) (hbare : IsBare other.field)
    (hmem : other.token ∈ tokens) : other = cut ∨ cut.TriedBefore other := by
  obtain hless | hlength := (h.field_le other.field ⟨_, hwhole⟩ hbare).lt_or_eq
  · exact .inr (.inl hless)
  · obtain ⟨hfield, hrest⟩ := List.append_inj (hwhole.trans h.whole.symm) hlength
    obtain hless | hlength := (h.token_le other.token hmem ⟨_, hrest⟩).lt_or_eq
    · exact .inr (.inr ⟨hfield, hless⟩)
    · obtain ⟨htoken, hvalue⟩ := List.append_inj hrest hlength
      exact .inl (Cut.ext hfield htoken hvalue)

theorem unique (h : cut.Longest cs) (hother : other.Longest cs) : other = cut := by
  obtain heq | hbefore :=
    h.eq_or_triedBefore hother.whole hother.bare hother.token_mem
  · exact heq
  · obtain heq | hafter := hother.eq_or_triedBefore h.whole h.bare h.token_mem
    · exact heq.symm
    · exact absurd hafter hbefore.asymm

/-- A shorter field leaves more to the value, so it is no way around a line feed. -/
theorem matches_of_matches (h : cut.Longest cs) (hother : other.Matches cs) :
    cut.Matches cs where
  whole := h.whole
  bare := h.bare
  nonempty := by
    have hle := h.field_le other.field ⟨_, hother.whole⟩ hother.bare
    have hpos := List.length_pos_iff.2 hother.nonempty
    exact List.length_pos_iff.1 (hpos.trans_le hle)
  token_mem := h.token_mem
  line := by
    have hle := h.field_le other.field ⟨_, hother.whole⟩ hother.bare
    have hlength : cut.field.length + (cut.token ++ cut.value).length =
        other.field.length + (other.token ++ other.value).length := by
      rw [← List.length_append, ← List.length_append, h.whole, hother.whole]
    have hsuffix : cut.token ++ cut.value <:+ other.token ++ other.value :=
      List.suffix_of_suffix_length_le ⟨_, h.whole⟩ ⟨_, hother.whole⟩ (by omega)
    exact fun hmem =>
      hother.lineFeed_notMem (hsuffix.subset (List.mem_append_right _ hmem))

/-- An operator sign ends the field, and it is a token unless it is an exclamation mark alone. -/
theorem value_of_no_token (h : cut.Longest cs) (htoken : cut.token = []) :
    cut.value = [] ∨ ∃ rest, cut.value = '!' :: rest ∧ rest.head? ≠ some '=' := by
  have hwhole := h.whole
  have hnone := h.token_le
  rw [htoken, List.nil_append] at hwhole hnone
  cases hvalue : cut.value with
  | nil => exact .inl rfl
  | cons c rest =>
    rw [hvalue] at hwhole hnone
    have hsign : isOperatorChar c = true := by
      by_contra hc
      have hbare : IsBare (cut.field ++ [c]) := by
        intro d hd
        obtain hd | hd := List.mem_append.1 hd
        · exact h.bare d hd
        · rw [List.mem_singleton.1 hd]
          exact Bool.eq_false_iff.2 hc
      have hle := h.field_le (cut.field ++ [c]) ⟨rest, by rw [← hwhole]; simp⟩ hbare
      rw [List.length_append] at hle
      exact Nat.not_succ_le_self _ hle
    have hone : [c] ∉ tokens := fun hmem => Nat.not_succ_le_zero _ (hnone [c] hmem ⟨rest, rfl⟩)
    have hc : c = '!' := by
      have hsigns : c = '>' ∨ c = '<' ∨ c = '!' ∨ c = '=' := by
        simpa [isOperatorChar, or_assoc] using hsign
      obtain rfl | rfl | hc | rfl := hsigns
      · exact absurd (by decide) hone
      · exact absurd (by decide) hone
      · exact hc
      · exact absurd (by decide) hone
    subst hc
    refine .inr ⟨rest, rfl, fun hhead => ?_⟩
    obtain ⟨rest', rfl⟩ := List.head?_eq_some_iff.1 hhead
    exact Nat.not_succ_le_zero _ (hnone ['!', '='] (by decide) ⟨rest', rfl⟩)

end Longest

end Cut

/-- Reading takes the longest field and after it the longest operator. It fails on a text only if
no other cut of it matches the pattern either. -/
theorem reading_takes_longest (s : String) : ∃ cut : Cut,
    (∀ other : Cut, other.Longest s.toList ↔ other = cut) ∧
    ((∃ clause, read? s = some clause) ↔
      (∃ c, s.toList.head? = some c ∧ isOperatorChar c = false) ∧ '\n' ∉ cut.value) ∧
    (∀ clause, read? s = some clause → clause.ConsistsOf cut ∧ cut.Matches s.toList ∧
      clause.field ++ clause.operator.token ++ clause.value = s ∧
      ∀ token, clause.operator = .other token →
        cut.value = [] ∨ ∃ rest, cut.value = '!' :: rest ∧ rest.head? ≠ some '=') ∧
    ∀ other : Cut, other.Matches s.toList →
      (∃ clause, read? s = some clause) ∧ (other = cut ∨ cut.TriedBefore other) := by
  have hlongest := longestCut_longest s
  refine ⟨longestCut s, fun other => ⟨hlongest.unique, ?_⟩, exists_read?_iff, ?_, ?_⟩
  · rintro rfl
    exact hlongest
  · intro clause hread
    have hparts := consistsOf_of_read? hread
    obtain ⟨hhead, hline⟩ := exists_read?_iff.1 ⟨clause, hread⟩
    refine ⟨hparts, ⟨hlongest.whole, hlongest.bare, fieldChars_ne_nil_iff.2 hhead,
      hlongest.token_mem, hline⟩, ?_, ?_⟩
    · rw [hparts.field, hparts.token, hparts.value, ← String.ofList_append,
        ← String.ofList_append, List.append_assoc, hlongest.whole, String.ofList_toList]
    · exact fun token hother => hlongest.value_of_no_token (hparts.token_eq_nil hother)
  · intro other hother
    have hmatches := hlongest.matches_of_matches hother
    exact ⟨exists_read?_iff.2 ⟨fieldChars_ne_nil_iff.1 hmatches.nonempty, hmatches.line⟩,
      hlongest.eq_or_triedBefore hother.whole hother.bare hother.token_mem⟩

/-- A field may go over two lines, and a lone exclamation mark belongs to the value. -/
example : read? "play\ncount!b" = some ⟨"play\ncount", .other "", "!b"⟩ := rfl

end Clause

end Songbook
