import Songbook.Proofs.Json.Numerals
import Songbook.Proofs.Json.Strings
import Songbook.Proofs.Sequencing

/-!
# Reading JSON back

Main statement: every proper tree is read back from its text.
-/

namespace Songbook.Json

/-- A tree that its text determines: nothing in it is garbled, and what stands after a point are
digits. -/
inductive Proper : Json → Prop
  | null : Proper null
  | bool (b : Bool) : Proper (bool b)
  | number {n : Numeral} (hdigits : ∀ d ∈ n.fraction, d < 10) : Proper (number n)
  | string (s : String) : Proper (string s)
  | array {items : List Json} (hitems : ∀ item ∈ items, Proper item) : Proper (array items)
  | object {members : List (String × Json)} (hmembers : ∀ member ∈ members, Proper member.2) :
    Proper (object members)

/-- Two steps for each character are enough to read the value back. -/
def Reads (json : Json) : Prop :=
  ∀ ⦃steps : Nat⦄ ⦃rest : List Char⦄, 2 * json.writeChars.length ≤ steps → MayFollow rest →
    readValue? steps (json.writeChars ++ rest) = some (json, rest)

section Heads

def noHeads : List Char := [' ', '\n', '\r', '\t', ']']

theorem skipBlanks_cons {c : Char} (h : c ∉ noHeads) (cs : List Char) :
    skipBlanks (c :: cs) = c :: cs := by
  simp only [noHeads, List.mem_cons, not_or] at h
  simp [skipBlanks, h]

theorem skipBlanks_of_mayFollow {rest : List Char} (h : MayFollow rest) :
    skipBlanks rest = rest := by
  cases h <;> rfl

theorem notMem_of_isDigit {c : Char} {cs : List Char} (h : c.isDigit = true)
    (hcs : cs.all (!Char.isDigit ·) = true) : c ∉ cs := by
  intro hmem
  simpa [h] using List.all_eq_true.1 hcs c hmem

theorem exists_head_writeChars (json : Json) :
    ∃ c cs, json.writeChars = c :: cs ∧ c ∉ noHeads := by
  cases json with
  | number n =>
    obtain ⟨c, cs, hhead, hc⟩ := Numeral.exists_head_write n
    refine ⟨c, cs, hhead, ?_⟩
    rcases hc with rfl | hdigit
    · decide
    · exact notMem_of_isDigit hdigit rfl
  | bool b => cases b <;> exact ⟨_, _, rfl, by decide⟩
  | string s => exact ⟨'"', _, rfl, by decide⟩
  | _ => exact ⟨_, _, by rw [writeChars]; rfl, by decide⟩

end Heads

theorem length_writeChars_pos (json : Json) : 0 < json.writeChars.length := by
  obtain ⟨c, cs, hhead, -⟩ := exists_head_writeChars json
  rw [hhead]
  exact Nat.succ_pos _

theorem reads_of_succ {json : Json}
    (h : ∀ steps rest, 2 * json.writeChars.length ≤ steps + 1 → MayFollow rest →
      readValue? (steps + 1) (json.writeChars ++ rest) = some (json, rest)) : Reads json := by
  rintro (_ | steps) rest hsteps hrest
  · have hpos := length_writeChars_pos json
    omega
  · exact h steps rest hsteps hrest

def textHeads : List Char := ['"', '[', '\x7b', 'n', 't', 'f']

theorem readValue?_cons {c : Char} (hblank : c ∉ noHeads) (htext : c ∉ textHeads) (steps : Nat)
    (cs : List Char) : readValue? (steps + 1) (c :: cs) =
      (Numeral.read? (c :: cs)).map fun (n, rest) => (number n, rest) := by
  simp only [textHeads, List.mem_cons, not_or] at htext
  rw [readValue?, skipBlanks_cons hblank]
  split
  · simp_all
  · simp_all
  · simp_all
  · next cs' _ _ _ =>
    have hname : readName? (c :: cs) = none := by
      simp [readName?, List.isPrefixOf, htext, Ne.symm]
    rw [hname]

theorem reads_number {n : Numeral} (hdigits : ∀ d ∈ n.fraction, d < 10) : Reads (number n) := by
  apply reads_of_succ
  intro steps rest _ hrest
  obtain ⟨c, cs, hhead, hc⟩ := Numeral.exists_head_write n
  have hheads : c ∉ noHeads ∧ c ∉ textHeads := by
    rcases hc with rfl | hdigit
    · decide
    · exact ⟨notMem_of_isDigit hdigit rfl, notMem_of_isDigit hdigit rfl⟩
  have hread := Numeral.read?_write hdigits hrest
  change readValue? (steps + 1) (n.write ++ rest) = some (number n, rest)
  rw [hhead, List.cons_append] at hread ⊢
  rw [readValue?_cons hheads.1 hheads.2, hread]
  rfl

theorem reads_string (s : String) : Reads (string s) := by
  apply reads_of_succ
  intro steps rest _ _
  have hread := readString?_writeChars s.toList rest
  have htext : writeChars (string s) ++ rest =
      '"' :: (s.toList.flatMap writeChar ++ '"' :: rest) := by
    change '"' :: (s.toList.flatMap writeChar ++ ['"'] ++ rest) = _
    rw [List.append_assoc, List.singleton_append]
  rw [htext]
  change Option.map _ (readString? _) = _
  rw [hread]
  exact congrArg (fun text => some (string text, rest)) String.ofList_toList

section Lists

theorem writeItems_cons (item : Json) (items : List Json) : writeItems (item :: items) =
    writeChars item ++ if items = [] then [] else ',' :: writeItems items := by
  cases items with
  | nil => simp [writeItems]
  | cons next more =>
    rw [if_neg (List.cons_ne_nil _ _), writeItems]
    exact List.cons_ne_nil _ _

theorem readItems?_writeItems {items : List Json} (hne : items ≠ [])
    (hitems : ∀ item ∈ items, Reads item) (rest : List Char) {steps : Nat}
    (hsteps : 2 * (writeItems items).length + 1 ≤ steps) :
    readItems? steps (writeItems items ++ ']' :: rest) = some (items, rest) := by
  induction items generalizing steps with
  | nil => exact absurd rfl hne
  | cons item items ih =>
    obtain ⟨steps, rfl⟩ : ∃ s, steps = s + 1 := ⟨steps - 1, by omega⟩
    have hitem := hitems item List.mem_cons_self
    rw [writeItems_cons] at hsteps ⊢
    by_cases hend : items = []
    · rw [if_pos hend, List.append_nil] at hsteps ⊢
      rw [readItems?, hitem (by omega) (.bracket rest), hend]
      rfl
    · -- the comma leaves the step that the list of the other items takes
      rw [if_neg hend, List.length_append, List.length_cons] at hsteps
      have hmore : readItems? steps (writeItems items ++ ']' :: rest) = some (items, rest) :=
        ih hend (fun i hi => hitems i (List.mem_cons_of_mem _ hi)) (by omega)
      rw [if_neg hend, List.append_assoc, List.cons_append, readItems?,
        hitem (by omega) (.comma _)]
      simp [skipBlanks_of_mayFollow (.comma _), hmore]

theorem reads_array {items : List Json} (hitems : ∀ item ∈ items, Reads item) :
    Reads (array items) := by
  apply reads_of_succ
  intro steps rest hsteps _
  rw [writeChars, List.length_append, List.length_cons, List.length_singleton] at hsteps
  have htext : writeChars (array items) ++ rest = '[' :: (writeItems items ++ ']' :: rest) :=
    List.append_assoc ('[' :: writeItems items) [']'] rest
  rw [htext]
  cases items with
  | nil => rfl
  | cons item items =>
    have hread := readItems?_writeItems (List.cons_ne_nil _ _) hitems rest (by omega : _ ≤ steps)
    obtain ⟨c, cs, hhead, hc⟩ := exists_head_writeChars item
    have hbracket : c ≠ ']' := by
      rintro rfl
      exact absurd hc (by decide)
    rw [writeItems_cons, hhead, List.cons_append, List.cons_append] at hread ⊢
    rw [readValue?, skipBlanks_cons (by decide)]
    simp [skipBlanks_cons hc, hbracket, hread, -List.append_assoc]

theorem writeMembers_cons (key : String) (item : Json) (members : List (String × Json)) :
    writeMembers ((key, item) :: members) = '"' :: (key.toList.flatMap writeChar ++
      '"' :: ':' :: (writeChars item ++
        if members = [] then [] else ',' :: writeMembers members)) := by
  cases members with
  | nil => simp [writeMembers, writeString]
  | cons next more =>
    rw [if_neg (List.cons_ne_nil _ _), writeMembers]
    · simp [writeString]
    · exact List.cons_ne_nil _ _

theorem readMembers?_writeMembers {members : List (String × Json)} (hne : members ≠ [])
    (hmembers : ∀ member ∈ members, Reads member.2) (rest : List Char) {steps : Nat}
    (hsteps : 2 * (writeMembers members).length + 1 ≤ steps) :
    readMembers? steps (writeMembers members ++ '\x7d' :: rest) =
      some (members.map fun member => (some member.1.toList, member.2), rest) := by
  induction members generalizing steps with
  | nil => exact absurd rfl hne
  | cons member members ih =>
    obtain ⟨key, item⟩ := member
    obtain ⟨steps, rfl⟩ : ∃ s, steps = s + 1 := ⟨steps - 1, by omega⟩
    have hitem : Reads item := hmembers _ List.mem_cons_self
    rw [writeMembers_cons] at hsteps ⊢
    simp only [List.cons_append, List.append_assoc, List.length_cons, List.length_append]
      at hsteps ⊢
    rw [readMembers?, skipBlanks_cons (by decide)]
    simp only [readString?_writeChars, skipBlanks_cons (by decide : ':' ∉ noHeads), bind,
      Option.bind]
    by_cases hend : members = []
    · rw [if_pos hend, List.nil_append, hitem (by omega) (.brace rest), hend]
      rfl
    · rw [if_neg hend, List.length_cons] at hsteps
      have hmore : readMembers? steps (writeMembers members ++ '\x7d' :: rest) =
          some (members.map fun member => (some member.1.toList, member.2), rest) :=
        ih hend (fun m hm => hmembers m (List.mem_cons_of_mem _ hm)) (by omega)
      rw [if_neg hend, List.cons_append, hitem (by omega) (.comma _)]
      simp [skipBlanks_of_mayFollow (.comma _), hmore]

theorem objectOf_texts (members : List (String × Json)) :
    objectOf (members.map fun member => (some member.1.toList, member.2)) = object members := by
  rw [objectOf, Sequencing.mapM_map_eq_some (g := id) (by simp), List.map_id]

theorem reads_object {members : List (String × Json)}
    (hmembers : ∀ member ∈ members, Reads member.2) : Reads (object members) := by
  apply reads_of_succ
  intro steps rest hsteps _
  rw [writeChars, List.length_append, List.length_cons, List.length_singleton] at hsteps
  have htext : writeChars (object members) ++ rest =
      '\x7b' :: (writeMembers members ++ '\x7d' :: rest) :=
    List.append_assoc ('\x7b' :: writeMembers members) ['\x7d'] rest
  rw [htext]
  cases members with
  | nil => rfl
  | cons member members =>
    have hread := readMembers?_writeMembers (List.cons_ne_nil _ _) hmembers rest
      (by omega : _ ≤ steps)
    -- every key was read as a text, so that the object is not garbled
    have hobject := congrArg (Option.map fun read => (objectOf read.1, read.2)) hread
    rw [Option.map_some, objectOf_texts] at hobject
    rw [writeMembers_cons, List.cons_append] at hobject ⊢
    exact hobject

end Lists

theorem Proper.reads {json : Json} (h : Proper json) : Reads json := by
  induction h with
  | null => exact reads_of_succ fun _ _ _ _ => rfl
  | bool b => cases b <;> exact reads_of_succ fun _ _ _ _ => rfl
  | number hdigits => exact reads_number hdigits
  | string s => exact reads_string s
  | array _ ih => exact reads_array ih
  | object _ ih => exact reads_object ih

/-- What is written for a proper tree is read as that tree. -/
theorem read?_write {json : Json} (h : Proper json) : read? json.write = some json := by
  have hread : readValue? (2 * json.writeChars.length + 2) (json.writeChars ++ []) =
      some (json, []) := h.reads (by omega) .nothing
  rw [List.append_nil] at hread
  rw [read?, write, String.toList_ofList, hread]
  rfl

end Songbook.Json
