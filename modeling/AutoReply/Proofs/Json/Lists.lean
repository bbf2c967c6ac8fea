import AutoReply.Json.TreeReader
import AutoReply.Proofs.Json.Objects

/-!
Lists, values that may be absent, and objects of texts and whole numbers are read back.
-/

namespace AutoReply.Json

open AutoReply.Number AutoReply.Text Reader

variable {α : Type} {layout : Json.Layout} {depth : Nat}

theorem readsValue_word32 (number : UInt32) :
    ReadsValue Reader.word32 (integerText number.toNat) number := by
  intro blanks rest blank ends
  have small : number.toNat < wordCount := Nat.lt_trans number.toNat_lt (by decide)
  have read := readsValue_natural small number.toNat_lt "u32" blanks rest blank ends
  exact read.last (by rw [UInt32.ofNat_toNat])

theorem ReadsValue.placed {reader : Reader α} {text : List Char} {value : α}
    (reads : ReadsValue reader text value) : ReadsValue (Reader.placed reader) text value :=
  fun blanks rest blank ends => (reads blanks rest blank ends).placed

/-- The text starts with what is no blank, ends no list and begins no `null`. -/
def Opens (text : List Char) : Prop :=
  ∃ first others, text = first :: others ∧ Reader.isBlank (some first) = false ∧ first ≠ ']' ∧
    first ≠ 'n'

theorem opens_object (members : List (String × Json)) :
    Opens (Json.chars layout depth (.object members)) := by
  rw [chars_object]
  exact ⟨_, _, rfl, by decide, by decide, by decide⟩

theorem opens_text (text : String) : Opens (Json.chars layout depth (.text text)) :=
  ⟨_, _, rfl, by decide, by decide, by decide⟩

/-! Values that may be absent. -/

theorem reads_ofBlanks {reader : Reader α} {blanks text : List Char} {value : α} {rest : Rest}
    (reads : reader (blanks.map some ++ (text.map some ++ rest)) = .done value rest) :
    Reads reader (blanks ++ text) value rest := by
  unfold Reads
  rwa [List.map_append, List.append_assoc]

theorem readsValue_option {reader : Reader α} {write : α → Json} {value : Option α}
    (reads : ∀ inside, value = some inside →
      ReadsValue reader (Json.chars layout depth (write inside)) inside ∧
        Opens (Json.chars layout depth (write inside))) :
    ReadsValue (Reader.optional reader) (Json.chars layout depth (Json.option write value))
      value := by
  intro blanks rest blank ends
  refine reads_ofBlanks ?_
  cases value with
  | none =>
      show (Reader.next >>= _) (blanks.map some ++ some 'n' :: _) = _
      rw [bind_apply, next_append blank (by decide)]
      rfl
  | some inside =>
      obtain ⟨read, first, others, written, solid, _, notNull⟩ := reads inside rfl
      have behind := read [] rest blanks_nil ends
      unfold Reads at behind
      rw [Json.option, Reader.optional, bind_apply]
      rw [List.nil_append] at behind
      rw [written] at behind ⊢
      rw [List.map_cons, List.cons_append] at behind ⊢
      rw [next_append blank solid]
      simp [notNull, behind]

/-! Lists, item by item. -/

theorem reads_firstItem {blanks : List Char} (blank : Blanks blanks) {symbol : Symbol}
    (solid : Reader.isBlank symbol = false) (notEnd : symbol ≠ some ']') (rest : Rest) :
    Reads (hasItem true) blanks true (symbol :: rest) := by
  simp [Reads, hasItem, next_append blank solid]

theorem reads_nextItem {blanks : List Char} (blank : Blanks blanks) {symbol : Symbol}
    (solid : Reader.isBlank symbol = false) (notEnd : symbol ≠ some ']') (rest : Rest) :
    Reads (hasItem false) (',' :: blanks) true (symbol :: rest) := by
  have comma := next_append blanks_nil (show Reader.isBlank (some ',') = false by decide)
    (blanks.map some ++ symbol :: rest)
  rw [List.map_nil, List.nil_append] at comma
  simp [Reads, hasItem, comma, next_append blank solid]

theorem reads_lastItem {blanks : List Char} (blank : Blanks blanks) (first : Bool) (rest : Rest) :
    Reads (hasItem first) blanks false (some ']' :: rest) := by
  simp [Reads, hasItem, next_append blank (show Reader.isBlank (some ']') = false by decide)]

theorem reads_endList (rest : Rest) : Reads endList [']'] () rest := by
  have next := next_append blanks_nil (show Reader.isBlank (some ']') = false by decide) rest
  rw [List.map_nil, List.nil_append] at next
  simp [Reads, endList, next]

/-- What stands between the brackets. -/
def listBody (layout : Json.Layout) (depth : Nat) : List Json → List Char
  | [] => []
  | item :: items =>
      layout.lead (depth + 1) ++ (Json.chars layout (depth + 1) item ++
        (Json.itemChars layout (depth + 1) items ++ layout.lead depth))

theorem chars_list (layout : Json.Layout) (depth : Nat) (items : List Json) :
    Json.chars layout depth (.list items) = '[' :: (listBody layout depth items ++ [']']) := by
  cases items with
  | nil => rfl
  | cons item items => simp [Json.chars, listBody]

theorem length_le_itemChars (layout : Json.Layout) (depth : Nat) (items : List Json) :
    items.length ≤ (Json.itemChars layout depth items).length := by
  induction items with
  | nil => simp
  | cons item items ih =>
      simp only [Json.itemChars, List.cons_append, List.length_append, List.length_cons]
      omega

theorem endsNumber_items (spaced : Spaced layout) (items : List Json) (outer : Nat) (rest : Rest) :
    EndsNumber ((Json.itemChars layout depth items ++ layout.lead outer).map some ++
      some ']' :: rest) := by
  cases items with
  | nil =>
      have blank := spaced.lead outer
      rw [Json.itemChars, List.nil_append]
      generalize layout.lead outer = blanks at blank
      cases blanks with
      | nil =>
          rintro symbol ⟨⟩
          decide
      | cons character others => exact endsNumber_blank (blank character List.mem_cons_self) _
  | cons item items =>
      rintro symbol ⟨⟩
      decide

section Lists

variable {item : Reader α} {write : α → Json}

/-- Each value is read back from the item it is written as. -/
structure ReadsItems (layout : Json.Layout) (depth : Nat) (item : Reader α) (write : α → Json) :
    Prop where
  value : ∀ value, ReadsValue item (Json.chars layout depth (write value)) value
  opens : ∀ value, Opens (Json.chars layout depth (write value))

theorem ReadsItems.reads_item (reads : ReadsItems layout depth item write)
    {blanks more : List Char} {first : Bool} (value : α) {values : List α} {fuel : Nat}
    {rest : Rest} (start : ∀ symbol rest, Reader.isBlank symbol = false → symbol ≠ some ']' →
      Reads (hasItem first) blanks true (symbol :: rest))
    (ends : EndsNumber (more.map some ++ rest))
    (others : Reads (itemsFrom item fuel false) more values rest) :
    Reads (itemsFrom item (fuel + 1) first)
      (blanks ++ (Json.chars layout depth (write value) ++ more)) (value :: values) rest := by
  obtain ⟨head, tail, written, solid, notEnd, _⟩ := reads.opens value
  have behind : Reads (do
      let value ← item
      let values ← itemsFrom item fuel false
      return value :: values) (Json.chars layout depth (write value) ++ more) (value :: values)
      rest :=
    (reads.value value [] _ blanks_nil ends).bind (others.last rfl)
  have opening : Reads (hasItem first) blanks true
      ((Json.chars layout depth (write value) ++ more).map some ++ rest) := by
    rw [written]
    exact start (some head) _ solid (by simpa using notEnd)
  exact opening.bind behind

theorem reads_laterItems (spaced : Spaced layout) (reads : ReadsItems layout depth item write)
    (values : List α) (outer : Nat) (rest : Rest) : ∀ fuel, values.length < fuel →
      Reads (itemsFrom item fuel false)
        (Json.itemChars layout depth (values.map write) ++ layout.lead outer) values
        (some ']' :: rest) := by
  induction values with
  | nil =>
      intro fuel enough
      cases fuel with
      | zero => omega
      | succ fuel => exact (reads_lastItem (spaced.lead outer) false rest).last rfl
  | cons value values ih =>
      intro fuel enough
      cases fuel with
      | zero => omega
      | succ fuel =>
          rw [List.map_cons, Json.itemChars, List.append_assoc, List.append_assoc]
          exact reads.reads_item value
            (fun symbol rest solid notEnd => reads_nextItem (spaced.lead depth) solid notEnd rest)
            (endsNumber_items spaced _ outer rest) (ih fuel (by simpa using enough))

theorem reads_items (spaced : Spaced layout) (reads : ReadsItems layout (depth + 1) item write)
    (values : List α) (rest : Rest) (fuel : Nat) (enough : values.length < fuel) :
    Reads (itemsFrom item fuel true) (listBody layout depth (values.map write)) values
      (some ']' :: rest) := by
  cases fuel with
  | zero => omega
  | succ fuel =>
      cases values with
      | nil => exact (reads_lastItem blanks_nil true rest).last rfl
      | cons value values =>
          rw [List.map_cons, listBody]
          exact reads.reads_item value
            (fun symbol rest solid notEnd =>
              reads_firstItem (spaced.lead (depth + 1)) solid notEnd rest)
            (endsNumber_items spaced _ depth rest)
            (reads_laterItems spaced reads values depth rest fuel (by simpa using enough))

theorem readsValue_list (spaced : Spaced layout) (reads : ReadsItems layout (depth + 1) item write)
    (values : List α) :
    ReadsValue (Reader.list item) (Json.chars layout depth (.list (values.map write))) values := by
  intro blanks rest blank _
  have enough : values.length ≤ (listBody layout depth (values.map write)).length := by
    cases values with
    | nil => exact Nat.zero_le _
    | cons value values =>
        have others := length_le_itemChars layout (depth + 1) (values.map write)
        obtain ⟨head, tail, written, _⟩ := reads.opens value
        simp only [List.map_cons, listBody, written, List.length_append, List.length_cons,
          List.length_map] at others ⊢
        omega
  have inside := (reads_items spaced reads values rest
    (((listBody layout depth (values.map write) ++ [']']).map some ++ rest).length + 1) (by
      simp only [List.length_append, List.length_map]
      omega)).enclosed (reads_endList rest)
  refine Reads.placed (reads_ofBlanks ?_)
  unfold Reads at inside
  rw [chars_list, List.map_cons, List.cons_append, bind_apply, valueStart_append blank (by decide)]
  exact inside

end Lists

/-! Objects whose members are texts and whole numbers, read as values of any kind. -/

inductive IsScalar : Json → Prop
  | text (text : String) : IsScalar (.text text)
  | number (number : UInt64) : IsScalar (.number number.toNat)

theorem readsValue_scalar {json : Json} (scalar : IsScalar json) (fuel levels : Nat) :
    ReadsValue (treeWithin (fuel + 1) levels) (Json.chars layout depth json) json := by
  intro blanks rest blank ends
  rw [treeWithin]
  refine Reads.placed (reads_ofBlanks ?_)
  cases scalar with
  | text text =>
      have body : Reads (do drop; return Json.text (← textBody)) (Json.textChars text)
          (.text text) rest :=
        (Reads.drop '"' _).bind ((reads_textBody text rest).last rfl)
      show (valueStart >>= _) (blanks.map some ++ some '"' :: _) = _
      rw [bind_apply, valueStart_append blank (by decide)]
      exact body
  | number number =>
      obtain ⟨first, others, written, digit, _⟩ := digitsOf_eq number.toNat
      have read := reads_numeral number.toNat_lt ends
      unfold Reads at read
      have shown : Json.chars layout depth (.number number.toNat) = first :: others := written
      have different : first ≠ 'n' ∧ first ≠ 't' ∧ first ≠ 'f' ∧ first ≠ '"' ∧ first ≠ '[' ∧
          first ≠ '\x7b' := by
        refine ⟨?_, ?_, ?_, ?_, ?_, ?_⟩ <;>
          · rintro rfl
            contradiction
      rw [written] at read
      rw [shown, List.map_cons, List.cons_append, bind_apply,
        valueStart_append blank (isDigit_not_blank digit)]
      rw [List.map_cons, List.cons_append] at read
      simp [different, isDigit, digit, read, Numeral.json, Json.number]

section Objects

variable {members : List (String × Json)} (scalars : ∀ member ∈ members, IsScalar member.2)

theorem reads_scalarMember (spaced : Spaced layout) {member : String × Json}
    (scalar : IsScalar member.2) {first : Bool} {blanks more : List Char} {fuel levels : Nat}
    {rest : Rest} (start : ∀ rest, Reads (hasMember first) blanks true (some '"' :: rest))
    (ends : EndsNumber (more.map some ++ rest))
    (others : Reads (treeMembers (fuel + 1) levels false) more members rest) :
    Reads (treeMembers (fuel + 2) levels first) (blanks ++ (memberText layout depth member ++ more))
      (member :: members) rest := by
  rw [treeMembers, memberText, List.append_assoc]
  refine (start _).bind ((reads_key member.1 _).bind ?_)
  exact reads_memberValue spaced (readsValue_scalar scalar fuel levels) ends (others.last rfl)

include scalars in
theorem reads_laterScalars (spaced : Spaced layout) (levels outer : Nat) (rest : Rest) :
    ∀ fuel, members.length ≤ fuel → Reads (treeMembers (fuel + 1) levels false)
      (Json.memberChars layout depth members ++ layout.lead outer) members
      (some '\x7d' :: rest) := by
  induction members with
  | nil =>
      intro fuel _
      rw [treeMembers]
      exact (reads_lastMember (spaced.lead outer) false rest).last rfl
  | cons member members ih =>
      intro fuel enough
      cases fuel with
      | zero => simp at enough
      | succ fuel =>
          rw [memberChars_cons, List.append_assoc, List.append_assoc]
          exact reads_scalarMember spaced (scalars member List.mem_cons_self)
            (reads_nextMember (spaced.lead depth)) (endsNumber_members spaced _ outer rest)
            (ih (fun other inside => scalars other (List.mem_cons_of_mem _ inside)) fuel
              (by simpa using enough))

include scalars in
theorem reads_scalarMembers (spaced : Spaced layout) (levels : Nat) (rest : Rest) (fuel : Nat)
    (enough : members.length ≤ fuel) :
    Reads (treeMembers (fuel + 1) levels true) (objectBody layout depth members) members
      (some '\x7d' :: rest) := by
  cases members with
  | nil =>
      rw [treeMembers]
      exact (reads_lastMember blanks_nil true rest).last rfl
  | cons member members =>
      cases fuel with
      | zero => simp at enough
      | succ fuel =>
          rw [objectBody]
          exact reads_scalarMember spaced (scalars member List.mem_cons_self)
            (reads_firstMember (spaced.lead (depth + 1))) (endsNumber_members spaced _ depth rest)
            (reads_laterScalars (fun other inside => scalars other (List.mem_cons_of_mem _ inside))
              spaced levels depth rest fuel (by simpa using enough))

include scalars in
theorem readsValue_scalarMembers (spaced : Spaced layout) {used : Nat} (shallow : used < 127) :
    ReadsValue (tree used) (Json.chars layout depth (.object members)) (.object members) := by
  intro blanks rest blank _
  have enough := length_le_objectBody layout depth members
  refine reads_ofBlanks ?_
  rw [chars_object]
  have levels : ¬ maxLevels - used ≤ 1 := by
    unfold maxLevels
    omega
  have read (length : Nat) (longer : members.length ≤ 2 * length) :
      treeWithin (2 * length + 2) (maxLevels - used)
        (blanks.map some ++
          (('\x7b' :: (objectBody layout depth members ++ ['\x7d'])).map some ++ rest)) =
        .done (.object members) rest := by
    have within : Reads (do return Json.object (← treeMembers _ (maxLevels - used - 1) true))
        (objectBody layout depth members) (.object members) _ :=
      (reads_scalarMembers scalars spaced (maxLevels - used - 1) rest (2 * length) longer).last rfl
    have inside := within.enclosed (reads_endObject rest)
    unfold Reads at inside
    rw [treeWithin, List.map_cons, List.cons_append]
    show Reader.placed (valueStart >>= _) _ = _
    unfold Reader.placed
    rw [bind_apply, valueStart_append blank (by decide)]
    simp only [levels, if_false, bind_apply, drop_apply, List.tail_cons]
    rw [inside]
  refine read _ ?_
  simp only [List.length_append, List.length_map, List.length_cons]
  omega

end Objects

end AutoReply.Json
