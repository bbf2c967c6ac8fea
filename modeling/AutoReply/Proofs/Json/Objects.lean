import AutoReply.Json.Record
import AutoReply.Proofs.Json.Reading
import AutoReply.Proofs.SortedMap

/-!
Objects are read back member by member, as maps and as records. The separators of a layout may be
any blanks.
-/

namespace AutoReply.Json

open AutoReply.Text Reader

variable {α δ κ : Type}

structure Spaced (layout : Json.Layout) : Prop where
  lead : ∀ depth, Blanks (layout.lead depth)
  afterColon : Blanks layout.afterColon

theorem spaced_oneLine : Spaced .oneLine :=
  ⟨fun _ => blanks_nil, blanks_nil⟩

theorem spaced_indented : Spaced .indented := by
  refine ⟨fun depth character member => ?_, fun character member => ?_⟩
  · rcases List.mem_cons.mp member with rfl | inside
    · decide
    · rw [List.eq_of_mem_replicate inside]
      decide
  · rw [List.mem_singleton.mp member]
    decide

theorem endsNumber_blank {character : Char} (blank : Reader.isBlank (some character) = true)
    (rest : Rest) : EndsNumber (some character :: rest) := by
  rintro symbol ⟨⟩
  simp only [Reader.isBlank, Bool.or_eq_true, beq_iff_eq, Option.some.injEq] at blank
  rcases blank with ((rfl | rfl) | rfl) | rfl <;> decide

theorem reads_firstMember {blanks : List Char} (blank : Blanks blanks) (rest : Rest) :
    Reads (hasMember true) blanks true (some '"' :: rest) := by
  simp [Reads, hasMember, next_append blank (show isBlank (some '"') = false by decide)]

theorem reads_nextMember {blanks : List Char} (blank : Blanks blanks) (rest : Rest) :
    Reads (hasMember false) (',' :: blanks) true (some '"' :: rest) := by
  have comma := next_append blanks_nil (show isBlank (some ',') = false by decide)
    (blanks.map some ++ some '"' :: rest)
  rw [List.map_nil, List.nil_append] at comma
  simp [Reads, hasMember, comma, next_append blank (show isBlank (some '"') = false by decide)]

theorem reads_lastMember {blanks : List Char} (blank : Blanks blanks) (first : Bool)
    (rest : Rest) : Reads (hasMember first) blanks false (some '\x7d' :: rest) := by
  simp [Reads, hasMember, next_append blank (show isBlank (some '\x7d') = false by decide)]

theorem reads_colon (rest : Rest) : Reads colon [':'] () rest := by
  have next := next_append blanks_nil (show isBlank (some ':') = false by decide) rest
  rw [List.map_nil, List.nil_append] at next
  simp [Reads, colon, next]

theorem reads_endObject (rest : Rest) : Reads endObject ['\x7d'] () rest := by
  have next := next_append blanks_nil (show isBlank (some '\x7d') = false by decide) rest
  rw [List.map_nil, List.nil_append] at next
  simp [Reads, endObject, next]

theorem Reads.enclosed {inside : Reader α} {close : Reader Unit} {text closing : List Char}
    {value : α} {rest : Rest} (within : Reads inside text value (closing.map some ++ rest))
    (closed : Reads close closing () rest) :
    Reads (Reader.enclosed inside close) (text ++ closing) value rest := by
  unfold Reads at within closed ⊢
  unfold Reader.enclosed
  rw [List.map_append, List.append_assoc, within]
  simp [closed]

/-! The members of an object, one after the other. -/

def memberText (layout : Json.Layout) (depth : Nat) (member : String × Json) : List Char :=
  Json.textChars member.1 ++ ([':'] ++ (layout.afterColon ++ Json.chars layout depth member.2))

theorem memberChars_cons (layout : Json.Layout) (depth : Nat) (member : String × Json)
    (members : List (String × Json)) :
    Json.memberChars layout depth (member :: members) =
      (',' :: layout.lead depth) ++
        (memberText layout depth member ++ Json.memberChars layout depth members) := by
  simp [Json.memberChars, memberText]

theorem length_le_memberChars (layout : Json.Layout) (depth : Nat)
    (members : List (String × Json)) :
    members.length ≤ (Json.memberChars layout depth members).length := by
  induction members with
  | nil => simp
  | cons member members ih =>
      simp only [memberChars_cons, List.length_append, List.length_cons]
      omega

def objectBody (layout : Json.Layout) (depth : Nat) : List (String × Json) → List Char
  | [] => []
  | member :: members =>
      layout.lead (depth + 1) ++ (memberText layout (depth + 1) member ++
        (Json.memberChars layout (depth + 1) members ++ layout.lead depth))

theorem chars_object (layout : Json.Layout) (depth : Nat) (members : List (String × Json)) :
    Json.chars layout depth (.object members) =
      '\x7b' :: (objectBody layout depth members ++ ['\x7d']) := by
  cases members with
  | nil => rfl
  | cons member members => simp [Json.chars, objectBody, memberText]

theorem length_le_objectBody (layout : Json.Layout) (depth : Nat)
    (members : List (String × Json)) :
    members.length ≤ (objectBody layout depth members).length := by
  cases members with
  | nil => simp
  | cons member members =>
      have others := length_le_memberChars layout (depth + 1) members
      simp only [objectBody, memberText, Json.textChars, List.length_append, List.length_cons]
      omega

variable {layout : Json.Layout} {depth : Nat}

theorem endsNumber_members (spaced : Spaced layout) (members : List (String × Json))
    (outer : Nat) (rest : Rest) :
    EndsNumber ((Json.memberChars layout depth members ++ layout.lead outer).map some ++
      some '\x7d' :: rest) := by
  cases members with
  | nil =>
      have blank := spaced.lead outer
      rw [Json.memberChars, List.nil_append]
      generalize layout.lead outer = blanks at blank
      cases blanks with
      | nil =>
          rintro symbol ⟨⟩
          decide
      | cons character others => exact endsNumber_blank (blank character List.mem_cons_self) _
  | cons member members =>
      rw [memberChars_cons]
      rintro symbol ⟨⟩
      decide

theorem reads_memberValue (spaced : Spaced layout) {value : Reader α} {next : α → Reader δ}
    {json : Json} {read : α} {final : δ} {text : List Char} {rest : Rest}
    (valued : ReadsValue value (Json.chars layout depth json) read)
    (ends : EndsNumber (text.map some ++ rest)) (behind : Reads (next read) text final rest) :
    Reads (do
        colon
        let read ← value
        next read)
      ([':'] ++ (layout.afterColon ++ Json.chars layout depth json) ++ text) final rest := by
  rw [List.append_assoc]
  exact (reads_colon _).bind ((valued layout.afterColon _ spaced.afterColon ends).bind behind)

/-! Maps. -/

section Maps

variable {key : Reader κ} {value : Reader α} {written : κ × α → String × Json}

/-- Each entry is read back from the member it is written as. -/
structure ReadsEntries (layout : Json.Layout) (depth : Nat) (key : Reader κ) (value : Reader α)
    (written : κ × α → String × Json) : Prop where
  name : ∀ entry rest, Reads key (Json.textChars (written entry).1) entry.1 rest
  value : ∀ entry, ReadsValue value (Json.chars layout depth (written entry).2) entry.2

theorem reads_laterMembers (spaced : Spaced layout)
    (reads : ReadsEntries layout depth key value written) (entries : List (κ × α)) (outer : Nat)
    (rest : Rest) : ∀ fuel, entries.length < fuel →
      Reads (membersFrom key value fuel false)
        (Json.memberChars layout depth (entries.map written) ++ layout.lead outer) entries
        (some '\x7d' :: rest) := by
  induction entries with
  | nil =>
      intro fuel enough
      cases fuel with
      | zero => omega
      | succ fuel => exact (reads_lastMember (spaced.lead outer) false rest).last rfl
  | cons entry entries ih =>
      intro fuel enough
      cases fuel with
      | zero => omega
      | succ fuel =>
          rw [List.map_cons, memberChars_cons, memberText, List.append_assoc, List.append_assoc,
            List.append_assoc]
          refine (reads_nextMember (spaced.lead depth) _).bind ((reads.name entry _).bind ?_)
          refine reads_memberValue spaced (reads.value entry)
            (endsNumber_members spaced _ outer rest) ?_
          exact (ih fuel (by simpa using enough)).last rfl

theorem reads_members (spaced : Spaced layout)
    (reads : ReadsEntries layout (depth + 1) key value written) (entries : List (κ × α))
    (rest : Rest) (fuel : Nat) (enough : entries.length < fuel) :
    Reads (membersFrom key value fuel true) (objectBody layout depth (entries.map written)) entries
      (some '\x7d' :: rest) := by
  cases fuel with
  | zero => omega
  | succ fuel =>
      cases entries with
      | nil => exact (reads_lastMember blanks_nil true rest).last rfl
      | cons entry entries =>
          rw [List.map_cons, objectBody, memberText, List.append_assoc]
          refine (reads_firstMember (spaced.lead (depth + 1)) _).bind
            ((reads.name entry _).bind ?_)
          refine reads_memberValue spaced (reads.value entry)
            (endsNumber_members spaced _ depth rest) ?_
          exact (reads_laterMembers spaced reads entries depth rest fuel
            (by simpa using enough)).last rfl

theorem readsValue_object (spaced : Spaced layout)
    (reads : ReadsEntries layout (depth + 1) key value written) (entries : List (κ × α)) :
    ReadsValue (Reader.object key value) (Json.chars layout depth (.object (entries.map written)))
      entries := by
  intro blanks rest blank _
  have enough := length_le_objectBody layout depth (entries.map written)
  rw [List.length_map] at enough
  have inside := (reads_members spaced reads entries rest
    (((objectBody layout depth (entries.map written) ++ ['\x7d']).map some ++ rest).length + 1) (by
      simp only [List.length_append, List.length_map]
      omega)).enclosed (reads_endObject rest)
  refine Reads.placed ?_
  unfold Reads at inside ⊢
  rw [chars_object, List.map_append, List.append_assoc, List.map_cons, List.cons_append,
    bind_apply, valueStart_append blank (by decide)]
  exact inside

theorem readsValue_map [Ord κ] [Std.TransOrd κ] [Std.LawfulEqOrd κ] (spaced : Spaced layout)
    (reads : ReadsEntries layout (depth + 1) key value written) (map : SortedMap κ α) :
    ReadsValue (SortedMap.ofList <$> Reader.object key value)
      (Json.chars layout depth (.object (map.entries.map written))) map := by
  have read := (readsValue_object spaced reads map.entries).map SortedMap.ofList
  rwa [SortedMap.ofList_entries] at read

end Maps

/-! Records. -/

/-- Reading the members in their order takes a draft of a record to another. -/
inductive Fills (layout : Json.Layout) (depth : Nat) (fields : List (Field δ)) :
    δ → List (String × Json) → δ → Prop
  | nil (draft : δ) : Fills layout depth fields draft [] draft
  | cons {draft filled final : δ} {field : Field δ} {member : String × Json}
      {members : List (String × Json)}
      (found : fields.find? (fun field => field.name == member.1) = some field)
      (unread : field.isRead draft = false)
      (reads : ReadsValue (field.read draft) (Json.chars layout depth member.2) filled)
      (others : Fills layout depth fields filled members final) :
      Fills layout depth fields draft (member :: members) final

section Records

variable {fields : List (Field δ)} {draft final : δ} {members : List (String × Json)}

theorem Fills.filter_cons {filled : δ} {field : Field δ} {member : String × Json}
    {keep : String × Json → Bool}
    (found : fields.find? (fun field => field.name == member.1) = some field)
    (unread : field.isRead draft = false)
    (reads : keep member = true →
      ReadsValue (field.read draft) (Json.chars layout depth member.2) filled)
    (left : keep member = false → draft = filled)
    (others : Fills layout depth fields filled (members.filter keep) final) :
    Fills layout depth fields draft ((member :: members).filter keep) final := by
  cases kept : keep member with
  | true =>
      rw [List.filter_cons_of_pos kept]
      exact .cons found unread (reads kept) others
  | false =>
      rw [List.filter_cons_of_neg (by simp [kept]), left kept]
      exact others

theorem Fills.reads_field (spaced : Spaced layout) {filled : δ} {field : Field δ}
    {member : String × Json} {fuel outer : Nat} {rest : Rest}
    (found : fields.find? (fun field => field.name == member.1) = some field)
    (unread : field.isRead draft = false)
    (reads : ReadsValue (field.read draft) (Json.chars layout depth member.2) filled)
    (others : Reads (Record.membersFrom fields fuel false filled)
      (Json.memberChars layout depth members ++ layout.lead outer) final (some '\x7d' :: rest))
    {blanks : List Char} {first : Bool}
    (start : ∀ rest, Reads (hasMember first) blanks true (some '"' :: rest)) :
    Reads (Record.membersFrom fields (fuel + 1) first draft)
      (blanks ++ (memberText layout depth member ++
        (Json.memberChars layout depth members ++ layout.lead outer))) final
      (some '\x7d' :: rest) := by
  rw [memberText, List.append_assoc]
  refine (start _).bind ((reads_key member.1 _).bind ?_)
  simp only [found, unread]
  exact reads_memberValue spaced reads (endsNumber_members spaced _ outer rest) others

theorem Fills.reads_later (spaced : Spaced layout)
    (fills : Fills layout depth fields draft members final) (outer : Nat) (rest : Rest) :
    ∀ fuel, members.length < fuel → Reads (Record.membersFrom fields fuel false draft)
      (Json.memberChars layout depth members ++ layout.lead outer) final
      (some '\x7d' :: rest) := by
  induction fills with
  | nil draft =>
      intro fuel enough
      cases fuel with
      | zero => omega
      | succ fuel => exact (reads_lastMember (spaced.lead outer) false rest).last rfl
  | cons found unread reads _ ih =>
      intro fuel enough
      cases fuel with
      | zero => omega
      | succ fuel =>
          rw [memberChars_cons, List.append_assoc, List.append_assoc]
          exact reads_field spaced found unread reads (ih fuel (by simpa using enough))
            (reads_nextMember (spaced.lead depth))

theorem Fills.reads_members (spaced : Spaced layout)
    (fills : Fills layout (depth + 1) fields draft members final) (rest : Rest) (fuel : Nat)
    (enough : members.length < fuel) : Reads (Record.membersFrom fields fuel true draft)
      (objectBody layout depth members) final (some '\x7d' :: rest) := by
  cases fuel with
  | zero => omega
  | succ fuel =>
      cases fills with
      | nil => exact (reads_lastMember blanks_nil true rest).last rfl
      | cons found unread reads others =>
          exact reads_field spaced found unread reads
            (others.reads_later spaced depth rest fuel (by simpa using enough))
            (reads_firstMember (spaced.lead (depth + 1)))

theorem readsValue_record (spaced : Spaced layout) (record : Record δ α) {value : α}
    (fills : Fills layout (depth + 1) record.fields record.start members final)
    (finished : record.finish final = .ok value) :
    ReadsValue record.reader (Json.chars layout depth (.object members)) value := by
  intro blanks rest blank _
  have enough := length_le_objectBody layout depth members
  have read := fills.reads_members spaced rest
    (((objectBody layout depth members ++ ['\x7d']).map some ++ rest).length + 1) (by
      simp only [List.length_append, List.length_map]
      omega)
  have whole : Reads (do liftExcept (record.finish (← Record.membersFrom record.fields _ true _))) _
      value _ := read.last (by rw [finished]; rfl)
  have inside := whole.enclosed (reads_endObject rest)
  refine Reads.placed ?_
  unfold Reads at inside ⊢
  rw [chars_object, List.map_append, List.append_assoc, List.map_cons, List.cons_append,
    bind_apply, valueStart_append blank (by decide)]
  exact inside

end Records

end AutoReply.Json
