import Mathlib.Data.List.Perm.Basic
import AutoReply.Proofs.Registry.Restoring

/-!
Updates of many rules. Each rule is settled by itself from the entry of its name, every entry is
accounted for in the report, and neither the order of the entries nor a second update matters.
-/

namespace AutoReply

open AutoReply.Rule AutoReply.Text

namespace Registry

variable {α : Type}

/-- What entries hold for a name, in whatever order they come: the value of the very name, else that
of the smallest key that differs from the name only in case, else nothing. -/
inductive Assigns (entries : List (String × α)) (name : String) : Option α → Prop
  | exact {value : α} : (name, value) ∈ entries → Assigns entries name (some value)
  | folded {key : String} {value : α} :
      name ∉ entries.map Prod.fst → (key, value) ∈ entries → lower key = lower name →
      (∀ other ∈ entries.map Prod.fst, lower other = lower name → key ≤ other) →
      Assigns entries name (some value)
  | nothing : (∀ key ∈ entries.map Prod.fst, lower key ≠ lower name) → Assigns entries name none

/-- Going through the rules: the rules after an update, the names of those that accepted their
values, and those that refused, with the reasons. -/
inductive Settles (accept : Response → α → Except StateError Response)
    (entries : List (String × α)) :
    List Response → List Response → List String → List Skipped → Prop
  | nil : Settles accept entries [] [] [] []
  | untouched {response : Response} {rest later : List Response} {applied : List String}
      {refused : List Skipped} :
      Assigns entries response.name none → Settles accept entries rest later applied refused →
      Settles accept entries (response :: rest) (response :: later) applied refused
  | applied {response changed : Response} {value : α} {rest later : List Response}
      {applied : List String} {refused : List Skipped} :
      Assigns entries response.name (some value) → accept response value = .ok changed →
      Settles accept entries rest later applied refused →
      Settles accept entries (response :: rest) (changed :: later) (response.name :: applied)
        refused
  | refused {response : Response} {value : α} {error : StateError} {rest later : List Response}
      {applied : List String} {refused : List Skipped} :
      Assigns entries response.name (some value) → accept response value = .error error →
      Settles accept entries rest later applied refused →
      Settles accept entries (response :: rest) (response :: later) applied
        (⟨response.name, error.message⟩ :: refused)

structure Unknown (registry : Registry) (entries : List (String × α)) (unknown : List String) :
    Prop where
  ascending : unknown.Pairwise (· < ·)
  mem_iff : ∀ key, key ∈ unknown ↔ key ∈ entries.map Prod.fst ∧
    ∀ response ∈ registry.responses, lower response.name ≠ lower key

def unknownSkipped (name : String) : Skipped :=
  ⟨name, (RegistryError.notFound name).message⟩

def UpdatesAll (accept : Response → α → Except StateError Response)
    (entries : List (String × α)) (earlier later : Registry) (report : BulkReport) : Prop :=
  ∃ refused unknown,
    Settles accept entries earlier.responses later.responses report.applied refused ∧
    Unknown earlier entries unknown ∧ report.skipped = refused ++ unknown.map unknownSkipped

theorem Assigns.unique {entries : List (String × α)} {name : String} {value other : Option α}
    (distinct : (entries.map Prod.fst).Nodup) (first : Assigns entries name value)
    (second : Assigns entries name other) : other = value := by
  have listed {key : String} {held : α} (member : (key, held) ∈ entries) :
      key ∈ entries.map Prod.fst := List.mem_map.mpr ⟨_, member, rfl⟩
  have same {key : String} {held also : α} (member : (key, held) ∈ entries)
      (alsoMember : (key, also) ∈ entries) : some also = some held := by
    have found := SortedMap.lookup_eq_some_of_nodup distinct member
    rw [← found, SortedMap.lookup_eq_some_of_nodup distinct alsoMember]
  cases first with
  | exact member =>
      cases second with
      | exact alsoMember => exact same member alsoMember
      | folded absent => exact absurd (listed member) absent
      | nothing unlike => exact absurd rfl (unlike name (listed member))
  | folded absent member like least =>
      cases second with
      | exact alsoMember => exact absurd (listed alsoMember) absent
      | folded _ alsoMember alsoLike alsoLeast =>
          have keys := Std.le_antisymm (least _ (listed alsoMember) alsoLike)
            (alsoLeast _ (listed member) like)
          subst keys
          exact same member alsoMember
      | nothing unlike => exact absurd like (unlike _ (listed member))
  | nothing unlike =>
      cases second with
      | exact alsoMember => exact absurd rfl (unlike name (listed alsoMember))
      | folded _ alsoMember alsoLike => exact absurd alsoLike (unlike _ (listed alsoMember))
      | nothing => rfl

theorem Assigns.perm {entries other : List (String × α)} {name : String} {value : Option α}
    (same : other.Perm entries) (assigns : Assigns entries name value) :
    Assigns other name value := by
  have keys {key : String} : key ∈ other.map Prod.fst ↔ key ∈ entries.map Prod.fst :=
    (same.map Prod.fst).mem_iff
  cases assigns with
  | exact member => exact .exact (same.mem_iff.mpr member)
  | folded absent member like least =>
      exact .folded (mt keys.mp absent) (same.mem_iff.mpr member) like fun key listed =>
        least key (keys.mp listed)
  | nothing unlike => exact .nothing fun key listed => unlike key (keys.mp listed)

theorem Unknown.unique {registry : Registry} {entries : List (String × α)}
    {unknown other : List String} (first : Unknown registry entries unknown)
    (second : Unknown registry entries other) : other = unknown := by
  refine List.Perm.eq_of_pairwise (fun key later _ _ below above => ?_) second.ascending
    first.ascending ((List.perm_ext_iff_of_nodup (second.ascending.imp Std.ne_of_lt)
      (first.ascending.imp Std.ne_of_lt)).mpr fun key => ?_)
  · exact absurd above (Std.not_lt.mpr (Std.le_of_lt below))
  · rw [first.mem_iff, second.mem_iff]

theorem Unknown.perm {registry : Registry} {entries other : List (String × α)}
    {unknown : List String} (same : other.Perm entries)
    (isUnknown : Unknown registry entries unknown) : Unknown registry other unknown := by
  refine ⟨isUnknown.ascending, fun key => ?_⟩
  rw [isUnknown.mem_iff, (same.map Prod.fst).mem_iff]

theorem minByKey?_eq_none {entries : List (String × α)} (none : minByKey? entries = none) :
    entries = [] := by
  cases entries with
  | nil => rfl
  | cons first rest => contradiction

theorem least_foldl (first : String × α) (rest : List (String × α)) :
    let least := rest.foldl (fun least entry => if entry.1 < least.1 then entry else least) first
    least ∈ first :: rest ∧ ∀ entry ∈ first :: rest, least.1 ≤ entry.1 := by
  induction rest generalizing first with
  | nil => simp
  | cons entry rest ih =>
      by_cases below : entry.1 < first.1
      · obtain ⟨member, least⟩ := ih entry
        simp only [List.foldl_cons, if_pos below]
        refine ⟨List.mem_cons_of_mem _ member, List.forall_mem_cons.mpr ⟨?_, least⟩⟩
        exact Std.le_trans (least entry List.mem_cons_self) (Std.le_of_lt below)
      · obtain ⟨member, least⟩ := ih first
        obtain ⟨leastFirst, leastRest⟩ := List.forall_mem_cons.mp least
        have leastEntry := Std.le_trans leastFirst (Std.not_lt.mp below)
        simp only [List.foldl_cons, if_neg below]
        refine ⟨?_, List.forall_mem_cons.mpr ⟨leastFirst,
          List.forall_mem_cons.mpr ⟨leastEntry, leastRest⟩⟩⟩
        rcases List.mem_cons.mp member with same | later
        · exact List.mem_cons.mpr (.inl same)
        · exact List.mem_cons_of_mem _ (List.mem_cons_of_mem _ later)

theorem minByKey?_eq_some {entries : List (String × α)} {least : String × α}
    (found : minByKey? entries = some least) :
    least ∈ entries ∧ ∀ entry ∈ entries, least.1 ≤ entry.1 := by
  cases entries with
  | nil => contradiction
  | cons first rest => exact Option.some.inj found ▸ least_foldl first rest

theorem assigns_entryFor (map : HashMap String α) (name : String) :
    Assigns map.entries name (entryFor map name) := by
  have like {entry : String × α} : entry ∈ map.entries.filter (fun entry =>
      lower entry.1 == lower name) ↔ entry ∈ map.entries ∧ lower entry.1 = lower name := by
    simp [List.mem_filter]
  unfold entryFor
  cases found : map.lookup name with
  | some value => exact .exact (HashMap.mem_entries_iff.mpr found)
  | none =>
      dsimp only
      cases least : minByKey? (map.entries.filter fun entry => lower entry.1 == lower name) with
      | none =>
          refine .nothing fun key listed same => ?_
          obtain ⟨entry, member, rfl⟩ := List.mem_map.mp listed
          have inside := like.mpr ⟨member, same⟩
          rw [minByKey?_eq_none least] at inside
          contradiction
      | some entry =>
          obtain ⟨inside, below⟩ := minByKey?_eq_some least
          obtain ⟨member, same⟩ := like.mp inside
          refine .folded (HashMap.lookup_eq_none_iff.mp found) member same ?_
          intro key listed alike
          obtain ⟨other, otherMember, rfl⟩ := List.mem_map.mp listed
          exact below other (like.mpr ⟨otherMember, alike⟩)

theorem assigns_iff {map : HashMap String α} {name : String} {value : Option α} :
    Assigns map.entries name value ↔ entryFor map name = value := by
  constructor
  · exact fun assigned => assigned.unique map.nodup (assigns_entryFor map name)
  · rintro rfl
    exact assigns_entryFor map name

theorem assigns_toHashMap_iff {map : SortedMap String α} {name : String} {value : Option α} :
    Assigns map.entries name value ↔ entryFor map.toHashMap name = value := by
  rw [← assigns_iff, SortedMap.entries_toHashMap]

theorem unknown_unknownKeys (registry : Registry) (map : HashMap String α) :
    Unknown registry map.entries (registry.unknownKeys map) := by
  have perm := List.mergeSort_perm (map.keys.filter fun name => (registry.lookup name).isNone)
    (fun key other => decide (key ≤ other))
  constructor
  case ascending =>
    have nodup : (registry.unknownKeys map).Nodup := perm.nodup_iff.mpr (map.nodup.filter _)
    have sorted : (registry.unknownKeys map).Pairwise (· ≤ ·) := by
      refine (List.pairwise_mergeSort (fun first second third => ?_) (fun first second => ?_)
        _).imp of_decide_eq_true
      · simpa using Std.le_trans
      · simpa using Std.le_total
    exact (sorted.and nodup).imp fun both => Std.lt_of_le_of_ne both.1 both.2
  case mem_iff =>
    intro key
    rw [unknownKeys, perm.mem_iff, List.mem_filter, Option.isNone_iff_eq_none, lookup,
      List.find?_eq_none]
    simp [Response.isNamed, HashMap.keys]

theorem entryFor_perm {map other : HashMap String α} (same : other.entries.Perm map.entries)
    (name : String) : entryFor other name = entryFor map name :=
  assigns_iff.mp ((assigns_entryFor map name).perm same)

theorem unknownKeys_perm {map other : HashMap String α} (same : other.entries.Perm map.entries)
    (registry : Registry) : registry.unknownKeys other = registry.unknownKeys map :=
  ((unknown_unknownKeys registry map).perm same).unique (unknown_unknownKeys registry other)

structure Tries (accept : Response → α → Except StateError Response) (response : Response)
    (value : α) (step : Step) : Prop where
  accepted : ∀ changed, accept response value = .ok changed →
    step.response = changed ∧ step.report = .ofApplied response.name
  refused : ∀ error, accept response value = .error error →
    step.response = response ∧ step.report = .ofSkipped response.name error.message

section Updates

variable {accept : Response → α → Except StateError Response} {apply : Response → α → Step}
  (tries : ∀ response value, Tries accept response value (apply response value))

def stepFor (entries : HashMap String α) (apply : Response → α → Step) (response : Response) :
    Step :=
  (entryFor entries response.name).elim { response } (apply response)

theorem bulkApply_eq (registry : Registry) (entries : HashMap String α)
    (apply : Response → α → Step) :
    registry.bulkApply entries apply =
      let collected := collect (registry.responses.map (stepFor entries apply))
      let unknown := registry.reportUnknown entries
      (collected.1, collected.2.1 ++ unknown.1, collected.2.2 ++ unknown.2) := by
  unfold bulkApply
  rw [@List.map_congr_left _ registry.responses _ _ (stepFor entries apply) fun response _ => ?_]
  unfold stepFor
  cases entryFor entries response.name <;> rfl

include tries in
theorem settles_collect (entries : HashMap String α) (responses : List Response) :
    let collected := collect (responses.map (stepFor entries apply))
    Settles accept entries.entries responses collected.1.responses collected.2.1.applied
      collected.2.1.skipped := by
  induction responses with
  | nil => exact .nil
  | cons response rest ih =>
      have assigned := assigns_entryFor entries response.name
      have tried := tries response
      simp only [List.map_cons, collect, List.foldr_cons] at ih ⊢
      unfold stepFor at ih ⊢
      cases found : entryFor entries response.name with
      | none =>
          rw [found] at assigned
          exact .untouched assigned ih
      | some value =>
          rw [found] at assigned
          rw [Option.elim_some]
          cases answer : accept response value with
          | ok changed =>
              obtain ⟨later, report⟩ := (tried value).accepted changed answer
              rw [later, report]
              exact .applied assigned answer ih
          | error error =>
              obtain ⟨later, report⟩ := (tried value).refused error answer
              rw [later, report]
              exact .refused assigned answer ih

include tries in
theorem updatesAll_bulkApply (registry : Registry) (entries : HashMap String α) :
    let updated := registry.bulkApply entries apply
    UpdatesAll accept entries.entries registry updated.1 updated.2.1 := by
  rw [bulkApply_eq]
  refine ⟨_, _, ?_, unknown_unknownKeys registry entries, rfl⟩
  have applied := settles_collect tries entries registry.responses
  simp only [reportUnknown] at applied ⊢
  convert applied using 1
  exact List.append_nil _

theorem bulkApply_perm {entries other : HashMap String α}
    (same : other.entries.Perm entries.entries) (registry : Registry) :
    registry.bulkApply other apply = registry.bulkApply entries apply := by
  have steps : stepFor other apply = stepFor entries apply := by
    funext response
    rw [stepFor, stepFor, entryFor_perm same]
  have unknown : registry.reportUnknown other = registry.reportUnknown entries := by
    rw [reportUnknown, reportUnknown, unknownKeys_perm same]
  rw [bulkApply_eq, bulkApply_eq, steps, unknown]

end Updates

/-! Updating twice. -/

theorem isNone_lookup (registry : Registry) (name : String) :
    (registry.lookup name).isNone =
      !(registry.responses.map Response.name).any fun other => lower other == lower name := by
  rw [lookup, Bool.eq_iff_iff]
  simp [Response.isNamed]

theorem reportUnknown_congr {earlier later : Registry} (entries : HashMap String α)
    (same : later.responses.map Response.name = earlier.responses.map Response.name) :
    later.reportUnknown entries = earlier.reportUnknown entries := by
  unfold reportUnknown unknownKeys
  simp only [isNone_lookup, same]

structure Steady (apply : Response → α → Step) : Prop where
  name : ∀ response value, (apply response value).response.name = response.name
  again : ∀ response value, apply (apply response value).response value = apply response value

theorem Steady.stepFor_again {apply : Response → α → Step} (steady : Steady apply)
    (entries : HashMap String α) (response : Response) :
    stepFor entries apply (stepFor entries apply response).response =
      stepFor entries apply response := by
  unfold stepFor
  cases found : entryFor entries response.name with
  | none => rw [Option.elim_none, found, Option.elim_none]
  | some value =>
      rw [Option.elim_some, steady.name, found, Option.elim_some]
      exact steady.again response value

theorem Steady.bulkApply_again {apply : Response → α → Step} (steady : Steady apply)
    (registry : Registry) (entries : HashMap String α) :
    (registry.bulkApply entries apply).1.bulkApply entries apply =
      registry.bulkApply entries apply := by
  rw [bulkApply_eq, bulkApply_eq]
  have steps : (registry.responses.map fun response =>
      stepFor entries apply (stepFor entries apply response).response) =
        registry.responses.map (stepFor entries apply) :=
    List.map_congr_left fun response _ => steady.stepFor_again entries response
  have names : (registry.responses.map fun response =>
      (stepFor entries apply response).response.name) = registry.responses.map Response.name := by
    refine List.map_congr_left fun response _ => ?_
    unfold stepFor
    cases entryFor entries response.name with
    | none => rfl
    | some value => exact steady.name response value
  have unknown := @reportUnknown_congr _ registry
    (collect (registry.responses.map (stepFor entries apply))).1 entries
    (by simpa [collect, Function.comp_def] using names)
  simp only [unknown]
  simp only [collect, List.map_map, Function.comp_def, steps]

/-! States and flags. -/

def stateStep (response : Response) (state : String) : Step :=
  match tryState response state with
  | (.ok changed, report) => { response := changed, report }
  | (.error error, report) => { response, report, journal := [rejectedEntry response state error] }

def flagStep (response : Response) (enabled : Bool) : Step :=
  { response := response.setEnabled enabled, report := .ofApplied response.name }

def acceptFlag (response : Response) (enabled : Bool) : Except StateError Response :=
  .ok (response.setEnabled enabled)

theorem bulkSetStates_eq (registry : Registry) (states : HashMap String String) :
    registry.bulkSetStates states = registry.bulkApply states stateStep := rfl

theorem bulkSetEnabled_eq (registry : Registry) (flags : HashMap String Bool) :
    registry.bulkSetEnabled flags = registry.bulkApply flags flagStep := rfl

theorem stateStep_of_ok {response changed : Response} {state : String}
    (accepted : response.setState state = .ok changed) :
    stateStep response state = { response := changed, report := .ofApplied response.name } := by
  simp only [stateStep, tryState, accepted]

theorem stateStep_of_error {response : Response} {state : String} {error : StateError}
    (refused : response.setState state = .error error) :
    stateStep response state =
      { response, report := .ofSkipped response.name error.message
        journal := [rejectedEntry response state error] } := by
  simp only [stateStep, tryState, refused]

theorem tries_stateStep (response : Response) (state : String) :
    Tries Response.setState response state (stateStep response state) := by
  constructor
  case accepted =>
    intro changed accepted
    rw [stateStep_of_ok accepted]
    exact ⟨rfl, rfl⟩
  case refused =>
    intro error refused
    rw [stateStep_of_error refused]
    exact ⟨rfl, rfl⟩

theorem tries_flagStep (response : Response) (enabled : Bool) :
    Tries acceptFlag response enabled (flagStep response enabled) := by
  constructor
  case accepted =>
    intro changed accepted
    exact ⟨Except.ok.inj accepted, rfl⟩
  case refused =>
    intro error refused
    contradiction

theorem setState_again {response changed : Response} {state : String}
    (accepted : response.setState state = .ok changed) :
    changed.name = response.name ∧ changed.setState state = .ok changed := by
  rcases Response.setState_eq_ok accepted with
    ⟨message, react, mode, selected, _, parsed, rfl⟩ | ⟨action, chance, selected, _, parsed, rfl⟩
  · exact ⟨rfl, by simp [Response.setState, parsed, Except.map]⟩
  · exact ⟨rfl, by simp [Response.setState, parsed, Except.map]⟩

theorem steady_stateStep : Steady stateStep := by
  constructor
  case name =>
    intro response state
    cases tried : response.setState state with
    | ok changed =>
        rw [stateStep_of_ok tried]
        exact (setState_again tried).1
    | error error => rw [stateStep_of_error tried]
  case again =>
    intro response state
    cases tried : response.setState state with
    | ok changed =>
        obtain ⟨name, again⟩ := setState_again tried
        rw [stateStep_of_ok tried, stateStep_of_ok again, name]
    | error error =>
        rw [stateStep_of_error tried]
        exact stateStep_of_error tried

theorem steady_flagStep : Steady flagStep :=
  ⟨fun _ _ => rfl, fun _ _ => rfl⟩

/-- An update of states or flags settles every rule by the entry of its name and reports each rule
and each unknown key once; it depends on the entries and not on the order in which they are found,
and doing it again changes nothing and reports the same. -/
theorem bulk_updates_pointwise (registry : Registry) (states : HashMap String String)
    (flags : HashMap String Bool) :
    let tuned := registry.bulkSetStates states
    let toggled := registry.bulkSetEnabled flags
    UpdatesAll Response.setState states.entries registry tuned.1 tuned.2.1 ∧
      UpdatesAll acceptFlag flags.entries registry toggled.1 toggled.2.1 ∧
      (∀ other : HashMap String String, other.entries.Perm states.entries →
        registry.bulkSetStates other = tuned) ∧
      (∀ other : HashMap String Bool, other.entries.Perm flags.entries →
        registry.bulkSetEnabled other = toggled) ∧
      tuned.1.bulkSetStates states = tuned ∧
      toggled.1.bulkSetEnabled flags = toggled := by
  simp only [bulkSetStates_eq, bulkSetEnabled_eq]
  exact ⟨updatesAll_bulkApply tries_stateStep registry states,
    updatesAll_bulkApply tries_flagStep registry flags,
    fun _ same => bulkApply_perm same registry, fun _ same => bulkApply_perm same registry,
    steady_stateStep.bulkApply_again registry states,
    steady_flagStep.bulkApply_again registry flags⟩

def namesakes : Registry :=
  ⟨[.sendOrReact "TINA" (.predicate "any" fun _ _ => true) "Tina!" ⟨1⟩ .message,
    .sendOrReact "tina" (.predicate "any" fun _ _ => true) "Tina!" ⟨1⟩ .message,
    .plain "mayuri" (.predicate "any" fun _ _ => true) .echo]⟩

def namesakeStates : HashMap String String where
  entries := [("tina", "loud"), ("upa", "react"), ("daru", "react"), ("Tina", "react"),
    ("mayuri", "react")]
  nodup := by decide

def namesakeFlags : HashMap String Bool where
  entries := [("MAYURI", false), ("daru", true)]
  nodup := by decide

theorem namesakes_updated :
    let tuned := namesakes.bulkSetStates namesakeStates
    UpdatesAll Response.setState namesakeStates.entries namesakes tuned.1 tuned.2.1 ∧
      tuned.1.responses.map Response.state = ["react", "message", "N/A"] ∧
      tuned.2.1.applied = ["TINA"] ∧
      tuned.2.1.skipped.map Skipped.name = ["tina", "mayuri", "daru", "upa"] ∧
      tuned.1.bulkSetStates namesakeStates = tuned := by
  obtain ⟨updates, _, _, _, again, _⟩ :=
    bulk_updates_pointwise namesakes namesakeStates namesakeFlags
  have strangers : (namesakeStates.keys.filter fun name => (namesakes.lookup name).isNone) =
      ["upa", "daru"] := by decide +kernel
  have unknown : namesakes.unknownKeys namesakeStates = ["daru", "upa"] := by
    rw [unknownKeys, strangers]
    simp [List.mergeSort, List.MergeSort.Internal.splitInTwo]
  have skipped : ((namesakes.bulkSetStates namesakeStates).2.1.skipped.map Skipped.name) =
      ["tina", "mayuri"] ++ ["daru", "upa"] := by
    rw [bulkSetStates_eq, bulkApply_eq, reportUnknown, unknown]
    decide +kernel
  exact ⟨updates, by decide +kernel, by decide +kernel, skipped, again⟩

end Registry

end AutoReply
