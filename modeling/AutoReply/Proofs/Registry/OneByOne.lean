import Mathlib.Data.List.Nodup
import AutoReply.Proofs.Registry.Bulk

/-!
Three ways to change settings: all rules at once, many rules by name, and one rule after another.
They agree, the last one as long as no two names differ only in case.
-/

namespace AutoReply.Registry

open AutoReply.Rule AutoReply.Text

variable {α : Type}

/-! One value for every rule. -/

def forEveryName (registry : Registry) (value : α) : List (String × α) :=
  registry.responses.map fun response => (response.name, value)

theorem entryFor_forEveryName {registry : Registry} (value : α) {response : Response}
    (member : response ∈ registry.responses) :
    entryFor (.ofList (registry.forEveryName value)) response.name = some value := by
  -- names may occur more than once, so all entries of a name have to be the same
  have only : (registry.forEveryName value).reverse.lookup response.name = some value := by
    cases found : (registry.forEveryName value).reverse.lookup response.name with
    | none =>
        have listed : (response.name, value) ∈ (registry.forEveryName value).reverse :=
          List.mem_reverse.mpr (List.mem_map_of_mem member)
        have unlike := List.lookup_eq_none_iff.mp found _ listed
        simp at unlike
    | some other =>
        obtain ⟨before, after, split, _⟩ := List.lookup_eq_some_iff.mp found
        have listed : (response.name, other) ∈ registry.forEveryName value := by
          rw [← List.mem_reverse, split]
          simp
        obtain ⟨_, _, same⟩ := List.mem_map.mp listed
        rw [← (Prod.mk.inj same).2]
  rw [entryFor, HashMap.lookup_ofList, only]

theorem keys_forEveryName (registry : Registry) (value : α) {key : String}
    (member : key ∈ (HashMap.ofList (registry.forEveryName value)).keys) :
    key ∈ registry.responses.map Response.name := by
  have listed := HashMap.mem_keys_ofList member
  rwa [forEveryName, List.map_map] at listed

theorem bulkApply_forEveryName (registry : Registry) (value : α) (apply : Response → α → Step) :
    let updated := registry.bulkApply (.ofList (registry.forEveryName value)) apply
    let collected := collect (registry.responses.map fun response => apply response value)
    updated.1 = collected.1 ∧ updated.2.1 = collected.2.1 := by
  have steps : registry.responses.map (stepFor (.ofList (registry.forEveryName value)) apply) =
      registry.responses.map fun response => apply response value :=
    List.map_congr_left fun response member => by
      rw [stepFor, entryFor_forEveryName value member, Option.elim_some]
  have unknown : (registry.reportUnknown (.ofList (registry.forEveryName value))).1 = {} :=
    congrArg (BulkReport.mk [])
      (reportUnknown_of_known fun _ => keys_forEveryName registry value)
  rw [bulkApply_eq, steps]
  dsimp only
  rw [unknown]
  exact ⟨rfl, congrArg₂ BulkReport.mk (List.append_nil _) (List.append_nil _)⟩

theorem collect_congr {steps others : List Step}
    (responses : others.map Step.response = steps.map Step.response)
    (reports : others.map Step.report = steps.map Step.report) :
    (collect others).1 = (collect steps).1 ∧ (collect others).2.1 = (collect steps).2.1 := by
  have folded (list : List Step) : (collect list).2.1 =
      (list.map Step.report).foldr (fun report later => report ++ later) {} := by
    rw [List.foldr_map]
    rfl
  exact ⟨congrArg Registry.mk responses, by rw [folded, folded, reports]⟩

theorem setAllStates_eq (registry : Registry) (state : String) :
    let changed := registry.bulkSetStates (.ofList (registry.forEveryName state))
    registry.setAllStates state = (changed.1, changed.2.1) := by
  obtain ⟨rules, report⟩ := bulkApply_forEveryName registry state stateStep
  rw [bulkSetStates_eq]
  dsimp only
  rw [rules, report]
  refine Prod.ext_iff.mpr (collect_congr ?responses ?reports)
  all_goals
    simp only [List.map_map]
    refine List.map_congr_left fun response _ => ?_
    simp only [Function.comp_apply, tryState, stateStep]
    cases response.setState state <;> rfl

theorem setAllEnabled_eq (registry : Registry) (enabled : Bool) :
    registry.setAllEnabled enabled =
      (registry.bulkSetEnabled (.ofList (registry.forEveryName enabled))).1 := by
  rw [bulkSetEnabled_eq, (bulkApply_forEveryName registry enabled flagStep).1]
  simp only [setAllEnabled, collect, List.map_map, Function.comp_def, flagStep]

/-! One rule after another. -/

/-- Sets the states one by one, each on what the ones before have left. A setting that is refused
changes nothing; the names of the others are listed. -/
def setOneByOne : List (String × String) → Registry → Registry × List String
  | [], registry => (registry, [])
  | (name, state) :: later, registry =>
      match registry.setState name state with
      | .ok next =>
          let (final, accepted) := setOneByOne later next
          (final, name :: accepted)
      | .error _ => setOneByOne later registry

def Apart (names : List String) : Prop :=
  (names.map lower).Nodup

theorem Apart.nodup {names : List String} (apart : Apart names) : names.Nodup :=
  List.Nodup.of_map lower apart

def tunedBy (entry : String × String) (response : Response) : Response :=
  if response.isNamed entry.1 then response.tuned entry.2 else response

theorem tunedBy_of_named {entry : String × String} {response : Response}
    (named : response.isNamed entry.1 = true) :
    tunedBy entry response = response.tuned entry.2 :=
  if_pos named

theorem tunedBy_of_unnamed {entry : String × String} {response : Response}
    (unnamed : response.isNamed entry.1 = false) : tunedBy entry response = response :=
  if_neg (by simp [unnamed])

theorem name_tunedBy (entry : String × String) (response : Response) :
    (tunedBy entry response).name = response.name := by
  unfold tunedBy
  split
  · exact Response.name_of_untuned (Response.untuned_tuned response entry.2)
  · rfl

theorem map_tunedBy_of_unnamed {entry : String × String} {responses : List Response}
    (unnamed : ∀ response ∈ responses, response.isNamed entry.1 = false) :
    responses.map (tunedBy entry) = responses :=
  (List.map_congr_left fun response member => tunedBy_of_unnamed (unnamed response member)).trans
    (List.map_id _)

theorem lookup_map_tunedBy (registry : Registry) (entry : String × String) (name : String) :
    lookup ⟨registry.responses.map (tunedBy entry)⟩ name =
      (registry.lookup name).map (tunedBy entry) := by
  have named : ((fun response => response.isNamed name) ∘ tunedBy entry) =
      fun response => response.isNamed name := by
    funext response
    simp only [Function.comp_apply, Response.isNamed, name_tunedBy]
  rw [lookup, List.find?_map, named, lookup]

def accepts (registry : Registry) (entry : String × String) : Bool :=
  (registry.lookup entry.1).any fun response => (response.setState entry.2).isOk

theorem isNamed_of_lookup {registry : Registry} {name : String} {response : Response}
    (found : registry.lookup name = some response) : response.isNamed name = true := by
  obtain ⟨named, _⟩ := List.find?_eq_some_iff_append.mp found
  exact named

theorem accepts_map_tunedBy (registry : Registry) {entry other : String × String}
    (different : lower entry.1 ≠ lower other.1) :
    accepts ⟨registry.responses.map (tunedBy entry)⟩ other = registry.accepts other := by
  rw [accepts, lookup_map_tunedBy, accepts]
  cases found : registry.lookup other.1 with
  | none => rfl
  | some response =>
      have named := beq_iff_eq.mp (isNamed_of_lookup found)
      have unnamed : response.isNamed entry.1 = false :=
        beq_eq_false_iff_ne.mpr fun same => different (same.symm.trans named)
      rw [Option.map_some, tunedBy_of_unnamed unnamed]

theorem unnamed_of_split {registry : Registry}
    (apart : Apart (registry.responses.map Response.name)) {before after : List Response}
    {response : Response} (split : registry.responses = before ++ response :: after) {name : String}
    (named : response.isNamed name = true) : ∀ other ∈ after, other.isNamed name = false := by
  intro other member
  rw [Apart, split, List.map_append, List.map_cons, List.map_append, List.map_cons] at apart
  have others := (List.nodup_cons.mp (List.nodup_append.mp apart).2.1).1
  refine Bool.eq_false_iff.mpr fun alsoNamed => others (List.mem_map.mpr ⟨other.name, ?_, ?_⟩)
  · exact List.mem_map_of_mem member
  · exact (beq_iff_eq.mp alsoNamed).trans (beq_iff_eq.mp named).symm

theorem setState_cases {registry : Registry}
    (apart : Apart (registry.responses.map Response.name)) (entry : String × String) :
    (∃ error, registry.setState entry.1 entry.2 = .error error ∧
      registry.accepts entry = false ∧
      registry.responses.map (tunedBy entry) = registry.responses) ∨
    (registry.setState entry.1 entry.2 = .ok ⟨registry.responses.map (tunedBy entry)⟩ ∧
      registry.accepts entry = true) := by
  cases found : registry.lookup entry.1 with
  | none =>
      refine .inl ⟨.notFound entry.1, by simp [setState, get, found], by simp [accepts, found], ?_⟩
      exact map_tunedBy_of_unnamed (by simpa [lookup] using found)
  | some response =>
      obtain ⟨before, after, split, named, unnamedBefore, replaced⟩ :=
        replace_split (response.tuned entry.2) found
      have tuned : registry.responses.map (tunedBy entry) =
          before ++ response.tuned entry.2 :: after := by
        rw [split, List.map_append, List.map_cons, tunedBy_of_named named,
          map_tunedBy_of_unnamed unnamedBefore,
          map_tunedBy_of_unnamed (unnamed_of_split apart split named)]
      cases tried : response.setState entry.2 with
      | error error =>
          refine .inl ⟨.state error, by simp [setState, get, found, tried], ?_, ?_⟩
          · simp [accepts, found, tried, Except.isOk, Except.toBool]
          · rw [tuned, split, Response.tuned, tried]
      | ok changed =>
          refine .inr ⟨?_, by simp [accepts, found, tried, Except.isOk, Except.toBool]⟩
          rw [tuned, ← replaced]
          simp [setState, get, found, tried, Response.tuned]

theorem setOneByOne_cons {registry : Registry}
    (apart : Apart (registry.responses.map Response.name)) (entry : String × String)
    (later : List (String × String)) :
    setOneByOne (entry :: later) registry =
      let others := setOneByOne later ⟨registry.responses.map (tunedBy entry)⟩
      (others.1, if registry.accepts entry then entry.1 :: others.2 else others.2) := by
  rw [setOneByOne]
  rcases setState_cases apart entry with ⟨error, refused, rejects, same⟩ | ⟨accepted, accepts⟩
  · simp [refused, rejects, same]
  · simp [accepted, accepts]

def tunedByAll (entries : List (String × String)) (response : Response) : Response :=
  entries.foldl (fun response entry => tunedBy entry response) response

theorem setOneByOne_eq {entries : List (String × String)} (keys : Apart (entries.map Prod.fst))
    {registry : Registry} (apart : Apart (registry.responses.map Response.name)) :
    setOneByOne entries registry =
      (⟨registry.responses.map (tunedByAll entries)⟩,
        (entries.filter registry.accepts).map Prod.fst) := by
  induction entries generalizing registry with
  | nil => exact Prod.ext (congrArg mk (List.map_id _).symm) rfl
  | cons entry later ih =>
      rw [Apart, List.map_cons, List.map_cons, List.nodup_cons, List.map_map] at keys
      have names : (registry.responses.map (tunedBy entry)).map Response.name =
          registry.responses.map Response.name := by
        simp only [List.map_map, Function.comp_def, name_tunedBy]
      have accepts : later.filter (accepts ⟨registry.responses.map (tunedBy entry)⟩) =
          later.filter registry.accepts := by
        refine List.filter_congr fun other member => accepts_map_tunedBy registry fun same => ?_
        exact keys.1 (same ▸ List.mem_map_of_mem member)
      rw [setOneByOne_cons apart, ih (by rw [Apart, List.map_map]; exact keys.2) (names ▸ apart)]
      simp only [accepts, List.map_map, List.filter_cons]
      congr 1
      split <;> rfl

/-! Many rules by name. -/

theorem tunedByAll_of_unnamed {entries : List (String × String)} {response : Response}
    (unnamed : ∀ entry ∈ entries, response.isNamed entry.1 = false) :
    tunedByAll entries response = response := by
  induction entries with
  | nil => rfl
  | cons entry later ih =>
      obtain ⟨first, rest⟩ := List.forall_mem_cons.mp unnamed
      rw [tunedByAll, List.foldl_cons, tunedBy_of_unnamed first]
      exact ih rest

theorem tunedByAll_of_named {entries : List (String × String)}
    (keys : Apart (entries.map Prod.fst)) {entry : String × String} (member : entry ∈ entries)
    {response : Response} (named : response.isNamed entry.1 = true) :
    tunedByAll entries response = response.tuned entry.2 := by
  have unnamed : ∀ other : String × String, lower other.1 ≠ lower entry.1 →
      response.isNamed other.1 = false :=
    fun other different => beq_eq_false_iff_ne.mpr fun same =>
      different (same.symm.trans (beq_iff_eq.mp named))
  obtain ⟨before, after, rfl⟩ := List.append_of_mem member
  rw [Apart, List.map_append, List.map_cons, List.map_append, List.map_cons, List.map_map,
    List.map_map, List.nodup_middle, List.nodup_cons, List.mem_append, not_or] at keys
  have first : tunedByAll before response = response := by
    refine tunedByAll_of_unnamed fun other inside => unnamed other fun same => ?_
    exact keys.1.1 (same ▸ List.mem_map_of_mem inside)
  have last : tunedByAll after (response.tuned entry.2) = response.tuned entry.2 := by
    refine tunedByAll_of_unnamed fun other inside => ?_
    rw [← tunedBy_of_named named, Response.isNamed, name_tunedBy]
    exact unnamed other fun same => keys.1.2 (same ▸ List.mem_map_of_mem inside)
  unfold tunedByAll at first last ⊢
  rw [List.foldl_append, List.foldl_cons, first, tunedBy_of_named named, last]

theorem Assigns.exists_key {entries : List (String × α)} {name : String} {value : α}
    (assigns : Assigns entries name (some value)) :
    ∃ key, (key, value) ∈ entries ∧ lower key = lower name := by
  cases assigns with
  | exact member => exact ⟨name, member, rfl⟩
  | folded _ member same _ => exact ⟨_, member, same⟩

theorem Assigns.forall_key {entries : List (String × α)} {name : String}
    (assigns : Assigns entries name none) : ∀ entry ∈ entries, lower entry.1 ≠ lower name := by
  cases assigns with
  | nothing unlike => exact fun entry member => unlike entry.1 (List.mem_map_of_mem member)

section

variable {entries : List (String × String)} (keys : Apart (entries.map Prod.fst))

include keys

/-- A bulk update gives a rule the state that the entries give it one by one. -/
theorem tunedByAll_eq (response : Response) :
    tunedByAll entries response =
      (entryFor (.ofList entries) response.name).elim response response.tuned := by
  have assigned := assigns_entryFor (.ofList entries) response.name
  rw [HashMap.entries_ofList keys.nodup] at assigned
  cases found : entryFor (.ofList entries) response.name with
  | none =>
      rw [found] at assigned
      refine tunedByAll_of_unnamed fun entry member => ?_
      exact beq_eq_false_iff_ne.mpr (assigned.forall_key entry member).symm
  | some state =>
      rw [found] at assigned
      obtain ⟨key, member, same⟩ := assigned.exists_key
      exact tunedByAll_of_named keys member (beq_iff_eq.mpr same.symm)

omit keys in
theorem lookup_of_mem {registry : Registry} (apart : Apart (registry.responses.map Response.name))
    {response : Response} (member : response ∈ registry.responses) {name : String}
    (named : response.isNamed name = true) : registry.lookup name = some response := by
  cases found : registry.lookup name with
  | none => exact absurd named (List.find?_eq_none.mp found response member)
  | some other =>
      have inside : other ∈ registry.responses := List.mem_of_find?_eq_some found
      have same : lower other.name = lower response.name :=
        (beq_iff_eq.mp (isNamed_of_lookup found)).trans (beq_iff_eq.mp named).symm
      rw [Apart, List.map_map] at apart
      exact congrArg some (List.inj_on_of_nodup_map apart inside member same)

theorem any_isNamed_accepted {registry : Registry}
    (apart : Apart (registry.responses.map Response.name)) {response : Response}
    (member : response ∈ registry.responses) :
    ((entries.filter registry.accepts).map Prod.fst).any response.isNamed =
      (entryFor (.ofList entries) response.name).any fun state =>
        (response.setState state).isOk := by
  have assigned := assigns_entryFor (.ofList entries) response.name
  rw [HashMap.entries_ofList keys.nodup] at assigned
  have lookups : ∀ entry ∈ entries, response.isNamed entry.1 = true →
      registry.accepts entry = (response.setState entry.2).isOk := by
    intro entry _ named
    rw [accepts, lookup_of_mem apart member named, Option.any_some]
  cases found : entryFor (.ofList entries) response.name with
  | none =>
      rw [found] at assigned
      simp only [Option.any_none, List.any_eq_false, List.mem_map, List.mem_filter]
      rintro _ ⟨entry, ⟨inside, _⟩, rfl⟩ named
      exact assigned.forall_key entry inside (beq_iff_eq.mp named).symm
  | some state =>
      rw [found] at assigned
      obtain ⟨key, inside, same⟩ := assigned.exists_key
      have named : response.isNamed key = true := beq_iff_eq.mpr same.symm
      rw [Option.any_some, ← lookups _ inside named, Bool.eq_iff_iff, List.any_eq_true]
      simp only [List.mem_map, List.mem_filter]
      constructor
      · rintro ⟨_, ⟨entry, ⟨member, accepted⟩, rfl⟩, alsoNamed⟩
        have sameKey : lower entry.1 = lower key :=
          (beq_iff_eq.mp alsoNamed).symm.trans (beq_iff_eq.mp named)
        rw [Apart, List.map_map] at keys
        rwa [← List.inj_on_of_nodup_map keys member inside sameKey]
      · exact fun accepted => ⟨key, ⟨_, ⟨inside, accepted⟩, rfl⟩, named⟩

end

theorem applied_bulkApply (registry : Registry) (entries : HashMap String α)
    (apply : Response → α → Step) :
    (registry.bulkApply entries apply).2.1.applied =
      registry.responses.flatMap fun response =>
        (stepFor entries apply response).report.applied := by
  have collected (steps : List Step) :
      (collect steps).2.1.applied = steps.flatMap fun step => step.report.applied := by
    induction steps with
    | nil => rfl
    | cons step later ih =>
        rw [List.flatMap_cons, ← ih]
        rfl
  rw [bulkApply_eq]
  show (collect _).2.1.applied ++ [] = _
  rw [List.append_nil, collected, List.flatMap_map]

theorem applied_stepFor (states : HashMap String String) (response : Response) :
    (stepFor states stateStep response).report.applied =
      if (entryFor states response.name).any fun state => (response.setState state).isOk then
        [response.name]
      else [] := by
  unfold stepFor
  cases entryFor states response.name with
  | none => rfl
  | some state =>
      rw [Option.elim_some, Option.any_some]
      cases tried : response.setState state with
      | ok changed => rw [stateStep_of_ok tried]; rfl
      | error error => rw [stateStep_of_error tried]; rfl

/-- Setting all rules is the bulk update that gives all names the same value. When neither names
nor keys differ only in case, a bulk update sets the entries one by one, in whatever order, and
applies to the rules whose entries are accepted then. -/
theorem settings_agree (registry : Registry) (state : String) (enabled : Bool) :
    let tuned := registry.bulkSetStates (.ofList (registry.forEveryName state))
    let toggled := registry.bulkSetEnabled (.ofList (registry.forEveryName enabled))
    registry.setAllStates state = (tuned.1, tuned.2.1) ∧
      registry.setAllEnabled enabled = toggled.1 ∧
      (Apart (registry.responses.map Response.name) →
        ∀ entries order : List (String × String), Apart (entries.map Prod.fst) →
          order.Perm entries →
          let changed := registry.bulkSetStates (.ofList entries)
          let oneByOne := setOneByOne order registry
          changed.1 = oneByOne.1 ∧
            changed.2.1.applied = (registry.responses.filter fun response =>
              oneByOne.2.any response.isNamed).map Response.name) := by
  refine ⟨setAllStates_eq registry state, setAllEnabled_eq registry enabled,
    fun apart entries order keys same => ?_⟩
  have keysInOrder : Apart (order.map Prod.fst) :=
    ((same.map Prod.fst).map lower).nodup_iff.mpr keys
  intro changed oneByOne
  have sameMap : changed = registry.bulkSetStates (.ofList order) := by
    refine bulkApply_perm ?_ registry
    rw [HashMap.entries_ofList keys.nodup, HashMap.entries_ofList keysInOrder.nodup]
    exact same.symm
  rw [sameMap, show oneByOne = _ from setOneByOne_eq keysInOrder apart]
  constructor
  · rw [registry_bulkSetStates]
    simp only [← tunedByAll_eq keysInOrder]
  · rw [bulkSetStates_eq, applied_bulkApply, ← flatMap_if]
    refine List.flatMap_congr fun response member => ?_
    rw [applied_stepFor, any_isNamed_accepted keysInOrder apart member]

example :
    (namesakes.bulkSetStates (.ofList [("Tina", "react")])).1.responses.map Response.state =
        ["react", "react", "N/A"] ∧
      (setOneByOne [("Tina", "react")] namesakes).1.responses.map Response.state =
        ["react", "message", "N/A"] := by
  decide

def neighbours : Registry :=
  ⟨[.sendOrReact "TINA" (.predicate "any" fun _ _ => true) "Tina!" ⟨1⟩ .message,
    .sendOrReact "upa" (.predicate "any" fun _ _ => true) "Upa!" ⟨1⟩ .message,
    .plain "mayuri" (.predicate "any" fun _ _ => true) .echo]⟩

def neighbourStates : List (String × String) :=
  [("tina", "react"), ("daru", "react"), ("Mayuri", "react"), ("UPA", "loud")]

theorem neighbours_agree :
    Apart (neighbours.responses.map Response.name) ∧ Apart (neighbourStates.map Prod.fst) ∧
      let changed := neighbours.bulkSetStates (.ofList neighbourStates)
      let oneByOne := setOneByOne neighbourStates.reverse neighbours
      changed.1 = oneByOne.1 ∧ changed.1.responses.map Response.state = ["react", "message", "N/A"] ∧
        changed.2.1.applied = ["TINA"] ∧ oneByOne.2 = ["tina"] := by
  have apart : Apart (neighbours.responses.map Response.name) := by
    unfold Apart
    decide
  have keys : Apart (neighbourStates.map Prod.fst) := by
    unfold Apart
    decide
  obtain ⟨rules, applied⟩ := (settings_agree neighbours "react" false).2.2 apart neighbourStates
    neighbourStates.reverse keys (List.reverse_perm _)
  exact ⟨apart, keys, rules, by decide, by decide, by decide⟩

end AutoReply.Registry
