import AutoReply.Proofs.Settings.Environment
import AutoReply.Proofs.Settings.Reading
import AutoReply.Proofs.Settings.Writing
import AutoReply.Proofs.Toml.Document
import AutoReply.Settings.Sources
import Mathlib.Data.List.Infix

/-!
Settings from many sources: which files a search reads, and which source decides each field.
-/

namespace AutoReply.Settings

open AutoReply.Storage AutoReply.Text Value

/-! The search. -/

def variantsThere (files : Files) (profile : Profile) (candidates : List (FilePath × FileName)) :
    List FilePath :=
  (candidates.map fun (folder, file) => placeIn files folder (file.variant profile)).filter
    files.isThere

def baseOf (files : Files) (candidate : FilePath × FileName) : FilePath :=
  placeIn files candidate.1 candidate.2.base

/-- A search reads the variants that are there on its way to the first base file that is there, then
that file, and nothing behind it. -/
inductive Searched (files : Files) (profile : Profile) (candidates : List (FilePath × FileName)) :
    List FilePath → Prop
  | nowhere : (∀ candidate ∈ candidates, files.isThere (baseOf files candidate) = false) →
      Searched files profile candidates (variantsThere files profile candidates)
  | found {before after : List (FilePath × FileName)} {candidate : FilePath × FileName} :
      candidates = before ++ candidate :: after →
      (∀ earlier ∈ before, files.isThere (baseOf files earlier) = false) →
      files.isThere (baseOf files candidate) = true →
      Searched files profile candidates
        (variantsThere files profile (before ++ [candidate]) ++ [baseOf files candidate])

theorem variantsThere_append (files : Files) (profile : Profile)
    (candidates others : List (FilePath × FileName)) :
    variantsThere files profile (candidates ++ others) =
      variantsThere files profile candidates ++ variantsThere files profile others := by
  simp [variantsThere]

theorem variantsThere_cons (files : Files) (profile : Profile) (candidate : FilePath × FileName)
    (others : List (FilePath × FileName)) :
    variantsThere files profile (candidate :: others) =
      variantsThere files profile [candidate] ++ variantsThere files profile others :=
  variantsThere_append files profile [candidate] others

theorem foundFiles_cons (files : Files) (profile : Profile) (candidate : FilePath × FileName)
    (others : List (FilePath × FileName)) :
    foundFiles files profile (candidate :: others) =
      variantsThere files profile [candidate] ++
        if files.isThere (baseOf files candidate) then [baseOf files candidate]
        else foundFiles files profile others := by
  obtain ⟨folder, file⟩ := candidate
  rw [foundFiles, variantsThere, List.map_singleton, List.filter_singleton, cond_eq_ite]
  rfl

theorem searched_foundFiles (files : Files) (profile : Profile)
    (candidates : List (FilePath × FileName)) :
    Searched files profile candidates (foundFiles files profile candidates) := by
  induction candidates with
  | nil => exact .nowhere (by simp)
  | cons candidate others ih =>
      rw [foundFiles_cons]
      generalize foundFiles files profile others = paths at ih
      by_cases there : files.isThere (baseOf files candidate)
      · rw [if_pos there]
        rw [← List.nil_append [candidate]]
        exact .found (List.nil_append _).symm (by simp) there
      · rw [if_neg there]
        rw [Bool.not_eq_true] at there
        cases ih with
        | nowhere absent =>
            rw [← variantsThere_cons]
            exact .nowhere (List.forall_mem_cons.mpr ⟨there, absent⟩)
        | @found before after last same absent found =>
            rw [← List.append_assoc, ← variantsThere_cons, ← List.cons_append]
            exact .found (by rw [same, List.cons_append]) (List.forall_mem_cons.mpr ⟨there, absent⟩)
              found

/-! The layers. -/

def tablePlaces : List (List String) :=
  [["logging"], ["bot"], ["state"], ["logging", "span_events"], ["logging", "filters"]]

/-- A source has nothing but tables where settings hold tables. -/
def Value.KeepsTables (layer : Value) : Prop :=
  ∀ place ∈ tablePlaces, (get? place layer).all Value.isTable = true

instance (layer : Value) : Decidable layer.KeepsTables :=
  inferInstanceAs (Decidable (∀ place ∈ tablePlaces, (get? place layer).all Value.isTable = true))

theorem leads_of_tidy {place : List String} {value : Value} (tidy : value.Tidy)
    (tables : ∀ before name after, place = before ++ name :: after →
      (get? before value).all Value.isTable = true) : Leads place value := by
  induction place generalizing value with
  | nil => exact Or.inr tidy
  | cons name place ih =>
      have isTable := tables [] name place rfl
      obtain ⟨members, rfl⟩ := Value.isTable_iff.mp isTable
      cases tidy with
      | table distinct inside =>
          refine ⟨members, rfl, distinct, fun inner found => ?_⟩
          refine ih ((Tidy.table distinct inside).lookup found) ?_
          rintro before next after rfl
          have further := tables (name :: before) next after rfl
          rwa [get?, found] at further

theorem dropLast_place_mem (field : Field) : field.place.dropLast ∈ tablePlaces := by
  rcases field with (_ | _ | _ | _ | _ | span | _ | _ | _) | bot | state
  case logging.spanEvents => cases span <;> decide
  case bot => cases bot <;> decide
  case state => cases state <;> decide
  all_goals simp [Field.place, LogField.place, tablePlaces]

theorem mem_tablePlaces_of_mem_inits :
    ∀ place ∈ tablePlaces, ∀ before ∈ place.inits, before = [] ∨ before ∈ tablePlaces := by
  decide

theorem tables_before_field {field : Field} {before after : List String} {name : String}
    (same : field.place = before ++ name :: after) : before = [] ∨ before ∈ tablePlaces := by
  refine mem_tablePlaces_of_mem_inits _ (dropLast_place_mem field) before ?_
  rw [same, List.dropLast_append_of_ne_nil (List.cons_ne_nil name after), List.mem_inits]
  exact List.prefix_append before _

theorem leads_layer {layer : Value} (tidy : layer.Tidy) (isTable : layer.isTable = true)
    (keeps : layer.KeepsTables) (field : Field) : Leads field.place layer := by
  refine leads_of_tidy tidy fun before name after same => ?_
  rcases tables_before_field same with rfl | listed
  · exact isTable
  · exact keeps before listed

theorem tidy_readFileLayer {files : Files} {path : FilePath} {layer : Value}
    (read : readFileLayer files path = .ok layer) : layer.Tidy ∧ layer.isTable = true := by
  unfold readFileLayer at read
  split at read
  next =>
    cases read
    exact ⟨tidy_emptyTable, rfl⟩
  next content _ =>
    split at read
    next found =>
      cases read
      obtain ⟨text, _, isDocument⟩ := Option.bind_eq_some_iff.mp found
      exact ⟨Toml.tidy_document? isDocument, Toml.isTable_document? isDocument⟩
    next => contradiction

def Sources.stacked (sources : Sources) (surroundings : Surroundings) (fileLayers : List Value) :
    List Value :=
  toValue {} :: fileLayers ++
    (if sources.readsEnvironment then [ofEnvironment surroundings.environment] else []) ++
    sources.merges.map toValue

theorem layers_eq_ok {sources : Sources} {surroundings : Surroundings} {layers : List Value}
    (made : sources.layers surroundings = .ok layers) :
    ∃ paths fileLayers, sources.filesRead surroundings = .ok paths ∧
      List.Forall₂ (fun path layer => readFileLayer surroundings.files path = .ok layer) paths
        fileLayers ∧
      layers = sources.stacked surroundings fileLayers := by
  obtain ⟨paths, found, later⟩ := bind_eq_ok.mp made
  obtain ⟨fileLayers, read, same⟩ := bind_eq_ok.mp later
  cases same
  exact ⟨paths, fileLayers, found, forall₂_of_mapM read, rfl⟩

theorem load_eq_ok {sources : Sources} {surroundings : Surroundings} {settings : Settings}
    (loaded : sources.load surroundings = .ok settings) :
    ∃ layers, sources.layers surroundings = .ok layers ∧
      extract ⟨true⟩ (.layered layers) = .ok settings := by
  obtain ⟨layers, made, read⟩ := bind_eq_ok.mp loaded
  refine ⟨layers, made, ?_⟩
  cases outcome : extract ⟨true⟩ (.layered layers) with
  | error unfit =>
      rw [outcome] at read
      contradiction
  | ok found =>
      rw [outcome] at read
      cases read
      rfl

section

variable {sources : Sources} {surroundings : Surroundings} {paths : List FilePath}
  {fileLayers : List Value}

theorem tidy_fileLayers (read : List.Forall₂
    (fun path layer => readFileLayer surroundings.files path = .ok layer) paths fileLayers) :
    ∀ layer ∈ fileLayers, layer.Tidy ∧ layer.isTable = true := by
  induction read with
  | nil => simp
  | cons here _ ih => exact List.forall_mem_cons.mpr ⟨tidy_readFileLayer here, ih⟩

theorem leads_stacked (read : List.Forall₂
    (fun path layer => readFileLayer surroundings.files path = .ok layer) paths fileLayers)
    (tables : ∀ layer ∈ sources.stacked surroundings fileLayers, layer.KeepsTables) (field : Field) :
    ∀ layer ∈ sources.stacked surroundings fileLayers, Leads field.place layer := by
  intro layer inside
  have keeps := tables layer inside
  simp only [Sources.stacked, List.cons_append, List.mem_cons, List.mem_append, List.mem_map]
    at inside
  rcases inside with rfl | (ofFile | ofVariables) | ⟨merge, _, rfl⟩
  · exact (writes_settings {} field).leads
  · obtain ⟨tidy, isTable⟩ := tidy_fileLayers read layer ofFile
    exact leads_layer tidy isTable keeps field
  · split at ofVariables
    · rw [List.mem_singleton.mp ofVariables] at keeps ⊢
      exact leads_layer (tidy_ofEnvironment _) (isTable_ofEnvironment _) keeps field
    · contradiction
  · exact (writes_settings merge field).leads

end

theorem shown_eq_lastMention {layers : List Value} {settings : Settings} {field : Field}
    (leads : ∀ layer ∈ toValue {} :: layers, Leads field.place layer)
    (read : extract ⟨true⟩ (.layered (toValue {} :: layers)) = .ok settings) :
    field.shown settings = lastMention field.place (toValue {} :: layers) := by
  have standard := (writes_settings {} field).shows
  have nowhere := shown_ne_table field settings
  obtain ⟨name, rest, same⟩ := field.exists_place
  have follows := follows_extract ⟨true⟩ field (.layered (toValue {} :: layers)) settings
  rw [same] at leads standard follows ⊢
  have shown := follows (leads_layered leads) read
  cases found : get? (name :: rest) (.layered (toValue {} :: layers)) with
  | some value =>
      rw [found, Option.some_or] at shown
      rw [shown, lastMention_eq_of_get?_layered leads found]
      rintro members rfl
      exact nowhere members shown
  | none =>
      have unmentioned := isSome_get?_layered leads
      rw [found, Option.isSome_none, eq_comm, Option.isSome_eq_false_iff, Option.isNone_iff_eq_none]
        at unmentioned
      rw [found, Option.none_or] at shown
      rw [shown, unmentioned]
      rw [lastMention, Option.or_eq_none_iff] at unmentioned
      exact standard.symm.trans unmentioned.2

theorem lastMention_last {place : List String} {layers : List Value} {last : Value}
    (ends : layers.getLast? = some last) (mentions : (get? place last).isSome = true) :
    lastMention place layers = get? place last := by
  obtain ⟨before, rfl⟩ := List.getLast?_eq_some_iff.mp ends
  rw [lastMention_append, lastMention, lastMention, Option.none_or]
  exact Option.or_of_isSome mentions

def withFiltersOf (settings other : Settings) : Settings :=
  { settings with logging := { settings.logging with filters := other.logging.filters } }

theorem eq_withFiltersOf {settings last : Settings}
    (same : ∀ field : Field, field.isFilter = false → field.shown settings = field.shown last) :
    settings = last.withFiltersOf settings := by
  refine eq_of_shown fun field => ?_
  cases kind : field.isFilter with
  | true =>
      rcases field with (_ | _ | _ | _ | _ | _ | _ | _ | target) | _ | _
      case logging.filter => rfl
      all_goals contradiction
  | false =>
      rw [same field kind]
      rcases field with (_ | _ | _ | _ | _ | _ | _ | _ | target) | _ | _
      case logging.filter => contradiction
      all_goals rfl

theorem getLast?_stacked {sources : Sources} {last : Settings}
    (ends : sources.merges.getLast? = some last) (surroundings : Surroundings)
    (fileLayers : List Value) :
    (sources.stacked surroundings fileLayers).getLast? = some (toValue last) := by
  obtain ⟨before, same⟩ := List.getLast?_eq_some_iff.mp ends
  rw [Sources.stacked, same, List.map_append, List.map_singleton, ← List.append_assoc,
    List.getLast?_concat]

/-- Loaded settings have each field, and each filter, from the last layer that mentions it: the
standard settings, the files that the search reads, the variables, then the merges in their order.
Since merges mention every field, the last one decides all but the filters, which come from all
layers. -/
theorem last_mention_decides {sources : Sources} {surroundings : Surroundings} {settings : Settings}
    (searches : sources.file = none) (loaded : sources.load surroundings = .ok settings)
    (tables : ∀ layers, sources.layers surroundings = .ok layers →
      ∀ layer ∈ layers, layer.KeepsTables) :
    ∃ paths fileLayers,
      sources.filesRead surroundings = .ok paths ∧
      Searched surroundings.files (sources.profileIn surroundings.environment)
        (sources.candidates surroundings) paths ∧
      List.Forall₂ (fun path layer => readFileLayer surroundings.files path = .ok layer) paths
        fileLayers ∧
      sources.layers surroundings = .ok (sources.stacked surroundings fileLayers) ∧
      (∀ field : Field, field.shown settings =
        lastMention field.place (sources.stacked surroundings fileLayers)) ∧
      (∀ merge ∈ sources.merges, ∀ field : Field, get? field.place (toValue merge) =
        field.shown merge ∧ (field.isFilter = false → (field.shown merge).isSome = true)) ∧
      (∀ last, sources.merges.getLast? = some last → settings = last.withFiltersOf settings) ∧
      ∀ target, (settings.logging.filters.lookup target).isSome = true ↔
        ∃ layer ∈ sources.stacked surroundings fileLayers,
          (get? ["logging", "filters", target] layer).isSome = true := by
  obtain ⟨layers, made, extracted⟩ := load_eq_ok loaded
  obtain ⟨paths, fileLayers, found, read, rfl⟩ := layers_eq_ok made
  have leads (field : Field) := leads_stacked read (tables _ made) field
  have shown (field : Field) : field.shown settings =
      lastMention field.place (sources.stacked surroundings fileLayers) :=
    shown_eq_lastMention (leads field) extracted
  refine ⟨paths, fileLayers, found, ?_, read, made, shown, ?_, ?_, ?_⟩
  · rw [Sources.filesRead, searches] at found
    cases found
    exact searched_foundFiles _ _ _
  · intro merge _ field
    exact ⟨(writes_settings merge field).shows, fun plain => field.isSome_shown plain merge⟩
  · intro last ends
    refine eq_withFiltersOf fun field plain => ?_
    have written : get? field.place (toValue last) = field.shown last :=
      (writes_settings last field).shows
    have mentions := field.isSome_shown plain last
    rw [← written] at mentions ⊢
    rw [shown field, lastMention_last (getLast?_stacked ends _ _) mentions]
  · intro target
    have filter := shown (.logging (.filter target))
    rw [← isSome_lastMention_iff]
    have alike := congrArg Option.isSome filter
    rw [Field.shown, LogField.shown, Option.isSome_map] at alike
    exact Bool.eq_iff_iff.mp alike

/-! The variant in one folder stays in force beside the base file of the next. -/

def sharedMerge : Settings := { bot := { name := "Mia" } }

def sharedSources : Sources :=
  { profile := some .development, folders := [["home"], ["etc"]], merges := [sharedMerge] }

def sharedSurroundings : Surroundings where
  files := {
    workingFolder := []
    entries :=
      [(["home"], .folder),
        (["home", "amadeus.development.toml"], .file (symbols "logging.filters.db='warn'")),
        (["etc"], .folder),
        (["etc", "config.toml"], .file (symbols "logging.filters.db='info'"))] }
  environment := .ofList [("AMADEUS_LOGGING__FILTERS__WEB", "error")]
  userFolder := none

theorem sharedSources_layered :
    ∃ settings, sharedSources.load sharedSurroundings = .ok settings ∧
      sharedSources.filesRead sharedSurroundings =
        .ok [["home", "amadeus.development.toml"], ["etc", "config.toml"]] ∧
      (∃ fileLayers,
        sharedSources.layers sharedSurroundings =
          .ok (sharedSources.stacked sharedSurroundings fileLayers) ∧
        ∀ field : Field, field.shown settings =
          lastMention field.place (sharedSources.stacked sharedSurroundings fileLayers)) ∧
      settings = sharedMerge.withFiltersOf settings := by
  have loads : (sharedSources.load sharedSurroundings).isOk = true := by decide +kernel
  have keeps : (sharedSources.layers sharedSurroundings).toOption.all
      (fun layers => layers.all fun layer => layer.KeepsTables) = true := by decide +kernel
  have files : sharedSources.filesRead sharedSurroundings =
      .ok [["home", "amadeus.development.toml"], ["etc", "config.toml"]] := by decide +kernel
  have tables : ∀ layers, sharedSources.layers sharedSurroundings = .ok layers →
      ∀ layer ∈ layers, layer.KeepsTables := by
    intro layers made layer inside
    rw [made] at keeps
    simpa using List.all_eq_true.mp keeps layer inside
  obtain ⟨settings, loaded⟩ := exists_of_isOk loads
  obtain ⟨_, fileLayers, _, _, _, made, shown, _, last, _⟩ := last_mention_decides rfl loaded tables
  exact ⟨settings, loaded, files, ⟨fileLayers, made, shown⟩, last sharedMerge rfl⟩

end AutoReply.Settings
