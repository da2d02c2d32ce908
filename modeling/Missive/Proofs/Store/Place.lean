import Missive.Proofs.Store.Path
import Missive.Proofs.Store.Sound
import Missive.Store.Tree

/-! Places: where scenarios and records are in the tree of their tenant. The elements of a place's
path are plain, so different places have different paths, and what is below the path of a scenario
or a scope belongs to it. -/

namespace Missive.Store

/-! ### Places and their paths -/

def ScenarioRef.elements (ref : ScenarioRef) : List String :=
  ["identity", ref.channel.pathSegment, ref.key]

/-- What leads from a scenario to its records in the organization or an application. -/
def applicationElements (application : Option String) : List String :=
  application.elim [] fun app => ["apps", app]

def RecordRef.elements (r : RecordRef) : List String :=
  r.scenario.elements ++ applicationElements r.application ++ [r.locale]

/-- What a tree has nodes for. -/
inductive Place where
  | scenario (ref : ScenarioRef)
  | record (r : RecordRef)

namespace Place

def tenant : Place → TenantId
  | scenario ref => ref.tenant
  | record r => r.scenario.tenant

def elements : Place → List String
  | scenario ref => ref.elements
  | record r => r.elements

def path (p : Place) : Path := .join p.elements

def Plain (p : Place) : Prop := ∀ e ∈ p.elements, Path.Plain e

theorem pathSegment_inj {c c' : Channel} : c.pathSegment = c'.pathSegment ↔ c = c' := by
  cases c <;> cases c' <;> simp [Channel.pathSegment]

/-- A record's elements determine it within its tenant. -/
theorem record_of_elements {r : RecordRef} {ref : ScenarioRef} {app : Option String} {x : String}
    (htenant : r.scenario.tenant = ref.tenant)
    (h : r.elements = ref.elements ++ applicationElements app ++ [x]) :
    r.scenario = ref ∧ r.application = app ∧ r.locale = x := by
  obtain ⟨⟨tenant, channel, key⟩, application, locale⟩ := r
  obtain ⟨tenant', channel', key'⟩ := ref
  cases application <;> cases app <;>
    simp_all [RecordRef.elements, ScenarioRef.elements, applicationElements, pathSegment_inj]

theorem scenario_of_elements {ref : ScenarioRef} {channel : Channel} {x : String}
    (h : ref.elements = ["identity", channel.pathSegment] ++ [x]) :
    ref.channel = channel ∧ ref.key = x := by
  simpa [ScenarioRef.elements, pathSegment_inj] using h

theorem length_elements_record (r : RecordRef) : 3 < r.elements.length := by
  cases h : r.application <;> simp [RecordRef.elements, ScenarioRef.elements, applicationElements, h]

/-- No two places of a tenant share a path. -/
theorem path_inj {p q : Place} (hp : p.Plain) (hq : q.Plain) (htenant : p.tenant = q.tenant) :
    p.path = q.path ↔ p = q := by
  refine ⟨fun h => ?_, fun h => h ▸ rfl⟩
  have helements : p.elements = q.elements := (Path.join_inj hp hq).1 h
  cases p with
  | scenario ref =>
    cases q with
    | scenario ref' =>
      obtain ⟨hchannel, hkey⟩ := scenario_of_elements helements
      exact congrArg scenario (ScenarioRef.ext_iff.2 ⟨htenant, hchannel, hkey⟩)
    | record r =>
      have := length_elements_record r
      have := congrArg List.length helements
      simp only [elements, ScenarioRef.elements, List.length_cons, List.length_nil] at this
      omega
  | record r =>
    cases q with
    | scenario ref =>
      have := length_elements_record r
      have := congrArg List.length helements
      simp only [elements, ScenarioRef.elements, List.length_cons, List.length_nil] at this
      omega
    | record r' =>
      obtain ⟨hscenario, happ, hlocale⟩ := record_of_elements htenant helements
      exact congrArg record (RecordRef.ext_iff.2 ⟨hscenario, happ, hlocale⟩)

theorem plain_segment (channel : Channel) : Path.Plain channel.pathSegment := by
  cases channel <;> decide +kernel

theorem plain_key (s : Scenario) : Path.Plain s.key := fun h => s.key_ne_slash _ h rfl

theorem plain_of_key {ref : ScenarioRef} (hkey : Path.Plain ref.key) : (scenario ref).Plain := by
  intro e he
  simp only [elements, ScenarioRef.elements, List.mem_cons, List.not_mem_nil, or_false] at he
  rcases he with rfl | rfl | rfl
  · decide +kernel
  · exact plain_segment ref.channel
  · exact hkey

/-- What is registered has a plain path. -/
theorem plain_scenario (s : Scenario) (channel : Channel) (tenant : TenantId) :
    (scenario (.of s channel tenant)).Plain :=
  plain_of_key (plain_key s)

theorem plain_application (scope : Scope) :
    ∀ e ∈ applicationElements scope.applicationText, Path.Plain e := by
  obtain ⟨tenant, application⟩ := scope
  cases application with
  | none => exact nofun
  | some app =>
    intro e he
    simp only [applicationElements, Scope.applicationText, Option.map_some, Option.elim_some,
      List.mem_cons, List.not_mem_nil, or_false] at he
    rcases he with rfl | rfl
    · decide +kernel
    · exact fun h => app.text_ne_slash _ h rfl

theorem plain_scope (s : Scenario) (channel : Channel) (scope : Scope) :
    ∀ e ∈ (ScenarioRef.of s channel scope.tenant).elements ++
      applicationElements scope.applicationText, Path.Plain e := by
  intro e he
  rcases List.mem_append.1 he with he | he
  · exact plain_scenario s channel scope.tenant e he
  · exact plain_application scope e he

theorem plain_of_texts {r : RecordRef} (hkey : Path.Plain r.scenario.key)
    (happ : ∀ e ∈ applicationElements r.application, Path.Plain e) (hlocale : Path.Plain r.locale) :
    (record r).Plain := by
  intro e he
  rcases List.mem_append.1 he with he | he
  · rcases List.mem_append.1 he with he | he
    · exact plain_of_key hkey e he
    · exact happ e he
  · rw [List.mem_singleton.1 he]
    exact hlocale

theorem plain_record (p : Position) : (record p.ref).Plain :=
  plain_of_texts (plain_key p.scenario) (plain_application p.scope)
    fun h => p.locale.tag_ne_slash _ h rfl

/-- What lies below a scenario's path are its records, in the organization and all applications. -/
theorem below_scenario_iff {ref : ScenarioRef} {p : Place} (href : (scenario ref).Plain)
    (hp : p.Plain) (htenant : p.tenant = ref.tenant) :
    ((scenario ref).path ++ ['/']).isPrefixOf p.path = true ↔ ∃ r, p = record r ∧ r.scenario = ref := by
  rw [List.isPrefixOf_iff_prefix, path, path, Path.join_below_iff href hp]
  constructor
  · rintro ⟨x, rest, h⟩
    cases p with
    | scenario ref' =>
      have := congrArg List.length h
      simp [elements, ScenarioRef.elements] at this
    | record r =>
      refine ⟨r, rfl, ?_⟩
      simp only [elements, RecordRef.elements, ScenarioRef.elements, List.cons_append,
        List.nil_append, List.cons.injEq, true_and, pathSegment_inj] at h
      exact ScenarioRef.ext htenant h.1 h.2.1
  · rintro ⟨r, rfl, rfl⟩
    simp only [elements, RecordRef.elements, List.append_assoc, List.append_cancel_left_eq]
    cases applicationElements r.application with
    | nil => exact ⟨r.locale, [], rfl⟩
    | cons x rest => exact ⟨x, rest ++ [r.locale], rfl⟩

end Place

namespace Tree

theorem channelRoot_eq (channel : Channel) :
    channelRoot channel = Path.join ["identity", channel.pathSegment] ++ ['/'] := by
  have hroot : "/identity/".toList = '/' :: ("identity".toList ++ ['/']) := by simp
  unfold channelRoot
  rw [hroot]
  simp only [Path.join_cons, Path.join_nil, List.cons_append, List.append_assoc, List.nil_append]

theorem scenarioPath_eq (ref : ScenarioRef) :
    scenarioPath ref.channel ref.key = (Place.scenario ref).path := by
  rw [scenarioPath, channelRoot_eq]
  simp only [Place.path, Place.elements, ScenarioRef.elements, Path.join_cons, Path.join_nil,
    List.cons_append, List.append_assoc, List.nil_append, List.append_nil]

theorem scopePath_eq (ref : ScenarioRef) (app : Option String) :
    scopePath ref.channel ref.key app =
      Path.join (ref.elements ++ applicationElements app) ++ ['/'] := by
  have happs : "/apps/".toList = '/' :: ("apps".toList ++ ['/']) := by simp
  cases app with
  | none => rw [scopePath, scenarioPath_eq, applicationElements, Option.elim_none, List.append_nil]; rfl
  | some app =>
    rw [scopePath, scenarioPath_eq, happs, Path.join_append]
    simp only [Place.path, Place.elements, applicationElements, Option.elim_some, Path.join_cons,
      Path.join_nil, List.cons_append, List.append_assoc, List.nil_append, List.append_nil]

theorem recordPath_eq (r : RecordRef) :
    recordPath r.scenario.channel r.scenario.key r.application r.locale = (Place.record r).path := by
  rw [recordPath, scopePath_eq, Place.path, Place.elements, RecordRef.elements,
    Path.join_append (_ ++ _)]
  simp only [Path.join_cons, Path.join_nil, List.append_assoc, List.cons_append, List.nil_append,
    List.append_nil]

end Tree

end Missive.Store
