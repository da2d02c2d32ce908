import Missive.Proofs.Parsing
import Missive.Proofs.Program
import Missive.Proofs.Service.Orderly
import Missive.Proofs.Store.Agreement

/-! Upserts told by their store calls. A round registers the scenario unless it is registered and then
writes; an upsert is one round, or two if the first write did not find the scenario any more. What the
store answers in between may be anything (`upsert_reports_truthfully`). -/

namespace Missive

open Store

namespace Service

variable {α β : Type}

/-- A store call among the requests. -/
def asked : Exchange → (q : Request) × q.Answer
  | ⟨c, a⟩ => ⟨.store c, a⟩

/-- The answers to the writes among the calls. -/
def writeAnswers (calls : List Exchange) : List (Except Store.Error Unit) :=
  calls.filterMap fun
    | ⟨.write _ _, a⟩ => some a
    | _ => none

theorem writeAnswers_append (calls calls' : List Exchange) :
    writeAnswers (calls ++ calls') = writeAnswers calls ++ writeAnswers calls' :=
  List.filterMap_append

/-- Seeing to it that a scenario is registered: a check, and exactly if it says no, the
registration. The outcome tells whether there was a need, or the error of the call that failed. -/
inductive Registering (s : Scenario) (channel : Channel) (tenant : TenantId) :
    List Exchange → Except Failure Bool → Prop where
  | unchecked {e context} :
      Registering s channel tenant [⟨.isRegistered s channel tenant, .error e⟩]
        (.error (.storeFailed context e))
  | present : Registering s channel tenant [⟨.isRegistered s channel tenant, .ok true⟩] (.ok false)
  | refused {e context} :
      Registering s channel tenant
        [⟨.isRegistered s channel tenant, .ok false⟩, ⟨.add s channel tenant, .error e⟩]
        (.error (.storeFailed context e))
  | added :
      Registering s channel tenant
        [⟨.isRegistered s channel tenant, .ok false⟩, ⟨.add s channel tenant, .ok ()⟩] (.ok true)

/-- A round and what it comes to: the scenario is seen to, and if that does not fail the template is
written. -/
inductive Round (s : Scenario) (t : Template) (scope : Scope) :
    List Exchange → Except Failure Unit → Prop where
  | stops {calls f} : Registering s t.channel scope.tenant calls (.error f) →
      Round s t scope calls (.error f)
  | writes {calls b a} : Registering s t.channel scope.tenant calls (.ok b) →
      Round s t scope (calls ++ [⟨.write t scope, a⟩]) (a.mapError (Durable.writeFailure t scope))

/-- What an upsert has done, and that it says so. -/
structure Truthful (s : Scenario) (t : Template) (scope : Scope) (calls : List Exchange)
    (x : Except Failure Unit) : Prop where
  /-- There is a second round exactly when the first write does not find the scenario. -/
  rounds : ∃ first again y, calls = first ++ again ∧ Round s t scope first y ∧
    (again = [] ∧ x = y ∨ Round s t scope again x) ∧
    (again ≠ [] ↔ ∃ name, writeAnswers first = [.error (.unknownScenario name)])
  succeeds_iff : x = .ok () ↔ (writeAnswers calls).getLast? = some (.ok ())
  notFound_iff : x = .error (.scenarioNotFound t.scenario t.channel scope.tenant) ↔
    ∃ name name', writeAnswers calls =
      [.error (.unknownScenario name), .error (.unknownScenario name')]
  /-- All other failures are those of the last call. -/
  otherwise : x ≠ .ok () → x ≠ .error (.scenarioNotFound t.scenario t.channel scope.tenant) →
    ∃ c e context, calls.getLast? = some ⟨c, .error e⟩ ∧ x = .error (.storeFailed context e)

/-! ### The paths of the parts -/

theorem path_of_storing {p : StoreProgram α} {requests : List ((q : Request) × q.Answer)}
    {x : Except Failure α} (h : (storing p).Path requests x) :
    ∃ calls, p.Path calls x ∧ requests = calls.map asked := by
  induction p generalizing requests with
  | done y =>
    cases h
    exact ⟨[], .done, rfl⟩
  | perform c next ih =>
    cases h with
    | perform h =>
      obtain ⟨calls, hp, rfl⟩ := ih _ h
      exact ⟨_, .perform hp, rfl⟩

variable {s : Scenario} {channel : Channel} {tenant : TenantId} {t : Template} {scope : Scope}
  {calls : List Exchange}

theorem registering_of_path {x : Except Failure Bool}
    (h : (Durable.ensureScenario s channel tenant).Path calls x) :
    Registering s channel tenant calls x := by
  obtain ⟨y, first, rest, hadd, hrest, rfl⟩ := h.of_attempt_bind
  cases hadd with
  | @perform _ _ registered _ _ hadd =>
    rcases registered with e | _ | _
    · cases hadd
      cases hrest
      exact .unchecked
    · cases hadd with
      | @perform _ _ added _ _ hadd =>
        cases hadd
        cases added with
        | error e =>
          cases hrest
          exact .refused
        | ok u =>
          cases hrest
          exact .added
    · cases hadd
      cases hrest
      exact .present

theorem write_of_path {x : Except Failure Unit} (ht : t.validateForWrite = .ok ())
    (h : (Durable.upsert t scope).Path calls x) :
    ∃ a, calls = [⟨.write t.normalized scope, a⟩] ∧
      x = a.mapError (Durable.writeFailure t.normalized scope) := by
  rw [Durable.upsert, ht] at h
  cases h with
  | @perform _ _ a _ _ h =>
    cases h
    exact ⟨a, rfl, rfl⟩

/-! ### Rounds -/

theorem Registering.writeAnswers {x : Except Failure Bool}
    (h : Registering s channel tenant calls x) : writeAnswers calls = [] := by
  cases h <;> rfl

theorem Registering.of_error {f : Failure} (h : Registering s channel tenant calls (.error f)) :
    ∃ c e context, calls.getLast? = some ⟨c, .error e⟩ ∧ f = .storeFailed context e := by
  cases h <;> exact ⟨_, _, _, rfl, rfl⟩

namespace Round

variable {x y : Except Failure Unit} {again : List Exchange}

theorem ne_nil (h : Round s t scope calls x) : calls ≠ [] := by
  cases h with
  | stops h => cases h <;> exact List.cons_ne_nil _ _
  | writes => exact List.concat_ne_nil _ _

/-- A round writes at most once. -/
theorem cases_write (h : Round s t scope calls x) :
    (writeAnswers calls = [] ∧ ∃ c e context, calls.getLast? = some ⟨c, .error e⟩ ∧
      x = .error (.storeFailed context e)) ∨
    ∃ a, writeAnswers calls = [a] ∧ calls.getLast? = some ⟨.write t scope, a⟩ ∧
      x = a.mapError (Durable.writeFailure t scope) := by
  cases h with
  | stops h =>
    obtain ⟨c, e, context, hlast, rfl⟩ := h.of_error
    exact .inl ⟨h.writeAnswers, c, e, context, hlast, rfl⟩
  | @writes calls b a h =>
    refine .inr ⟨a, ?_, List.getLast?_concat, rfl⟩
    rw [writeAnswers_append, h.writeAnswers]
    rfl

theorem succeeds_iff (h : Round s t scope calls x) :
    x = .ok () ↔ (writeAnswers calls).getLast? = some (.ok ()) := by
  rcases h.cases_write with ⟨hanswers, c, e, context, -, rfl⟩ | ⟨a, hanswers, -, rfl⟩
  · simp [hanswers]
  · rw [hanswers]
    cases a <;> simp [Except.mapError]

theorem notFound_iff (h : Round s t scope calls x) :
    x = .error (.scenarioNotFound t.scenario t.channel scope.tenant) ↔
      ∃ name, writeAnswers calls = [.error (.unknownScenario name)] := by
  rcases h.cases_write with ⟨hanswers, c, e, context, -, rfl⟩ | ⟨a, hanswers, -, rfl⟩
  · simp [hanswers]
  · rw [hanswers]
    cases a with
    | ok u => simp [Except.mapError]
    | error e => cases e <;> simp [Except.mapError, Durable.writeFailure]

theorem otherwise (h : Round s t scope calls x) (hok : x ≠ .ok ())
    (hfound : x ≠ .error (.scenarioNotFound t.scenario t.channel scope.tenant)) :
    ∃ c e context, calls.getLast? = some ⟨c, .error e⟩ ∧ x = .error (.storeFailed context e) := by
  rcases h.cases_write with ⟨-, hlast⟩ | ⟨a, -, hlast, rfl⟩
  · exact hlast
  · cases a with
    | ok u => exact absurd rfl hok
    | error e =>
      cases e with
      | unknownScenario => exact absurd rfl hfound
      | _ => exact ⟨_, _, _, hlast, rfl⟩

/-- One round is all there is if its write finds the scenario. -/
theorem truthful (h : Round s t scope calls x)
    (hfound : x ≠ .error (.scenarioNotFound t.scenario t.channel scope.tenant)) :
    Truthful s t scope calls x where
  rounds := by
    refine ⟨calls, [], x, (List.append_nil _).symm, h, .inl ⟨rfl, rfl⟩, ?_⟩
    rw [← h.notFound_iff]
    simp [hfound]
  succeeds_iff := h.succeeds_iff
  notFound_iff := by
    refine iff_of_false hfound ?_
    rintro ⟨name, name', htwo⟩
    rcases h.cases_write with ⟨hanswers, -⟩ | ⟨a, hanswers, -⟩ <;> simp [hanswers] at htwo
  otherwise := h.otherwise

/-- Otherwise the second round decides. -/
theorem truthful_again
    (hfirst : Round s t scope calls (.error (.scenarioNotFound t.scenario t.channel scope.tenant)))
    (h : Round s t scope again x) : Truthful s t scope (calls ++ again) x := by
  obtain ⟨name, hname⟩ := hfirst.notFound_iff.1 rfl
  have hanswers : writeAnswers (calls ++ again) =
      .error (.unknownScenario name) :: writeAnswers again := by
    rw [writeAnswers_append, hname]
    rfl
  constructor
  · exact ⟨calls, again, _, rfl, hfirst, .inr h, iff_of_true h.ne_nil ⟨name, hname⟩⟩
  · rw [h.succeeds_iff, hanswers]
    cases writeAnswers again <;> simp
  · rw [h.notFound_iff, hanswers]
    simp
  · rw [List.getLast?_append_of_ne_nil _ h.ne_nil]
    exact h.otherwise

end Round

/-! ### The upsert -/

variable (service : Service) {requests : List ((q : Request) × q.Answer)}

theorem registering_of_discard {x : Except Failure Unit}
    (h : (discard (Durable.ensureScenario s channel tenant)).Path calls x) :
    (∃ f, x = .error f ∧ Registering s channel tenant calls (.error f)) ∨
      ∃ b, x = .ok () ∧ Registering s channel tenant calls (.ok b) := by
  rcases h.of_bind with ⟨f, hfirst, rfl⟩ | ⟨b, first, rest, hfirst, hrest, rfl⟩
  · exact .inl ⟨f, rfl, registering_of_path hfirst⟩
  · cases hrest
    rw [List.append_nil]
    exact .inr ⟨b, rfl, registering_of_path hfirst⟩

theorem round_of_path {x : Except Failure Unit} (ht : t.validateForWrite = .ok ())
    (h : (registerAndWrite s t scope).Path calls x) : Round s t.normalized scope calls x := by
  rcases h.of_bind with ⟨f, hfirst, rfl⟩ | ⟨u, first, rest, hfirst, hrest, rfl⟩
  · rcases registering_of_discard hfirst with ⟨f', hf, hregistering⟩ | ⟨b, hok, -⟩
    · cases hf
      exact .stops hregistering
    · cases hok
  · rcases registering_of_discard hfirst with ⟨f, hf, -⟩ | ⟨b, -, hregistering⟩
    · cases hf
    · obtain ⟨a, rfl, rfl⟩ := write_of_path ht hrest
      exact .writes hregistering

/-- The cached results that an upsert drops in the end: those of the template it has stored. -/
def drops (s : Scenario) (t : Template) (scope : Scope) (x : Except Failure Unit) :
    List ((q : Request) × q.Answer) :=
  if x = .ok () ∧ service.caches then
    [⟨.cache (.once scope.tenant (.invalidate (.of s t.channel scope.applicationText))), ()⟩]
  else []

/-- An upsert after its checks, with the tenant known. -/
def upsertIn (s : Scenario) (t : Template) (scope : Scope) : ServiceProgram Unit := do
  discard (storing (Durable.ensureScenario s t.channel scope.tenant))
  match ← (storing (Durable.upsert t scope)).attempt with
  | .ok () => pure ()
  | .error (.scenarioNotFound ..) => storing (registerAndWrite s t scope)
  | .error e => throw e
  service.invalidate scope.tenant (.invalidate (.of s t.channel scope.applicationText))

theorem upsert_eq_upsertIn {application : Option String} {app : Option Identifier.ApplicationId}
    (ht : t.validateForWrite = .ok ()) (hs : Scenario.parse t.scenario = .ok s)
    (happ : parseApplication application = .ok app) (domain : String) :
    service.upsert t domain application =
      resolveTenant domain >>= fun tenant => service.upsertIn s t ⟨tenant, app⟩ := by
  rw [upsert]
  simp only [scopeIn_bind]
  rw [ht, hs, happ]
  rfl

theorem drops_of_path {x : Except Failure Unit}
    (h : (service.invalidate scope.tenant
      (.invalidate (.of s t.channel scope.applicationText))).Path requests x) :
    x = .ok () ∧ requests = service.drops s t scope x := by
  rw [invalidate] at h
  cases hcaches : service.caches with
  | true =>
    rw [hcaches] at h
    cases h with
    | perform h =>
      cases h
      exact ⟨rfl, by simp [drops, hcaches]⟩
  | false =>
    rw [hcaches] at h
    cases h
    exact ⟨rfl, by simp [drops, hcaches]⟩

theorem drops_error (f : Failure) : service.drops s t scope (.error f) = [] :=
  if_neg (by simp)

/-- A round that is the last thing done but for the dropping of cached results. -/
theorem round_drops_of_path {x : Except Failure Unit} (ht : t.validateForWrite = .ok ())
    (h : (storing (registerAndWrite s t scope) >>= fun _ => service.invalidate scope.tenant
      (.invalidate (.of s t.channel scope.applicationText))).Path requests x) :
    ∃ calls, Round s t.normalized scope calls x ∧
      requests = calls.map asked ++ service.drops s t scope x := by
  rcases h.of_bind with ⟨f, hround, rfl⟩ | ⟨u, first, rest, hround, hdrop, rfl⟩
  · obtain ⟨calls, hround, hcalls⟩ := path_of_storing hround
    refine ⟨calls, round_of_path ht hround, ?_⟩
    rw [hcalls, drops_error, List.append_nil]
  · obtain ⟨calls, hround, hcalls⟩ := path_of_storing hround
    obtain ⟨rfl, hdrops⟩ := drops_of_path service hdrop
    refine ⟨calls, round_of_path ht hround, ?_⟩
    rw [hcalls, hdrops]

/-- After the first round the answer to its write decides how the program goes on. -/
theorem truthful_of_path {x : Except Failure Unit} (ht : t.validateForWrite = .ok ())
    (h : (service.upsertIn s t scope).Path requests x) :
    ∃ calls, Truthful s t.normalized scope calls x ∧
      requests = calls.map asked ++ service.drops s t scope x := by
  rw [upsertIn, ← storing_discard] at h
  rcases h.of_bind with ⟨f, hfirst, rfl⟩ | ⟨u, first, rest, hfirst, hrest, hrequests⟩
  · obtain ⟨calls, hfirst, hcalls⟩ := path_of_storing hfirst
    rcases registering_of_discard hfirst with ⟨f', hf, hregistering⟩ | ⟨b, hok, -⟩
    · cases hf
      obtain ⟨c, e, context, -, hfailure⟩ := hregistering.of_error
      have hround : Round s t.normalized scope calls (.error f) := .stops hregistering
      refine ⟨calls, hround.truthful (by simp [hfailure]), ?_⟩
      rw [drops_error, List.append_nil, hcalls]
    · cases hok
  · obtain ⟨calls, hfirst, hcalls⟩ := path_of_storing hfirst
    obtain ⟨y, written, after, hwrite, hafter, hrest⟩ := hrest.of_attempt_bind
    obtain ⟨call, hwrite, hwritten⟩ := path_of_storing hwrite
    obtain ⟨a, hcall, rfl⟩ := write_of_path ht hwrite
    rcases registering_of_discard hfirst with ⟨f', hf, -⟩ | ⟨b, -, hregistering⟩
    · cases hf
    have hround : Round s t.normalized scope (calls ++ [⟨.write t.normalized scope, a⟩]) _ :=
      .writes hregistering
    have hasked : requests =
        List.map asked (calls ++ [⟨.write t.normalized scope, a⟩]) ++ after := by
      rw [hrequests, hrest, hcalls, hwritten, hcall, List.map_append, List.append_assoc]
    rcases a with e | u
    · cases e with
      | unknownScenario name =>
        obtain ⟨again, hagain, rfl⟩ := round_drops_of_path service ht hafter
        refine ⟨_, hround.truthful_again hagain, ?_⟩
        rw [hasked, ← List.append_assoc, ← List.map_append]
      | _ =>
        cases hafter
        refine ⟨_, hround.truthful ?_, ?_⟩
        · simp [Except.mapError, Durable.writeFailure]
        · rw [hasked, drops_error]
    · obtain ⟨rfl, rfl⟩ := drops_of_path service hafter
      exact ⟨_, hround.truthful (by simp [Except.mapError]), hasked⟩

/-- An upsert whose input is in order and whose tenant is found, over surroundings that may answer
anything: at most two rounds, a truthful report, and cached results dropped after a success only. -/
theorem upsert_reports_truthfully {S : Type} (answer : Program.Handler Request Request.Answer S)
    (w : S) {domain : String} {application : Option String} {app : Option Identifier.ApplicationId}
    (ht : t.validateForWrite = .ok ()) (happ : parseApplication application = .ok app)
    (htenant : (answer (.tenant domain) w).1 = .ok tenant) :
    let upsert := service.upsert t domain application
    ∃ s calls, Scenario.parse t.scenario = .ok s ∧
      Truthful s t.normalized ⟨tenant, app⟩ calls (upsert.run answer w).1 ∧
      upsert.trace answer w = ⟨.tenant domain, .ok tenant⟩ ::
        (calls.map asked ++ service.drops s t ⟨tenant, app⟩ (upsert.run answer w).1) := by
  intro upsert
  obtain ⟨s, hs⟩ := Scenario.parse_of_check (Template.validateForWrite_eq_ok_iff.1 ht).1
  have hupsert : upsert = .perform (.tenant domain) fun a =>
      Program.bind (.done (a.mapError (.unresolvedTenant domain))) fun tenant =>
        service.upsertIn s t ⟨tenant, app⟩ := service.upsert_eq_upsertIn ht hs happ domain
  have hpath := Program.path_run answer (service.upsertIn s t ⟨tenant, app⟩)
    (answer (.tenant domain) w).2
  obtain ⟨calls, htruthful, hrequests⟩ := service.truthful_of_path ht hpath
  refine ⟨s, calls, hs, ?_⟩
  rw [hupsert, Program.run_perform, Program.trace, htenant]
  exact ⟨htruthful, congrArg _ hrequests⟩

/-- Surroundings in which the scenario is lost when it is first written to. -/
def forgetful : Program.Handler Request Request.Answer Bool
  | .tenant _, lost => (.ok ⟨1⟩, lost)
  | .store (.isRegistered ..), lost => (.ok !lost, lost)
  | .store (.add ..), lost => (.ok (), lost)
  | .store (.write t _), lost => (if lost then .ok () else .error (.unknownScenario t.scenario), true)
  | .store _, lost => (.error (.unavailable "closed"), lost)
  | .cache query, lost => ((Caches.answer query { retention := ⟨1, 1⟩ }).1, lost)

theorem upsert_reports_truthfully_otp :
    let service : Service := ⟨⟨.empty, {}⟩, true⟩
    let t := Template.sms " OTP " "EN_us" "Your code"
    let upsert := service.upsert t "acme.com" none
    t.validateForWrite = .ok () ∧ parseApplication none = .ok none ∧
      (forgetful (.tenant "acme.com") false).1 = .ok ⟨1⟩ ∧
      (upsert.run forgetful false).1 = .ok () ∧
      ∃ s calls, Scenario.parse t.scenario = .ok s ∧
        Truthful s t.normalized ⟨⟨1⟩, none⟩ calls (upsert.run forgetful false).1 ∧
        upsert.trace forgetful false = ⟨.tenant "acme.com", .ok ⟨1⟩⟩ ::
          (calls.map asked ++ service.drops s t ⟨⟨1⟩, none⟩ (upsert.run forgetful false).1) := by
  intro service t upsert
  have ht : t.validateForWrite = .ok () := by decide +kernel
  have hok : (upsert.run forgetful false).1 = .ok () := by decide +kernel
  exact ⟨ht, rfl, rfl, hok, upsert_reports_truthfully service forgetful false ht rfl rfl⟩

end Service
end Missive
