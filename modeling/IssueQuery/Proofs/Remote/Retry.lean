import IssueQuery.Proofs.Remote.Login

/-!
# A rejected request is made once more

Asking for a resource has one course: the client finds a token, for which it may have to log in, and
sends its request.  Only if this one is answered with 401 the course begins anew, without the token
that was rejected, and it does not begin a third time.  What has been sent shows in which course a
call was, and the last request of it alone settles what the call ends with.
-/

namespace IssueQuery.Remote

open Http Outcome

/-- The token that arrives of a login, or why it fails. -/
def loginResult : Delivery → Except Failure Value
  | .error reason => .error (.loginUnreachable reason)
  | .ok r => Client.tokenOf r

/-- What the answer to a request for the resource at a path is worth. -/
def settled (path : String) (delivery : Delivery) : Except Failure Response := do
  Client.granted path (← delivery.mapError (.unreachable path))

theorem settled_eq_ok_iff {path : String} {delivery : Delivery} {r : Response} :
    settled path delivery = .ok r ↔ delivery = .ok r ∧ r.status < 400 := by
  rw [settled, bind_eq_ok_iff]
  constructor
  · rintro ⟨r', hr', hgranted⟩
    rw [mapError_eq_ok_iff] at hr'
    unfold Client.granted at hgranted
    split at hgranted
    · cases hgranted
    · rename_i hrefusal
      obtain rfl := Except.ok.inj hgranted
      exact ⟨hr', by simpa [Response.isRefusal] using hrefusal⟩
  · rintro ⟨hdelivery, hstatus⟩
    refine ⟨r, mapError_eq_ok_iff.mpr hdelivery, ?_⟩
    rw [Client.granted, if_neg (by simpa [Response.isRefusal] using hstatus)]

theorem settled_of_refusal {path : String} {r : Response} (h : 400 ≤ r.status) :
    settled path (.ok r) = .error (.refused path r.status r.reason?) := by
  have hrefusal : r.isRefusal := by simpa [Response.isRefusal] using h
  show Client.granted path r = _
  rw [Client.granted, if_pos hrefusal]

namespace Client

variable {σ : Type} {c : Client σ} {path : String} {parameters : List (String × Value)}

/-! ## The loop of attempts -/

/-- The loop in which a resource is asked for: attempt 0 gives a rejected login up and goes on, any
other attempt ends the loop.  What stands behind the loop is `beyond`. -/
def attempts (c : Client σ) (path : String) (parameters : List (String × Value))
    (beyond : Call σ Response) : List Nat → Call σ Response
  | [] => beyond
  | attempt :: rest => do
    let r ← c.ask path parameters
    if r.status = 401 ∧ attempt = 0 then
      modify fun s => { s with login := none }
      c.attempts path parameters beyond rest
    else ExceptT.mk (pure (granted path r))

/-- Two attempts never come to what stands behind them. -/
theorem attempts_eq_fetch (c : Client σ) (path : String) (parameters : List (String × Value))
    (beyond : Call σ Response) :
    c.attempts path parameters beyond (List.range 2) = c.fetch path parameters := by
  have hlast : c.attempts path parameters beyond [1] =
      c.ask path parameters >>= fun r => ExceptT.mk (pure (granted path r)) := by
    rw [attempts]
    simp
  rw [show List.range 2 = [0, 1] from rfl, attempts, hlast, fetch]
  simp

/-! ## Logging in -/

/-- What is sent for a login, and what the login comes to. -/
inductive LogsIn (c : Client σ) : List Exchange → Except Failure Value → Prop where
  | nobody : c.credentials? = none → LogsIn c [] (.error .missingCredentials)
  | answered {username password : String} {delivery : Delivery} :
      c.credentials? = some (username, password) →
      LogsIn c [⟨c.loginRequest username password, delivery⟩] (loginResult delivery)

/-- What is sent for the token of a request by a client that is authenticated or not, and what this
comes to. -/
inductive FindsToken (c : Client σ) : Bool → List Exchange → Except Failure Value → Prop where
  | held {token : Value} : FindsToken c true [] (.ok token)
  | new {logins : List Exchange} {outcome : Except Failure Value} :
      LogsIn c logins outcome → FindsToken c false logins outcome

variable {logins : List Exchange} {outcome outcome' : Except Failure Value} {failure : Failure}

theorem LogsIn.unique (h : LogsIn c logins outcome) (h' : LogsIn c logins outcome') :
    outcome = outcome' := by
  cases h with
  | nobody _ =>
      cases h'
      rfl
  | answered _ =>
      cases h'
      rfl

theorem LogsIn.isLogin (h : LogsIn c logins outcome) :
    logins.length ≤ 1 ∧ ∀ e ∈ logins, e.request.method = .post := by
  cases h with
  | nobody _ => exact ⟨Nat.zero_le 1, List.forall_mem_nil _⟩
  | answered _ => exact ⟨Nat.le_refl 1, List.forall_mem_singleton.mpr rfl⟩

theorem FindsToken.isLogin {authenticated : Bool} (h : FindsToken c authenticated logins outcome) :
    logins.length ≤ 1 ∧ ∀ e ∈ logins, e.request.method = .post := by
  cases h with
  | held => exact ⟨Nat.zero_le 1, List.forall_mem_nil _⟩
  | new hlogin => exact hlogin.isLogin

theorem logsIn_authenticate (c : Client σ) (s : Session (σ × List Exchange)) :
    ∃ logins, LogsIn c logins (c.traced.authenticate.run s).1 ∧
      (c.traced.authenticate.run s).2.network.2 = s.network.2 ++ logins := by
  cases hcredentials : c.credentials? with
  | none =>
      refine ⟨[], ?_⟩
      rw [run_authenticate_of_none (c := c.traced) hcredentials, List.append_nil]
      exact ⟨.nobody hcredentials, rfl⟩
  | some user =>
      obtain ⟨username, password⟩ := user
      have hcredentials' : c.traced.credentials? = some (username, password) := hcredentials
      have hrun : (c.traced.authenticate.run s).1 =
            loginResult (c.traced.answer (c.loginRequest username password) s) ∧
          (c.traced.authenticate.run s).2.network.2 = s.network.2 ++
            [⟨c.loginRequest username password,
              c.traced.answer (c.loginRequest username password) s⟩] := by
        rw [authenticate, hcredentials']
        dsimp only
        rw [run_bind_of_ok (run_send _), show c.traced.loginRequest username password =
          c.loginRequest username password from rfl, after_traced]
        cases c.traced.answer (c.loginRequest username password) s with
        | error reason => exact ⟨rfl, rfl⟩
        | ok r =>
            have hread : ∀ t : Session (σ × List Exchange),
                (ExceptT.mk (pure (tokenOf r)) : Call (σ × List Exchange) Value).run t =
                  (tokenOf r, t) := fun _ => rfl
            dsimp only
            rw [run_bind, hread, loginResult]
            cases tokenOf r with
            | error failure => exact ⟨rfl, rfl⟩
            | ok token => exact ⟨rfl, rfl⟩
      refine ⟨_, ?_, hrun.2⟩
      rw [hrun.1]
      exact .answered hcredentials

theorem findsToken_ensureToken (c : Client σ) (s : Session (σ × List Exchange)) :
    ∃ logins, FindsToken c s.isAuthenticated logins (c.traced.ensureToken.run s).1 ∧
      (c.traced.ensureToken.run s).2.network.2 = s.network.2 ++ logins := by
  rcases ensureToken_cases c.traced s with ⟨l, hlogin, hgood, hrun⟩ | ⟨hauthenticated, hrun⟩
  · have hauthenticated : s.isAuthenticated = true := by
      rw [Session.isAuthenticated, hlogin]
      exact hgood
    rw [hrun, hauthenticated]
    exact ⟨[], .held, (List.append_nil _).symm⟩
  · rw [hrun, hauthenticated]
    obtain ⟨logins, hlogin, hsent⟩ := logsIn_authenticate c s
    exact ⟨logins, .new hlogin, hsent⟩

/-! ## One attempt -/

/-- What one attempt sends, logins and then the request itself, and what it comes to. -/
inductive Attempt (c : Client σ) (path : String) (parameters : List (String × Value))
    (authenticated : Bool) : List Exchange → Option Exchange → Except Failure Response → Prop where
  | nameless {logins : List Exchange} {failure : Failure} :
      FindsToken c authenticated logins (.error failure) →
      Attempt c path parameters authenticated logins none (.error failure)
  | unsendable {logins : List Exchange} {token : Value} {failure : Failure} :
      FindsToken c authenticated logins (.ok token) → c.bearer token = .error failure →
      Attempt c path parameters authenticated logins none (.error failure)
  | sent {logins : List Exchange} {token : Value} {header : String} {delivery : Delivery} :
      FindsToken c authenticated logins (.ok token) → c.bearer token = .ok header →
      Attempt c path parameters authenticated logins
        (some ⟨c.resourceRequest path parameters header, delivery⟩)
        (delivery.mapError (.unreachable path))

theorem attempt_ask (c : Client σ) (path : String) (parameters : List (String × Value))
    (s : Session (σ × List Exchange)) :
    ∃ logins get?, Attempt c path parameters s.isAuthenticated logins get?
        ((c.traced.ask path parameters).run s).1 ∧
      ((c.traced.ask path parameters).run s).2.network.2 =
        s.network.2 ++ (logins ++ get?.toList) := by
  obtain ⟨logins, htoken, hsent⟩ := findsToken_ensureToken c s
  rcases run_eq_ok_or_error c.traced.ensureToken s with ⟨token, s₁, hrun⟩ | ⟨failure, s₁, hrun⟩
  · rw [hrun] at htoken hsent
    cases hheader : c.bearer token with
    | error failure =>
        have hheader' : c.traced.bearer token = .error failure := hheader
        rw [run_ask_of_unsendable hrun hheader']
        refine ⟨logins, none, .unsendable htoken hheader, ?_⟩
        rw [Option.toList_none, List.append_nil]
        exact hsent
    | ok header =>
        have hheader' : c.traced.bearer token = .ok header := hheader
        rw [run_ask_of_token hrun hheader', after_traced]
        refine ⟨logins, _, .sent htoken hheader, ?_⟩
        rw [Option.toList_some, ← List.append_assoc, ← hsent]
        rfl
  · rw [hrun] at htoken hsent
    rw [ask, run_bind, hrun]
    refine ⟨logins, none, .nameless htoken, ?_⟩
    rw [Option.toList_none, List.append_nil]
    exact hsent

section Attempt

variable {authenticated : Bool} {get? : Option Exchange} {e : Exchange} {r : Response}
  {result : Except Failure Response}

theorem Attempt.isLogin (h : Attempt c path parameters authenticated logins get? result) :
    logins.length ≤ 1 ∧ ∀ e ∈ logins, e.request.method = .post := by
  cases h with
  | nameless htoken => exact htoken.isLogin
  | unsendable htoken _ => exact htoken.isLogin
  | sent htoken _ => exact htoken.isLogin

theorem Attempt.request (h : Attempt c path parameters authenticated logins (some e) result) :
    ∃ header, e.request = c.resourceRequest path parameters header := by
  cases h with
  | @sent _ header _ _ _ => exact ⟨header, rfl⟩

theorem Attempt.result_eq (h : Attempt c path parameters authenticated logins (some e) result) :
    result = e.delivery.mapError (.unreachable path) := by
  cases h with
  | sent _ _ => rfl

/-- A request that is sent settles what its attempt comes to. -/
theorem Attempt.settles (h : Attempt c path parameters authenticated logins (some e) result) :
    (result >>= granted path) = settled path e.delivery := by
  rw [h.result_eq]
  rfl

theorem Attempt.fails (h : Attempt c path parameters authenticated logins none result) :
    ∃ failure, result = .error failure := by
  cases h with
  | nameless _ => exact ⟨_, rfl⟩
  | unsendable _ _ => exact ⟨_, rfl⟩

theorem Attempt.exists_of_ok
    (h : Attempt c path parameters authenticated logins get? (.ok r)) :
    ∃ e, get? = some e ∧ e.request.method = .get ∧ e.delivery = .ok r := by
  generalize hresult : (.ok r : Except Failure Response) = result at h
  cases h with
  | nameless _ => cases hresult
  | unsendable _ _ => cases hresult
  | sent _ _ => exact ⟨_, rfl, rfl, mapError_eq_ok_iff.mp hresult.symm⟩

theorem Attempt.returns_iff (h : Attempt c path parameters authenticated logins get? result) :
    (result >>= granted path) = .ok r ↔
      ∃ e, get? = some e ∧ e.delivery = .ok r ∧ r.status < 400 := by
  cases get? with
  | none =>
      obtain ⟨failure, rfl⟩ := h.fails
      refine iff_of_false (fun hr => by cases hr) ?_
      rintro ⟨e, he, -⟩
      cases he
  | some e =>
      rw [h.settles, settled_eq_ok_iff]
      constructor
      · exact fun hr => ⟨e, rfl, hr⟩
      · rintro ⟨_, he, hr⟩
        rwa [← Option.some.inj he] at hr

/-- A client that is not authenticated logs in first.  If this fails, or if what it gives cannot be
sent, the attempt ends here; else the request is made in the name of the new login. -/
theorem Attempt.logsIn (h : Attempt c path parameters false logins get? result) :
    (∃ failure, LogsIn c logins (.error failure) ∧ get? = none ∧ result = .error failure) ∨
    ∃ token, LogsIn c logins (.ok token) ∧
      ((∃ failure, c.bearer token = .error failure ∧ get? = none ∧ result = .error failure) ∨
        ∃ e, get? = some e ∧
          e.request = c.resourceRequest path parameters ("Bearer " ++ token.display)) := by
  cases h with
  | @nameless failure htoken =>
      cases htoken with
      | new hlogin => exact Or.inl ⟨failure, hlogin, rfl, rfl⟩
  | @unsendable token failure htoken hheader =>
      cases htoken with
      | new hlogin => exact Or.inr ⟨token, hlogin, Or.inl ⟨failure, hheader, rfl, rfl⟩⟩
  | @sent token header _ htoken hheader =>
      cases htoken with
      | new hlogin =>
          rw [eq_of_bearer_eq_ok hheader]
          exact Or.inr ⟨token, hlogin, Or.inr ⟨_, rfl, rfl⟩⟩

end Attempt

/-! ## The course of a call -/

/-- What a call for the resource at a path sends, and what it ends with: one attempt, and if this
one is rejected, another one by a client that is no longer authenticated. -/
inductive Course (c : Client σ) (path : String) (parameters : List (String × Value))
    (authenticated : Bool) : List Exchange → Option Exchange → List Exchange → Option Exchange →
      Except Failure Response → Prop where
  | once {logins : List Exchange} {first : Option Exchange} {result : Except Failure Response} :
      Attempt c path parameters authenticated logins first result →
      (∀ r, result = .ok r → r.status ≠ 401) →
      Course c path parameters authenticated logins first [] none (result >>= granted path)
  | twice {logins again : List Exchange} {first second : Option Exchange} {r : Response}
      {result : Except Failure Response} :
      Attempt c path parameters authenticated logins first (.ok r) → r.status = 401 →
      Attempt c path parameters false again second result →
      Course c path parameters authenticated logins first again second (result >>= granted path)

theorem course_fetch (c : Client σ) (path : String) (parameters : List (String × Value))
    (s : Session (σ × List Exchange)) :
    ∃ logins first again second,
      Course c path parameters s.isAuthenticated logins first again second
        ((c.traced.fetch path parameters).run s).1 ∧
      ((c.traced.fetch path parameters).run s).2.network.2 =
        s.network.2 ++ (logins ++ first.toList ++ (again ++ second.toList)) := by
  have hgranted : ∀ (x : Call (σ × List Exchange) Response) (t : Session (σ × List Exchange)),
      (x >>= fun r => ExceptT.mk (pure (granted path r))).run t =
        ((x.run t).1 >>= granted path, (x.run t).2) := by
    intro x t
    rw [run_bind]
    generalize x.run t = outcome
    obtain ⟨result, t'⟩ := outcome
    cases result <;> rfl
  obtain ⟨logins, first, hattempt, hsent⟩ := attempt_ask c path parameters s
  by_cases hrejected : ∃ r s₁, (c.traced.ask path parameters).run s = (.ok r, s₁) ∧ r.status = 401
  · obtain ⟨r, s₁, hrun, hstatus⟩ := hrejected
    have hforget : (modify fun s => { s with login := none } :
        Call (σ × List Exchange) PUnit).run s₁ = (.ok PUnit.unit, { s₁ with login := none }) := rfl
    rw [hrun] at hattempt hsent
    obtain ⟨again, second, hattempt', hsent'⟩ :=
      attempt_ask c path parameters { s₁ with login := none }
    rw [fetch, run_bind_of_ok hrun, if_pos hstatus, run_bind_of_ok hforget, hgranted]
    refine ⟨logins, first, again, second, .twice hattempt hstatus hattempt', ?_⟩
    rw [← List.append_assoc, ← hsent]
    exact hsent'
  · push Not at hrejected
    have hone : (c.traced.fetch path parameters).run s =
        (((c.traced.ask path parameters).run s).1 >>= granted path,
          ((c.traced.ask path parameters).run s).2) := by
      rw [← hgranted, fetch]
      rcases run_eq_ok_or_error (c.traced.ask path parameters) s with
        ⟨r, s₁, hrun⟩ | ⟨failure, s₁, hrun⟩
      · rw [run_bind_of_ok hrun, run_bind_of_ok hrun, if_neg (hrejected r s₁ hrun)]
      · rw [run_bind, run_bind, hrun]
    rw [hone]
    refine ⟨logins, first, [], none, .once hattempt fun r hr => ?_, ?_⟩
    · exact hrejected r _ (Prod.ext hr rfl)
    · rw [Option.toList_none, List.append_nil, List.append_nil]
      exact hsent

/-- A resource is asked for once, and once more only if the first request is rejected.  `first` and
`second` are the requests for it, `logins` and `again` the logins in front of them. -/
structure RetriesOnce (c : Client σ) (path : String) (parameters : List (String × Value))
    (authenticated : Bool) (logins : List Exchange) (first : Option Exchange)
    (again : List Exchange) (second : Option Exchange) (result : Except Failure Response) :
    Prop where
  logins_le : logins.length ≤ 1 ∧ again.length ≤ 1
  isLogin : ∀ e ∈ logins ++ again, e.request.method = .post
  /-- Both requests ask for the same. -/
  request : ∀ e ∈ first.toList ++ second.toList,
    ∃ header, e.request = c.resourceRequest path parameters header
  /-- The second request is made in the name of a login that follows the rejection of the first. -/
  repeated : ∀ e', second = some e' → ∃ e login token,
    first = some e ∧ e.IsRejected ∧ again = [login] ∧ login.token? = some token ∧
      e'.request = c.resourceRequest path parameters ("Bearer " ++ token.display)
  unrepeated : (∀ e, first = some e → ¬e.IsRejected) → again = [] ∧ second = none
  returned : ∀ r, result = .ok r ↔
    ∃ e, second.or first = some e ∧ e.delivery = .ok r ∧ r.status < 400
  /-- A refusal is reported with its status, unless it is the rejection of the first request and no
  second one can be sent. -/
  refused : ∀ e r, second.or first = some e → e.delivery = .ok r → 400 ≤ r.status →
    result = .error (.refused path r.status r.reason?) ∨
    (second = none ∧ e.IsRejected ∧ ∃ failure, result = .error failure ∧
      (LogsIn c again (.error failure) ∨
        ∃ token, LogsIn c again (.ok token) ∧ c.bearer token = .error failure))
  unreachable : ∀ e reason, second.or first = some e → e.delivery = .error reason →
    result = .error (.unreachable path reason)
  /-- A login that fails ends the call with its own failure. -/
  login : authenticated = false → ∃ outcome, LogsIn c logins outcome ∧
    ∀ failure, outcome = .error failure →
      first = none ∧ again = [] ∧ second = none ∧ result = .error failure
  loginAgain : ∀ e, first = some e → e.IsRejected → ∃ outcome, LogsIn c again outcome ∧
    ∀ failure, outcome = .error failure → second = none ∧ result = .error failure

section Course

variable {authenticated : Bool} {again : List Exchange} {first second : Option Exchange}
  {token : Value} {result : Except Failure Response}

theorem LogsIn.exists_login (h : LogsIn c logins (.ok token)) :
    ∃ login, logins = [login] ∧ login.token? = some token := by
  generalize houtcome : (.ok token : Except Failure Value) = outcome at h
  cases h with
  | nobody _ => cases houtcome
  | @answered username password delivery _ =>
      refine ⟨_, rfl, ?_⟩
      show newToken? delivery = some token
      cases delivery with
      | error reason => cases houtcome
      | ok r => exact toOption_eq_some_iff.mpr houtcome.symm

/-- A single attempt is one that is not rejected. -/
theorem Attempt.retriesOnce (h : Attempt c path parameters authenticated logins first result)
    (hkept : ∀ r, result = .ok r → r.status ≠ 401) :
    RetriesOnce c path parameters authenticated logins first [] none (result >>= granted path) where
  logins_le := ⟨h.isLogin.1, Nat.zero_le 1⟩
  isLogin := by
    rw [List.append_nil]
    exact h.isLogin.2
  request := by
    intro e he
    rw [Option.toList_none, List.append_nil, Option.mem_toList] at he
    subst he
    exact h.request
  repeated := by
    intro e' he'
    cases he'
  unrepeated := fun _ => ⟨rfl, rfl⟩
  returned := by
    intro r
    rw [Option.none_or]
    exact h.returns_iff
  refused := by
    intro e r he hdelivery hstatus
    rw [Option.none_or] at he
    subst he
    rw [h.settles, hdelivery, settled_of_refusal hstatus]
    exact Or.inl rfl
  unreachable := by
    intro e reason he hdelivery
    rw [Option.none_or] at he
    subst he
    rw [h.settles, hdelivery]
    rfl
  login := by
    rintro rfl
    rcases h.logsIn with ⟨failure, hlogin, rfl, rfl⟩ | ⟨token, hlogin, -⟩
    · exact ⟨_, hlogin, fun failure' hfailure => ⟨rfl, rfl, rfl, by cases hfailure; rfl⟩⟩
    · exact ⟨_, hlogin, fun failure' hfailure => by cases hfailure⟩
  loginAgain := by
    rintro e rfl ⟨-, r, hdelivery, hstatus⟩
    refine absurd hstatus (hkept r ?_)
    rw [h.result_eq, hdelivery]
    rfl

/-- A second attempt follows one that is rejected, and has to log in. -/
theorem Attempt.retriesOnce_again {r : Response}
    (h : Attempt c path parameters authenticated logins first (.ok r)) (hstatus : r.status = 401)
    (h' : Attempt c path parameters false again second result) :
    RetriesOnce c path parameters authenticated logins first again second
      (result >>= granted path) := by
  obtain ⟨e₁, rfl, hget, hdelivery⟩ := h.exists_of_ok
  have hrejected : e₁.IsRejected := ⟨hget, r, hdelivery, hstatus⟩
  exact {
    logins_le := ⟨h.isLogin.1, h'.isLogin.1⟩
    isLogin := by
      intro e he
      exact (List.mem_append.mp he).elim (h.isLogin.2 e) (h'.isLogin.2 e)
    request := by
      intro e he
      rcases List.mem_append.mp he with he | he
      · rw [Option.mem_toList] at he
        obtain rfl := Option.some.inj he
        exact h.request
      · rw [Option.mem_toList] at he
        subst he
        exact h'.request
    repeated := by
      rintro e' rfl
      rcases h'.logsIn with ⟨failure, -, hnone, -⟩ |
        ⟨token, hlogin, ⟨failure, -, hnone, -⟩ | ⟨e, he, hrequest⟩⟩
      · cases hnone
      · cases hnone
      · obtain rfl := Option.some.inj he
        obtain ⟨login, hlogins, htoken⟩ := hlogin.exists_login
        exact ⟨e₁, login, token, rfl, hrejected, hlogins, htoken, hrequest⟩
    unrepeated := fun hkept => absurd hrejected (hkept e₁ rfl)
    returned := by
      intro r'
      rw [h'.returns_iff]
      cases second with
      | some e' => rw [Option.some_or]
      | none =>
          rw [Option.none_or]
          refine iff_of_false (by simp) ?_
          rintro ⟨e, he, hr', hgranted⟩
          rw [← Option.some.inj he, hdelivery] at hr'
          obtain rfl := Except.ok.inj hr'
          omega
    refused := by
      intro e r' he hr' hrefused
      cases second with
      | some e' =>
          rw [Option.some_or] at he
          obtain rfl := Option.some.inj he
          rw [h'.settles, hr', settled_of_refusal hrefused]
          exact Or.inl rfl
      | none =>
          rw [Option.none_or] at he
          obtain rfl := Option.some.inj he
          refine Or.inr ⟨rfl, hrejected, ?_⟩
          rcases h'.logsIn with ⟨failure, hlogin, -, rfl⟩ |
            ⟨token, hlogin, ⟨failure, hheader, -, rfl⟩ | ⟨e, he, -⟩⟩
          · exact ⟨failure, rfl, Or.inl hlogin⟩
          · exact ⟨failure, rfl, Or.inr ⟨token, hlogin, hheader⟩⟩
          · cases he
    unreachable := by
      intro e reason he hreason
      cases second with
      | some e' =>
          rw [Option.some_or] at he
          obtain rfl := Option.some.inj he
          rw [h'.settles, hreason]
          rfl
      | none =>
          rw [Option.none_or] at he
          rw [← Option.some.inj he, hdelivery] at hreason
          cases hreason
    login := by
      rintro rfl
      rcases h.logsIn with ⟨failure, -, hnone, -⟩ | ⟨token, hlogin, -⟩
      · cases hnone
      · exact ⟨_, hlogin, fun failure' hfailure => by cases hfailure⟩
    loginAgain := by
      intro e _ _
      rcases h'.logsIn with ⟨failure, hlogin, rfl, rfl⟩ | ⟨token, hlogin, -⟩
      · exact ⟨_, hlogin, fun failure' hfailure => ⟨rfl, by cases hfailure; rfl⟩⟩
      · exact ⟨_, hlogin, fun failure' hfailure => by cases hfailure⟩ }

theorem Course.retriesOnce
    (h : Course c path parameters authenticated logins first again second result) :
    RetriesOnce c path parameters authenticated logins first again second result := by
  cases h with
  | once hattempt hkept => exact hattempt.retriesOnce hkept
  | twice hattempt hstatus hagain => exact hattempt.retriesOnce_again hstatus hagain

end Course

/-- Asking for a resource is a loop of two attempts that never comes to its end.  Whatever a client
has been through and whatever it is answered, it sends one request, and a second one only if the
first is rejected; the call ends as the last of them is answered, or with the failure of the login
that the next one needs, or because what this login gives cannot be sent. -/
theorem fetch_retries_once (c : Client σ) (path : String) (parameters : List (String × Value)) :
    (∀ beyond : Call σ Response,
      c.attempts path parameters beyond (List.range 2) = c.fetch path parameters) ∧
    ∀ s : Session (σ × List Exchange), ∃ logins first again second,
      ((c.traced.fetch path parameters).run s).2.network.2 =
        s.network.2 ++ (logins ++ first.toList ++ (again ++ second.toList)) ∧
      RetriesOnce c path parameters s.isAuthenticated logins first again second
        ((c.traced.fetch path parameters).run s).1 := by
  refine ⟨attempts_eq_fetch c path parameters, fun s => ?_⟩
  obtain ⟨logins, first, again, second, hcourse, hsent⟩ := course_fetch c path parameters s
  exact ⟨logins, first, again, second, hsent, hcourse.retriesOnce⟩

/-- If the token of a new login is not made of ASCII characters, the rejection that made the client
log in is the last answer it gets, and it is not reported. -/
theorem fetch_hides_rejection_beyond_ascii : ¬∀ (c : Client Unit) (path : String)
    (parameters : List (String × Value)) (s : Session (Unit × List Exchange))
    (sent : List Exchange) (e : Exchange) (r : Response),
      ((c.traced.fetch path parameters).run s).2.network.2 = s.network.2 ++ sent →
      sent.findRev? (·.request.method = .get) = some e → e.delivery = .ok r → 400 ≤ r.status →
      c.credentials?.isSome → (∀ d ∈ sent, ¬d.IsFailedLogin) →
        ∃ failure, ((c.traced.fetch path parameters).run s).1 = .error failure ∧
          failure.status? = some r.status := by
  intro h
  let c : Client Unit := {
    settings := { authToken := some "t", username := some "u", password := some "p" }
    deliver request :=
      match request.method with
      | .get => pure (.ok ⟨401, .ok .null, []⟩)
      | .post => pure (.ok ⟨200, .ok (.object [("auth_token", .string "é")]), []⟩)
    patience := 1 }
  let rejected : Exchange :=
    ⟨c.resourceRequest "/issues" [] "Bearer t", .ok ⟨401, .ok .null, []⟩⟩
  let login : Exchange :=
    ⟨c.loginRequest "u" "p", .ok ⟨200, .ok (.object [("auth_token", .string "é")]), []⟩⟩
  have hlogin : newToken? login.delivery = some (.string "é") := by rfl
  obtain ⟨failure, hfailure, hstatus⟩ := h c "/issues" []
    (Session.start c.settings 0 ((), [])) [rejected, login] rejected _ rfl rfl rfl (by decide) rfl
    (by
      intro d hd
      rcases List.mem_pair.mp hd with rfl | rfl
      · rintro ⟨hmethod, -⟩
        cases hmethod
      · rintro ⟨-, hfails⟩
        rw [← newToken?_eq_none_iff, hlogin] at hfails
        cases hfails)
  have hrun : ((c.traced.fetch "/issues" []).run (Session.start c.settings 0 ((), []))).1 =
      .error (.unsendable "Bearer é") := by rfl
  rw [hrun] at hfailure
  cases hfailure
  cases hstatus

end Client

end IssueQuery.Remote
