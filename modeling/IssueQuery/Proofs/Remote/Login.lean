import IssueQuery.Proofs.Remote.History
import IssueQuery.Proofs.Remote.Paging

/-!
# Logins that are kept, renewed and given up

Every call of a client is made of steps: it logs in if it has to, asks in the name of the login, and
asks once more with a new login if that one is rejected.  So whatever a client is used for, what it
sends is a history, and its requests are authorized as in any history.  A login that fails is the
last thing that a call sends.
-/

namespace IssueQuery.Remote

open Http Outcome

namespace Client

variable {σ α β : Type} {c : Client σ} {s s₁ s' : Session σ} {path : String}
  {parameters : List (String × Value)} {sent sent' : List Sent}

/-! ## Logging in -/

/-- Logging in fails: there is nobody to log in as, or what arrives gives no token. -/
def LoginFails (c : Client σ) (s : Session σ) : Prop :=
  c.credentials? = none ∨
    ∃ username password, c.credentials? = some (username, password) ∧
      GivesNoToken (c.answer (c.loginRequest username password) s)

theorem run_authenticate_of_none (h : c.credentials? = none) :
    c.authenticate.run s = (.error .missingCredentials, s) := by
  rw [authenticate, h]
  rfl

theorem run_authenticate_of_token {username password : String} {token : Value}
    (h : c.credentials? = some (username, password))
    (htoken : newToken? (c.answer (c.loginRequest username password) s) = some token) :
    c.authenticate.run s =
      (.ok token, { c.after (c.loginRequest username password) s with
        login := some ⟨token,
          some ((c.after (c.loginRequest username password) s).now + loginLifetime)⟩ }) := by
  rw [authenticate, h]
  dsimp only
  rw [run_bind_of_ok (run_send _)]
  cases hanswer : c.answer (c.loginRequest username password) s with
  | error reason =>
      rw [hanswer] at htoken
      cases htoken
  | ok r =>
      rw [hanswer] at htoken
      have hread : (ExceptT.mk (pure (tokenOf r)) : Call σ Value).run
          (c.after (c.loginRequest username password) s) =
            (.ok token, c.after (c.loginRequest username password) s) := by
        rw [toOption_eq_some_iff.mp htoken]
        rfl
      exact run_bind_of_ok hread

theorem run_authenticate_of_no_token {username password : String}
    (h : c.credentials? = some (username, password))
    (hnone : newToken? (c.answer (c.loginRequest username password) s) = none) :
    ∃ failure, c.authenticate.run s =
      (.error failure, c.after (c.loginRequest username password) s) := by
  rw [authenticate, h]
  dsimp only
  rw [run_bind_of_ok (run_send _)]
  cases hanswer : c.answer (c.loginRequest username password) s with
  | error reason => exact ⟨.loginUnreachable reason, rfl⟩
  | ok r =>
      have hread : (ExceptT.mk (pure (tokenOf r)) : Call σ Value).run
          (c.after (c.loginRequest username password) s) =
            (tokenOf r, c.after (c.loginRequest username password) s) := rfl
      dsimp only
      rw [run_bind, hread]
      cases htoken : tokenOf r with
      | error failure => exact ⟨failure, rfl⟩
      | ok token =>
          rw [hanswer, newToken?, htoken] at hnone
          cases hnone

/-- A login either succeeds and replaces the one that is stored, or fails and leaves it. -/
theorem authenticate_cases (c : Client σ) (s : Session σ) :
    (¬c.LoginFails s ∧ ∃ token s' m, c.authenticate.run s = (.ok token, s') ∧
      Step c s m s' ∧ ¬m.IsFailedLogin ∧
      s'.login = some ⟨token, some (s'.now + loginLifetime)⟩) ∨
    (c.LoginFails s ∧ ∃ failure s' sent, c.authenticate.run s = (.error failure, s') ∧
      History c s sent s' ∧ sent.length ≤ 1 ∧ s'.login = s.login) := by
  cases hcredentials : c.credentials? with
  | none =>
      refine Or.inr ⟨Or.inl hcredentials, _, _, [], run_authenticate_of_none hcredentials, .nil, ?_,
        rfl⟩
      exact Nat.zero_le 1
  | some user =>
      obtain ⟨username, password⟩ := user
      have hfails : c.LoginFails s ↔
          GivesNoToken (c.answer (c.loginRequest username password) s) := by
        simp [LoginFails, hcredentials]
      rw [hfails, ← newToken?_eq_none_iff]
      cases htoken : newToken? (c.answer (c.loginRequest username password) s) with
      | none =>
          obtain ⟨failure, hrun⟩ := run_authenticate_of_no_token hcredentials htoken
          have hstep := Step.notLoggedIn (c := c) (s := s) rfl htoken
          exact Or.inr ⟨rfl, failure, _, _, hrun, .single hstep, Nat.le_refl 1, rfl⟩
      | some token =>
          have hstep := Step.loggedIn (c := c) (s := s) rfl htoken
          have hsucceeds : some token ≠ none := Option.some_ne_none token
          refine Or.inl ⟨hsucceeds, token, _, _, run_authenticate_of_token hcredentials htoken,
            hstep, ?_, rfl⟩
          rintro ⟨-, hnone⟩
          rw [← newToken?_eq_none_iff] at hnone
          rw [sent, htoken] at hnone
          cases hnone

/-! ## Calls -/

/-- What a run of a call sends is a history.  A login that fails can only be the last request of it,
and then the call fails. -/
structure Sends (c : Client σ) (s : Session σ) (sent : List Sent)
    (outcome : Except Failure α × Session σ) : Prop where
  history : History c s sent outcome.2
  last : ∀ m ∈ sent.dropLast, ¬m.IsFailedLogin
  ok : ∀ a, outcome.1 = .ok a → ∀ m ∈ sent, ¬m.IsFailedLogin

theorem sends_nothing (result : Except Failure α) : Sends c s [] (result, s) where
  history := .nil
  last := List.forall_mem_nil _
  ok := fun _ _ => List.forall_mem_nil _

theorem sends_failure {failure : Failure} (hhistory : History c s sent s')
    (hlast : ∀ m ∈ sent.dropLast, ¬m.IsFailedLogin) :
    Sends c s sent ((.error failure, s') : Except Failure α × Session σ) where
  history := hhistory
  last := hlast
  ok := by
    intro a ha
    cases ha

/-- Requests in front of a call, none of which is a login that fails. -/
theorem Sends.after {outcome : Except Failure α × Session σ} (h : Sends c s₁ sent' outcome)
    (hbefore : History c s sent s₁) (hok : ∀ m ∈ sent, ¬m.IsFailedLogin) :
    Sends c s (sent ++ sent') outcome where
  history := hbefore.append h.history
  last := by
    intro m hm
    rw [List.dropLast_append] at hm
    split at hm
    · exact hok m (List.mem_of_mem_dropLast hm)
    · exact (List.mem_append.mp hm).elim (hok m) (h.last m)
  ok := by
    intro a ha m hm
    exact (List.mem_append.mp hm).elim (hok m) (h.ok a ha m)

theorem Sends.bind {x : Call σ α} {f : α → Call σ β} (hx : ∃ sent, Sends c s sent (x.run s))
    (hf : ∀ a s₁, x.run s = (.ok a, s₁) → ∃ sent, Sends c s₁ sent ((f a).run s₁)) :
    ∃ sent, Sends c s sent ((x >>= f).run s) := by
  obtain ⟨sent, hsends⟩ := hx
  rcases run_eq_ok_or_error x s with ⟨a, s₁, hrun⟩ | ⟨failure, s₁, hrun⟩
  · rw [hrun] at hsends
    obtain ⟨sent', hsends'⟩ := hf a s₁ hrun
    rw [run_bind_of_ok hrun]
    exact ⟨sent ++ sent', hsends'.after hsends.history (hsends.ok a rfl)⟩
  · rw [hrun] at hsends
    rw [run_bind, hrun]
    exact ⟨sent, sends_failure hsends.history hsends.last⟩

theorem sends_authenticate (c : Client σ) (s : Session σ) :
    ∃ sent, Sends c s sent (c.authenticate.run s) := by
  rcases authenticate_cases c s with ⟨-, token, s', m, hrun, hstep, hok, -⟩ |
    ⟨-, failure, s', sent, hrun, hhistory, hlength, -⟩
  · rw [hrun]
    refine ⟨[m], .single hstep, List.forall_mem_nil _, ?_⟩
    intro a _ d hd
    obtain rfl := List.mem_singleton.mp hd
    exact hok
  · rw [hrun]
    refine ⟨sent, sends_failure hhistory ?_⟩
    have hnothing : sent.dropLast = [] := by
      rw [← List.length_eq_zero_iff, List.length_dropLast]
      omega
    rw [hnothing]
    exact List.forall_mem_nil _

/-- A client without a good login makes a new one, and this one does expire. -/
theorem ensureToken_cases (c : Client σ) (s : Session σ) :
    (∃ l, s.login = some l ∧ l.isGood s.now ∧ c.ensureToken.run s = (.ok l.token, s)) ∨
    (s.isAuthenticated = false ∧ c.ensureToken.run s = c.authenticate.run s) := by
  have hget : (get : Call σ (Session σ)).run s = (.ok s, s) := rfl
  cases hlogin : s.login with
  | none =>
      refine Or.inr ⟨by rw [Session.isAuthenticated, hlogin], ?_⟩
      rw [ensureToken, run_bind_of_ok hget, hlogin]
  | some l =>
      by_cases hgood : l.isGood s.now
      · exact Or.inl ⟨l, rfl, hgood, run_ensureToken hlogin hgood⟩
      · refine Or.inr ⟨by rw [Session.isAuthenticated, hlogin]; simpa using hgood, ?_⟩
        rw [ensureToken, run_bind_of_ok hget, hlogin]
        dsimp only
        rw [if_neg hgood]

theorem sends_ensureToken (c : Client σ) (s : Session σ) :
    ∃ sent, Sends c s sent (c.ensureToken.run s) := by
  rcases ensureToken_cases c s with ⟨l, -, -, hrun⟩ | ⟨-, hrun⟩
  · rw [hrun]
    exact ⟨[], sends_nothing _⟩
  · rw [hrun]
    exact sends_authenticate c s

/-- The token that a request is made with is that of a good login, and one that had to be made
expires. -/
theorem login_of_ensureToken {token : Value} (h : c.ensureToken.run s = (.ok token, s₁)) :
    ∃ l, s₁.login = some l ∧ l.isGood s₁.now ∧ l.token = token ∧
      (s.login = none → l.expiry.isSome) := by
  rcases ensureToken_cases c s with ⟨l, hlogin, hgood, hrun⟩ | ⟨-, hrun⟩
  · rw [h] at hrun
    obtain ⟨htoken, rfl⟩ := Prod.mk.inj hrun
    refine ⟨l, hlogin, hgood, (Except.ok.inj htoken).symm, ?_⟩
    intro hnone
    rw [hlogin] at hnone
    cases hnone
  · rcases authenticate_cases c s with ⟨-, token', s', m, hrun', -, -, hlogin⟩ |
      ⟨-, failure, s', sent, hrun', -⟩
    · rw [h, hrun'] at hrun
      obtain ⟨htoken, rfl⟩ := Prod.mk.inj hrun
      refine ⟨_, hlogin, ?_, (Except.ok.inj htoken).symm, fun _ => rfl⟩
      exact decide_eq_true (lt_add_of_pos_right s₁.now (by norm_num [loginLifetime]))
    · rw [h, hrun'] at hrun
      cases (Prod.mk.inj hrun).1

theorem eq_of_bearer_eq_ok {token : Value} {header : String} (h : c.bearer token = .ok header) :
    header = "Bearer " ++ token.display := by
  simp only [bearer] at h
  split at h
  · exact (Except.ok.inj h).symm
  · cases h

/-- The request for the resource at a path. -/
def resourceRequest (c : Client σ) (path : String) (parameters : List (String × Value))
    (authorization : String) : Request where
  method := .get
  address := c.address path
  parameters := c.form.sent parameters
  authorization := some authorization
  body := none

/-- A request that can be sent is sent once. -/
theorem run_ask_of_token {token : Value} {header : String}
    (hrun : c.ensureToken.run s = (.ok token, s₁)) (hheader : c.bearer token = .ok header) :
    (c.ask path parameters).run s =
      ((c.answer (c.resourceRequest path parameters header) s₁).mapError (.unreachable path),
        c.after (c.resourceRequest path parameters header) s₁) := by
  have hbearer : (ExceptT.mk (pure (c.bearer token)) : Call σ String).run s₁ =
      (.ok header, s₁) := by
    rw [hheader]
    rfl
  rw [ask, run_bind_of_ok hrun, run_bind_of_ok hbearer]
  refine (run_bind_of_ok (run_send (c.resourceRequest path parameters header))).trans ?_
  cases c.answer (c.resourceRequest path parameters header) s₁ with
  | error reason => rfl
  | ok r => rfl

/-- With a token that no header can hold, nothing is sent. -/
theorem run_ask_of_unsendable {token : Value} {failure : Failure}
    (hrun : c.ensureToken.run s = (.ok token, s₁)) (hheader : c.bearer token = .error failure) :
    (c.ask path parameters).run s = (.error failure, s₁) := by
  have hbearer : (ExceptT.mk (pure (c.bearer token)) : Call σ String).run s₁ =
      (.error failure, s₁) := by
    rw [hheader]
    rfl
  rw [ask, run_bind_of_ok hrun, run_bind, hbearer]

/-- What asking comes to: either it ends before the request is sent, or the request is sent in the
name of a good login. -/
theorem ask_cases (c : Client σ) (path : String) (parameters : List (String × Value))
    (s : Session σ) :
    (∃ failure s' sent, (c.ask path parameters).run s = (.error failure, s') ∧
      Sends c s sent ((.error failure, s') : Except Failure Response × Session σ)) ∨
    ∃ sent s₁ l request, History c s sent s₁ ∧ (∀ m ∈ sent, ¬m.IsFailedLogin) ∧
      s₁.SendsAs l request ∧ (s.login = none → l.expiry.isSome) ∧
      (c.ask path parameters).run s =
        ((c.answer request s₁).mapError (.unreachable path), c.after request s₁) := by
  obtain ⟨sent, hsends⟩ := sends_ensureToken c s
  rcases run_eq_ok_or_error c.ensureToken s with ⟨token, s₁, hrun⟩ | ⟨failure, s₁, hrun⟩
  · obtain ⟨l, hlogin, hgood, rfl, hexpires⟩ := login_of_ensureToken hrun
    rw [hrun] at hsends
    have hok := hsends.ok l.token rfl
    cases hheader : c.bearer l.token with
    | error failure =>
        exact Or.inl ⟨failure, s₁, sent, run_ask_of_unsendable hrun hheader,
          sends_failure hsends.history hsends.last⟩
    | ok header =>
        have hsent : s₁.SendsAs l (c.resourceRequest path parameters header) := {
          stored := hlogin
          good := hgood
          method := rfl
          authorization := congrArg some (eq_of_bearer_eq_ok hheader) }
        exact Or.inr ⟨sent, s₁, l, _, hsends.history, hok, hsent, hexpires,
          run_ask_of_token hrun hheader⟩
  · rw [hrun] at hsends
    refine Or.inl ⟨failure, s₁, sent, ?_, sends_failure hsends.history hsends.last⟩
    rw [ask, run_bind, hrun]

/-- Asking keeps the login, as a client may that is not told that the login is rejected or that had
to make it first. -/
theorem sends_ask (c : Client σ) (path : String) (parameters : List (String × Value))
    (h : ∀ r s', (c.ask path parameters).run s = (.ok r, s') → r.status = 401 → s.login = none) :
    ∃ sent, Sends c s sent ((c.ask path parameters).run s) := by
  rcases ask_cases c path parameters s with ⟨failure, s', sent, hrun, hsends⟩ |
    ⟨sent, s₁, l, request, hhistory, hok, hsent, hexpires, hrun⟩
  · rw [hrun]
    exact ⟨sent, hsends⟩
  · have hkept : (c.sent request s₁).IsRejected → l.expiry.isSome := by
      rintro ⟨-, r, hr, hstatus⟩
      rw [show c.answer request s₁ = .ok r from hr] at hrun
      exact hexpires (h r _ hrun hstatus)
    have hasked : Sends c s₁ [c.sent request s₁] ((c.ask path parameters).run s) := by
      rw [hrun]
      refine ⟨.single (.asked hsent hkept), List.forall_mem_nil _, ?_⟩
      intro a _ m hm
      obtain rfl := List.mem_singleton.mp hm
      exact not_isFailedLogin_sent hsent
    exact ⟨_, hasked.after hhistory hok⟩

/-- Asking in the name of a login that is rejected is all that is sent until it is given up. -/
theorem history_of_rejected {r : Response} {s' : Session σ}
    (hrun : (c.ask path parameters).run s = (.ok r, s')) (hstatus : r.status = 401) :
    ∃ sent, History c s sent { s' with login := none } ∧ ∀ m ∈ sent, ¬m.IsFailedLogin := by
  rcases ask_cases c path parameters s with ⟨failure, s', sent, hrun', -⟩ |
    ⟨sent, s₁, l, request, hhistory, hok, hsent, -, hrun'⟩
  · rw [hrun] at hrun'
    cases (Prod.mk.inj hrun').1
  · rw [hrun] at hrun'
    obtain ⟨hresult, rfl⟩ := Prod.mk.inj hrun'
    have hrejected : (c.sent request s₁).IsRejected :=
      ⟨hsent.method, r, mapError_eq_ok_iff.mp hresult.symm, hstatus⟩
    refine ⟨sent ++ [c.sent request s₁], hhistory.append (.single (.rejected hsent hrejected)), ?_⟩
    intro m hm
    rcases List.mem_append.mp hm with hm | hm
    · exact hok m hm
    · obtain rfl := List.mem_singleton.mp hm
      exact not_isFailedLogin_sent hsent

theorem sends_fetch (c : Client σ) (path : String) (parameters : List (String × Value))
    (s : Session σ) : ∃ sent, Sends c s sent ((c.fetch path parameters).run s) := by
  by_cases hrejected : ∃ r s₁, (c.ask path parameters).run s = (.ok r, s₁) ∧ r.status = 401
  · obtain ⟨r, s₁, hrun, hstatus⟩ := hrejected
    obtain ⟨sent, hhistory, hok⟩ := history_of_rejected hrun hstatus
    have hagain : ∃ sent', Sends c { s₁ with login := none } sent'
        ((c.ask path parameters >>= fun r => ExceptT.mk (pure (granted path r))).run
          { s₁ with login := none }) :=
      Sends.bind (sends_ask c path parameters fun _ _ _ _ => rfl)
        fun r s' _ => ⟨[], sends_nothing _⟩
    obtain ⟨sent', hsends⟩ := hagain
    rw [fetch, run_bind_of_ok hrun, if_pos hstatus]
    exact ⟨sent ++ sent', hsends.after hhistory hok⟩
  · push Not at hrejected
    rw [fetch]
    apply Sends.bind
    · exact sends_ask c path parameters
        fun r s' hrun hstatus => absurd hstatus (hrejected r s' hrun)
    · intro r s₁ hrun
      rw [if_neg (hrejected r s₁ hrun)]
      exact ⟨[], sends_nothing _⟩

theorem sends_pagesFrom (c : Client σ) (path : String) (parameters : List (String × Value))
    (patience page : Nat) (read : List Value) (s : Session σ) :
    ∃ sent, Sends c s sent ((c.pagesFrom path parameters patience page read).run s) := by
  induction patience generalizing page read s with
  | zero => exact ⟨[], sends_nothing _⟩
  | succ patience ih =>
      rw [pagesFrom]
      apply Sends.bind (sends_fetch c path _ s)
      intro r s₁ _
      apply Sends.bind ⟨[], sends_nothing (pageElements r)⟩
      intro items s₂ _
      apply Sends.bind ⟨[], sends_nothing (c.isLast r items (read ++ items).length)⟩
      intro last s₃ _
      split
      · exact ⟨[], sends_nothing _⟩
      · exact ih _ _ s₃

/-! ## Runs -/

/-- What a client can be used for, and the time that goes by. -/
inductive Action where
  | wait (seconds : Rat) (h : 0 ≤ seconds)
  | authenticate
  | resource (path : String) (parameters : List (String × Value))
  | listing (path : String) (parameters : List (String × Value))
  | issues (project : Value)
  | userStories (project : Value)
  | tasks (story : Value)
  | projectNamed (name : Value)

/-- The session after an action, whatever its call ends with. -/
def act (c : Client σ) (s : Session σ) : Action → Session σ
  | .wait seconds _ => s.advance seconds
  | .authenticate => (c.authenticate.run s).2
  | .resource path parameters => ((c.fetch path parameters).run s).2
  | .listing path parameters => ((c.fetchAllPages path parameters).run s).2
  | .issues project => ((c.issues project).run s).2
  | .userStories project => ((c.userStories project).run s).2
  | .tasks story => ((c.tasks story).run s).2
  | .projectNamed name => ((c.projectNamed name).run s).2

/-- The session after some actions. -/
def perform (c : Client σ) (s : Session σ) (actions : List Action) : Session σ :=
  actions.foldl c.act s

theorem history_act (c : Client σ) (s : Session σ) {action : Action}
    (hcall : ∀ seconds h, action ≠ .wait seconds h) :
    ∃ sent, History c s sent (c.act s action) ∧ ∀ m ∈ sent.dropLast, ¬m.IsFailedLogin := by
  have hsends : ∀ {α : Type} {call : Call σ α}, (∃ sent, Sends c s sent (call.run s)) →
      ∃ sent, History c s sent (call.run s).2 ∧ ∀ m ∈ sent.dropLast, ¬m.IsFailedLogin := by
    rintro α call ⟨sent, hsends⟩
    exact ⟨sent, hsends.history, hsends.last⟩
  cases action with
  | wait seconds h => exact absurd rfl (hcall seconds h)
  | authenticate => exact hsends (sends_authenticate c s)
  | resource path parameters => exact hsends (sends_fetch c path parameters s)
  | listing path parameters => exact hsends (sends_pagesFrom c path parameters _ _ _ s)
  | issues project => exact hsends (sends_pagesFrom c _ _ _ _ _ s)
  | userStories project => exact hsends (sends_pagesFrom c _ _ _ _ _ s)
  | tasks story => exact hsends (sends_pagesFrom c _ _ _ _ _ s)
  | projectNamed name =>
      exact hsends (Sends.bind (sends_fetch c _ _ s) fun r s₁ _ => ⟨[], sends_nothing (content r)⟩)

/-- The requests that a client sends in a run: those of one call after the other. -/
inductive Run (c : Client σ) : Session σ → List Action → List Sent → Session σ → Prop where
  | nil {s : Session σ} : Run c s [] [] s
  | wait {s s' : Session σ} {seconds : Rat} {h : 0 ≤ seconds} {actions : List Action}
      {sent : List Sent} :
      Run c (s.advance seconds) actions sent s' → Run c s (.wait seconds h :: actions) sent s'
  | call {s s' : Session σ} {action : Action} {actions : List Action} {sent sent' : List Sent} :
      History c s sent (c.act s action) → Run c (c.act s action) actions sent' s' →
      Run c s (action :: actions) (sent ++ sent') s'

theorem run_perform (c : Client σ) (s : Session σ) (actions : List Action) :
    ∃ sent, Run c s actions sent (c.perform s actions) := by
  induction actions generalizing s with
  | nil => exact ⟨[], .nil⟩
  | cons action actions ih =>
      obtain ⟨sent', hrest⟩ := ih (c.act s action)
      by_cases hwait : ∃ seconds h, action = .wait seconds h
      · obtain ⟨seconds, h, rfl⟩ := hwait
        exact ⟨sent', .wait hrest⟩
      · push Not at hwait
        obtain ⟨sent, hhistory, -⟩ := history_act c s hwait
        exact ⟨sent ++ sent', .call hhistory hrest⟩

theorem Run.recorded {s s' : Session (σ × List Exchange)} {actions : List Action}
    (h : Run c.traced s actions sent s') :
    s'.network.2 = s.network.2 ++ sent.map Sent.toExchange := by
  induction h with
  | nil => rw [List.map_nil, List.append_nil]
  | wait _ ih => exact ih
  | call hhistory _ ih => rw [ih, hhistory.recorded, List.map_append, List.append_assoc]

/-- What each history keeps, a whole run keeps. -/
theorem Run.allAuthorized {settings : Settings} {past : List Sent} {actions : List Action}
    (hrun : Run c s actions sent s') (h : Accounted settings past s) :
    AllAuthorized settings past sent := by
  induction hrun generalizing past with
  | nil => exact allAuthorized_nil settings past
  | @wait s s' seconds hseconds _ _ _ ih => exact ih (h.advance hseconds)
  | call hhistory _ ih =>
      obtain ⟨hsent, hnext⟩ := hhistory.keeps h
      exact hsent.append (ih hnext)

/-! ## Tokens -/

/-- A stored login that is good was either there from the start, or it is the latest one and not
older than a day. -/
theorem Origin.token_cases {settings : Settings} {past : List Sent} {now : Rat} {l : Login}
    (h : Origin settings past now l) (hgood : l.isGood now) :
    (∃ text, settings.authToken = some text ∧ l.token = .string text ∧
      ∀ d ∈ past, ¬d.IsRejected) ∨
    ∃ older login newer, past = older ++ login :: newer ∧ login.token? = some l.token ∧
      (∀ d ∈ newer, d.token? = none) ∧ login.answered ≤ now ∧ now < login.answered + 86400 := by
  cases h with
  | @configured token htoken _ hpast =>
      exact Or.inl ⟨token, htoken, rfl, fun d hd => (hpast d hd).2⟩
  | @latest older newer login token hpast htoken hnewer hnow =>
      exact Or.inr ⟨older, login, newer, hpast, htoken, hnewer, hnow, of_decide_eq_true hgood⟩

/-- If the login that a request needs fails, the request is not sent. -/
theorem run_ask_of_login_fails {failure : Failure} (hlogin : s.isAuthenticated = false)
    (hrun : c.authenticate.run s = (.error failure, s')) :
    (c.ask path parameters).run s = (.error failure, s') := by
  have hensure : c.ensureToken.run s = (.error failure, s') := by
    rcases ensureToken_cases c s with ⟨l, hl, hgood, -⟩ | ⟨-, hensure⟩
    · rw [Session.isAuthenticated, hl] at hlogin
      exact absurd hgood (Bool.eq_false_iff.mp hlogin)
    · exact hensure.trans hrun
  rw [ask, run_bind, hensure]

theorem run_fetch_of_login_fails {failure : Failure} (hlogin : s.isAuthenticated = false)
    (hrun : c.authenticate.run s = (.error failure, s')) :
    (c.fetch path parameters).run s = (.error failure, s') := by
  rw [fetch, run_bind, run_ask_of_login_fails hlogin hrun]

theorem run_fetch_of_second_login_fails {r : Response} {failure : Failure}
    (hask : (c.ask path parameters).run s = (.ok r, s₁)) (hstatus : r.status = 401)
    (hrun : c.authenticate.run { s₁ with login := none } = (.error failure, s')) :
    (c.fetch path parameters).run s = (.error failure, s') := by
  have hforget : (modify fun s => { s with login := none } : Call σ PUnit).run s₁ =
      (.ok PUnit.unit, { s₁ with login := none }) := rfl
  rw [fetch, run_bind_of_ok hask, if_pos hstatus, run_bind_of_ok hforget, run_bind,
    run_ask_of_login_fails rfl hrun]

/-- A login fails exactly for one of the reasons there are, and then it leaves what is stored. -/
theorem loginFails_iff (c : Client σ) (s : Session σ) :
    (c.LoginFails s ↔ ∃ failure s', c.authenticate.run s = (.error failure, s')) ∧
    ∀ failure s', c.authenticate.run s = (.error failure, s') → s'.login = s.login := by
  rcases authenticate_cases c s with ⟨hfails, token, s', m, hrun, -⟩ |
    ⟨hfails, failure, s', sent, hrun, -, -, hlogin⟩
  · have hsucceeds : ∀ failure s', c.authenticate.run s ≠ (.error failure, s') := by
      intro failure s'' hrun'
      rw [hrun] at hrun'
      cases (Prod.mk.inj hrun').1
    refine ⟨iff_of_false hfails ?_, fun failure s'' hrun' => absurd hrun' (hsucceeds failure s'')⟩
    rintro ⟨failure, s'', hrun'⟩
    exact hsucceeds failure s'' hrun'
  · refine ⟨iff_of_true hfails ⟨failure, s', hrun⟩, ?_⟩
    intro failure' s'' hrun'
    rw [hrun] at hrun'
    rw [← (Prod.mk.inj hrun').2]
    exact hlogin

/-- A login that fails is the last thing that the call of an action sends. -/
theorem act_stops (c : Client σ) (s : Session (σ × List Exchange)) (action : Action) :
    ∃ sent, (c.traced.act s action).network.2 = s.network.2 ++ sent ∧
      ∀ before e after, sent = before ++ e :: after → e.IsFailedLogin → after = [] := by
  by_cases hwait : ∃ seconds h, action = .wait seconds h
  · obtain ⟨seconds, h, rfl⟩ := hwait
    refine ⟨[], (List.append_nil _).symm, ?_⟩
    intro before e after hsent
    exact absurd hsent.symm (List.append_ne_nil_of_right_ne_nil _ (List.cons_ne_nil e after))
  · push Not at hwait
    obtain ⟨sent, hhistory, hlast⟩ := history_act c.traced s hwait
    refine ⟨sent.map Sent.toExchange, hhistory.recorded, ?_⟩
    intro before e after hsent hfails
    by_contra hafter
    have he : e ∈ (sent.map Sent.toExchange).dropLast := by
      rw [hsent, List.dropLast_append_of_ne_nil (List.cons_ne_nil e after),
        List.dropLast_cons_of_ne_nil hafter]
      exact List.mem_append_right _ List.mem_cons_self
    rw [← List.map_dropLast] at he
    obtain ⟨m, hm, rfl⟩ := List.mem_map.mp he
    exact hlast m hm hfails

/-- However a client is used and whatever it is answered, each request to be given something carries
the token that is stored at its time, which is not empty.  That is the configured one, as long as
nothing was answered with 401, or the one of the latest successful login, less than a day ago.  If
the login that a request needs fails, no request is sent any more.  A login fails for one of the
reasons there are, and what is stored stays as it is. -/
theorem requests_carry_current_token (c : Client σ) (now : Rat) (network : σ)
    (actions : List Action) :
    (∃ sent,
      Run c.traced (Session.start c.settings now (network, [])) actions sent
        (c.traced.perform (Session.start c.settings now (network, [])) actions) ∧
      (c.traced.perform (Session.start c.settings now (network, [])) actions).network.2 =
        sent.map Sent.toExchange ∧
      ∀ past m later, sent = past ++ m :: later → m.request.method = .get →
        ∃ token expiry, m.login = some ⟨token, expiry⟩ ∧ token.isTruthy ∧
          m.request.authorization = some ("Bearer " ++ token.display) ∧
          ((∃ text, c.settings.authToken = some text ∧ token = .string text ∧
              ∀ d ∈ past, ¬d.IsRejected) ∨
            ∃ older login newer, past = older ++ login :: newer ∧ login.token? = some token ∧
              (∀ d ∈ newer, d.token? = none) ∧
              login.answered ≤ m.now ∧ m.now < login.answered + 86400)) ∧
    (∀ (s : Session (σ × List Exchange)) (action : Action),
      ∃ sent, (c.traced.act s action).network.2 = s.network.2 ++ sent ∧
        ∀ before e after, sent = before ++ e :: after → e.IsFailedLogin → after = []) ∧
    (∀ (s s' : Session σ) (failure : Failure), s.isAuthenticated = false →
      c.authenticate.run s = (.error failure, s') →
      ∀ path parameters, (c.fetch path parameters).run s = (.error failure, s')) ∧
    (∀ (s s₁ s' : Session σ) (failure : Failure) path parameters r,
      (c.ask path parameters).run s = (.ok r, s₁) → r.status = 401 →
      c.authenticate.run { s₁ with login := none } = (.error failure, s') →
      (c.fetch path parameters).run s = (.error failure, s')) ∧
    ∀ s : Session σ,
      (c.LoginFails s ↔ ∃ failure s', c.authenticate.run s = (.error failure, s')) ∧
      ∀ failure s', c.authenticate.run s = (.error failure, s') → s'.login = s.login := by
  refine ⟨?_, act_stops c, ?_, ?_, loginFails_iff c⟩
  · obtain ⟨sent, hrun⟩ :=
      run_perform c.traced (Session.start c.settings now (network, [])) actions
    refine ⟨sent, hrun, hrun.recorded, ?_⟩
    intro past m later hsent hget
    obtain ⟨l, hlogin, hgood, hheader, horigin⟩ :=
      hrun.allAuthorized (accounted_start c.settings now (network, [])) past m later hsent hget
    exact ⟨l.token, l.expiry, hlogin, horigin.isTruthy, hheader, horigin.token_cases hgood⟩
  · intro s s' failure hlogin hrun path parameters
    exact run_fetch_of_login_fails hlogin hrun
  · intro s s₁ s' failure path parameters r hask hstatus hrun
    exact run_fetch_of_second_login_fails hask hstatus hrun

end Client

end IssueQuery.Remote
