import IssueQuery.Proofs.Outcome
import IssueQuery.Remote.Source
import Mathlib.Algebra.Order.Ring.Rat

/-!
# What a client sends, and in whose name

A client changes its login in two places only: a login that succeeds replaces it, and a request that
the tracker rejects ends it.  So the requests that have been sent tell where a stored login comes
from.  As long as none of them was a successful login or rejected, it is the one of the settings;
after that it is the latest successful login.  This is what each step of a client keeps.
-/

namespace IssueQuery.Remote

open Http Outcome

/-! ## Logins that fail -/

/-- The token in what arrives of a login. -/
def newToken? : Delivery → Option Value
  | .ok r => (Client.tokenOf r).toOption
  | .error _ => none

/-- What arrives of a login that fails. -/
inductive GivesNoToken : Delivery → Prop where
  | unreachable {reason : String} : GivesNoToken (.error reason)
  | refused {r : Response} : 400 ≤ r.status → GivesNoToken (.ok r)
  | unreadable {r : Response} {e : Json.ReadError} : r.body = .error e → GivesNoToken (.ok r)
  | noFields {r : Response} {v : Value} :
      r.body = .ok v → (∀ fields, v ≠ .object fields) → GivesNoToken (.ok r)
  | noToken {r : Response} {fields : List (String × Value)} :
      r.body = .ok (.object fields) → ¬((Value.object fields).get "auth_token").isTruthy →
      GivesNoToken (.ok r)

theorem newToken?_eq_some_iff {r : Response} {token : Value} :
    newToken? (.ok r) = some token ↔
      r.status < 400 ∧ token.isTruthy ∧
        ∃ fields, r.body = .ok (.object fields) ∧
          (Value.object fields).get "auth_token" = token := by
  rw [newToken?, toOption_eq_some_iff]
  by_cases hrefused : r.isRefusal
  · have hstatus : ¬r.status < 400 := by simpa [Response.isRefusal] using hrefused
    simp [Client.tokenOf, hrefused, hstatus]
  · have hstatus : r.status < 400 := by simpa [Response.isRefusal] using hrefused
    rw [Client.tokenOf, if_neg hrefused]
    cases hbody : r.body with
    | error e => simp
    | ok v =>
        cases v with
        | object fields =>
            by_cases htruthy : ((Value.object fields).get "auth_token").isTruthy
            · simp only [if_pos htruthy, Except.ok.injEq, Value.object.injEq, hstatus, true_and]
              constructor
              · rintro rfl
                exact ⟨htruthy, fields, rfl, rfl⟩
              · rintro ⟨-, _, rfl, h⟩
                exact h
            · simp only [if_neg htruthy, reduceCtorEq, Except.ok.injEq, Value.object.injEq,
                false_iff]
              rintro ⟨-, htoken, _, rfl, rfl⟩
              exact htruthy htoken
        | _ => simp

theorem isTruthy_of_newToken? {delivery : Delivery} {token : Value}
    (h : newToken? delivery = some token) : token.isTruthy := by
  cases delivery with
  | error reason => cases h
  | ok r => exact (newToken?_eq_some_iff.mp h).2.1

theorem newToken?_eq_none_iff {delivery : Delivery} :
    newToken? delivery = none ↔ GivesNoToken delivery := by
  constructor
  · intro hnone
    cases delivery with
    | error reason => exact .unreachable
    | ok r =>
        by_cases hstatus : 400 ≤ r.status
        · exact .refused hstatus
        · cases hbody : r.body with
          | error e => exact .unreadable hbody
          | ok v =>
              by_cases hobject : ∃ fields, v = .object fields
              · obtain ⟨fields, rfl⟩ := hobject
                apply GivesNoToken.noToken hbody
                intro htruthy
                have hsome := newToken?_eq_some_iff.mpr
                  ⟨Nat.lt_of_not_le hstatus, htruthy, fields, hbody, rfl⟩
                rw [hnone] at hsome
                cases hsome
              · exact .noFields hbody fun fields hv => hobject ⟨fields, hv⟩
  · intro hfails
    rw [Option.eq_none_iff_forall_ne_some]
    intro token hsome
    cases hfails with
    | unreachable => cases hsome
    | refused hstatus => exact Nat.not_lt.mpr hstatus (newToken?_eq_some_iff.mp hsome).1
    | unreadable hbody =>
        obtain ⟨-, -, fields, hobject, -⟩ := newToken?_eq_some_iff.mp hsome
        rw [hbody] at hobject
        cases hobject
    | noFields hbody hno =>
        obtain ⟨-, -, fields, hobject, -⟩ := newToken?_eq_some_iff.mp hsome
        rw [hbody, Except.ok.injEq] at hobject
        exact hno fields hobject
    | noToken hbody hfalsy =>
        obtain ⟨-, htruthy, fields, hobject, rfl⟩ := newToken?_eq_some_iff.mp hsome
        rw [hbody, Except.ok.injEq, Value.object.injEq] at hobject
        rw [hobject] at hfalsy
        exact hfalsy htruthy

namespace Exchange

/-- The token that a successful login gives. -/
def token? (e : Exchange) : Option Value :=
  match e.request.method with
  | .post => newToken? e.delivery
  | .get => none

/-- The request is a login, and it fails. -/
def IsFailedLogin (e : Exchange) : Prop :=
  e.request.method = .post ∧ GivesNoToken e.delivery

/-- The request is made in the name of a login that the tracker rejects. -/
def IsRejected (e : Exchange) : Prop :=
  e.request.method = .get ∧ ∃ r, e.delivery = .ok r ∧ r.status = 401

end Exchange

/-- An exchange, with the login that was stored and the time when its request was sent. -/
structure Sent extends Exchange where
  login : Option Login
  now : Rat
  /-- The time when the request was answered. -/
  answered : Rat

/-- A request in the name of a stored login that is still good. -/
structure Session.SendsAs {σ : Type} (s : Session σ) (l : Login) (request : Request) : Prop where
  stored : s.login = some l
  good : l.isGood s.now
  method : request.method = .get
  authorization : request.authorization = some ("Bearer " ++ l.token.display)

/-! ## Steps -/

namespace Client

variable {σ : Type}

/-- A request that is sent in a session, and what arrives of it. -/
def sent (c : Client σ) (request : Request) (s : Session σ) : Sent where
  request
  delivery := c.answer request s
  login := s.login
  now := s.now
  answered := (c.after request s).now

theorem now_le_after (c : Client σ) (request : Request) (s : Session σ) :
    s.now ≤ (c.after request s).now :=
  le_add_of_nonneg_right (c.delay request s.network).property

theorem not_isFailedLogin_sent {c : Client σ} {s : Session σ} {l : Login} {request : Request}
    (h : s.SendsAs l request) : ¬(c.sent request s).IsFailedLogin := by
  rintro ⟨hmethod, -⟩
  rw [sent, h.method] at hmethod
  cases hmethod

/-- What a client can do with its login when it sends a request. -/
inductive Step (c : Client σ) : Session σ → Sent → Session σ → Prop where
  | loggedIn {s : Session σ} {request : Request} {token : Value} :
      request.method = .post → newToken? (c.answer request s) = some token →
      Step c s (c.sent request s) { c.after request s with
        login := some ⟨token, some ((c.after request s).now + loginLifetime)⟩ }
  | notLoggedIn {s : Session σ} {request : Request} :
      request.method = .post → newToken? (c.answer request s) = none →
      Step c s (c.sent request s) (c.after request s)
  /-- The login of the settings is never kept when it is rejected. -/
  | asked {s : Session σ} {l : Login} {request : Request} :
      s.SendsAs l request → ((c.sent request s).IsRejected → l.expiry.isSome) →
      Step c s (c.sent request s) (c.after request s)
  | rejected {s : Session σ} {l : Login} {request : Request} :
      s.SendsAs l request → (c.sent request s).IsRejected →
      Step c s (c.sent request s) { c.after request s with login := none }

/-- The requests that a client sends on its way from one session to another. -/
inductive History (c : Client σ) : Session σ → List Sent → Session σ → Prop where
  | nil {s : Session σ} : History c s [] s
  | send {s s' s'' : Session σ} {m : Sent} {sent : List Sent} :
      Step c s m s' → History c s' sent s'' → History c s (m :: sent) s''

variable {c : Client σ} {s s' s'' : Session σ} {m : Sent} {sent sent' : List Sent}

theorem History.append (h : History c s sent s') (h' : History c s' sent' s'') :
    History c s (sent ++ sent') s'' := by
  induction h with
  | nil => exact h'
  | send hstep _ ih => exact .send hstep (ih h')

theorem History.single (h : Step c s m s') : History c s [m] s' :=
  .send h .nil

/-- A client that keeps a list of its exchanges puts the one of each step on it. -/
theorem Step.recorded {s s' : Session (σ × List Exchange)} (h : Step c.traced s m s') :
    s'.network.2 = s.network.2 ++ [m.toExchange] := by
  cases h with
  | loggedIn _ _ => rfl
  | notLoggedIn _ _ => rfl
  | asked _ _ => rfl
  | rejected _ _ => rfl

theorem History.recorded {s s' : Session (σ × List Exchange)} (h : History c.traced s sent s') :
    s'.network.2 = s.network.2 ++ sent.map Sent.toExchange := by
  induction h with
  | nil => rw [List.map_nil, List.append_nil]
  | send hstep _ ih =>
      rw [ih, hstep.recorded, List.append_assoc, List.map_cons, List.singleton_append]

/-! ## Where a login comes from -/

/-- Where a stored login comes from, told by what has been sent up to now. -/
inductive Origin (settings : Settings) (past : List Sent) (now : Rat) : Login → Prop where
  | configured {token : String} :
      settings.authToken = some token → token.isEmpty = false →
      (∀ m ∈ past, m.token? = none ∧ ¬m.IsRejected) →
      Origin settings past now ⟨.string token, none⟩
  | latest {older newer : List Sent} {login : Sent} {token : Value} :
      past = older ++ login :: newer → login.token? = some token →
      (∀ m ∈ newer, m.token? = none) → login.answered ≤ now →
      Origin settings past now ⟨token, some (login.answered + loginLifetime)⟩

variable {settings : Settings} {past : List Sent} {l : Login}

theorem Origin.advance {now later : Rat} (h : Origin settings past now l) (hlater : now ≤ later) :
    Origin settings past later l := by
  cases h with
  | configured htoken hne hpast => exact .configured htoken hne hpast
  | latest hpast htoken hnewer hnow => exact .latest hpast htoken hnewer (hnow.trans hlater)

/-- What is sent without a successful login does not change where a login comes from, unless it is
the configured one and is rejected. -/
theorem Origin.keep {now : Rat} (h : Origin settings past now l) (hm : m.token? = none)
    (hkept : m.IsRejected → l.expiry.isSome) : Origin settings (past ++ [m]) now l := by
  cases h with
  | configured htoken hne hpast =>
      apply Origin.configured htoken hne
      intro d hd
      rcases List.mem_append.mp hd with hd | hd
      · exact hpast d hd
      · obtain rfl := List.mem_singleton.mp hd
        exact ⟨hm, fun hrejected => Bool.false_ne_true (hkept hrejected)⟩
  | @latest older newer login token hpast htoken hnewer hnow =>
      have hpast' : past ++ [m] = older ++ login :: (newer ++ [m]) := by
        rw [hpast, List.append_assoc, List.cons_append]
      apply Origin.latest hpast' htoken _ hnow
      intro d hd
      rcases List.mem_append.mp hd with hd | hd
      · exact hnewer d hd
      · obtain rfl := List.mem_singleton.mp hd
        exact hm

theorem Origin.isTruthy {now : Rat} (h : Origin settings past now l) : l.token.isTruthy := by
  cases h with
  | configured _ hne _ => simp [Value.isTruthy, hne]
  | @latest _ _ login token _ htoken _ _ =>
      unfold Exchange.token? at htoken
      split at htoken
      · exact isTruthy_of_newToken? htoken
      · cases htoken

/-- The login of a session, if there is one, comes from what has been sent. -/
def Accounted (settings : Settings) (past : List Sent) (s : Session σ) : Prop :=
  ∀ l, s.login = some l → Origin settings past s.now l

theorem accounted_start (settings : Settings) (now : Rat) (network : σ) :
    Accounted settings [] (Session.start settings now network) := by
  intro l hlogin
  obtain ⟨token, htoken, rfl⟩ := Option.map_eq_some_iff.mp hlogin
  obtain ⟨htoken, hne⟩ := Option.filter_eq_some_iff.mp htoken
  exact .configured htoken (by simpa using hne) (List.forall_mem_nil _)

theorem Accounted.advance (h : Accounted settings past s) {seconds : Rat} (hseconds : 0 ≤ seconds) :
    Accounted settings past (s.advance seconds) := by
  intro l hl
  exact (h l hl).advance (le_add_of_nonneg_right hseconds)

/-- What is sent without a successful login leaves the login accounted for, although time goes
by. -/
theorem Accounted.after {request : Request} (h : Accounted settings past s)
    (hnone : (c.sent request s).token? = none)
    (hkept : ∀ l, s.login = some l → (c.sent request s).IsRejected → l.expiry.isSome) :
    Accounted settings (past ++ [c.sent request s]) (c.after request s) := by
  intro l hl
  exact ((h l hl).keep hnone (hkept l hl)).advance (now_le_after c request s)

theorem Accounted.step (h : Accounted settings past s) (hstep : Step c s m s') :
    Accounted settings (past ++ [m]) s' := by
  cases hstep with
  | @loggedIn request token hmethod htoken =>
      intro l hl
      obtain rfl := Option.some.inj hl
      have hm : (c.sent request s).token? = some token := by
        rw [Exchange.token?, sent, hmethod]
        exact htoken
      have hpast : past ++ [c.sent request s] = past ++ c.sent request s :: [] := rfl
      exact .latest hpast hm (List.forall_mem_nil _) (le_refl _)
  | @notLoggedIn request hmethod hnone =>
      have hm : (c.sent request s).token? = none := by
        rw [Exchange.token?, sent, hmethod]
        exact hnone
      apply h.after hm
      rintro l - ⟨hget, -⟩
      rw [sent, hmethod] at hget
      cases hget
  | @asked l request hsends hkept =>
      have hm : (c.sent request s).token? = none := by
        rw [Exchange.token?, sent, hsends.method]
      apply h.after hm
      intro l' hl'
      obtain rfl : l = l' := Option.some.inj (hsends.stored.symm.trans hl')
      exact hkept
  | rejected _ _ =>
      intro l hl
      cases hl

/-- A request to be given something is sent in the name of the login that is stored, which is still
good and comes from what was sent before. -/
def IsAuthorized (settings : Settings) (past : List Sent) (m : Sent) : Prop :=
  ∃ l, m.login = some l ∧ l.isGood m.now ∧
    m.request.authorization = some ("Bearer " ++ l.token.display) ∧ Origin settings past m.now l

theorem Accounted.isAuthorized (h : Accounted settings past s) (hstep : Step c s m s')
    (hget : m.request.method = .get) : IsAuthorized settings past m := by
  cases hstep with
  | loggedIn hmethod _ =>
      rw [sent, hmethod] at hget
      cases hget
  | notLoggedIn hmethod _ =>
      rw [sent, hmethod] at hget
      cases hget
  | @asked l request hsends _ =>
      exact ⟨l, hsends.stored, hsends.good, hsends.authorization, h l hsends.stored⟩
  | @rejected l request hsends _ =>
      exact ⟨l, hsends.stored, hsends.good, hsends.authorization, h l hsends.stored⟩

/-- All requests to be given something are authorized, each by what was sent before it. -/
def AllAuthorized (settings : Settings) (past sent : List Sent) : Prop :=
  ∀ before m after, sent = before ++ m :: after → m.request.method = .get →
    IsAuthorized settings (past ++ before) m

theorem allAuthorized_nil (settings : Settings) (past : List Sent) :
    AllAuthorized settings past [] := by
  intro before m after hsent
  exact absurd hsent.symm (List.append_ne_nil_of_right_ne_nil _ (List.cons_ne_nil m after))

theorem AllAuthorized.append (h : AllAuthorized settings past sent)
    (h' : AllAuthorized settings (past ++ sent) sent') :
    AllAuthorized settings past (sent ++ sent') := by
  intro before m after hsent hget
  rcases List.append_eq_append_iff.mp hsent with ⟨between, rfl, hsent'⟩ | ⟨rest, rfl, hrest⟩
  · rw [← List.append_assoc]
    exact h' between m after hsent' hget
  · cases rest with
    | nil =>
        rw [List.append_nil] at h'
        have hfirst := h' [] m after hrest.symm hget
        rwa [List.append_nil] at hfirst
    | cons d rest =>
        obtain ⟨rfl, -⟩ := List.cons.inj hrest
        exact h before m rest rfl hget

theorem Accounted.allAuthorized (h : Accounted settings past s) (hstep : Step c s m s') :
    AllAuthorized settings past [m] := by
  intro before d after hsent hget
  cases before with
  | nil =>
      obtain ⟨rfl, -⟩ := List.cons.inj hsent
      rw [List.append_nil]
      exact h.isAuthorized hstep hget
  | cons d' before =>
      obtain ⟨-, hnone⟩ := List.cons.inj hsent
      exact absurd hnone.symm (List.append_ne_nil_of_right_ne_nil _ (List.cons_ne_nil d after))

/-- What each step keeps, a whole history keeps. -/
theorem History.keeps (hhistory : History c s sent s') (h : Accounted settings past s) :
    AllAuthorized settings past sent ∧ Accounted settings (past ++ sent) s' := by
  induction hhistory generalizing past with
  | nil =>
      rw [List.append_nil]
      exact ⟨allAuthorized_nil settings past, h⟩
  | @send s s' s'' m sent hstep _ ih =>
      obtain ⟨hsent, hend⟩ := ih (h.step hstep)
      rw [List.append_assoc, List.singleton_append] at hend
      exact ⟨(h.allAuthorized hstep).append hsent, hend⟩

end Client

end IssueQuery.Remote
