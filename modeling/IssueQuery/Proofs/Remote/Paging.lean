import IssueQuery.Proofs.Http.Parameters
import IssueQuery.Proofs.Outcome
import IssueQuery.Proofs.Text.Decimal
import IssueQuery.Remote.Source
import Mathlib.Algebra.Order.Floor.Div

/-!
# Reading a listing page by page

A client asks for the pages of a listing in order and has to find out by itself which is the last
one.  A page that is not full is the last; so is one with which the number of records that the
tracker tells has been read.  Before page `k` the client has read the first `k - 1` pages, which
carries the argument: what it has read with page `k` is all of the listing exactly if there is no
page behind it that it would ask for.
-/

namespace IssueQuery.Remote

open Http Outcome

/-- The number of pages that a client asks for: up to the first page that is not full, or, if the
tracker tells the number of records, up to the last page with records, but at least one. -/
def pageCount (counted : Bool) (count size : Nat) : Nat :=
  if counted then max 1 (count ⌈/⌉ size) else count / size + 1

/-- The last page is the first one behind which the client stops. -/
theorem pageCount_le_iff {counted : Bool} {count size k : Nat} (hsize : 0 < size) (hk : 1 ≤ k) :
    pageCount counted count size ≤ k ↔
      count < k * size ∨ counted ∧ count ≤ k * size := by
  unfold pageCount
  cases counted with
  | false =>
      rw [if_neg Bool.false_ne_true, Nat.succ_le_iff, Nat.div_lt_iff_lt_mul hsize]
      simp
  | true =>
      rw [if_pos rfl, max_le_iff, ceilDiv_le_iff_le_mul hsize, Nat.mul_comm size k]
      have hlt : count < k * size → count ≤ k * size := Nat.le_of_lt
      simp only [hk, true_and]
      exact ⟨Or.inr, fun h => h.elim hlt id⟩

/-- The elements of a page of a listing. -/
def pageOf (listing : List Value) (size k : Nat) : List Value :=
  (listing.drop ((k - 1) * size)).take size

/-- The pages before page `k` and this page are the first `k` pages. -/
theorem take_append_pageOf (listing : List Value) (size : Nat) {k : Nat} (hk : 1 ≤ k) :
    listing.take ((k - 1) * size) ++ pageOf listing size k = listing.take (k * size) := by
  have hnext : (k - 1) * size + size = k * size := by
    rw [← Nat.succ_mul, Nat.succ_eq_add_one, Nat.sub_add_cancel hk]
  rw [pageOf, ← List.take_add, hnext]

theorem length_pageOf_lt_iff {listing : List Value} {size k : Nat} (hsize : 0 < size)
    (hk : 1 ≤ k) : (pageOf listing size k).length < size ↔ listing.length < k * size := by
  have hnext : (k - 1) * size + size = k * size := by
    rw [← Nat.succ_mul, Nat.succ_eq_add_one, Nat.sub_add_cancel hk]
  rw [pageOf, List.length_take, List.length_drop]
  omega

namespace Client

variable {σ : Type} {c : Client σ} {path : String} {parameters : List (String × Value)}
  {listing : List Value} {counted : Bool} {k : Nat}

/-! ## Requests for pages -/

/-- A request for page `k` in the name of a token, with all other parameters of the caller as they
are. -/
structure AsksPage (c : Client σ) (path : String) (parameters : List (String × Value))
    (token : Value) (k : Nat) (request : Request) : Prop where
  method : request.method = .get
  address : request.address = c.address path
  authorization : request.authorization = some ("Bearer " ++ token.display)
  body : request.body.isNone
  page : request.parameters.filter (·.1 = "page") = [("page", toString k)]
  size : request.parameters.filter (·.1 = "page_size") =
    [("page_size", toString c.settings.pageSize)]
  others : request.parameters.filter (fun sent => sent.1 ≠ "page" ∧ sent.1 ≠ "page_size") =
    (c.form.sent parameters).filter fun sent => sent.1 ≠ "page" ∧ sent.1 ≠ "page_size"

/-- The request that the client sends for a page. -/
def pageRequest (c : Client σ) (path : String) (parameters : List (String × Value))
    (token : Value) (k : Nat) : Request where
  method := .get
  address := c.address path
  parameters := c.form.sent (c.pageParameters parameters k)
  authorization := some ("Bearer " ++ token.display)
  body := none

theorem asksPage_pageRequest (c : Client σ) (path : String) (token : Value) (k : Nat)
    (hnames : (parameters.map (·.1)).Nodup) :
    c.AsksPage path parameters token k (c.pageRequest path parameters token k) where
  method := rfl
  address := by rw [pageRequest]
  authorization := rfl
  body := rfl
  page := by
    rw [pageRequest]
    refine (Form.filter_sent_insertField_of_not c.form (fun name => name = "page") rfl _ _).trans ?_
    rw [Form.filter_sent_insertField hnames, c.form.texts_nat]
    rfl
  size := by
    rw [pageRequest]
    refine (Form.filter_sent_insertField (Value.nodup_names_insertField hnames)).trans ?_
    rw [c.form.texts_nat]
    rfl
  others :=
    (Form.filter_sent_insertField_of_not c.form
      (fun name => name ≠ "page" ∧ name ≠ "page_size") rfl _ _).trans
      (Form.filter_sent_insertField_of_not c.form
        (fun name => name ≠ "page" ∧ name ≠ "page_size") rfl _ _)

/-! ## Trackers -/

/-- A response that gives page `k` of a listing, and the number of its elements if `counted`. -/
structure IsPage (c : Client σ) (listing : List Value) (counted : Bool) (k : Nat)
    (r : Response) : Prop where
  granted : r.status < 400
  body : r.body = .ok (.list (pageOf listing c.settings.pageSize k))
  count : r.header? "x-pagination-count" =
    if counted then some (toString listing.length) else none

/-- The tracker at the other end of the network has a listing at a path: whenever it is asked for
a page in the name of a token, it gives this page. -/
def Serves (c : Client σ) (path : String) (parameters : List (String × Value)) (token : Value)
    (listing : List Value) (counted : Bool) : Prop :=
  ∀ k, 1 ≤ k → ∀ request, c.AsksPage path parameters token k request →
    ∀ s, ∃ r s', (c.deliver request).run s = (.ok r, s') ∧ c.IsPage listing counted k r

/-- A tracker tells the number of all records, or none. -/
theorem IsPage.count?_eq {r : Response} (h : c.IsPage listing counted k r) :
    count? r = .ok (if counted then some listing.length else none) := by
  rw [count?, h.count]
  cases counted with
  | false => rfl
  | true =>
      rw [if_pos rfl]
      dsimp only
      rw [Text.isDigitSigns_toString, Text.all_isDecimal_toString, Text.decimalValue_toString]
      rfl

/-- Behind page `k` the client stops exactly if this is the last page. -/
theorem IsPage.isLast_eq {r : Response} (h : c.IsPage listing counted k r)
    (hsize : 0 < c.settings.pageSize) (hk : 1 ≤ k) :
    c.isLast r (pageOf listing c.settings.pageSize k)
        (listing.take (k * c.settings.pageSize)).length =
      .ok (decide (pageCount counted listing.length c.settings.pageSize ≤ k)) := by
  have hempty : (pageOf listing c.settings.pageSize k).isEmpty →
      (pageOf listing c.settings.pageSize k).length < c.settings.pageSize := by
    intro hnil
    rw [List.isEmpty_iff.mp hnil]
    exact hsize
  rw [isLast]
  by_cases hshort : listing.length < k * c.settings.pageSize
  · have hlast : pageCount counted listing.length c.settings.pageSize ≤ k :=
      (pageCount_le_iff hsize hk).mpr (Or.inl hshort)
    rw [if_pos (by simp [(length_pageOf_lt_iff hsize hk).mpr hshort]), decide_eq_true hlast]
    rfl
  · have hfull : ¬(pageOf listing c.settings.pageSize k).length < c.settings.pageSize :=
      mt (length_pageOf_lt_iff hsize hk).mp hshort
    rw [if_neg (by simpa [hfull] using mt hempty hfull), h.count?_eq, ok_bind]
    cases counted with
    | false =>
        have hmore : ¬pageCount false listing.length c.settings.pageSize ≤ k := by
          simp [pageCount_le_iff hsize hk, hshort]
        rw [decide_eq_false hmore]
        rfl
    | true =>
        have hlast : pageCount true listing.length c.settings.pageSize ≤ k ↔
            listing.length ≤ (listing.take (k * c.settings.pageSize)).length := by
          simp [pageCount_le_iff hsize hk, hshort]
        rw [decide_eq_decide.mpr hlast]
        rfl

theorem IsPage.pageElements_eq {r : Response} (h : c.IsPage listing counted k r) :
    pageElements r = .ok (pageOf listing c.settings.pageSize k) := by
  rw [pageElements, content, h.body]
  show elements _ = _
  cases hpage : pageOf listing c.settings.pageSize k with
  | nil => rfl
  | cons v vs => rfl

/-! ## Requests that take their time -/

/-- The seconds that some requests may take, one made when the one before is answered. -/
inductive MayTake (c : Client σ) : Nat → Rat → Prop where
  | nothing : MayTake c 0 0
  | request {n : Nat} {seconds : Rat} (request : Request) (network : σ) :
      MayTake c n seconds → MayTake c (n + 1) ((c.delay request network).val + seconds)

/-- A login stays good for as long as a number of requests are made. -/
def Outlasts (c : Client σ) (l : Login) (now : Rat) (n : Nat) : Prop :=
  ∀ m < n, ∀ seconds, c.MayTake m seconds → l.isGood (now + seconds)

/-- Requests that are answered at once take no time. -/
theorem MayTake.eq_zero {n : Nat} {seconds : Rat}
    (hinstant : ∀ request network, (c.delay request network).val = 0)
    (h : c.MayTake n seconds) : seconds = 0 := by
  induction h with
  | nothing => rfl
  | request request network _ ih => rw [hinstant, ih, add_zero]

theorem Outlasts.isGood {l : Login} {now : Rat} {n : Nat} (h : c.Outlasts l now n) (hn : 0 < n) :
    l.isGood now := by
  have hgood := h 0 hn 0 .nothing
  rwa [add_zero] at hgood

/-- If requests are answered at once, a login only has to be good. -/
theorem outlasts_iff_of_instant {l : Login} {now : Rat} {n : Nat} (hn : 0 < n)
    (hinstant : ∀ request network, (c.delay request network).val = 0) :
    c.Outlasts l now n ↔ l.isGood now := by
  refine ⟨fun h => h.isGood hn, fun hgood m _ seconds hseconds => ?_⟩
  rw [hseconds.eq_zero hinstant, add_zero]
  exact hgood

/-- Behind a request, a login has to stay good for one request less. -/
theorem Outlasts.after {l : Login} {s : Session σ} {n : Nat} (h : c.Outlasts l s.now (n + 1))
    (request : Request) : c.Outlasts l (c.after request s).now n := by
  intro m hm seconds hseconds
  have hgood := h (m + 1) (Nat.succ_lt_succ hm) _ (.request request s.network hseconds)
  rwa [← add_assoc] at hgood

/-! ## Steps of a listing -/

variable {s : Session σ} {l : Login} {r : Response}

theorem bearer_eq_ok {token : Value} (h : ∀ ch ∈ token.display.toList, ch.toNat < 128) :
    c.bearer token = .ok ("Bearer " ++ token.display) := by
  have hscheme : "Bearer ".toList.all fun ch => ch.toNat < 128 := by decide
  have hheader : ∀ ch ∈ ("Bearer " ++ token.display).toList, ch.toNat < 128 := by
    intro ch hch
    rw [String.toList_append, List.mem_append] at hch
    exact hch.elim (fun hch => of_decide_eq_true (List.all_eq_true.mp hscheme ch hch)) (h ch)
  rw [bearer]
  exact if_pos (c.form.holds_of_ascii _ hheader)

/-- A client with a good login does not log in again. -/
theorem run_ensureToken (hlogin : s.login = some l) (hgood : l.isGood s.now) :
    c.ensureToken.run s = (.ok l.token, s) := by
  have hget : (get : Call σ (Session σ)).run s = (.ok s, s) := rfl
  rw [ensureToken, run_bind_of_ok hget, hlogin]
  dsimp only
  rw [if_pos hgood]
  rfl

theorem run_send (request : Request) :
    (c.send request).run s = (.ok (c.answer request s), c.after request s) := rfl

/-- One page is fetched by one request. -/
theorem run_fetch_page (hlogin : s.login = some l) (hgood : l.isGood s.now)
    (hascii : ∀ ch ∈ l.token.display.toList, ch.toNat < 128)
    (hanswer : c.answer (c.pageRequest path parameters l.token k) s = .ok r)
    (hgranted : r.status < 400) :
    (c.fetch path (c.pageParameters parameters k)).run s =
      (.ok r, c.after (c.pageRequest path parameters l.token k) s) := by
  have hask : (c.ask path (c.pageParameters parameters k)).run s =
      (.ok r, c.after (c.pageRequest path parameters l.token k) s) := by
    have hbearer : (ExceptT.mk (pure (c.bearer l.token)) : Call σ String).run s =
        (.ok ("Bearer " ++ l.token.display), s) := by
      rw [bearer_eq_ok hascii]
      rfl
    have hsend : (c.send (c.pageRequest path parameters l.token k)).run s =
        (.ok (.ok r), c.after (c.pageRequest path parameters l.token k) s) := by
      rw [run_send, hanswer]
    rw [ask, run_bind_of_ok (run_ensureToken hlogin hgood), run_bind_of_ok hbearer]
    exact run_bind_of_ok hsend
  have hstatus : r.status ≠ 401 := by omega
  have hrefusal : r.isRefusal = false := by
    simpa [Response.isRefusal] using hgranted
  rw [fetch, run_bind_of_ok hask, if_neg hstatus, granted, hrefusal]
  rfl

/-- With page `k` the client has read the first `k` pages, and it stops if this is the last one. -/
theorem run_pagesFrom_succ (patience : Nat) (hk : 1 ≤ k) (hsize : 0 < c.settings.pageSize)
    (hlogin : s.login = some l) (hgood : l.isGood s.now)
    (hascii : ∀ ch ∈ l.token.display.toList, ch.toNat < 128)
    (hanswer : c.answer (c.pageRequest path parameters l.token k) s = .ok r)
    (hpage : c.IsPage listing counted k r) :
    (c.pagesFrom path parameters (patience + 1) k
        (listing.take ((k - 1) * c.settings.pageSize))).run s =
      if pageCount counted listing.length c.settings.pageSize ≤ k then
        (.ok listing, c.after (c.pageRequest path parameters l.token k) s)
      else
        (c.pagesFrom path parameters patience (k + 1)
          (listing.take (k * c.settings.pageSize))).run
            (c.after (c.pageRequest path parameters l.token k) s) := by
  have hpure : ∀ {α : Type} {x : Except Failure α} {a : α} (s : Session σ), x = .ok a →
      (ExceptT.mk (pure x) : Call σ α).run s = (.ok a, s) := by
    rintro α x a s rfl
    rfl
  rw [pagesFrom, run_bind_of_ok (run_fetch_page hlogin hgood hascii hanswer hpage.granted),
    run_bind_of_ok (hpure _ hpage.pageElements_eq)]
  dsimp only
  rw [take_append_pageOf listing c.settings.pageSize hk,
    run_bind_of_ok (hpure _ (hpage.isLast_eq hsize hk))]
  by_cases hlast : pageCount counted listing.length c.settings.pageSize ≤ k
  · rw [if_pos (decide_eq_true hlast), if_pos hlast, List.take_of_length_le]
    · rfl
    · exact ((pageCount_le_iff hsize hk).mp hlast).elim Nat.le_of_lt And.right
  · rw [if_neg (by simpa using hlast), if_neg hlast]

/-- A client that keeps a list of its exchanges puts each request on it with its answer. -/
theorem after_traced (c : Client σ) (request : Request) (s : Session (σ × List Exchange)) :
    c.traced.after request s = { s with
      now := s.now + (c.delay request s.network.1).val
      network := (((c.deliver request).run s.network.1).2,
        s.network.2 ++ [⟨request, c.traced.answer request s⟩]) } := rfl

theorem MayTake.of_traced {n : Nat} {seconds : Rat} (h : c.traced.MayTake n seconds) :
    c.MayTake n seconds := by
  induction h with
  | nothing => exact .nothing
  | request request network _ ih => exact .request request network.1 ih

theorem Outlasts.traced {now : Rat} {n : Nat} (h : c.Outlasts l now n) :
    c.traced.Outlasts l now n :=
  fun m hm seconds hseconds => h m hm seconds hseconds.of_traced

/-- A tracker with a listing gives each page of it to a client that keeps a list. -/
theorem Serves.exists_answer {token : Value}
    (h : c.Serves path parameters token listing counted)
    (hnames : (parameters.map (·.1)).Nodup) (hk : 1 ≤ k) (s : Session (σ × List Exchange)) :
    ∃ r, c.traced.answer (c.traced.pageRequest path parameters token k) s = .ok r ∧
      c.traced.IsPage listing counted k r := by
  obtain ⟨r, network, hdeliver, hpage⟩ := h k hk _
    (asksPage_pageRequest c path token k hnames) s.network.1
  exact ⟨r, congrArg Prod.fst hdeliver, hpage.granted, hpage.body, hpage.count⟩

/-- From page `k` on, the client asks for this page and the `n` pages behind it, one after the
other. -/
theorem run_pagesFrom (hnames : (parameters.map (·.1)).Nodup) (hsize : 0 < c.settings.pageSize)
    (hascii : ∀ ch ∈ l.token.display.toList, ch.toNat < 128)
    (hserves : c.Serves path parameters l.token listing counted) (patience n : Nat) (hk : 1 ≤ k)
    (hpages : k + n = pageCount counted listing.length c.settings.pageSize)
    (hpatience : n ≤ patience) (s : Session (σ × List Exchange)) (hlogin : s.login = some l)
    (hgood : c.traced.Outlasts l s.now (n + 1)) :
    ∃ seconds network exchanges,
      c.traced.MayTake (n + 1) seconds ∧
      (c.traced.pagesFrom path parameters (patience + 1) k
          (listing.take ((k - 1) * c.settings.pageSize))).run s =
        (.ok listing, { s with
          now := s.now + seconds, network := (network, s.network.2 ++ exchanges) }) ∧
      exchanges.map (·.request) =
        (List.range' k (n + 1)).map (c.pageRequest path parameters l.token) := by
  induction n generalizing k patience s with
  | zero =>
      obtain ⟨r, hanswer, hpage⟩ := hserves.exists_answer hnames hk s
      have hstep := run_pagesFrom_succ (c := c.traced) patience hk hsize hlogin
        (hgood.isGood (Nat.succ_pos _)) hascii hanswer hpage
      have hlast : pageCount counted listing.length c.traced.settings.pageSize ≤ k :=
        Nat.le_of_eq hpages.symm
      rw [if_pos hlast, after_traced] at hstep
      let request := c.pageRequest path parameters l.token k
      refine ⟨(c.delay request s.network.1).val + 0,
        ((c.deliver request).run s.network.1).2, [⟨request, c.traced.answer request s⟩],
        .request _ s.network .nothing, ?_, rfl⟩
      rw [add_zero]
      exact hstep
  | succ n ih =>
      obtain ⟨r, hanswer, hpage⟩ := hserves.exists_answer hnames hk s
      obtain ⟨patience, rfl⟩ : ∃ fewer, patience = fewer + 1 := ⟨patience - 1, by omega⟩
      have hstep := run_pagesFrom_succ (c := c.traced) (patience + 1) hk hsize hlogin
        (hgood.isGood (Nat.succ_pos _)) hascii hanswer hpage
      have hmore : ¬pageCount counted listing.length c.traced.settings.pageSize ≤ k := by
        show ¬pageCount counted listing.length c.settings.pageSize ≤ k
        omega
      rw [if_neg hmore] at hstep
      obtain ⟨seconds, network, exchanges, hseconds, hrest, hrequests⟩ :=
        ih patience (Nat.le_add_left 1 k) (by omega) (by omega)
          (c.traced.after (c.traced.pageRequest path parameters l.token k) s) hlogin
          (hgood.after _)
      rw [Nat.add_sub_cancel] at hrest
      have hrun := hstep.trans hrest
      rw [after_traced] at hrun
      dsimp only at hrun
      rw [add_assoc s.now, List.append_assoc] at hrun
      let request := c.pageRequest path parameters l.token k
      refine ⟨(c.delay request s.network.1).val + seconds, network,
        ⟨request, c.traced.answer request s⟩ :: exchanges, .request _ s.network hseconds, ?_, ?_⟩
      · exact hrun
      · have hmore : List.range' k (n + 1 + 1) = k :: List.range' (k + 1) (n + 1) :=
          List.range'_succ
        rw [List.map_cons, hrequests, hmore, List.map_cons]

/-! ## A tracker with one listing -/

/-- The page that a request asks for. -/
def pageAsked (request : Request) : Nat :=
  match request.parameters.filter (·.1 = "page") with
  | [(_, text)] => Text.decimalValue text.toList
  | _ => 1

/-- The client of a tracker that has one listing and gives the pages of it, whatever else a request
says. -/
def ofListing (settings : Settings) (listing : List Value) (counted : Bool) : Client Unit where
  settings
  deliver request := pure (.ok {
    status := 200
    body := .ok (.list (pageOf listing settings.pageSize (pageAsked request)))
    headers := if counted then [("X-Pagination-Count", toString listing.length)] else [] })
  patience := pageCount counted listing.length settings.pageSize

theorem serves_ofListing (settings : Settings) (listing : List Value) (counted : Bool)
    (path : String) (parameters : List (String × Value)) (token : Value) :
    (ofListing settings listing counted).Serves path parameters token listing counted := by
  intro k hk request hrequest s
  have hasked : pageAsked request = k := by
    rw [pageAsked, hrequest.page]
    exact Text.decimalValue_toString k
  refine ⟨_, _, rfl, ?_⟩
  exact {
    granted := (by decide : 200 < 400)
    body := by rw [hasked]; rfl
    count := by
      cases counted with
      | false => rfl
      | true =>
          have hname : "X-Pagination-Count".toLower = "x-pagination-count" := by cbv
          simp [Response.header?, hname] }

/-! ## Listings -/

/-- The calls of a client that read a listing: that of any path, and those of the listings that the
program needs. -/
inductive Lists (c : Client σ) :
    Call σ (List Value) → String → List (String × Value) → Prop where
  | pages (path : String) (parameters : List (String × Value)) :
      Lists c (c.fetchAllPages path parameters) path parameters
  | issues (project : Value) : Lists c (c.issues project) "/issues" [("project", project)]
  | userStories (project : Value) :
      Lists c (c.userStories project) "/userstories" [("project", project)]
  | tasks (story : Value) : Lists c (c.tasks story) "/tasks" [("user_story", story)]

theorem Lists.eq_fetchAllPages {call : Call σ (List Value)} (h : c.Lists call path parameters) :
    call = c.fetchAllPages path parameters := by
  cases h with
  | pages => rfl
  | issues => rfl
  | userStories => rfl
  | tasks => rfl

theorem one_le_pageCount (counted : Bool) (count size : Nat) :
    1 ≤ pageCount counted count size := by
  unfold pageCount
  split
  · exact le_max_left _ _
  · exact Nat.succ_pos _

/-- A client with a login that stays good and whose token is made of ASCII characters reads a
listing completely and in order.  It asks once for each page from the first one on, in the name of
its login and with the parameters of the caller, and keeps the login.  The time that goes by is that
of these requests.  The end is found by the pages alone: any patience that suffices for all of them
will do. -/
theorem listing_is_complete (c : Client σ) (path : String) (parameters : List (String × Value))
    (listing : List Value) (counted : Bool) (l : Login) (s : Session (σ × List Exchange))
    (call : Call (σ × List Exchange) (List Value))
    (hcall : c.traced.Lists call path parameters) (hnames : (parameters.map (·.1)).Nodup)
    (hsize : 0 < c.settings.pageSize) (hlogin : s.login = some l)
    (hgood : c.Outlasts l s.now (pageCount counted listing.length c.settings.pageSize))
    (hascii : ∀ ch ∈ l.token.display.toList, ch.toNat < 128)
    (hserves : c.Serves path parameters l.token listing counted)
    (hpatience : pageCount counted listing.length c.settings.pageSize ≤ c.patience) :
    ∃ seconds network exchanges,
      c.MayTake (pageCount counted listing.length c.settings.pageSize) seconds ∧
      call.run s = (.ok listing, { s with
        now := s.now + seconds, network := (network, s.network.2 ++ exchanges) }) ∧
      exchanges.length = pageCount counted listing.length c.settings.pageSize ∧
      ∀ i (hi : i < exchanges.length),
        c.AsksPage path parameters l.token (i + 1) exchanges[i].request := by
  obtain ⟨n, hn⟩ : ∃ n, n + 1 = pageCount counted listing.length c.settings.pageSize :=
    ⟨_, Nat.sub_add_cancel (one_le_pageCount _ _ _)⟩
  obtain ⟨patience, hpatience'⟩ : ∃ patience, patience + 1 = c.patience :=
    ⟨c.patience - 1, by omega⟩
  rw [← hn] at hgood
  obtain ⟨seconds, network, exchanges, hseconds, hrun, hrequests⟩ := run_pagesFrom hnames hsize
    hascii hserves patience n (Nat.le_refl 1) (by omega) (by omega) s hlogin
    hgood.traced
  have hlength : exchanges.length = n + 1 := by
    rw [← List.length_map (·.request), hrequests, List.length_map, List.length_range']
  rw [← hn]
  refine ⟨seconds, network, exchanges, hseconds.of_traced, ?_, hlength, ?_⟩
  · have hnothing : listing.take ((1 - 1) * c.settings.pageSize) = [] := by simp
    rw [hnothing, hpatience'] at hrun
    rw [hcall.eq_fetchAllPages]
    exact hrun
  · intro i hi
    have hrequest : exchanges[i].request = c.pageRequest path parameters l.token (i + 1) := by
      have hi' : i < (exchanges.map (·.request)).length := by rwa [List.length_map]
      have hmapped : (exchanges.map (·.request))[i] = exchanges[i].request := List.getElem_map _
      rw [← hmapped]
      simp only [hrequests, List.getElem_map, List.getElem_range']
      rw [Nat.one_mul, Nat.add_comm]
    rw [hrequest]
    exact asksPage_pageRequest c path l.token (i + 1) hnames

theorem listing_is_complete_three :
    ∃ exchanges,
      ((ofListing { authToken := some "t", pageSize := 2 }
          ((List.range 3).map fun n => .object [("id", .nat n)]) true).traced.issues (.nat 1)).run
          (Session.start { authToken := some "t", pageSize := 2 } 0 ((), [])) =
        (.ok ((List.range 3).map fun n => .object [("id", .nat n)]),
          Session.start { authToken := some "t", pageSize := 2 } 0 ((), exchanges)) ∧
      exchanges.length = 2 := by
  have hascii : ∀ ch ∈ (Value.string "t").display.toList, ch.toNat < 128 := by
    have hchars : (Value.string "t").display.toList = ['t'] := by cbv
    rw [hchars, List.forall_mem_singleton]
    decide
  have hserves := serves_ofListing { authToken := some "t", pageSize := 2 }
    ((List.range 3).map fun n => .object [("id", .nat n)]) true "/issues"
    [("project", .nat 1)] (.string "t")
  obtain ⟨seconds, network, exchanges, hseconds, hrun, hlength, -⟩ := listing_is_complete _ _ _ _ _
    ⟨.string "t", none⟩ (Session.start { authToken := some "t", pageSize := 2 } 0 ((), [])) _
    (.issues (.nat 1)) (by decide) (by decide) rfl
    ((outlasts_iff_of_instant (one_le_pageCount _ _ _) fun _ _ => rfl).mpr rfl) hascii hserves
    (Nat.le_refl _)
  obtain rfl := hseconds.eq_zero fun _ _ => rfl
  rw [add_zero] at hrun
  exact ⟨exchanges, hrun, hlength⟩

/-- A login whose token is not made of ASCII characters is good, but a client cannot send anything
in its name: it gives up before it has asked for a page. -/
theorem listing_fails_beyond_ascii :
    (Session.start { authToken := some "é", pageSize := 2 } 0 ()).isAuthenticated ∧
    (ofListing { authToken := some "é", pageSize := 2 } [.object [("id", .nat 1)]] false).Serves
      "/issues" [("project", .nat 1)] (.string "é") [.object [("id", .nat 1)]] false ∧
    ((ofListing { authToken := some "é", pageSize := 2 } [.object [("id", .nat 1)]]
        false).traced.fetchAllPages "/issues" [("project", .nat 1)]).run
        (Session.start { authToken := some "é", pageSize := 2 } 0 ((), [])) =
      (.error (.unsendable "Bearer é"),
        Session.start { authToken := some "é", pageSize := 2 } 0 ((), [])) := by
  refine ⟨rfl, serves_ofListing _ _ _ _ _ _, ?_⟩
  rfl

end Client

end IssueQuery.Remote
