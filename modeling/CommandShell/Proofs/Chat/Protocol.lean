import CommandShell.Chat.Client
import CommandShell.Url.Web

/-!
# The protocol of a conversation

What is sent in a conversation, for every server and whatever makes up its addresses: one
submission, the requests for the state of the job that it named, and after a fault one request to
cancel that job.
-/

namespace CommandShell.Chat

variable {τ υ : Type} {web : Web υ}

namespace Exchange

@[simp] theorem record_journal (x : Exchange τ) (e : Event) :
    (x.record e).journal = x.journal ++ [e] := rfl

@[simp] theorem record_bound (x : Exchange τ) (e : Event) : (x.record e).bound = x.bound := rfl

@[simp] theorem record_now (x : Exchange τ) (e : Event) : (x.record e).now = x.now := rfl

@[simp] theorem leaving_journal (x : Exchange τ) (url : String) (replies : List Reply) :
    (x.leaving url replies).journal = x.journal := by
  unfold leaving
  split <;> rfl

@[simp] theorem leaving_bound (x : Exchange τ) (url : String) (replies : List Reply) :
    (x.leaving url replies).bound = x.bound := by
  unfold leaving
  split <;> rfl

@[simp] theorem leaving_now (x : Exchange τ) (url : String) (replies : List Reply) :
    (x.leaving url replies).now = x.now := by
  unfold leaving
  split <;> rfl

@[simp] theorem send_journal (x : Exchange τ) (method : Method) (url : String)
    (body : Option Json) :
    (x.send method url body).journal = x.journal ++ [.request method url body] := by
  simp [send]

@[simp] theorem send_bound (x : Exchange τ) (method : Method) (url : String)
    (body : Option Json) : (x.send method url body).bound = x.bound := by
  simp [send]

@[simp] theorem send_now (x : Exchange τ) (method : Method) (url : String)
    (body : Option Json) : (x.send method url body).now = x.now := by
  simp [send]

end Exchange

/-! ## Replies -/

/-- A response with one of some status codes, whose body reads as an object with these fields. -/
def Reply.Holds (reply : Reply) (bound : Json.Bound) (codes : List Int)
    (fields : List (String × Json)) : Prop :=
  ∃ status body, reply = .response status body ∧ status ∈ codes ∧
    readBody bound body = .ok (.obj fields)

/-- A reply that names a job. -/
def NamesJob (bound : Json.Bound) (reply : Reply) (id : String) : Prop :=
  ∃ fields, reply.Holds bound [200, 201] fields ∧ fields.lookup "id" = some (.str id) ∧ id ≠ ""

/-- The states of a job that is at its end. -/
def settledStates : List String := ["ok", "fail", "timeout", "cancelled"]

/-- A reply by which a job is not at its end. -/
def IsPending (bound : Json.Bound) (reply : Reply) : Prop :=
  ∃ fields, reply.Holds bound [200] fields ∧
    ∀ s ∈ settledStates, fields.lookup "state" ≠ some (.str s)

/-- A reply by which a job ended well, with the text that it came to. -/
def Answers (bound : Json.Bound) (reply : Reply) (text : String) : Prop :=
  ∃ fields result, reply.Holds bound [200] fields ∧ fields.lookup "state" = some (.str "ok") ∧
    fields.lookup "result" = some (.obj result) ∧ result.lookup "text" = some (.str text)

variable {bound : Json.Bound} {url : υ} {reply : Reply} {body : String}

@[simp] theorem Reply.not_holds_failure {message : String} {codes : List Int}
    {fields : List (String × Json)} : ¬ (Reply.failure message).Holds bound codes fields := by
  simp [Reply.Holds]

@[simp] theorem Reply.holds_response_iff {status : Int} {codes : List Int}
    {fields : List (String × Json)} :
    (Reply.response status body).Holds bound codes fields ↔
      status ∈ codes ∧ readBody bound body = .ok (.obj fields) := by
  constructor
  · rintro ⟨_, _, hreply, hread⟩
    obtain ⟨rfl, rfl⟩ := Reply.response.inj hreply
    exact hread
  · exact fun h => ⟨status, body, rfl, h⟩

@[simp] theorem field?_obj {fields : List (String × Json)} {key : String} :
    (Json.obj fields).field? key = fields.lookup key := rfl

theorem jobOfBody_eq_ok_iff {id : String} :
    jobOfBody bound body = .ok id ↔
      ∃ fields, readBody bound body = .ok (.obj fields) ∧
        fields.lookup "id" = some (.str id) ∧ id ≠ "" := by
  unfold jobOfBody
  cases readBody bound body with
  | error f => simp
  | ok v =>
      cases v with
      | obj fields =>
          simp only [needFields, Json.field?, Except.ok.injEq, Json.obj.injEq, exists_eq_left']
          split
          · grind [String.isEmpty_iff]
          · grind
      | _ => simp [needFields]

theorem jobOf_eq_ok_iff {id : String} :
    jobOf web bound url reply = .ok id ↔ web.sourceFault? url = none ∧ NamesJob bound reply id := by
  unfold jobOf
  cases reply with
  | failure message => simp [NamesJob]
  | response status body =>
      cases web.sourceFault? url with
      | some f => simp
      | none =>
          by_cases hrefused : status ≠ 200 ∧ status ≠ 201
          · simp [hrefused, NamesJob]
          · have hcode : status ∈ [200, 201] := by grind
            simp only [hrefused, if_false, jobOfBody_eq_ok_iff, NamesJob,
              Reply.holds_response_iff, hcode, true_and]

@[simp] theorem statusOf_failure {message : String} :
    statusOf web bound url (.failure message) = .failed (.problem (.pollFailed message)) := rfl

/-- What a reply says about a job is said by an object in a response, unless it is a fault. -/
theorem statusOf_eq_iff {s : Status} (hs : ∀ f, s ≠ .failed f) :
    statusOf web bound url reply = s ↔
      web.sourceFault? url = none ∧
        ∃ fields, reply.Holds bound [200] fields ∧ statusOfObject (.obj fields) = s := by
  have hfault : ∀ f, ¬ Status.failed f = s := fun f h => hs f h.symm
  unfold statusOf
  cases reply with
  | failure message => simp [hfault]
  | response status body =>
      cases web.sourceFault? url with
      | some f => simp [hfault]
      | none =>
          by_cases hstatus : status = 200
          · simp only [hstatus, statusOfBody, Reply.holds_response_iff]
            cases readBody bound body with
            | error f => simp [hfault]
            | ok v => cases v <;> simp [hfault]
          · simp [hstatus, hfault]

theorem statusOfObject_eq_pending_iff {fields : List (String × Json)} :
    statusOfObject (.obj fields) = .pending ↔
      ∀ s ∈ settledStates, fields.lookup "state" ≠ some (.str s) := by
  simp only [statusOfObject, Json.field?, settledStates]
  grind

/-- A field of an inner object is one of an object that is there: what counts as absent has none. -/
theorem innerObject_field_iff {fields : List (String × Json)} {name key : String} {v : Json} :
    (∃ inner, innerObject (.obj fields) name = .ok inner ∧ inner.field? key = some v) ↔
      ∃ inner, fields.lookup name = some (.obj inner) ∧ inner.lookup key = some v := by
  simp only [innerObject, field?_obj]
  cases fields.lookup name with
  | none => simp
  | some f =>
      cases f with
      | obj inner => cases inner <;> simp [Json.isTruthy, needFields]
      | _ => simp only [needFields]; split <;> simp

theorem statusOfObject_eq_done_iff {fields : List (String × Json)} {text : String} :
    statusOfObject (.obj fields) = .done text ↔
      fields.lookup "state" = some (.str "ok") ∧ ∃ result,
        fields.lookup "result" = some (.obj result) ∧ result.lookup "text" = some (.str text) := by
  rw [← innerObject_field_iff]
  simp only [statusOfObject, field?_obj]
  split
  · rename_i hstate
    cases innerObject (.obj fields) "result" with
    | error f => simp
    | ok inner => grind
  case h_5 => grind
  all_goals
    rename_i hstate
    cases innerObject (.obj fields) "error" with
    | error f => simp [hstate]
    | ok e =>
        dsimp only
        split <;> simp [hstate]

theorem statusOf_eq_pending_iff :
    statusOf web bound url reply = .pending ↔
      web.sourceFault? url = none ∧ IsPending bound reply := by
  rw [statusOf_eq_iff (by simp), IsPending]
  simp only [statusOfObject_eq_pending_iff]

theorem statusOf_eq_done_iff {text : String} :
    statusOf web bound url reply = .done text ↔
      web.sourceFault? url = none ∧ Answers bound reply text := by
  rw [statusOf_eq_iff (by simp), Answers]
  simp only [statusOfObject_eq_done_iff]
  grind

/-! ## Polling -/

/-- Requests for the state of a job, with a wait between any two: one more request than waits. -/
def asked (url : String) (interval waits : Nat) : List Event :=
  (List.replicate (waits + 1) (.request .get url none)).intersperse (.sleep interval)

theorem asked_succ (url : String) (interval waits : Nat) :
    asked url interval (waits + 1) =
      .request .get url none :: .sleep interval :: asked url interval waits := rfl

example (url : String) : asked url 200 1 =
    [.request .get url none, .sleep 200, .request .get url none] := rfl

/-- The reply that a request meets, when some were sent before it. -/
def met (replies : List Reply) (earlier : Nat) : Reply :=
  replies[earlier]?.getD (.failure noReply)

@[simp] theorem met_nil (earlier : Nat) : met [] earlier = .failure noReply := rfl

@[simp] theorem met_cons_zero (reply : Reply) (rest : List Reply) :
    met (reply :: rest) 0 = reply := rfl

/-- How the state of a job is asked for. Every reply but the last one leaves it pending. The last
one settles what it comes to, unless there is to be no more waiting. -/
structure Polling (web : Web υ) (cfg : Config) (bound : Json.Bound) (url : υ) (replies : List Reply)
    (waits : Nat) (r : Except Fault String) : Prop where
  pending : ∀ m < waits, IsPending bound (met replies m)
  text_iff : ∀ text, r = .ok text ↔
    web.sourceFault? url = none ∧ Answers bound (met replies waits) text
  fault : ∀ f, r = .error f →
    statusOf web bound url (met replies waits) = .failed f ∨
      IsPending bound (met replies waits) ∧
        (f = .problem .timeout ∧ 0 < cfg.timeout ∨ f = .number .beyondFloat)

variable {cfg : Config} {rest : List Reply} {r : Except Fault String}

/-- A reply after which there is no more waiting. -/
theorem Polling.of_last {replies : List Reply}
    (htext : ∀ text, r = .ok text ↔ statusOf web bound url (met replies 0) = .done text)
    (hfault : ∀ f, r = .error f →
      statusOf web bound url (met replies 0) = .failed f ∨
        statusOf web bound url (met replies 0) = .pending ∧
          (f = .problem .timeout ∧ 0 < cfg.timeout ∨ f = .number .beyondFloat)) :
    Polling web cfg bound url replies 0 r where
  pending m hm := absurd hm m.not_lt_zero
  text_iff text := (htext text).trans statusOf_eq_done_iff
  fault f hf := (hfault f hf).imp_right fun h => ⟨(statusOf_eq_pending_iff.mp h.1).2, h.2⟩

theorem Polling.cons {waits : Nat} (h : IsPending bound reply)
    (hrest : Polling web cfg bound url rest waits r) :
    Polling web cfg bound url (reply :: rest) (waits + 1) r where
  pending
    | 0, _ => h
    | m + 1, hm => hrest.pending m (Nat.lt_of_succ_lt_succ hm)
  text_iff := hrest.text_iff
  fault := hrest.fault

/-- Every run of the polling loop, over whatever replies are left. -/
theorem poll_spec (web : Web υ) (clock : Clock τ) (cfg : Config) (url : υ) (deadline : τ)
    (replies : List Reply) (x : Exchange τ) :
    ∃ r left x' waits, poll web clock cfg url deadline replies x = (r, left, x') ∧
      x'.journal = x.journal ++ asked (web.text url) cfg.pollInterval waits ∧
      Polling web cfg x.bound url replies waits r := by
  -- On the replies: a pending one is the first of those that a run over the rest meets.
  induction replies generalizing x with
  | nil => exact ⟨_, _, _, 0, rfl, rfl, .of_last (by simp) (by simp)⟩
  | cons reply rest ih =>
      simp only [poll, Exchange.record_bound, Exchange.record_now]
      cases hstatus : statusOf web x.bound url reply with
      | done text => exact ⟨_, _, _, 0, rfl, rfl, .of_last (by simp [hstatus]) (by simp)⟩
      | failed f => exact ⟨_, _, _, 0, rfl, rfl, .of_last (by simp [hstatus]) (by simp [hstatus])⟩
      | pending =>
          by_cases htimeout : 0 < cfg.timeout ∧ clock.reached x.now deadline = true
          · simp only [htimeout]
            exact ⟨_, _, _, 0, rfl, rfl,
              .of_last (by simp [hstatus]) (by simp [hstatus, htimeout.1])⟩
          · simp only [htimeout]
            cases clock.after x.now cfg.pollInterval with
            | none => exact ⟨_, _, _, 0, rfl, rfl, .of_last (by simp [hstatus]) (by simp [hstatus])⟩
            | some now =>
                let next : Exchange τ :=
                  { (x.record (.request .get (web.text url) none)).record (.sleep cfg.pollInterval)
                    with now }
                obtain ⟨r, left, x', waits, hrun, hjournal, hpolling⟩ := ih next
                refine ⟨r, left, x', waits + 1, hrun, ?_,
                  .cons (statusOf_eq_pending_iff.mp hstatus).2 hpolling⟩
                rw [hjournal, asked_succ]
                simp [next]

/-- How a job that was named is followed, and what that comes to. -/
inductive Followed (web : Web υ) (cfg : Config) (base : υ) (id : String) (x : Exchange τ) :
    List Event → Except Fault String → Prop
  /-- Nothing is asked where the job has no address. -/
  | nowhere {f : Fault} : web.address base (jobPath id) = .error f →
      Followed web cfg base id x [] (.error f)
  | polled {url : υ} {waits : Nat} {r : Except Fault String} :
      web.address base (jobPath id) = .ok url →
      Polling web cfg x.bound url (x.repliesAt (web.text url)) waits r →
      Followed web cfg base id x (asked (web.text url) cfg.pollInterval waits) r

theorem follow_spec (web : Web υ) (clock : Clock τ) (cfg : Config) (base : υ) (id : String)
    (deadline : τ) (x : Exchange τ) :
    ∃ r x' events, follow web clock cfg base id deadline x = (r, x') ∧
      x'.journal = x.journal ++ events ∧ Followed web cfg base id x events r := by
  unfold follow
  cases haddress : web.address base (jobPath id) with
  | error f => exact ⟨_, _, [], rfl, by simp, .nowhere haddress⟩
  | ok url =>
      obtain ⟨r, left, x', waits, hrun, hjournal, hpolling⟩ :=
        poll_spec web clock cfg url deadline (x.repliesAt (web.text url)) x
      simp only [hrun]
      exact ⟨r, _, _, rfl, by rw [Exchange.leaving_journal, hjournal], .polled haddress hpolling⟩

/-! ## Whole conversations -/

/-- What it takes to send the submission, with the address that it goes to. -/
structure Submits (web : Web υ) (clock : Clock τ) (cfg : Config) (messages : Json) (x : Exchange τ)
    (base url : υ) : Prop where
  messages_ok : checkMessages messages = .ok ()
  deadline_ok : (clock.after x.now cfg.timeout).isSome = true
  base_eq : web.base cfg.baseUrl = .ok base
  url_eq : web.address base jobsPath = .ok url
  body_ok : bodyFault? x.bound (payload cfg messages) = none
  host_ok : web.hostFault? url = none

/-- A job that the submission yields. -/
def Yields (web : Web υ) (x : Exchange τ) (url : υ) (id : String) : Prop :=
  web.sourceFault? url = none ∧ NamesJob x.bound (x.nextReply (web.text url)) id

def submission (web : Web υ) (cfg : Config) (messages : Json) (url : υ) : Event :=
  .request .post (web.text url) (some (payload cfg messages))

/-- The courses that a conversation can take: all that is sent and waited for, and what it
comes to. -/
inductive Course (web : Web υ) (clock : Clock τ) (cfg : Config) (messages : Json) (x : Exchange τ) :
    List Event → Except Fault String → Prop
  /-- Nothing is sent where the submission cannot be. -/
  | unsent {f : Fault} : (∀ base url, ¬ Submits web clock cfg messages x base url) →
      Course web clock cfg messages x [] (.error f)
  /-- The submission yields no job, and nothing more is sent. -/
  | refused {base url : υ} {f : Fault} : Submits web clock cfg messages x base url →
      (∀ id, ¬ Yields web x url id) →
      Course web clock cfg messages x [submission web cfg messages url] (.error f)
  /-- The job comes to a text, and nothing is cancelled. -/
  | answered {base url : υ} {id text : String} {polling : List Event} :
      Submits web clock cfg messages x base url → Yields web x url id →
      Followed web cfg base id (x.send .post (web.text url) (some (payload cfg messages))) polling
        (.ok text) →
      Course web clock cfg messages x (submission web cfg messages url :: polling) (.ok text)
  /-- After a fault the job is cancelled once, at the end. The fault stays, if a response can be
  taken from the address to cancel at. -/
  | cancelled {base url cancelUrl : υ} {id : String} {polling : List Event} {f f' : Fault} :
      Submits web clock cfg messages x base url → Yields web x url id →
      Followed web cfg base id (x.send .post (web.text url) (some (payload cfg messages))) polling
        (.error f) →
      web.address base (cancelPath id) = .ok cancelUrl →
      (web.sourceFault? cancelUrl = none → f' = f) →
      Course web clock cfg messages x
        (submission web cfg messages url :: polling ++ [.request .post (web.text cancelUrl) none])
        (.error f')
  /-- After a fault nothing is cancelled where there is no address to do so at. -/
  | abandoned {base url : υ} {id : String} {polling : List Event} {f f' : Fault} :
      Submits web clock cfg messages x base url → Yields web x url id →
      Followed web cfg base id (x.send .post (web.text url) (some (payload cfg messages))) polling
        (.error f) →
      (∀ cancelUrl, web.address base (cancelPath id) ≠ .ok cancelUrl) →
      Course web clock cfg messages x (submission web cfg messages url :: polling) (.error f')

variable {clock : Clock τ} {messages : Json} {x : Exchange τ} {base : υ}

theorem submit_of_submits (h : Submits web clock cfg messages x base url) :
    submit web cfg base messages x =
      (jobOf web x.bound url (x.nextReply (web.text url)),
        x.send .post (web.text url) (some (payload cfg messages))) := by
  simp only [submit, h.url_eq, h.body_ok, h.host_ok]

theorem submit_of_not_submits {deadline : τ} (hmessages : checkMessages messages = .ok ())
    (hdeadline : clock.after x.now cfg.timeout = some deadline)
    (hbase : web.base cfg.baseUrl = .ok base)
    (h : ∀ url, ¬ Submits web clock cfg messages x base url) :
    ∃ f, submit web cfg base messages x = (.error f, x) := by
  unfold submit
  cases hurl : web.address base jobsPath with
  | error f => exact ⟨f, rfl⟩
  | ok url =>
      cases hbody : bodyFault? x.bound (payload cfg messages) with
      | some f => exact ⟨f, rfl⟩
      | none =>
          simp only
          cases hhost : web.hostFault? url with
          | some f => exact ⟨.address f, rfl⟩
          | none => exact absurd ⟨hmessages, by simp [hdeadline], hbase, hurl, hbody, hhost⟩ (h url)

theorem faultAfter_of_source (h : web.sourceFault? url = none) (f : Fault) (reply : Reply) :
    faultAfter web url f reply = f := by
  cases reply with
  | failure message => rfl
  | response status body => simp [faultAfter, h]

theorem cancel_of_address {id : String} (h : web.address base (cancelPath id) = .ok url) (f : Fault)
    (x : Exchange τ) :
    cancel web base id f x =
      (faultAfter web url f (x.nextReply (web.text url)), x.send .post (web.text url) none) := by
  unfold cancel
  rw [h]

theorem cancel_of_no_address {id : String} {f' : Fault}
    (h : web.address base (cancelPath id) = .error f') (f : Fault) (x : Exchange τ) :
    cancel web base id f x = (f', x) := by
  unfold cancel
  rw [h]

theorem converse_course (web : Web υ) (clock : Clock τ) (deadline : τ)
    (h : Submits web clock cfg messages x base url) :
    ∃ r x' events, converse web clock cfg base messages deadline x = (r, x') ∧
      x'.journal = x.journal ++ events ∧ Course web clock cfg messages x events r := by
  unfold converse
  rw [submit_of_submits h]
  cases hjob : jobOf web x.bound url (x.nextReply (web.text url)) with
  | error f =>
      refine ⟨_, _, _, rfl, Exchange.send_journal .., .refused h fun id hid => ?_⟩
      rw [jobOf_eq_ok_iff.mpr hid] at hjob
      cases hjob
  | ok id =>
      have hid : Yields web x url id := jobOf_eq_ok_iff.mp hjob
      obtain ⟨r, x₁, polling, hrun, hjournal, hfollowed⟩ :=
        follow_spec web clock cfg base id deadline
        (x.send .post (web.text url) (some (payload cfg messages)))
      have hsent : x₁.journal = x.journal ++ submission web cfg messages url :: polling := by
        rw [hjournal, Exchange.send_journal, List.append_assoc]
        rfl
      simp only [hrun]
      cases r with
      | ok text => exact ⟨_, _, _, rfl, hsent, .answered h hid hfollowed⟩
      | error f =>
          cases hcancel : web.address base (cancelPath id) with
          | error f' =>
              simp only [cancel_of_no_address hcancel]
              exact ⟨_, _, _, rfl, hsent, .abandoned h hid hfollowed (by simp [hcancel])⟩
          | ok cancelUrl =>
              simp only [cancel_of_address hcancel]
              refine ⟨_, _, _, rfl, ?_, .cancelled h hid hfollowed hcancel
                fun hsource => faultAfter_of_source hsource ..⟩
              rw [Exchange.send_journal, hsent, List.append_assoc]

/-- Every conversation takes one of the courses, whatever the server does. -/
theorem chat_course (web : Web υ) (clock : Clock τ) (cfg : Config) (messages : Json)
    (x : Exchange τ) :
    ∃ r x' events, chat web clock cfg messages x = (r, x') ∧
      x'.journal = x.journal ++ events ∧ Course web clock cfg messages x events r := by
  by_cases h : ∃ base url, Submits web clock cfg messages x base url
  · obtain ⟨base, url, h⟩ := h
    obtain ⟨deadline, hdeadline⟩ := Option.isSome_iff_exists.mp h.deadline_ok
    obtain ⟨r, x', events, hrun, hcourse⟩ := converse_course web clock deadline h
    refine ⟨r, x', events, ?_, hcourse⟩
    simpa only [chat, h.messages_ok, hdeadline, h.base_eq] using hrun
  · have hnone : ∀ base url, ¬ Submits web clock cfg messages x base url := by simpa using h
    suffices hunsent : ∃ f, chat web clock cfg messages x = (.error f, x) by
      obtain ⟨f, hf⟩ := hunsent
      exact ⟨_, _, [], hf, by simp, .unsent hnone⟩
    unfold chat
    cases hmessages : checkMessages messages with
    | error f => exact ⟨f, rfl⟩
    | ok _ =>
        cases hdeadline : clock.after x.now cfg.timeout with
        | none => exact ⟨_, rfl⟩
        | some deadline =>
            cases hbase : web.base cfg.baseUrl with
            | error f => exact ⟨_, rfl⟩
            | ok base =>
                obtain ⟨f, hf⟩ := submit_of_not_submits hmessages hdeadline hbase (hnone base)
                exact ⟨f, by simp [converse, hf]⟩

/-- One question to a server that gives some replies, with nothing before it. -/
def asking (baseUrl : String) (replies : List Reply) : Except Fault String × Exchange Nat :=
  ask Url.web millisecondClock ⟨baseUrl, 8000, 200, defaultModel⟩ "hi"
    (.inTurn replies millisecondClock.start)

/-- Nothing is sent without an address of the server. The fault of an address to cancel at hides
that of the polling. -/
theorem address_at_fault :
    (asking "http://h\nh" []).2.journal = [] ∧
    (let reply := Reply.response 201 "\x7b\"id\":\"a\\nb\"\x7d"
     NamesJob none reply "a\nb" ∧ (asking "http://h" [reply]).2.journal.length = 1) ∧
    (let reply := Reply.response 201 "\x7b\"id\":\"../../../[\"\x7d"
     NamesJob none reply "../../../[" ∧
       (asking "http:////h" [reply, .failure "lost", .response 200 ""]).1 ≠
         .error (.problem (.pollFailed "lost"))) := by
  have hnamed : ∀ body id, (jobOfBody none body).toOption = some id →
      NamesJob none (.response 201 body) id := by
    intro body id h
    cases hbody : jobOfBody none body with
    | error f => simp [hbody, Except.toOption] at h
    | ok id' =>
        obtain rfl : id' = id := by simpa [hbody, Except.toOption] using h
        obtain ⟨fields, hread, hid⟩ := jobOfBody_eq_ok_iff.mp hbody
        exact ⟨fields, Reply.holds_response_iff.mpr ⟨by simp, hread⟩, hid⟩
  have hother : ∀ {r : Except Fault String} {f : Fault},
      (match r with | .error f' => decide (f' ≠ f) | .ok _ => true) = true → r ≠ .error f := by
    rintro r f h rfl
    simp at h
  refine ⟨rfl, ⟨hnamed _ _ ?_, ?_⟩, hnamed _ _ ?_, hother ?_⟩ <;> decide +kernel

end CommandShell.Chat
