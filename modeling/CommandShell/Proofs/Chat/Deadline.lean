import CommandShell.Proofs.Chat.Protocol
import CommandShell.Proofs.Url.Plain
import Mathlib.Algebra.Order.Floor.Div

/-!
# The deadline of a job

When a conversation gives up, on a clock of exact milliseconds that nothing but the waits between
requests moves. Replies come as a list of any length, so that a server that leaves a job pending for
ever is one whose lists hold nothing else.
-/

namespace CommandShell.Chat

variable {υ : Type} {web : Web υ} {cfg : Config} {bound : Json.Bound} {job : υ}
  {replies : List Reply}
  {deadline start waits : Nat} {r : Except Fault String}

/-! ## Faults that are about something else -/

theorem address_ne_timeout (base : υ) (path : String) :
    web.address base path ≠ .error (.problem .timeout) := by
  unfold Web.address
  cases web.under base path <;> simp [Except.mapError]

theorem readBody_ne_timeout (bound : Json.Bound) (body : String) :
    readBody bound body ≠ .error (.problem .timeout) := by
  unfold readBody
  split
  · simp
  · rename_i cs _
    cases Json.readText bound cs <;> simp [Except.mapError]

theorem needFields_ne_timeout (v : Json) : needFields v ≠ .error (.problem .timeout) := by
  cases v <;> simp [needFields]

theorem innerObject_ne_timeout (v : Json) (name : String) :
    innerObject v name ≠ .error (.problem .timeout) := by
  grind [innerObject, needFields_ne_timeout]

theorem jobOfBody_ne_timeout (bound : Json.Bound) (body : String) :
    jobOfBody bound body ≠ .error (.problem .timeout) := by
  grind [jobOfBody, readBody_ne_timeout, needFields_ne_timeout]

theorem jobOf_ne_timeout (bound : Json.Bound) (url : υ) (reply : Reply) :
    jobOf web bound url reply ≠ .error (.problem .timeout) := by
  unfold jobOf
  cases reply with
  | failure message => simp
  | response status body => grind [jobOfBody_ne_timeout]

theorem displayField_ne_timeout (v : Json) (name default : String) :
    displayField v name default ≠ .error (.problem .timeout) := by
  unfold displayField
  cases ((v.field? name).getD (.str default)).display <;> simp [Except.mapError]

theorem statusOfObject_ne_timeout (v : Json) : statusOfObject v ≠ .failed (.problem .timeout) := by
  grind [statusOfObject, innerObject_ne_timeout, displayField_ne_timeout]

/-- No reply about a job says that the time is up. -/
theorem statusOf_ne_timeout (bound : Json.Bound) (url : υ) (reply : Reply) :
    statusOf web bound url reply ≠ .failed (.problem .timeout) := by
  unfold statusOf
  cases reply with
  | failure message => simp
  | response status body =>
      grind [statusOfBody, readBody_ne_timeout, statusOfObject_ne_timeout]

/-! ## Polling against the clock -/

theorem reading_succ (start k interval : Nat) :
    start + (k + 1) * interval = start + interval + k * interval := by
  rw [Nat.succ_mul]
  omega

/-- A reading of the clock by which the time for a job is up. Without a limit it never is. -/
def Config.IsLate (cfg : Config) (deadline reading : Nat) : Prop :=
  0 < cfg.timeout ∧ deadline ≤ reading

/-- A reply that could be taken, by which a job is not at its end. -/
def Unsettled (web : Web υ) (bound : Json.Bound) (job : υ) (reply : Reply) : Prop :=
  web.sourceFault? job = none ∧ IsPending bound reply

/-- What polling comes to when it stops at a reading of the clock, by what the last reply says. -/
inductive StopsWith (cfg : Config) (deadline reading : Nat) : Status → Except Fault String → Prop
  | done (text : String) : StopsWith cfg deadline reading (.done text) (.ok text)
  | failed (f : Fault) : StopsWith cfg deadline reading (.failed f) (.error f)
  | pending : cfg.IsLate deadline reading →
      StopsWith cfg deadline reading .pending (.error (.problem .timeout))

/-- How polling keeps to a deadline, from a start on. It goes on after every reply but the last one,
which left the job pending in time. -/
structure Timely (web : Web υ) (cfg : Config) (bound : Json.Bound) (job : υ) (replies : List Reply)
    (deadline start waits : Nat) (r : Except Fault String) : Prop where
  early : ∀ k < waits, Unsettled web bound job (met replies k) ∧
    ¬ cfg.IsLate deadline (start + k * cfg.pollInterval)
  last : StopsWith cfg deadline (start + waits * cfg.pollInterval)
    (statusOf web bound job (met replies waits)) r

theorem Timely.of_last
    (h : StopsWith cfg deadline start (statusOf web bound job (met replies 0)) r) :
    Timely web cfg bound job replies deadline start 0 r where
  early k hk := absurd hk k.not_lt_zero
  last := by simpa using h

theorem Timely.cons {reply : Reply} (h : Unsettled web bound job reply)
    (hearly : ¬ cfg.IsLate deadline start)
    (hrest : Timely web cfg bound job replies deadline (start + cfg.pollInterval) waits r) :
    Timely web cfg bound job (reply :: replies) deadline start (waits + 1) r := by
  constructor
  · intro k hk
    cases k with
    | zero => exact ⟨h, by simpa using hearly⟩
    | succ k =>
        rw [reading_succ]
        exact hrest.early k (Nat.lt_of_succ_lt_succ hk)
  · rw [reading_succ]
    exact hrest.last

/-- Every run of the polling loop keeps to its deadline, over whatever replies are left. -/
theorem poll_timely (web : Web υ) (cfg : Config) (job : υ) (deadline : Nat) (replies : List Reply)
    (x : Exchange Nat) :
    ∃ r left x' waits, poll web millisecondClock cfg job deadline replies x = (r, left, x') ∧
      x'.journal = x.journal ++ asked (web.text job) cfg.pollInterval waits ∧
      x'.now = x.now + waits * cfg.pollInterval ∧
      Timely web cfg x.bound job replies deadline x.now waits r := by
  -- On the replies: a wait between two requests moves the start, and the deadline stays.
  induction replies generalizing x with
  | nil => exact ⟨_, _, _, 0, rfl, rfl, by simp, .of_last (.failed _)⟩
  | cons reply rest ih =>
      simp only [poll, Exchange.record_bound, Exchange.record_now]
      cases hstatus : statusOf web x.bound job reply with
      | done text => exact ⟨_, _, _, 0, rfl, rfl, by simp, .of_last (hstatus ▸ .done text)⟩
      | failed f => exact ⟨_, _, _, 0, rfl, rfl, by simp, .of_last (hstatus ▸ .failed f)⟩
      | pending =>
          by_cases hlate : cfg.IsLate deadline x.now
          · have hreached : 0 < cfg.timeout ∧ millisecondClock.reached x.now deadline = true :=
              ⟨hlate.1, decide_eq_true hlate.2⟩
            simp only [hreached]
            exact ⟨_, _, _, 0, rfl, rfl, by simp, .of_last (hstatus ▸ .pending hlate)⟩
          · have hreached : ¬ (0 < cfg.timeout ∧ millisecondClock.reached x.now deadline = true) :=
              fun h => hlate ⟨h.1, of_decide_eq_true h.2⟩
            simp only [hreached]
            let next : Exchange Nat :=
              { (x.record (.request .get (web.text job) none)).record (.sleep cfg.pollInterval)
                with now := x.now + cfg.pollInterval }
            obtain ⟨r, left, x', waits, hrun, hjournal, hnow, htimely⟩ := ih next
            refine ⟨r, left, x', waits + 1, hrun, ?_, ?_,
              .cons (statusOf_eq_pending_iff.mp hstatus) hlate htimely⟩
            · rw [hjournal, asked_succ]
              simp [next]
            · rw [hnow, reading_succ]

namespace Timely

variable (h : Timely web cfg bound job replies deadline start waits r)
include h

theorem late (hpending : Unsettled web bound job (met replies waits)) :
    cfg.IsLate deadline (start + waits * cfg.pollInterval) ∧ r = .error (.problem .timeout) := by
  have hlast := h.last
  rw [statusOf_eq_pending_iff.mpr hpending] at hlast
  cases hlast with
  | pending hlate => exact ⟨hlate, rfl⟩

theorem of_timeout (hr : r = .error (.problem .timeout)) :
    Unsettled web bound job (met replies waits) := by
  have hlast := h.last
  subst hr
  cases hstatus : statusOf web bound job (met replies waits) with
  | pending => exact statusOf_eq_pending_iff.mp hstatus
  | done text =>
      rw [hstatus] at hlast
      cases hlast
  | failed f =>
      rw [hstatus] at hlast
      cases hlast
      exact absurd hstatus (statusOf_ne_timeout bound job _)

/-- The time is up exactly if some reading of the clock is late and the job was pending until then,
so that polling comes so far. -/
theorem timeout_iff :
    r = .error (.problem .timeout) ↔
      ∃ k, cfg.IsLate deadline (start + k * cfg.pollInterval) ∧
        ∀ j ≤ k, Unsettled web bound job (met replies j) := by
  constructor
  · intro hr
    have hpending := h.of_timeout hr
    refine ⟨waits, (h.late hpending).1, fun j hj => ?_⟩
    rcases Nat.lt_or_eq_of_le hj with hlt | rfl
    · exact (h.early j hlt).1
    · exact hpending
  · rintro ⟨k, hlate, hpending⟩
    have hwaits : waits ≤ k := by
      by_contra hlt
      exact (h.early k (not_le.mp hlt)).2 hlate
    exact (h.late (hpending waits hwaits)).2

theorem text_iff (text : String) :
    r = .ok text ↔ web.sourceFault? job = none ∧ Answers bound (met replies waits) text := by
  rw [← statusOf_eq_done_iff]
  have hlast := h.last
  generalize statusOf web bound job (met replies waits) = s at hlast ⊢
  cases hlast <;> simp

theorem failed {f : Fault} (hstatus : statusOf web bound job (met replies waits) = .failed f) :
    r = .error f := by
  have hlast := h.last
  rw [hstatus] at hlast
  cases hlast
  rfl

/-- After so many waits the deadline is reached. -/
theorem waits_le (hdeadline : deadline ≤ start + cfg.timeout) (htimeout : 0 < cfg.timeout)
    (hinterval : 0 < cfg.pollInterval) : waits ≤ cfg.timeout ⌈/⌉ cfg.pollInterval := by
  by_contra hlt
  have hreached : cfg.timeout ≤ cfg.timeout ⌈/⌉ cfg.pollInterval * cfg.pollInterval := by
    simpa [Nat.mul_comm] using le_smul_ceilDiv (b := cfg.timeout) hinterval
  exact (h.early _ (not_le.mp hlt)).2 ⟨htimeout, by omega⟩

end Timely

/-! ## Conversations -/

section Conversation

variable {messages : Json} {x : Exchange Nat} {base url : υ} {id : String}

theorem checkMessages_ne_timeout (messages : Json) :
    checkMessages messages ≠ .error (.problem .timeout) := by
  unfold checkMessages
  split
  case h_4 => simp
  all_goals split <;> simp

theorem bodyFault?_ne_timeout (bound : Json.Bound) (v : Json) :
    bodyFault? bound v ≠ some (.problem .timeout) := by
  unfold bodyFault?
  split
  · simp
  · simp
  · split
    · simp
    · cases Text.EncodeFault.find? (Json.Writer.value .compact 0 v) <;> simp

theorem submit_ne_timeout (web : Web υ) (cfg : Config) (base : υ) (messages : Json)
    (x : Exchange Nat) :
    (submit web cfg base messages x).1 ≠ .error (.problem .timeout) := by
  grind [submit, bodyFault?_ne_timeout, address_ne_timeout, jobOf_ne_timeout]

/-- A fault that is about something else leaves none about the time after the job is cancelled. -/
theorem cancel_ne_timeout {f : Fault} (h : f ≠ .problem .timeout) (web : Web υ) (base : υ)
    (id : String)
    (x : Exchange Nat) : (cancel web base id f x).1 ≠ .problem .timeout := by
  unfold cancel
  split
  · rename_i f' haddress
    exact fun h' => address_ne_timeout base _ (haddress.trans (congrArg _ h'))
  · rename_i cancelUrl _
    cases x.nextReply (web.text cancelUrl) with
    | failure message => exact h
    | response status body =>
        cases hsource : web.sourceFault? cancelUrl with
        | none => simpa [faultAfter, hsource] using h
        | some f' => simp [faultAfter, hsource]

/-- A conversation that comes to a job and its address, so that its state is asked for. -/
structure Asks (web : Web υ) (cfg : Config) (messages : Json) (x : Exchange Nat) (base url : υ)
    (id : String)
    (job : υ) : Prop where
  submits : Submits web millisecondClock cfg messages x base url
  yields : Yields web x url id
  job_eq : web.address base (jobPath id) = .ok job

theorem follow_timely (h : web.address base (jobPath id) = .ok job) (deadline : Nat)
    (x : Exchange Nat) :
    ∃ r x' waits, follow web millisecondClock cfg base id deadline x = (r, x') ∧
      x'.journal = x.journal ++ asked (web.text job) cfg.pollInterval waits ∧
      x'.now = x.now + waits * cfg.pollInterval ∧
      Timely web cfg x.bound job (x.repliesAt (web.text job)) deadline x.now waits r := by
  obtain ⟨r, left, x', waits, hrun, hjournal, hnow, htimely⟩ :=
    poll_timely web cfg job deadline (x.repliesAt (web.text job)) x
  unfold follow
  simp only [h, hrun]
  exact ⟨r, x'.leaving (web.text job) left, waits, rfl, by rw [Exchange.leaving_journal, hjournal],
    by rw [Exchange.leaving_now, hnow], htimely⟩

theorem submit_eq_ok {x₁ : Exchange Nat} (h : submit web cfg base messages x = (.ok id, x₁)) :
    ∃ url, web.address base jobsPath = .ok url ∧ bodyFault? x.bound (payload cfg messages) = none ∧
      web.hostFault? url = none ∧ Yields web x url id := by
  unfold submit at h
  split at h
  · cases h
  · cases h
  · rename_i url hurl hbody
    split at h
    · cases h
    · rename_i hhost
      exact ⟨url, hurl, hbody, hhost, jobOf_eq_ok_iff.mp (Prod.mk.inj h).1⟩

/-- The time for a job is up only where one is asked for. -/
theorem asks_of_timeout
    (h : (chat web millisecondClock cfg messages x).1 = .error (.problem .timeout)) :
    ∃ base url id job, Asks web cfg messages x base url id job := by
  cases hmessages : checkMessages messages with
  | error f =>
      simp only [chat, hmessages] at h
      obtain rfl := Except.error.inj h
      exact absurd hmessages (checkMessages_ne_timeout messages)
  | ok _ =>
      cases hbase : web.base cfg.baseUrl with
      | error f =>
          simp only [chat, hmessages, millisecondClock, hbase] at h
          cases Except.error.inj h
      | ok base =>
          simp only [chat, hmessages, millisecondClock, hbase, converse] at h
          rcases hsubmit : submit web cfg base messages x with ⟨_ | id, x₁⟩
          · simp only [hsubmit] at h
            exact absurd (by rw [hsubmit]; exact h) (submit_ne_timeout web cfg base messages x)
          · cases hjob : web.address base (jobPath id) with
            | error f =>
                simp only [hsubmit, follow, hjob] at h
                refine absurd (Except.error.inj h) (cancel_ne_timeout ?_ web base id x₁)
                rintro rfl
                exact address_ne_timeout base _ hjob
            | ok job =>
                obtain ⟨url, hurl, hbody, hhost, hyields⟩ := submit_eq_ok hsubmit
                exact ⟨base, url, id, job, ⟨hmessages, rfl, hbase, hurl, hbody, hhost⟩, hyields, hjob⟩

/-- A job can be cancelled: it has an address to do so at, from which a response can be taken. -/
def Cancels (web : Web υ) (base : υ) (id : String) : Prop :=
  ∃ url, web.address base (cancelPath id) = .ok url ∧ web.sourceFault? url = none

/-- How a conversation about a job keeps to the deadline, after some waits between the requests for
the state of that job. -/
structure OnTime (web : Web υ) (cfg : Config) (bound : Json.Bound) (base : υ) (id : String)
    (job : υ)
    (replies : List Reply) (start waits : Nat) (r : Except Fault String) : Prop where
  /-- Before the last request the job is pending and the time is not up. -/
  early : ∀ k < waits, Unsettled web bound job (met replies k) ∧
    ¬ cfg.IsLate (start + cfg.timeout) (start + k * cfg.pollInterval)
  /-- Nothing but the deadline ends the polling of a job that is pending. -/
  late : Unsettled web bound job (met replies waits) →
    cfg.IsLate (start + cfg.timeout) (start + waits * cfg.pollInterval)
  of_timeout : r = .error (.problem .timeout) → Unsettled web bound job (met replies waits)
  /-- Replies beyond a late one do not count, so that this is about endless servers as well. -/
  timeout_iff : Cancels web base id → (r = .error (.problem .timeout) ↔
    ∃ k, cfg.IsLate (start + cfg.timeout) (start + k * cfg.pollInterval) ∧
      ∀ j ≤ k, Unsettled web bound job (met replies j))
  /-- A job that is at its end is taken as it is, however late. -/
  text_iff : ∀ text, r = .ok text ↔
    web.sourceFault? job = none ∧ Answers bound (met replies waits) text
  failed : Cancels web base id → ∀ f,
    statusOf web bound job (met replies waits) = .failed f → r = .error f
  /-- Where there is no address to cancel at, its fault stands in the place of every other. -/
  hidden : ∀ f, web.address base (cancelPath id) = .error f → (∃ text, r = .ok text) ∨ r = .error f
  bounded : 0 < cfg.timeout → 0 < cfg.pollInterval →
    waits + 1 ≤ cfg.timeout ⌈/⌉ cfg.pollInterval + 1

/-- What comes of a job that was followed to some result, once it was cancelled after a fault. -/
theorem onTime_of_timely {r' : Except Fault String}
    (h : Timely web cfg bound job replies (start + cfg.timeout) start waits r)
    (htext : ∀ text, r' = .ok text ↔ r = .ok text)
    (htimeout : r' = .error (.problem .timeout) → r = .error (.problem .timeout))
    (hcancels : Cancels web base id → r' = r)
    (hhidden : ∀ f, web.address base (cancelPath id) = .error f →
      (∃ text, r' = .ok text) ∨ r' = .error f) :
    OnTime web cfg bound base id job replies start waits r' where
  early := h.early
  late hpending := (h.late hpending).1
  of_timeout hr := h.of_timeout (htimeout hr)
  timeout_iff hc := by rw [hcancels hc, h.timeout_iff]
  text_iff text := (htext text).trans (h.text_iff text)
  failed hc f hf := (hcancels hc).trans (h.failed hf)
  hidden := hhidden
  bounded htime hinterval := Nat.succ_le_succ (h.waits_le le_rfl htime hinterval)

/-- The cancelling of a job sends at most one request without a body, and takes no time. -/
theorem cancel_spec (web : Web υ) (base : υ) (id : String) (f : Fault) (x : Exchange Nat) :
    ∃ f' x' ending, cancel web base id f x = (f', x') ∧ x'.now = x.now ∧
      x'.journal = x.journal ++ ending ∧
      (ending = [] ∨ ∃ url, ending = [.request .post url none]) ∧
      (Cancels web base id → f' = f) ∧
        ∀ f'', web.address base (cancelPath id) = .error f'' → f' = f'' := by
  cases haddress : web.address base (cancelPath id) with
  | error f' =>
      refine ⟨_, _, [], cancel_of_no_address haddress f x, rfl, by simp, .inl rfl, ?_, by simp⟩
      rintro ⟨url, hurl, -⟩
      rw [haddress] at hurl
      cases hurl
  | ok url =>
      refine ⟨_, _, _, cancel_of_address haddress f x, Exchange.send_now ..,
        Exchange.send_journal ..,
        .inr ⟨_, rfl⟩, ?_, by simp⟩
      rintro ⟨url', hurl, hsource⟩
      rw [haddress] at hurl
      cases hurl
      exact faultAfter_of_source hsource ..

theorem chat_of_asks (h : Asks web cfg messages x base url id job) :
    ∃ r x' waits ending, chat web millisecondClock cfg messages x = (r, x') ∧
      x'.now = x.now + waits * cfg.pollInterval ∧
      x'.journal = x.journal ++
        (submission web cfg messages url :: asked (web.text job) cfg.pollInterval waits ++ ending) ∧
      (ending = [] ∨ ∃ cancelUrl, ending = [.request .post cancelUrl none]) ∧
      OnTime web cfg x.bound base id job
        ((x.send .post (web.text url) (some (payload cfg messages))).repliesAt (web.text job))
        x.now waits r := by
  obtain ⟨r, x₁, waits, hrun, hjournal, hnow, htimely⟩ := follow_timely h.job_eq
    (x.now + cfg.timeout) (x.send .post (web.text url) (some (payload cfg messages)))
  have hsubmit : submit web cfg base messages x =
      (.ok id, x.send .post (web.text url) (some (payload cfg messages))) := by
    rw [submit_of_submits h.submits, jobOf_eq_ok_iff.mpr h.yields]
  rw [Exchange.send_now] at hnow htimely
  rw [Exchange.send_bound] at htimely
  rw [Exchange.send_journal, List.append_assoc] at hjournal
  simp only [chat, h.submits.messages_ok, h.submits.base_eq, millisecondClock, converse, hsubmit]
  simp only [millisecondClock] at hrun
  cases r with
  | ok text =>
      refine ⟨.ok text, x₁, waits, [], by simp only [hrun], hnow, ?_, .inl rfl,
        onTime_of_timely htimely (by simp) (fun hr => hr) (fun _ => rfl) fun _ _ => .inl ⟨text, rfl⟩⟩
      rw [hjournal]
      simp [submission]
  | error f =>
      obtain ⟨f', x₂, ending, hcancel, hnow₂, hjournal₂, hending, hkept, hhidden⟩ :=
        cancel_spec web base id f x₁
      refine ⟨.error f', x₂, waits, ending, by simp only [hrun, hcancel], hnow₂.trans hnow, ?_,
        hending, onTime_of_timely htimely (by simp) (fun hf => ?_) (fun hc => by rw [hkept hc])
          fun f'' hf => .inr (by rw [hhidden f'' hf])⟩
      · rw [hjournal₂, hjournal]
        simp [submission]
      · by_contra hne
        refine cancel_ne_timeout (f := f) (fun hf' => hne (by rw [hf'])) web base id x₁ ?_
        rw [hcancel]
        exact Except.error.inj hf

end Conversation

/-! ## Addresses on one host -/

section Host

open Url (IsPlain atHost eq_ok_of_toOption farPath front isPlain_farPath)

theorem sourceFault?_atHost {path : List Char} (h : IsPlain path) :
    Url.web.sourceFault? (atHost path) = none := by
  have hlast : (front ++ path).getLast? ≠ some '#' := by
    intro hlast
    rcases List.mem_append.mp (List.mem_of_getLast? hlast) with hm | hm
    · simp [front] at hm
    · simpa using (Url.plain_char (h.chars _ hm)).2.2.2
  have hsought : (atHost path).sought = front ++ path := by
    have hnone : Url.announcement.isPrefixOf (front ++ path) = false := rfl
    simp only [Url.sought, Url.text_atHost, hnone, Bool.false_eq_true, if_false, hlast]
  have hreachable : (atHost path).isReachable = true := by
    rw [Url.isReachable, hsought]
    rfl
  have hbrackets : Url.checkBrackets (atHost path).soughtAuthority = .ok () := by
    rw [Url.soughtAuthority, hsought, Url.ofChars_atHost h]
    rfl
  simp [Url.web, Url.sourceFault?, hreachable, hbrackets]

variable {n : Nat}

/-- What is asked for under a server with a long path has its own path behind that, as far as there
is room. -/
theorem address_far {text : String} (rest : String)
    (hread : (Url.read text).toOption.map (fun u => u.target.dropWhile (· = '/')) =
      some rest.toList)
    (hrest : rest.toList.all (fun c => c.isAlphanum || c == '/') = true) (hn : 0 < n) :
    Url.web.address (atHost (farPath n "/")) text =
      if n + 2 + rest.toList.length ≤ Url.maxLength then .ok (atHost (farPath n ("/" ++ rest)))
      else .error (.address (Url.Fault.toAddress (.partTooLong .path))) := by
  obtain ⟨u, hu, htail⟩ := Option.map_eq_some_iff.mp hread
  have htarget : (atHost (farPath n "/")).target = farPath n "/" := by
    simp [Url.target, atHost, farPath, Url.marked]
  have hplain : IsPlain (farPath n ("/" ++ rest)) := isPlain_farPath hn (by simpa using hrest)
  have hlength : (farPath n ("/" ++ rest)).length = n + 2 + rest.toList.length := by
    rw [Url.length_farPath, String.toList_append, List.length_append]
    simp only [String.reduceToList, List.length_singleton]
    omega
  rw [Web.address, Url.web]
  dsimp only
  rw [Url.under, eq_ok_of_toOption hu]
  simp only [htarget, htail, Url.farPath_append, Url.withTarget_atHost _ hplain, hlength]
  split <;> rfl

/-! ## A client in a hurry -/

/-- A client that gives a job one millisecond, and asks for its state after each. -/
def hasty (baseUrl : String) : Config :=
  ⟨baseUrl, 1, 1, defaultModel⟩

/-- A server that names a job and leaves it pending twice. -/
def queueing : Exchange Nat :=
  .inTurn [.response 201 "\x7b\"id\": \"j\"\x7d", .response 200 "\x7b\"state\": \"queued\"\x7d",
    .response 200 "\x7b\"state\": \"queued\"\x7d", .response 200 ""] 0

def hi : Json :=
  .arr [userMessage (.str "hi")]

theorem namesJob_queueing : NamesJob none (.response 201 "\x7b\"id\": \"j\"\x7d") "j" := by
  have hid : (jobOfBody none "\x7b\"id\": \"j\"\x7d").toOption = some "j" := by decide +kernel
  obtain ⟨fields, hread, hfields⟩ := jobOfBody_eq_ok_iff.mp (eq_ok_of_toOption hid)
  exact ⟨fields, Reply.holds_response_iff.mpr ⟨by simp, hread⟩, hfields⟩

/-- The job stays pending for two requests, wherever it is asked for. -/
theorem unsettled_queueing {web : Web υ} {job : υ} (hsource : web.sourceFault? job = none)
    (url : String) (body : Option Json) :
    ∀ k ≤ 1, Unsettled web none job
      (met ((queueing.send .post url body).repliesAt (web.text job)) k) := by
  have hqueued : (match statusOfBody none "\x7b\"state\": \"queued\"\x7d" with
      | .pending => true
      | _ => false) = true := by
    decide +kernel
  have hstatus : statusOf web none job (.response 200 "\x7b\"state\": \"queued\"\x7d") =
      .pending := by
    split at hqueued
    · rename_i hbody
      unfold statusOf
      simp [hsource, hbody]
    · cases hqueued
  intro k hk
  cases k with
  | zero => exact statusOf_eq_pending_iff.mp hstatus
  | succ k =>
      obtain rfl : k = 0 := by omega
      exact statusOf_eq_pending_iff.mp hstatus

/-- The address of a server on a host, with a path of many letters. -/
def farUrl (n : Nat) : String :=
  String.ofList (front ++ farPath n "")

theorem base_farUrl (hn : 0 < n) (hroom : n + 9 ≤ Url.maxLength) :
    Url.web.base (farUrl n) = .ok (atHost (farPath n "/")) := by
  have hread : Url.read (farUrl n) = .ok (atHost (farPath n "")) :=
    Url.read_atHost (isPlain_farPath hn (by simp)) (by simpa [front] using hroom)
  have htarget : (atHost (farPath n "")).target = farPath n "" := by
    simp [Url.target, atHost, farPath, Url.marked]
  have hlast : (farPath n "").getLast? ≠ some '/' := by
    obtain ⟨m, rfl⟩ := Nat.exists_eq_add_of_lt hn
    simp [farPath, List.getLast?_cons, List.getLast?_replicate]
  have hslash : farPath n "" ++ ['/'] = farPath n "/" := Url.farPath_append n "" "/"
  have hlength : (farPath n "/").length ≤ Url.maxLength := by
    rw [Url.length_farPath]
    simp only [String.reduceToList, List.length_singleton]
    omega
  have hplain : IsPlain (farPath n "/") := isPlain_farPath hn (by simp)
  have hbase : Url.readBase (farUrl n) = .ok (atHost (farPath n "/")) := by
    simp only [Url.readBase, hread, htarget, hlast, if_false, hslash,
      Url.withTarget_atHost _ hplain, hlength, if_true]
  simp only [Url.web, hbase]
  rfl

theorem asks_far (hn : 0 < n) (hroom : n + 11 ≤ Url.maxLength) :
    Asks Url.web (hasty (farUrl n)) hi queueing (atHost (farPath n "/"))
      (atHost (farPath n "/v1/jobs")) "j" (atHost (farPath n "/v1/jobs/j")) where
  submits := {
    messages_ok := eq_ok_of_toOption (by decide)
    deadline_ok := rfl
    base_eq := base_farUrl hn (by omega)
    url_eq := by
      rw [address_far "v1/jobs" (by decide +kernel) (by decide) hn, if_pos (by simp; omega)]
      rfl
    -- Neither the body nor the host depends on the path.
    body_ok := by
      have hsame : payload (hasty (farUrl n)) hi = payload (hasty "") hi := rfl
      rw [hsame]
      decide +kernel
    host_ok := by
      have hsame : Url.web.hostFault? (atHost (farPath n "/v1/jobs")) =
          Url.web.hostFault? (atHost []) := rfl
      rw [hsame]
      decide +kernel }
  yields := ⟨sourceFault?_atHost (isPlain_farPath hn (by decide)), namesJob_queueing⟩
  job_eq := by
    rw [address_far "v1/jobs/j" (by decide +kernel) (by decide) hn, if_pos (by simp; omega)]
    rfl

end Host

/-! ## The exact deadline -/

open Url (IsPlain atHost farPath)

/-- A conversation gives up at the first request that leaves its job pending at or past the
deadline, if the job can be cancelled. -/
theorem chat_deadline (web : Web υ) (cfg : Config) (messages : Json) (x : Exchange Nat) :
    ((chat web millisecondClock cfg messages x).1 = .error (.problem .timeout) →
      0 < cfg.timeout ∧ ∃ base url id job, Asks web cfg messages x base url id job) ∧
    ∀ base url id job, Asks web cfg messages x base url id job →
      ∃ r x' waits ending, chat web millisecondClock cfg messages x = (r, x') ∧
        x'.now = x.now + waits * cfg.pollInterval ∧
        x'.journal = x.journal ++
          (submission web cfg messages url :: asked (web.text job) cfg.pollInterval waits ++
            ending) ∧
        (ending = [] ∨ ∃ cancelUrl, ending = [.request .post cancelUrl none]) ∧
        OnTime web cfg x.bound base id job
          ((x.send .post (web.text url) (some (payload cfg messages))).repliesAt (web.text job))
          x.now waits r := by
  refine ⟨fun htimeout => ?_, fun base url id job h => chat_of_asks h⟩
  obtain ⟨base, url, id, job, h⟩ := asks_of_timeout htimeout
  obtain ⟨r, x', waits, ending, hrun, -, -, -, hontime⟩ := chat_of_asks h
  rw [hrun] at htimeout
  exact ⟨(hontime.late (hontime.of_timeout htimeout)).1, base, url, id, job, h⟩

/-- A client with one millisecond gives up at the second request, one millisecond after the first. -/
theorem chat_deadline_queueing :
    let cfg := hasty "http://h"
    Asks Url.web cfg hi queueing (atHost []) (atHost "/v1/jobs".toList) "j"
        (atHost "/v1/jobs/j".toList) ∧
      Cancels Url.web (atHost []) "j" ∧
      (chat Url.web millisecondClock cfg hi queueing).1 = .error (.problem .timeout) := by
  have hplain : ∀ path, path = "/v1/jobs" ∨ path = "/v1/jobs/j" ∨ path = "/v1/jobs/j/cancel" →
      IsPlain path.toList := by
    rintro _ (rfl | rfl | rfl) <;> exact ⟨by simp, rfl, rfl⟩
  have hasks : Asks Url.web (hasty "http://h") hi queueing (atHost [])
      (atHost "/v1/jobs".toList) "j" (atHost "/v1/jobs/j".toList) := {
    submits := {
      messages_ok := Url.eq_ok_of_toOption (by decide)
      deadline_ok := rfl
      base_eq := Url.eq_ok_of_toOption (by decide +kernel)
      url_eq := Url.eq_ok_of_toOption (by decide +kernel)
      body_ok := by decide +kernel
      host_ok := by decide +kernel }
    yields := ⟨sourceFault?_atHost (hplain _ (by simp)), namesJob_queueing⟩
    job_eq := Url.eq_ok_of_toOption (by decide +kernel) }
  have hcancels : Cancels Url.web (atHost []) "j" :=
    ⟨atHost "/v1/jobs/j/cancel".toList, Url.eq_ok_of_toOption (by decide +kernel),
      sourceFault?_atHost (hplain _ (by simp))⟩
  refine ⟨hasks, hcancels, ?_⟩
  obtain ⟨r, x', waits, ending, hrun, -, -, -, hontime⟩ :=
    (chat_deadline Url.web (hasty "http://h") hi queueing).2 _ _ _ _ hasks
  rw [hrun]
  exact (hontime.timeout_iff hcancels).mpr ⟨1, ⟨by decide, by decide⟩,
    unsettled_queueing (sourceFault?_atHost (hplain _ (by simp))) _ _⟩

/-- Far down on a server only the address to cancel at may be too long, and its fault hides that the
time is up. -/
theorem far_hides_timeout :
    let cfg := hasty (farUrl 65520)
    let url := atHost (farPath 65520 "/v1/jobs")
    let job := atHost (farPath 65520 "/v1/jobs/j")
    Asks Url.web cfg hi queueing (atHost (farPath 65520 "/")) url "j" job ∧
      cfg.IsLate (queueing.now + cfg.timeout) (queueing.now + 1 * cfg.pollInterval) ∧
      (∀ k ≤ 1, Unsettled Url.web none job
        (met ((queueing.send .post (Url.web.text url) (some (payload cfg hi))).repliesAt
          (Url.web.text job)) k)) ∧
      (chat Url.web millisecondClock cfg hi queueing).1 ≠ .error (.problem .timeout) := by
  have hasks : Asks Url.web (hasty (farUrl 65520)) hi queueing _ _ "j" _ :=
    asks_far (n := 65520) (by decide) (by decide)
  have hcancel : Url.web.address (atHost (farPath 65520 "/")) (cancelPath "j") =
      .error (.address (Url.Fault.toAddress (.partTooLong .path))) := by
    rw [address_far "v1/jobs/j/cancel" (by decide +kernel) (by decide) (by decide)]
    exact if_neg (by decide)
  refine ⟨hasks, ⟨by decide, by decide⟩, unsettled_queueing ?_ _ _, ?_⟩
  · exact sourceFault?_atHost (Url.isPlain_farPath (by decide) (by decide))
  · obtain ⟨r, x', waits, ending, hrun, -, -, -, hontime⟩ := chat_of_asks hasks
    rw [hrun]
    obtain ⟨text, rfl⟩ | rfl := hontime.hidden _ hcancel <;> simp

end CommandShell.Chat
